import SpellOut.Proofs.References

/-! How a scope grows while names are written in it.

Writing a name adds at most the import of that name, and adds it only if the scope needs it
(`mention_cases`). What was in sight stays in sight, on-demand imports are never added, and the
imports of the names that were added are those of names written short (`single_mem_mentionAll`). A
scope in which no simple name is bound twice stays one (`Unambiguous.mentionAll`). -/
namespace SpellOut

theorem Segment.text_inj {a b : Segment} : a.text = b.text ↔ a = b := by
  constructor
  · intro h
    cases a
    cases b
    cases h
    rfl
  · exact congrArg _

namespace Scope

/-! ### Imports in sight -/

theorem importsType_iff {s : Scope} {type : Name} :
    s.importsType type = true ↔ .single type ∈ s.imports := List.contains_iff_mem

theorem importsOnDemand_iff {s : Scope} {owner : Name} :
    s.importsOnDemand owner = true ↔ .onDemand owner ∈ s.imports := List.contains_iff_mem

theorem mem_imports_ofFile {site : NodeId} {package : Option Name} {imports : List Import}
    {i : Import} : i ∈ (ofFile site package imports).imports ↔ i ∈ imports := by
  simp [Scope.imports, ofFile, Import.mem_foldl_extend]

/-- The imports that bind the simple name `word`. -/
def binders (s : Scope) (word : String) : List Import :=
  s.imports.filter fun i => i.boundName?.any (·.text == word)

theorem mem_binders {s : Scope} {word : String} {i : Import} :
    i ∈ s.binders word ↔ ∃ type, i = .single type ∧ .single type ∈ s.imports ∧
      type.last.text = word := by
  simp only [binders, List.mem_filter]
  constructor
  · intro h
    obtain ⟨hi, hw⟩ := h
    cases i with
    | single type => exact ⟨type, rfl, hi, by simpa [Import.boundName?] using hw⟩
    | onDemand owner => simp [Import.boundName?] at hw
  · intro h
    obtain ⟨type, rfl, hi, hw⟩ := h
    exact ⟨hi, by simpa [Import.boundName?] using hw⟩

/-- No simple name is bound twice. -/
def Unambiguous (s : Scope) : Prop := (s.imports.filterMap Import.boundName?).Nodup

instance (s : Scope) : Decidable s.Unambiguous := inferInstanceAs (Decidable (List.Nodup _))

/-- An imported type is all that its simple name is bound to. -/
theorem Unambiguous.binders_eq {s : Scope} (h : s.Unambiguous) {type : Name}
    (hi : .single type ∈ s.imports) : s.binders type.last.text = [.single type] := by
  have hmem : .single type ∈ s.binders type.last.text := mem_binders.mpr ⟨type, rfl, hi, rfl⟩
  have hpair := (List.pairwise_filterMap.mp h).filter
    fun i => i.boundName?.any (·.text == type.last.text)
  match hb : s.binders type.last.text with
  | [] =>
    rw [hb] at hmem
    cases hmem
  | [i] =>
    rw [hb, List.mem_singleton] at hmem
    rw [hmem]
  | i :: j :: rest =>
    obtain ⟨a, rfl, _, ha⟩ := mem_binders.mp (hb ▸ List.mem_cons_self : i ∈ _)
    obtain ⟨b, rfl, _, hb'⟩ :=
      mem_binders.mp (hb ▸ List.mem_cons_of_mem _ List.mem_cons_self : j ∈ s.binders _)
    have hp : (s.binders type.last.text).Pairwise _ := hpair
    rw [hb] at hp
    have hne := List.rel_of_pairwise_cons hp List.mem_cons_self a.last rfl b.last rfl
    exact absurd (Segment.text_inj.mp (ha.trans hb'.symm)) hne

theorem Unambiguous.eq_of_last {s : Scope} (h : s.Unambiguous) {a b : Name}
    (ha : .single a ∈ s.imports) (hb : .single b ∈ s.imports) (hab : a.last = b.last) : a = b := by
  have hmem : .single a ∈ s.binders b.last.text := mem_binders.mpr ⟨a, rfl, ha, by rw [hab]⟩
  rw [h.binders_eq hb, List.mem_singleton] at hmem
  injection hmem

/-! ### One name -/

/-- What it takes for an import to be needed: an owner that is neither in sight anyway nor imported
on demand, and a simple name that is free. -/
theorem needsImport_iff {s : Scope} {type : Name} :
    s.needsImport type = true ↔ ∃ owner, type.owner? = some owner ∧ owner ≠ rootPackage ∧
      s.package ≠ some owner ∧ .onDemand owner ∉ s.imports ∧
      ∀ other, .single other ∈ s.imports → other.last ≠ type.last := by
  unfold needsImport
  cases type.owner? with
  | none => simp
  | some owner =>
    have hsettles : s.settles owner type = false ↔ .onDemand owner ∉ s.imports ∧
        ∀ other, .single other ∈ s.imports → other.last ≠ type.last := by
      simp only [settles, List.any_eq_false]
      constructor
      · intro h
        refine ⟨fun hd => h _ hd (beq_self_eq_true owner), fun other ho he => h _ ho ?_⟩
        exact beq_iff_eq.mpr he
      · intro h i hi
        obtain ⟨hd, hs⟩ := h
        cases i with
        | single other => exact fun he => hs other hi (beq_iff_eq.mp he)
        | onDemand other => exact fun he => hd (beq_iff_eq.mp he ▸ hi)
    simp [hsettles, and_assoc]

/-- Writing a name leaves the scope as it is, or adds the import that a short spelling needs. -/
theorem mention_cases (s : Scope) (name : Name) :
    s.mention name = s ∨
      (s.spell name).isShort = true ∧ s.needsImport name = true ∧
        s.mention name = { s with staged := s.staged ++ [name] } := by
  unfold mention provide
  cases hshort : (s.spell name).isShort with
  | false => exact .inl rfl
  | true =>
    cases hneeds : s.needsImport name with
    | false => exact .inl rfl
    | true => exact .inr ⟨rfl, rfl, rfl⟩

/-- A name is written in full, below the nearest of its owners that is imported, or, if it may be
shortened, by its simple name. -/
theorem spell_cases (s : Scope) (name : Name) :
    s.spell name = .full name.text ∨
      (∃ owner path, name.nearestOwner? s.importsType = some (owner, path) ∧
        s.spell name = .within owner.last.text path) ∨
      name.isMarked = false ∧ s.mayShorten name.last.text name = true ∧
        s.spell name = .short name.last.text := by
  unfold spell
  cases hmarked : name.isMarked with
  | true => exact .inl rfl
  | false =>
    cases hnearest : name.nearestOwner? s.importsType with
    | some found => exact .inr (.inl ⟨found.1, found.2, rfl, rfl⟩)
    | none =>
      cases hmay : s.mayShorten name.last.text name with
      | true => exact .inr (.inr ⟨rfl, rfl, rfl⟩)
      | false => exact .inl rfl

theorem spell_eq_short {s : Scope} {name : Name} {word : String}
    (h : s.spell name = .short word) :
    word = name.last.text ∧ name.isMarked = false ∧
      s.mayShorten name.last.text name = true := by
  rcases spell_cases s name with he | ⟨_, _, _, he⟩ | ⟨hmarked, hmay, he⟩
  · cases he.symm.trans h
  · cases he.symm.trans h
  · cases he.symm.trans h
    exact ⟨rfl, hmarked, hmay⟩

theorem isShort_iff {s : Scope} {name : Name} :
    (s.spell name).isShort = true ↔ s.spell name = .short name.last.text := by
  cases hs : s.spell name with
  | short word => simp [Spelling.isShort, (spell_eq_short hs).1]
  | full text => simp [Spelling.isShort]
  | within outer path => simp [Spelling.isShort]

theorem mem_mention {s : Scope} {i : Import} (h : i ∈ s.imports) (name : Name) :
    i ∈ (s.mention name).imports := by
  rcases mention_cases s name with he | ⟨_, _, he⟩
  · rw [he]
    exact h
  · rw [he]
    simp only [imports, List.map_append, ← List.append_assoc]
    exact List.mem_append_left _ h

@[simp]
theorem package_mention (s : Scope) (name : Name) : (s.mention name).package = s.package := by
  rcases mention_cases s name with he | ⟨_, _, he⟩ <;> rw [he]

/-- What needs an import needs it where fewer are in sight. -/
theorem needsImport_anti {s t : Scope} {type : Name} (h : t.needsImport type = true)
    (hpackage : t.package = s.package) (himports : s.imports ⊆ t.imports) :
    s.needsImport type = true := by
  rw [needsImport_iff] at h ⊢
  obtain ⟨owner, ho, hroot, hown, hdemand, hfree⟩ := h
  exact ⟨owner, ho, hroot, hpackage ▸ hown, fun hd => hdemand (himports hd),
    fun other hi => hfree other (himports hi)⟩

/-- What needs an import after another name was written needed it before. -/
theorem needsImport_of_mention {s : Scope} {name type : Name}
    (h : (s.mention name).needsImport type = true) : s.needsImport type = true :=
  needsImport_anti h (package_mention s name) fun _ hi => mem_mention hi name

theorem Unambiguous.mention {s : Scope} (h : s.Unambiguous) (name : Name) :
    (s.mention name).Unambiguous := by
  rcases mention_cases s name with he | ⟨_, hneeds, he⟩
  · rw [he]
    exact h
  · obtain ⟨_, _, _, _, _, hfree⟩ := needsImport_iff.mp hneeds
    have himports : (s.mention name).imports = s.imports ++ [.single name] := by
      rw [he]
      simp [imports]
    unfold Unambiguous
    rw [himports, List.filterMap_append, List.nodup_append]
    refine ⟨h, List.pairwise_singleton _ name.last, ?_⟩
    intro a ha b hb hab
    obtain ⟨i, hi, hia⟩ := List.mem_filterMap.mp ha
    have hb' : b = name.last := by simpa [Import.boundName?] using hb
    cases i with
    | single other =>
      have hlast : other.last = a := by simpa [Import.boundName?] using hia
      exact hfree other hi (hlast.trans (hab.trans hb'))
    | onDemand owner => cases hia

/-! ### All names -/

/-- Writing names adds imports at the end, each of a name that needed one from the start and that
was written short. -/
theorem mentionAll_eq (s : Scope) (names : List Name) :
    ∃ more : List Name, s.mentionAll names = { s with staged := s.staged ++ more } ∧
      ∀ type ∈ more, s.needsImport type = true ∧
        (type, .short type.last.text) ∈ s.spellAll names := by
  induction names generalizing s with
  | nil => exact ⟨[], by simp, by simp⟩
  | cons name rest ih =>
    obtain ⟨more, he, hmore⟩ := ih (s.mention name)
    have hlater : ∀ type ∈ more, s.needsImport type = true ∧
        (type, .short type.last.text) ∈ s.spellAll (name :: rest) := by
      intro type ht
      obtain ⟨hneeds, hshort⟩ := hmore type ht
      exact ⟨needsImport_of_mention hneeds, List.mem_cons_of_mem _ hshort⟩
    rcases mention_cases s name with hs | ⟨hshort, hneeds, hs⟩
    · exact ⟨more, by rw [mentionAll_cons, he, hs], hlater⟩
    · refine ⟨name :: more, by rw [mentionAll_cons, he, hs]; simp, ?_⟩
      intro type ht
      rcases List.mem_cons.mp ht with rfl | ht
      · refine ⟨hneeds, ?_⟩
        rw [spellAll, isShort_iff.mp hshort]
        exact List.mem_cons_self
      · exact hlater type ht

theorem imports_mentionAll (s : Scope) (names : List Name) :
    ∃ more : List Name, (s.mentionAll names).imports = s.imports ++ more.map .single ∧
      ∀ type ∈ more, s.needsImport type = true ∧
        (type, .short type.last.text) ∈ s.spellAll names := by
  obtain ⟨more, he, hmore⟩ := mentionAll_eq s names
  exact ⟨more, by rw [he]; simp [imports], hmore⟩

@[simp]
theorem package_mentionAll (s : Scope) (names : List Name) :
    (s.mentionAll names).package = s.package := by
  obtain ⟨more, he, _⟩ := mentionAll_eq s names
  rw [he]

theorem mem_mentionAll {s : Scope} {i : Import} (h : i ∈ s.imports) (names : List Name) :
    i ∈ (s.mentionAll names).imports := by
  obtain ⟨more, he, _⟩ := imports_mentionAll s names
  rw [he]
  exact List.mem_append_left _ h

theorem onDemand_mem_mentionAll {s : Scope} {owner : Name} {names : List Name} :
    .onDemand owner ∈ (s.mentionAll names).imports ↔ .onDemand owner ∈ s.imports := by
  obtain ⟨more, he, _⟩ := imports_mentionAll s names
  rw [he]
  simp

/-- A type imported by name in the end was so from the start, or it needed the import and was
written short. -/
theorem single_mem_mentionAll {s : Scope} {type : Name} {names : List Name}
    (h : .single type ∈ (s.mentionAll names).imports) :
    .single type ∈ s.imports ∨
      s.needsImport type = true ∧ (type, .short type.last.text) ∈ s.spellAll names := by
  obtain ⟨more, he, hmore⟩ := imports_mentionAll s names
  rw [he] at h
  rcases List.mem_append.mp h with h | h
  · exact .inl h
  · obtain ⟨other, ho, heq⟩ := List.mem_map.mp h
    cases heq
    exact .inr (hmore type ho)

/-- What writing names in a fresh scope asks for are types that needed an import from the start. -/
theorem needsImport_of_mem_staged {s : Scope} (hs : s.staged = []) {names : List Name} {type : Name}
    (h : type ∈ (s.mentionAll names).staged) : s.needsImport type = true := by
  obtain ⟨more, he, hmore⟩ := mentionAll_eq s names
  rw [he, hs, List.nil_append] at h
  exact (hmore type h).1

/-- After a type is written in a scope without requests, what was asked for is in sight after all
that was in sight before. -/
theorem imports_of_spell {cap : Nat} {type : ResolvedType} {s : Scope} (hs : s.staged = [])
    {e : SpelledType} {d : Draft} (h : type.spell cap (.ofScope s) = (.ok e, d)) :
    d.scope.imports = s.imports ++ d.scope.staged.map .single := by
  obtain ⟨-, -, hscope⟩ := ResolvedType.spell_written h
  obtain ⟨more, he, -⟩ := mentionAll_eq s type.references
  rw [hscope, he, imports, imports, hs]
  simp

theorem Unambiguous.mentionAll {s : Scope} (h : s.Unambiguous) (names : List Name) :
    (s.mentionAll names).Unambiguous := by
  induction names generalizing s with
  | nil => exact h
  | cons name rest ih => exact ih (h.mention name)

end Scope

end SpellOut
