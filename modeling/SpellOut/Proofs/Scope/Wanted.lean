import SpellOut.Proofs.Owners
import SpellOut.Proofs.Scope.Growth

/-! Which names ask for their import when they are written.

A name asks for its import if it is spelled short and nothing provides it. Those are two tests on
one scope, and together they come to one condition on the name and on the imports in sight
(`wants_iff`). All that it demands of the imports is that some are missing, so what is wanted in a
scope was wanted before, when the scope had fewer imports (`Wanted.anti`). -/
namespace SpellOut.Scope

variable {s : Scope} {name : Name}

/-- Whether writing the name asks for its import. -/
def wants (s : Scope) (name : Name) : Bool := (s.spell name).isShort && s.needsImport name

theorem mention_eq (s : Scope) (name : Name) :
    s.mention name = { s with staged := s.staged ++ if s.wants name then [name] else [] } := by
  unfold mention provide wants
  cases (s.spell name).isShort <;> cases s.needsImport name <;> simp

theorem imports_mention (s : Scope) (name : Name) :
    (s.mention name).imports = s.imports ++ if s.wants name then [.single name] else [] := by
  rw [mention_eq]
  cases s.wants name <;> simp [imports]

theorem bindsOther_iff {word : String} {type : Name} :
    s.bindsOther word type = true ↔
      ∃ other, .single other ∈ s.imports ∧ other ≠ type ∧ other.last.text = word := by
  unfold bindsOther
  rw [List.any_eq_true]
  constructor
  · intro h
    obtain ⟨i, hi, hbinds⟩ := h
    cases i with
    | single other => exact ⟨other, hi, by simpa using hbinds⟩
    | onDemand owner => cases hbinds
  · intro h
    obtain ⟨other, hi, hbinds⟩ := h
    exact ⟨.single other, hi, by simpa using hbinds⟩

/-- A name that needs its import may be shortened unless it looks nested or is of the root package
by its simple name. -/
theorem mayShorten_of_needsImport (hmarked : name.isMarked = false)
    (hneeds : s.needsImport name = true) :
    s.mayShorten name.last.text name =
      (!name.ownerLooksLikeType && !isRootType name.last.text) := by
  obtain ⟨owner, howner, hroot, hpackage, hdemand, hfree⟩ := needsImport_iff.mp hneeds
  have hnamed : s.importsType name = false := by
    rw [Bool.eq_false_iff, Ne, importsType_iff]
    exact fun hi => hfree name hi rfl
  have hdemanded : s.importsOnDemand owner = false := by
    rw [Bool.eq_false_iff, Ne, importsOnDemand_iff]
    exact hdemand
  have hbinds : s.bindsOther name.last.text name = false := by
    rw [Bool.eq_false_iff, Ne, bindsOther_iff]
    intro h
    obtain ⟨other, hi, -, hlast⟩ := h
    exact hfree other hi (Segment.text_inj.mp hlast)
  have howned : ¬ some owner = s.package := fun he => hpackage he.symm
  simp [mayShorten, Name.inRootPackage, howner, hroot, hmarked, hnamed, hdemanded, hbinds, howned]

theorem spell_isShort_iff :
    (s.spell name).isShort = true ↔ name.isMarked = false ∧
      name.nearestOwner? s.importsType = none ∧ s.mayShorten name.last.text name = true := by
  unfold spell
  cases name.isMarked with
  | true => simp [Spelling.isShort]
  | false =>
    cases name.nearestOwner? s.importsType with
    | some found => simp [Spelling.isShort]
    | none => cases s.mayShorten name.last.text name <;> simp [Spelling.isShort]

/-- What it takes for a name to ask for its import: it looks like a type of a package, its simple
name is free and not one of the root package, and neither an owner of it nor all types of its direct
owner are in sight. -/
structure Wanted (s : Scope) (name : Name) : Prop where
  unmarked : name.isMarked = false
  packaged : name.ownerLooksLikeType = false
  notRoot : isRootType name.last.text = false
  owner : ∃ owner, name.owner? = some owner ∧ owner ≠ rootPackage ∧ s.package ≠ some owner ∧
    .onDemand owner ∉ s.imports
  free : ∀ other, .single other ∈ s.imports → other.last ≠ name.last
  ownersUnnamed : ∀ other ∈ name.owners, .single other ∉ s.imports

theorem wants_iff : s.wants name = true ↔ s.Wanted name := by
  have hnearest : name.nearestOwner? s.importsType = none ↔
      ∀ other ∈ name.owners, .single other ∉ s.imports := by
    simp only [Name.nearestOwner?_eq_none_iff, Bool.eq_false_iff, Ne, importsType_iff]
  rw [wants, Bool.and_eq_true_iff, spell_isShort_iff, hnearest]
  constructor
  · intro h
    obtain ⟨⟨hmarked, hunnamed, hmay⟩, hneeds⟩ := h
    rw [mayShorten_of_needsImport hmarked hneeds] at hmay
    obtain ⟨owner, howner, hroot, hpackage, hdemand, hfree⟩ := needsImport_iff.mp hneeds
    obtain ⟨hpackaged, hnotRoot⟩ := Bool.and_eq_true_iff.mp hmay
    exact ⟨hmarked, by simpa using hpackaged, by simpa using hnotRoot,
      ⟨owner, howner, hroot, hpackage, hdemand⟩, hfree, hunnamed⟩
  · intro h
    obtain ⟨owner, howner, hroot, hpackage, hdemand⟩ := h.owner
    have hneeds : s.needsImport name = true :=
      needsImport_iff.mpr ⟨owner, howner, hroot, hpackage, hdemand, h.free⟩
    refine ⟨⟨h.unmarked, h.ownersUnnamed, ?_⟩, hneeds⟩
    rw [mayShorten_of_needsImport h.unmarked hneeds, h.packaged, h.notRoot]
    rfl

/-- What is wanted in a scope is wanted in one with fewer imports. -/
theorem Wanted.anti {t : Scope} (h : t.Wanted name) (hpackage : t.package = s.package)
    (himports : s.imports ⊆ t.imports) : s.Wanted name where
  unmarked := h.unmarked
  packaged := h.packaged
  notRoot := h.notRoot
  owner := by
    obtain ⟨owner, howner, hroot, hown, hdemand⟩ := h.owner
    exact ⟨owner, howner, hroot, hpackage ▸ hown, fun hi => hdemand (himports hi)⟩
  free other hi := h.free other (himports hi)
  ownersUnnamed other ho hi := h.ownersUnnamed other ho (himports hi)

/-- What writing names asks for are names that are wanted from the start. -/
theorem wanted_of_mem_staged {names : List Name} (h : name ∈ (s.mentionAll names).staged) :
    name ∈ s.staged ∨ name ∈ names ∧ s.Wanted name := by
  induction names generalizing s with
  | nil => exact .inl h
  | cons first rest ih =>
    rcases ih h with hbefore | ⟨hrest, hwanted⟩
    · rw [mention_eq] at hbefore
      rcases List.mem_append.mp hbefore with hstart | hfirst
      · exact .inl hstart
      · cases hwants : s.wants first with
        | true =>
          rw [hwants, if_pos rfl, List.mem_singleton] at hfirst
          subst hfirst
          exact .inr ⟨List.mem_cons_self, wants_iff.mp hwants⟩
        | false =>
          rw [hwants] at hfirst
          cases hfirst
    · have hwanted' := hwanted.anti (package_mention s first) fun _ hi => mem_mention hi first
      exact .inr ⟨List.mem_cons_of_mem _ hrest, hwanted'⟩

end SpellOut.Scope
