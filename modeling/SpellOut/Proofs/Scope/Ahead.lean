import SpellOut.Proofs.Scope.Relevant

/-! Writing a type in a scope that is ahead of another one.

A scope is ahead of another by imports that the other one wants: it would ask for each of them as
soon as it writes the type. To write such a type makes no difference then. It is spelled short in
both scopes, in the one because it is imported and in the other because it may be; there the scope
behind asks for the import, and catches up. For other names the additional imports do not matter, as
long as they keep apart from them. So a whole type is written alike in both scopes, and in the end
the one is ahead by the same imports as in the beginning (`spell_ahead`). -/
namespace SpellOut

/-- Two names that do not interfere: they are the same if their simple names are, and neither owns
the other. -/
structure Name.Apart (a b : Name) : Prop where
  eq_of_last : a.last = b.last → a = b
  not_owner : a ∉ b.owners
  not_owned : b ∉ a.owners

instance (a b : Name) : Decidable (a.Apart b) :=
  decidable_of_iff ((a.last = b.last → a = b) ∧ a ∉ b.owners ∧ b ∉ a.owners)
    ⟨fun h => ⟨h.1, h.2.1, h.2.2⟩, fun h => ⟨h.eq_of_last, h.not_owner, h.not_owned⟩⟩

theorem Name.Apart.symm {a b : Name} (h : a.Apart b) : b.Apart a :=
  ⟨fun hlast => (h.eq_of_last hlast.symm).symm, h.not_owned, h.not_owner⟩

namespace Scope

/-- A scope `s` that has grown from `start` by imports of the names, and a scope `t` that is ahead
of it by the imports of some more types. -/
structure Ahead (start : Scope) (more names : List Name) (s t : Scope) : Prop where
  package : s.package = start.package
  grown : ∀ i ∈ s.imports, i ∈ start.imports ∨ ∃ name ∈ names, i = .single name
  samePackage : s.package = t.package
  imports : ∀ i : Import, i ∈ t.imports ↔ i ∈ s.imports ∨ ∃ type ∈ more, i = .single type

theorem mayShorten_of_importsType {s : Scope} {word : String} {type : Name}
    (hmarked : type.isMarked = false) (h : .single type ∈ s.imports) :
    s.mayShorten word type = true := by
  simp [mayShorten, hmarked, importsType_iff.mpr h]

theorem not_needsImport_of_mem {s : Scope} {type : Name} (h : .single type ∈ s.imports) :
    s.needsImport type = false := by
  rw [Bool.eq_false_iff, Ne, needsImport_iff]
  intro hneeds
  obtain ⟨_, _, _, _, _, hfree⟩ := hneeds
  exact hfree type h rfl

namespace Ahead

variable {start s t : Scope} {more names : List Name} {name : Name}

/-- A name that the scope behind lacks is wanted there still. -/
theorem wanted (h : Ahead start more names s t) (hapart : ∀ other ∈ names, name.Apart other)
    (hstart : start.Wanted name) (hlacks : .single name ∉ s.imports) : s.Wanted name where
  unmarked := hstart.unmarked
  packaged := hstart.packaged
  notRoot := hstart.notRoot
  owner := by
    obtain ⟨owner, howner, hroot, hpackage, hdemand⟩ := hstart.owner
    refine ⟨owner, howner, hroot, h.package ▸ hpackage, fun hi => ?_⟩
    rcases h.grown _ hi with hi | ⟨_, _, heq⟩
    · exact hdemand hi
    · cases heq
  free other hi hlast := by
    rcases h.grown _ hi with hbefore | ⟨_, hother, heq⟩
    · exact hstart.free other hbefore hlast
    · cases heq
      have hsame := (hapart other hother).eq_of_last hlast.symm
      exact hlacks (hsame ▸ hi)
  ownersUnnamed other howner hi := by
    rcases h.grown _ hi with hbefore | ⟨_, hother, heq⟩
    · exact hstart.ownersUnnamed other howner hbefore
    · cases heq
      exact (hapart other hother).not_owned howner

/-- On a name that it does not lack, the scope behind agrees with the one ahead. -/
theorem agreeOn (h : Ahead start more names s t) (hapart : ∀ type ∈ more, type.Apart name)
    (hhas : name ∈ more → .single name ∈ s.imports) : s.AgreeOn t name where
  package := h.samePackage
  imports i hconcerns := by
    rw [h.imports]
    refine ⟨.inl, fun hi => ?_⟩
    rcases hi with hi | ⟨type, htype, rfl⟩
    · exact hi
    · rcases hconcerns with hlast | howner
      · have hsame := (hapart type htype).eq_of_last hlast
        exact hsame ▸ hhas (hsame ▸ htype)
      · exact absurd howner (hapart type htype).not_owner

/-- A name that is wanted in the scope behind is spelled short in the one ahead too. -/
theorem spell_isShort (h : Ahead start more names s t) (hapart : ∀ type ∈ more, type.Apart name)
    (hwanted : s.Wanted name) (hmore : name ∈ more) : (t.spell name).isShort = true := by
  have himport : .single name ∈ t.imports := (h.imports _).mpr (.inr ⟨name, hmore, rfl⟩)
  refine spell_isShort_iff.mpr ⟨hwanted.unmarked, ?_, ?_⟩
  · refine Name.nearestOwner?_eq_none_iff.mpr fun owner howner => ?_
    rw [Bool.eq_false_iff, Ne, importsType_iff, h.imports]
    intro hi
    rcases hi with hi | ⟨type, htype, heq⟩
    · exact hwanted.ownersUnnamed owner howner hi
    · cases heq
      exact (hapart owner htype).not_owner howner
  · exact mayShorten_of_importsType hwanted.unmarked himport

end Ahead

/-- Scopes of which one is ahead are written in side by side, if what it is ahead by was wanted in
the beginning and keeps apart from the names. -/
theorem lockstep_ahead {start : Scope} {more names : List Name}
    (hwanted : ∀ type ∈ more, start.Wanted type)
    (hapart : ∀ type ∈ more, ∀ name ∈ names, type.Apart name) :
    Lockstep names (Ahead start more names) := by
  have hmore : ∀ name ∈ names, ∀ type ∈ more, type.Apart name :=
    fun name hname type htype => hapart type htype name hname
  -- a name is lacking in the scope behind, or the scopes agree on it
  have hcases : ∀ {s t}, Ahead start more names s t → ∀ name ∈ names,
      s.AgreeOn t name ∨ name ∈ more ∧ s.Wanted name := by
    intro s t h name hname
    by_cases htype : name ∈ more
    · by_cases hhas : .single name ∈ s.imports
      · exact .inl (h.agreeOn (hmore name hname) fun _ => hhas)
      · exact .inr ⟨htype, h.wanted (hapart name htype) (hwanted name htype) hhas⟩
    · exact .inl (h.agreeOn (hmore name hname) fun h => absurd h htype)
  refine ⟨fun {s t} h name hname => ?_, fun {s t} h name hname => ?_⟩
  · rcases hcases h name hname with hagree | ⟨htype, hw⟩
    · exact hagree.spell_eq
    · have hs := (Bool.and_eq_true_iff.mp (wants_iff.mpr hw)).1
      have ht := h.spell_isShort (hmore name hname) hw htype
      rw [isShort_iff.mp hs, isShort_iff.mp ht]
  · have hgrown : ∀ i ∈ (s.mention name).imports,
        i ∈ start.imports ∨ ∃ name ∈ names, i = .single name := by
      intro i hi
      rw [imports_mention] at hi
      rcases List.mem_append.mp hi with hi | hi
      · exact h.grown i hi
      · split at hi
        · exact .inr ⟨name, hname, List.mem_singleton.mp hi⟩
        · cases hi
    have hpackage : (s.mention name).package = (t.mention name).package := by
      rw [package_mention, package_mention, h.samePackage]
    refine ⟨by rw [package_mention, h.package], hgrown, hpackage, fun i => ?_⟩
    rw [imports_mention, imports_mention, List.mem_append, List.mem_append, h.imports]
    rcases hcases h name hname with hagree | ⟨htype, hw⟩
    · rw [hagree.wants_eq, or_right_comm]
    · have himport : .single name ∈ t.imports := (h.imports _).mpr (.inr ⟨name, htype, rfl⟩)
      have ht : t.wants name = false := by
        rw [wants, not_needsImport_of_mem himport, Bool.and_false]
      -- the scope behind asks for the import that the one ahead has
      have hnamed : i ∈ [.single name] → ∃ type ∈ more, i = .single type :=
        fun hi => ⟨name, htype, List.mem_singleton.mp hi⟩
      rw [wants_iff.mpr hw, ht]
      simp only [Bool.false_eq_true, if_false, if_true, List.not_mem_nil, or_false]
      rw [or_assoc]
      exact or_congr_right ⟨.inr, fun hi => hi.elim hnamed id⟩

end Scope

/-- A type is written alike in two scopes of which one is ahead by imports that the other one wants
and that keep apart from the names in the type. In the end the one is ahead by the same imports. -/
theorem ResolvedType.spell_ahead (cap : Nat) {type : ResolvedType} {s t : Scope} {more : List Name}
    (hpackage : s.package = t.package)
    (himports : ∀ i : Import, i ∈ t.imports ↔ i ∈ s.imports ∨ ∃ type ∈ more, i = .single type)
    (hwanted : ∀ extra ∈ more, s.Wanted extra)
    (hapart : ∀ extra ∈ more, ∀ name ∈ type.references, extra.Apart name) :
    (type.spell cap (.ofScope s)).1 = (type.spell cap (.ofScope t)).1 ∧
      ∀ i : Import, i ∈ (type.spell cap (.ofScope t)).2.scope.imports ↔
        i ∈ (type.spell cap (.ofScope s)).2.scope.imports ∨ ∃ extra ∈ more, i = .single extra := by
  have hstart :
      Scope.Ahead s more type.references (Draft.ofScope s).scope (Draft.ofScope t).scope :=
    ⟨rfl, fun _ hi => .inl hi, hpackage, himports⟩
  obtain ⟨result, e, e', he, he', hend⟩ :=
    spellAt_lockstep (Scope.lockstep_ahead hwanted hapart) cap 0 .whole (List.Subset.refl _) hstart
  rw [spell, spell, he, he']
  exact ⟨rfl, hend.imports⟩

end SpellOut
