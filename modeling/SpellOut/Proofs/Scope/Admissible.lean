import SpellOut.Proofs.Scope.Wanted
import SpellOut.Proofs.SpelledAs

/-! Which imports are asked for.

An import is asked for where a name is written short and nothing provides it. Two tests stand behind
that, one whether the simple name may be used and one whether an import is needed, and together they
say a lot of the name (`admissible_of_needsImport`). The test is made in the scope of the moment, so
it holds of every import beside all those that were asked for before (`mentionAll_admissible`). That
is enough to add them one after the other: none is there already, and no simple name gets bound
twice. -/
namespace SpellOut

/-- Imports that are new, each of them, are all put at the end. -/
theorem Import.foldl_extend_of_nodup {imports more : List Import} (h : (imports ++ more).Nodup) :
    more.foldl extend imports = imports ++ more := by
  induction more generalizing imports with
  | nil => simp
  | cons i rest ih =>
    have hnew : i ∉ imports := fun hi =>
      (List.nodup_append.mp h).2.2 i hi i List.mem_cons_self rfl
    rw [List.foldl_cons, extend, if_neg hnew, ih (by simpa using h)]
    simp

/-- What is in sight in the scope of a file that declares no import twice. -/
theorem Scope.imports_ofFile {site : NodeId} {package : Option Name} {imports : List Import}
    (h : imports.Nodup) : (ofFile site package imports).imports = imports := by
  simp [Scope.imports, ofFile, Import.foldl_extend_of_nodup, h]

/-! ### Imports that may be added -/

/-- What there is to say of a type whose import is added to a file of a package, beside the imports
that the file has. -/
structure Admissible (package : Option Name) (imports : List Import) (type : Name) : Prop where
  ofIdentifiers : type.OfIdentifiers
  unmarked : type.isMarked = false
  /-- The type has an owner, whose types are not in sight without an import of their own. -/
  owner : ∃ owner, type.owner? = some owner ∧ owner ≠ rootPackage ∧ package ≠ some owner ∧
    .onDemand owner ∉ imports
  packaged : type.ownerLooksLikeType = false
  notRoot : isRootType type.last.text = false
  free : ∀ other, .single other ∈ imports → other.last ≠ type.last

/-- Every type is admissible beside the imports and those of the types before it. -/
def AdmissibleAll (package : Option Name) : List Import → List Name → Prop
  | _, [] => True
  | imports, type :: rest =>
    Admissible package imports type ∧ AdmissibleAll package (imports ++ [.single type]) rest

theorem admissibleAll_append {package : Option Name} {imports : List Import} {a b : List Name} :
    AdmissibleAll package imports (a ++ b) ↔
      AdmissibleAll package imports a ∧ AdmissibleAll package (imports ++ a.map Import.single) b := by
  induction a generalizing imports with
  | nil => simp [AdmissibleAll]
  | cons type rest ih => simp [AdmissibleAll, ih, and_assoc]

namespace AdmissibleAll

variable {package : Option Name} {imports : List Import} {types : List Name}

theorem take (h : AdmissibleAll package imports types) (k : Nat) :
    AdmissibleAll package imports (types.take k) := by
  rw [← List.take_append_drop k types, admissibleAll_append] at h
  exact h.1

/-- What one admissible import preserves, all of them preserve. -/
theorem preserves {p : List Import → Prop}
    (hstep : ∀ {imports type}, Admissible package imports type → p imports →
      p (imports ++ [.single type]))
    (h : AdmissibleAll package imports types) (hp : p imports) :
    p (imports ++ types.map .single) := by
  induction types generalizing imports with
  | nil => simpa using hp
  | cons type rest ih =>
    obtain ⟨htype, hrest⟩ := h
    simpa using ih hrest (hstep htype hp)

/-- Imports that are admissible are new, each of them. -/
theorem nodup (h : AdmissibleAll package imports types) (hnodup : imports.Nodup) :
    (imports ++ types.map Import.single).Nodup := by
  refine preserves (fun {imports type} htype hnodup => ?_) h hnodup
  have hnew : Import.single type ∉ imports := fun hi => htype.free type hi rfl
  rw [List.nodup_append]
  exact ⟨hnodup, List.pairwise_singleton _ _,
    fun a ha b hb he => hnew (List.mem_singleton.mp hb ▸ he ▸ ha)⟩

/-- Imports that are admissible bind new simple names. -/
theorem nodup_boundNames (h : AdmissibleAll package imports types)
    (hnodup : (imports.filterMap Import.boundName?).Nodup) :
    ((imports ++ types.map Import.single).filterMap Import.boundName?).Nodup := by
  refine preserves (p := fun imports => (imports.filterMap Import.boundName?).Nodup)
    (fun {imports type} htype hnodup => ?_) h hnodup
  have hnew : type.last ∉ imports.filterMap Import.boundName? := by
    intro hmem
    obtain ⟨i, hi, hbound⟩ := List.mem_filterMap.mp hmem
    cases i with
    | single other => exact htype.free other hi (by simpa [Import.boundName?] using hbound)
    | onDemand owner => cases hbound
  rw [List.filterMap_append, List.nodup_append]
  exact ⟨hnodup, List.pairwise_singleton _ type.last,
    fun a ha b hb he => hnew (List.mem_singleton.mp hb ▸ he ▸ ha)⟩

end AdmissibleAll

namespace Scope

/-- What needs an import and is written short is admissible. -/
theorem admissible_of_needsImport {s : Scope} {type : Name} (htype : type.OfIdentifiers)
    (hshort : (s.spell type).isShort = true) (hneeds : s.needsImport type = true) :
    Admissible s.package s.imports type := by
  have h : s.Wanted type := wants_iff.mp (Bool.and_eq_true_iff.mpr ⟨hshort, hneeds⟩)
  exact ⟨htype, h.unmarked, h.owner, h.packaged, h.notRoot, h.free⟩

/-- Writing a name of identifiers adds nothing or what is admissible. -/
theorem mentionAll_admissible (s : Scope) {names : List Name}
    (hnames : ∀ name ∈ names, name.OfIdentifiers) :
    ∃ more, s.mentionAll names = { s with staged := s.staged ++ more } ∧
      AdmissibleAll s.package s.imports more := by
  induction names generalizing s with
  | nil => exact ⟨[], by simp, trivial⟩
  | cons name rest ih =>
    obtain ⟨more, he, hmore⟩ := ih (s.mention name) fun other ho =>
      hnames other (List.mem_cons_of_mem _ ho)
    rw [mentionAll_cons, he]
    rcases mention_cases s name with hs | ⟨hshort, hneeds, hs⟩
    · rw [hs] at hmore ⊢
      exact ⟨more, rfl, hmore⟩
    · have hname := admissible_of_needsImport (hnames name List.mem_cons_self) hshort hneeds
      rw [hs] at hmore ⊢
      refine ⟨name :: more, by simp, hname, ?_⟩
      simpa [imports] using hmore

end Scope

/-! ### Types -/

namespace ResolvedType

mutual

/-- Every name that is written is made of identifiers. -/
theorem SpelledAs.references_ofIdentifiers {cap depth : Nat} {place : Place} {type : ResolvedType}
    {e : SpelledType} (h : SpelledAs cap depth place type e) :
    ∀ name ∈ type.references, name.OfIdentifiers := by
  cases h with
  | primitive _ _ _ => simp [references]
  | array _ h => exact h.references_ofIdentifiers
  | reference _ hname _ h => exact List.forall_mem_cons.mpr ⟨hname, h.references_ofIdentifiers⟩
  | wildcard _ h => exact h.references_ofIdentifiers
  | typeVariable _ _ => simp [references]
  | raw _ _ => simp [references]

theorem AllSpelledAs.references_ofIdentifiers {cap depth : Nat} {types : List ResolvedType}
    {es : List SpelledType} (h : AllSpelledAs cap depth types es) :
    ∀ name ∈ referencesIn types, name.OfIdentifiers := by
  cases h with
  | nil => simp [referencesIn]
  | cons h hrest =>
    exact List.forall_mem_append.mpr ⟨h.references_ofIdentifiers, hrest.references_ofIdentifiers⟩

end

/-- Writing a type in the scope of a file asks for imports that are admissible in the file. -/
theorem spell_admissible {cap : Nat} {type : ResolvedType} {site : NodeId} {package : Option Name}
    {imports : List Import} (hnodup : imports.Nodup) {e : SpelledType} {d : Draft}
    (h : type.spell cap (.ofScope (.ofFile site package imports)) = (.ok e, d)) :
    AdmissibleAll package imports d.scope.staged := by
  obtain ⟨-, -, hscope⟩ := spell_written h
  obtain ⟨more, hmore, hadmissible⟩ := Scope.mentionAll_admissible
    (.ofFile site package imports) (spellAt_spelledAs h).references_ofIdentifiers
  rw [Scope.imports_ofFile hnodup] at hadmissible
  rw [hscope, hmore]
  simpa [Scope.ofFile] using hadmissible

end ResolvedType

end SpellOut
