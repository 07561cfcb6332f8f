import Mathlib.Data.List.Induction
import SpellOut.Proofs.Scope.Usage

/-! Requests for imports, as a selection.

Imports that are asked for in the scope of a file are given first come, first served. Which types may
be imported at all is a matter of the file (`Importable`). Among those a request comes too late if
an earlier one was for a type with the same simple name, and it makes no difference whether that was
the same type, or a rival that came first, or one that came too late itself. So the requests select
the importable types whose simple name no importable type before them has (`provideAll_selects`). The
order of the requests decides between rivals and nothing else, and a request that is repeated selects
nothing more. -/
namespace SpellOut

/-- A file of this package with these imports may import the type: the type has an owner whose types
are not in sight yet, and its simple name is free. -/
def Importable (package : Option Name) (imports : List Import) (type : Name) : Prop :=
  (∃ owner ∈ type.owner?, owner ≠ rootPackage ∧ package ≠ some owner ∧
    .onDemand owner ∉ imports) ∧
    ∀ i ∈ imports, i.boundName? ≠ some type.last

instance (package : Option Name) (imports : List Import) :
    DecidablePred (Importable package imports) := fun type => by
  unfold Importable
  infer_instance

/-! ### The first of each simple name -/

section Firsts
variable (p : Name → Prop) [DecidablePred p]

/-- The types with a property, without those that come after one of them with the same simple
name. -/
def firsts (types : List Name) : List Name :=
  (types.zipIdx.filter fun (type, i) =>
    p type ∧ ∀ earlier ∈ types.take i, p earlier → earlier.last ≠ type.last).map Prod.fst

theorem firsts_congr {p q : Name → Prop} [DecidablePred p] [DecidablePred q]
    (h : ∀ type, p type ↔ q type) (types : List Name) : firsts p types = firsts q types := by
  simp only [firsts, h]

/-- A type at the end counts if nothing before it has taken its simple name. -/
theorem firsts_concat (types : List Name) (type : Name) :
    firsts p (types ++ [type]) = firsts p types ++
      if p type ∧ ∀ earlier ∈ types, p earlier → earlier.last ≠ type.last then [type] else [] := by
  -- what is said of a type looks at those before it only, so one more at the end does not change it
  have hbefore : ∀ entry ∈ types.zipIdx,
      (types ++ [type]).take entry.2 = types.take entry.2 := by
    intro entry hentry
    obtain ⟨-, hlt, -⟩ := List.mem_zipIdx hentry
    exact List.take_append_of_le_length (by omega)
  have hlead : (types.zipIdx.filter fun (other, i) => p other ∧
      ∀ earlier ∈ (types ++ [type]).take i, p earlier → earlier.last ≠ other.last).map Prod.fst =
      firsts p types :=
    congrArg _ (List.filter_congr fun entry hentry => by simp only [hbefore entry hentry])
  have hwhole : (types ++ [type]).take (0 + types.length) = types := by simp
  rw [← hlead, firsts, List.zipIdx_append, List.filter_append, List.map_append]
  congr 1
  simp only [List.zipIdx_singleton, List.filter_cons, hwhole, List.filter_nil, decide_eq_true_eq]
  split <;> rfl

/-- The simple names of the first ones are those of all types with the property. -/
theorem mem_lasts_firsts (types : List Name) (word : Segment) :
    word ∈ (firsts p types).map Name.last ↔ ∃ type ∈ types, p type ∧ type.last = word := by
  induction types using List.reverseRecOn with
  | nil => simp [firsts]
  | append_singleton types type ih =>
    rw [firsts_concat, List.map_append, List.mem_append, ih]
    constructor
    · rintro (⟨first, hfirst, hword⟩ | hlast)
      · exact ⟨first, List.mem_append_left _ hfirst, hword⟩
      · split at hlast
        · next hnew => exact ⟨type, by simp, hnew.1, (List.mem_singleton.mp hlast).symm⟩
        · cases hlast
    · rintro ⟨first, hfirst, hp, rfl⟩
      by_cases hseen : ∃ earlier ∈ types, p earlier ∧ earlier.last = first.last
      · exact .inl hseen
      · rcases List.mem_append.mp hfirst with hfirst | hfirst
        · exact absurd ⟨first, hfirst, hp, rfl⟩ hseen
        · cases List.mem_singleton.mp hfirst
          refine .inr ?_
          rw [if_pos ⟨hp, fun earlier he hpe hlast => hseen ⟨earlier, he, hpe, hlast⟩⟩]
          exact List.mem_singleton_self _

theorem nodup_lasts_firsts (types : List Name) : ((firsts p types).map Name.last).Nodup := by
  induction types using List.reverseRecOn with
  | nil => exact List.nodup_nil
  | append_singleton types type ih =>
    rw [firsts_concat]
    split
    · next hnew =>
      rw [List.map_append, List.map_singleton, ← List.concat_eq_append]
      refine List.Nodup.concat (fun hmem => ?_) ih
      obtain ⟨earlier, he, hp, hlast⟩ := (mem_lasts_firsts p types type.last).mp hmem
      exact hnew.2 earlier he hp hlast
    · rwa [List.append_nil]

/-- In another order the first ones may be other types, but they have the same simple names. -/
theorem perm_lasts_firsts {types others : List Name} (h : types.Perm others) :
    ((firsts p types).map Name.last).Perm ((firsts p others).map Name.last) := by
  rw [List.perm_ext_iff_of_nodup (nodup_lasts_firsts p types) (nodup_lasts_firsts p others)]
  intro word
  simp only [mem_lasts_firsts, h.mem_iff]

end Firsts

namespace Scope

variable {s : Scope} {type : Name}

/-! ### Requests -/

theorem needsImport_ofFile_iff {site : NodeId} {package : Option Name} {imports : List Import} :
    (ofFile site package imports).needsImport type = true ↔ Importable package imports type := by
  have hfree : (∀ i ∈ imports, i.boundName? ≠ some type.last) ↔
      ∀ other, .single other ∈ imports → other.last ≠ type.last := by
    constructor
    · intro h other hi hlast
      exact h _ hi (congrArg some hlast)
    · intro h i hi hbound
      cases i with
      | single other => exact h other hi (Option.some.inj hbound)
      | onDemand owner => cases hbound
  simp only [needsImport_iff, Importable, hfree, mem_imports_ofFile, Option.mem_def,
    ← exists_and_right, and_assoc]
  rfl

/-- Types that were asked for take their simple names, and make no other difference to a request. -/
theorem needsImport_staged_iff (hs : s.staged = []) (staged : List Name) (type : Name) :
    needsImport { s with staged } type = true ↔
      s.needsImport type = true ∧ type.last ∉ staged.map Name.last := by
  have himports : imports { s with staged } = s.imports ++ staged.map .single := by
    simp [imports, hs]
  simp only [needsImport_iff, himports, List.mem_append, List.mem_map, Import.single.injEq,
    exists_eq_right, reduceCtorEq, and_false, exists_false, or_false, or_imp, forall_and,
    ← exists_and_right, and_assoc, not_exists, not_and]

/-- From a scope in which nothing was asked for, requests select the first of each simple name. -/
theorem provideAll_eq_firsts (hs : s.staged = []) (types : List Name) :
    s.provideAll types =
      { s with staged := firsts (fun type => s.needsImport type = true) types } := by
  induction types using List.reverseRecOn with
  | nil =>
    show s = { s with staged := [] }
    rw [← hs]
  | append_singleton types type ih =>
    have hstep : s.provideAll (types ++ [type]) = (s.provideAll types).provide type :=
      s.provideAll_append types [type]
    have hneeds :=
      needsImport_staged_iff hs (firsts (fun type => s.needsImport type = true) types) type
    rw [mem_lasts_firsts] at hneeds
    rw [hstep, ih, firsts_concat, provide]
    simp only [hneeds, not_exists, not_and]
    split <;> simp

/-- What needs an import after requests needed it before. -/
theorem needsImport_of_provideAll {types : List Name}
    (h : (s.provideAll types).needsImport type = true) : s.needsImport type = true :=
  needsImport_anti h (package_provideAll s types) fun _ hi => mem_provideAll hi types

/-- A type that was asked for needs no import any more. -/
theorem needsImport_provide (s : Scope) (type : Name) :
    (s.provide type).needsImport type = false := by
  cases hneeds : s.needsImport type with
  | false => rw [provide, if_neg (by simp [hneeds]), hneeds]
  | true =>
    rw [Bool.eq_false_iff, Ne, needsImport_iff, imports_provide, if_pos hneeds]
    rintro ⟨_, _, _, _, _, hfree⟩
    exact hfree type (by simp) rfl

/-- A request that is repeated, at once or later on, changes nothing. -/
theorem provide_provideAll (s : Scope) (type : Name) (between : List Name) :
    ((s.provide type).provideAll between).provide type = (s.provide type).provideAll between := by
  have hneeds : ((s.provide type).provideAll between).needsImport type = false := by
    rw [Bool.eq_false_iff]
    intro h
    cases (s.needsImport_provide type).symm.trans (needsImport_of_provideAll h)
  rw [provide, if_neg (by simp [hneeds])]

/-- **Requests for imports select the first of each simple name.** Among the importable types those
are asked for whose simple name no importable type before them has. Another order of the requests
asks for types with the same simple names, and a request that is repeated later on changes
nothing. -/
theorem provideAll_selects (site : NodeId) (package : Option Name) (imports : List Import)
    (types : List Name) :
    let start := ofFile site package imports
    start.provideAll types = { start with staged := firsts (Importable package imports) types } ∧
      (∀ others : List Name, types.Perm others →
        ((start.provideAll types).staged.map Name.last).Perm
          ((start.provideAll others).staged.map Name.last)) ∧
      ∀ (before between after : List Name) (type : Name),
        start.provideAll (before ++ type :: between ++ type :: after) =
          start.provideAll (before ++ type :: between ++ after) := by
  intro start
  have hselect : ∀ types, start.provideAll types =
      { start with staged := firsts (Importable package imports) types } := by
    intro types
    rw [provideAll_eq_firsts rfl, firsts_congr fun type => needsImport_ofFile_iff]
  refine ⟨hselect types, fun others hperm => ?_, fun before between after type => ?_⟩
  · rw [hselect, hselect]
    exact perm_lasts_firsts _ hperm
  · have hrest : ∀ rest, start.provideAll (before ++ type :: between ++ rest) =
        (((start.provideAll before).provide type).provideAll between).provideAll rest := by
      intro rest
      rw [provideAll_append, provideAll_append]
      rfl
    have hrepeat := provide_provideAll (start.provideAll before) type between
    rw [hrest, hrest]
    show (Scope.provide _ type).provideAll after = _
    rw [hrepeat]

/-- Of two types with one simple name the first is asked for, and neither a type that is in sight
anyway nor one whose simple name the file binds. -/
theorem rivals_selects :
    let start := ofFile 1 (some (.ofText "app")) [.onDemand (.ofText "io"), .single (.ofText "a.Map")]
    let types : List Name := [.ofText "b.List", .ofText "io.File", .ofText "c.List",
      .ofText "b.Map", .ofText "List", .ofText "c.Set"]
    let others : List Name := [.ofText "c.Set", .ofText "c.List", .ofText "b.List",
      .ofText "b.Map", .ofText "List", .ofText "io.File"]
    (types.Perm others ∧ (start.provideAll types).staged = [.ofText "b.List", .ofText "c.Set"] ∧
        (start.provideAll others).staged = [.ofText "c.Set", .ofText "c.List"]) ∧
      ((start.provideAll types).staged.map Name.last).Perm
        ((start.provideAll others).staged.map Name.last) ∧
      start.provideAll ([.ofText "b.List", .ofText "io.File", .ofText "c.List"] ++
        .ofText "b.List" :: [.ofText "b.Map", .ofText "List", .ofText "c.Set"]) =
          start.provideAll types := by
  intro start types others
  have hperm : types.Perm others := by
    decide +kernel
  obtain ⟨-, hperms, hrepeats⟩ :=
    provideAll_selects 1 (some (.ofText "app")) [.onDemand (.ofText "io"), .single (.ofText "a.Map")]
      types
  refine ⟨⟨hperm, ?_, ?_⟩, hperms others hperm, ?_⟩
  · decide +kernel
  · decide +kernel
  · exact hrepeats [] [.ofText "io.File", .ofText "c.List"]
      [.ofText "b.Map", .ofText "List", .ofText "c.Set"] (.ofText "b.List")

end Scope

end SpellOut
