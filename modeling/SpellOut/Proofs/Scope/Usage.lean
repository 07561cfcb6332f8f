import Mathlib.Data.List.Nodup
import SpellOut.Proofs.Scope.Growth

/-! Scopes under any use.

A draft can be asked for the import of a type, for the spelling of a name, or to write a type, which
may have a flaw and then ends early. Nothing is asked of the names: they need not be identifiers, and
their parts may be empty. All three come to asking for imports of types, one after the other
(`use_provideAll`). So what one such request preserves holds after any sequence of uses
(`useAll_orderly`): the imports asked for stay in their order, each of a type that nothing else
brings into sight, and no simple name is among them twice. -/
namespace SpellOut

/-! ### Requests for imports -/

namespace Scope

/-- The scope after asking for the imports of the types. -/
def provideAll (s : Scope) (types : List Name) : Scope := types.foldl provide s

theorem provideAll_append (s : Scope) (a b : List Name) :
    s.provideAll (a ++ b) = (s.provideAll a).provideAll b := List.foldl_append

/-- Requests put imports after those that were asked for before, and change nothing else. -/
theorem provideAll_eq (s : Scope) (types : List Name) :
    ∃ more, s.provideAll types = { s with staged := s.staged ++ more } := by
  induction types generalizing s with
  | nil => exact ⟨[], by simp [provideAll]⟩
  | cons type rest ih =>
    obtain ⟨more, hmore⟩ := ih (s.provide type)
    have hcons : s.provideAll (type :: rest) = (s.provide type).provideAll rest := rfl
    cases hneeds : s.needsImport type with
    | false => exact ⟨more, by rw [hcons, hmore]; simp [provide, hneeds]⟩
    | true => exact ⟨type :: more, by rw [hcons, hmore]; simp [provide, hneeds]⟩

@[simp]
theorem package_provideAll (s : Scope) (types : List Name) :
    (s.provideAll types).package = s.package := by
  obtain ⟨more, hmore⟩ := s.provideAll_eq types
  rw [hmore]

theorem mem_provideAll {s : Scope} {i : Import} (h : i ∈ s.imports) (types : List Name) :
    i ∈ (s.provideAll types).imports := by
  obtain ⟨more, hmore⟩ := s.provideAll_eq types
  rw [hmore, imports, List.map_append, ← List.append_assoc]
  exact List.mem_append_left _ h

/-- Writing names comes to requests for imports. -/
theorem mentionAll_provideAll (s : Scope) (names : List Name) :
    ∃ types, s.mentionAll names = s.provideAll types := by
  induction names generalizing s with
  | nil => exact ⟨[], rfl⟩
  | cons name rest ih =>
    obtain ⟨types, htypes⟩ := ih (s.mention name)
    rw [mentionAll_cons, htypes]
    unfold mention
    split
    · exact ⟨name :: types, rfl⟩
    · exact ⟨types, rfl⟩

/-! ### Order among the imports -/

/-- The order that the imports of a scope are in. All that were asked for are of single types, as
the type of `staged` has it. -/
structure Orderly (s : Scope) : Prop where
  nodup : s.imports.Nodup
  /-- A type whose import was asked for has an owner, and nothing else brings its types into
  sight. -/
  owned : ∀ type ∈ s.staged, ∃ owner, type.owner? = some owner ∧ owner ≠ rootPackage ∧
    s.package ≠ some owner ∧ .onDemand owner ∉ s.imports
  distinct : (s.staged.map Name.last).Nodup
  /-- No import that the file declares binds the simple name of such a type. -/
  free : ∀ type ∈ s.staged, ∀ other, .single other ∈ s.declared → other.last ≠ type.last

theorem orderly_ofFile (site : NodeId) (package : Option Name) (imports : List Import) :
    (ofFile site package imports).Orderly where
  nodup := by
    rw [Scope.imports]
    simpa [ofFile] using nodup_declared_ofFile site package imports
  owned _ htype := by cases htype
  distinct := List.nodup_nil
  free _ htype := by cases htype

/-- A type that needs its import goes to the end of those asked for, and the order is kept. -/
theorem Orderly.stage {s : Scope} (h : s.Orderly) {type : Name}
    (hneeds : s.needsImport type = true) : Orderly { s with staged := s.staged ++ [type] } := by
  obtain ⟨owner, howner, hroot, hpackage, hdemand, hfree⟩ := needsImport_iff.mp hneeds
  have himports : Scope.imports { s with staged := s.staged ++ [type] } =
      s.imports ++ [.single type] := by
    simp [Scope.imports]
  refine ⟨?_, fun other hother => ?_, ?_, fun other hother declared hdeclared => ?_⟩
  · have hnew : .single type ∉ s.imports := fun hi => hfree type hi rfl
    rw [himports, ← List.concat_eq_append]
    exact List.Nodup.concat hnew h.nodup
  · have hdemands : ∀ owner, .onDemand owner ∈ s.imports ++ [.single type] ↔
        .onDemand owner ∈ s.imports := by
      simp
    simp only [himports, hdemands]
    rcases List.mem_append.mp hother with hother | hother
    · exact h.owned other hother
    · cases List.mem_singleton.mp hother
      exact ⟨owner, howner, hroot, hpackage, hdemand⟩
  · have hnew : type.last ∉ s.staged.map Name.last := by
      intro hmem
      obtain ⟨other, hother, hlast⟩ := List.mem_map.mp hmem
      exact hfree other (List.mem_append_right _ (List.mem_map_of_mem hother)) hlast
    rw [List.map_append, List.map_singleton, ← List.concat_eq_append]
    exact List.Nodup.concat hnew h.distinct
  · rcases List.mem_append.mp hother with hother | hother
    · exact h.free other hother declared hdeclared
    · cases List.mem_singleton.mp hother
      exact hfree declared (List.mem_append_left _ hdeclared)

/-- One request for an import keeps the order. -/
theorem Orderly.provide {s : Scope} (h : s.Orderly) (type : Name) : (s.provide type).Orderly := by
  unfold Scope.provide
  split
  · next hneeds => exact h.stage hneeds
  · exact h

theorem Orderly.provideAll {s : Scope} (h : s.Orderly) (types : List Name) :
    (s.provideAll types).Orderly := by
  induction types generalizing s with
  | nil => exact h
  | cons type rest ih => exact ih (h.provide type)

end Scope

/-! ### Uses -/

/-- What a draft may be asked for. -/
inductive Use where
  /-- The import of a type. -/
  | provide (type : Name)
  /-- The spelling of a name. -/
  | mention (name : Name)
  /-- A type, written out, that nests no deeper than a cap. -/
  | spell (cap : Nat) (type : ResolvedType)

namespace Draft

/-- The draft after one use. A type with a flaw leaves what was written up to the flaw. -/
def use (d : Draft) : Use → Draft
  | .provide type => d.provide type
  | .mention name => d.mention name
  | .spell cap type => (type.spell cap d).2

/-- The draft after the uses, one after the other. -/
def useAll (d : Draft) (uses : List Use) : Draft := uses.foldl use d

theorem useAll_append (d : Draft) (a b : List Use) :
    d.useAll (a ++ b) = (d.useAll a).useAll b := List.foldl_append

/-- One use comes to requests for imports. -/
theorem use_provideAll (d : Draft) (u : Use) :
    ∃ types, (d.use u).scope = d.scope.provideAll types := by
  cases u with
  | provide type => exact ⟨[type], rfl⟩
  | mention name =>
    rw [use, scope_mention]
    exact d.scope.mentionAll_provideAll [name]
  | spell cap type =>
    obtain ⟨names, -, hend⟩ := ResolvedType.spellAt_writeAll cap 0 .whole type d
    rw [use, ResolvedType.spell, hend, scope_writeAll]
    exact d.scope.mentionAll_provideAll names

theorem useAll_provideAll (d : Draft) (uses : List Use) :
    ∃ types, (d.useAll uses).scope = d.scope.provideAll types := by
  induction uses generalizing d with
  | nil => exact ⟨[], rfl⟩
  | cons u rest ih =>
    obtain ⟨first, hfirst⟩ := d.use_provideAll u
    obtain ⟨types, htypes⟩ := ih (d.use u)
    refine ⟨first ++ types, ?_⟩
    rw [Scope.provideAll_append, ← hfirst, ← htypes]
    rfl

/-- **A scope stays in order under any use.** After any uses of the scope of a file, its site, its
package and the imports that the file declares are what they were; later uses only put imports after
those that were asked for before; and the imports are in order. -/
theorem useAll_orderly (site : NodeId) (package : Option Name) (imports : List Import)
    (uses later : List Use) :
    let start := Scope.ofFile site package imports
    let s := ((ofScope start).useAll uses).scope
    s.site = site ∧ s.package = package ∧ s.declared = start.declared ∧
      s.staged <+: ((ofScope start).useAll (uses ++ later)).scope.staged ∧ s.Orderly := by
  intro start s
  obtain ⟨types, htypes⟩ := (ofScope start).useAll_provideAll uses
  obtain ⟨more, hmore⟩ := start.provideAll_eq types
  have hs : s = { start with staged := start.staged ++ more } := htypes.trans hmore
  obtain ⟨next, hnext⟩ := ((ofScope start).useAll uses).useAll_provideAll later
  obtain ⟨added, hadded⟩ := s.provideAll_eq next
  refine ⟨by rw [hs]; rfl, by rw [hs]; rfl, by rw [hs], ?_, ?_⟩
  · rw [useAll_append, hnext, hadded]
    exact List.prefix_append _ _
  · have hend : s = start.provideAll types := htypes
    rw [hend]
    exact (Scope.orderly_ofFile site package imports).provideAll types

/-- Parts of names may be empty, and a type with a flaw leaves what was written before it. -/
example : ((ofScope (.ofFile 1 none [.onDemand (.ofText "a")])).useAll
    [.provide (.ofText "a.b."), .mention (.ofText ".b"), .mention (.ofText "a.b"),
      .spell 32 (.reference (.ofText "c.D") [.primitive "no", .reference (.ofText "c.E") []])]
    ).scope.staged = [.ofText "a.b.", .ofText ".b", .ofText "c.D"] := by
  decide +kernel

end Draft

end SpellOut
