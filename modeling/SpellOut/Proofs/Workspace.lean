import SpellOut.Workspace

/-! What a workspace holds, as its calls see it.

Declarations are what a search finds under each number, and nothing else (`find?_ext`). So putting a
declaration in place changes nothing exactly if it was there before (`insert_eq_self_iff`). Imports
that are declared are in the file afterwards, beside those that were there. -/
namespace SpellOut

/-! ### Declarations -/

namespace Declarations

theorem find?_of_mem {l : List Declaration} (hl : l.Pairwise (·.id < ·.id)) {d : Declaration}
    (hd : d ∈ l) : l.find? (·.id == d.id) = some d := by
  induction l with
  | nil => cases hd
  | cons first rest ih =>
    obtain ⟨hfirst, hrest⟩ := List.pairwise_cons.mp hl
    rcases List.mem_cons.mp hd with rfl | hd
    · rw [List.find?_cons_of_pos]
      exact beq_self_eq_true d.id
    · rw [List.find?_cons_of_neg]
      · exact ih hrest hd
      · intro he
        exact Nat.ne_of_lt (hfirst d hd) (beq_iff_eq.mp he)

theorem find?_eq_some_iff {ds : Declarations} {id : NodeId} {d : Declaration} :
    ds.find? id = some d ↔ d ∈ ds.toList ∧ d.id = id := by
  constructor
  · intro h
    have hid := List.find?_some h
    exact ⟨List.mem_of_find?_eq_some h, beq_iff_eq.mp hid⟩
  · intro h
    obtain ⟨hd, rfl⟩ := h
    exact find?_of_mem ds.sorted hd

/-- Declarations in which every search finds the same are the same. -/
theorem find?_ext {a b : Declarations} (h : ∀ id, a.find? id = b.find? id) : a = b := by
  have hmem : ∀ d, d ∈ a.toList ↔ d ∈ b.toList := by
    intro d
    have ha : a.find? d.id = some d ↔ d ∈ a.toList := by
      rw [find?_eq_some_iff, and_iff_left rfl]
    have hb : b.find? d.id = some d ↔ d ∈ b.toList := by
      rw [find?_eq_some_iff, and_iff_left rfl]
    rw [← ha, ← hb, h]
  have hnodup : ∀ ds : Declarations, ds.toList.Nodup := fun ds =>
    ds.sorted.imp fun hlt he => Nat.ne_of_lt hlt (congrArg _ he)
  have hperm := (List.perm_ext_iff_of_nodup (hnodup a) (hnodup b)).mpr hmem
  have hlist := hperm.eq_of_pairwise
    (fun c d _ _ hcd hdc => absurd hdc (Nat.lt_asymm hcd)) a.sorted b.sorted
  cases a
  cases b
  cases hlist
  rfl

/-- Putting a declaration in place changes nothing exactly if it is there already. -/
theorem insert_eq_self_iff {ds : Declarations} {d : Declaration} :
    ds.insert d = ds ↔ ds.find? d.id = some d := by
  constructor
  · intro h
    rw [← h, find?_insert, if_pos rfl]
  · intro h
    refine find?_ext fun id => ?_
    rw [find?_insert]
    split
    · next he => rw [he, h]
    · rfl

/-- A declaration that is put in the place of another leaves the numbers as they are. -/
theorem ids_insert {ds : Declarations} {old d : Declaration} (h : ds.find? d.id = some old) :
    (ds.insert d).toList.map (·.id) = ds.toList.map (·.id) := by
  have hid := (find?_eq_some_iff.mp h).2
  have hself : ds.insert old = ds := insert_eq_self_iff.mpr (by rw [hid, h])
  conv => rhs; rw [← hself]
  simp [insert, hid]

/-- Declarations with different numbers can be put in place in either order. -/
theorem insert_comm (ds : Declarations) {a b : Declaration} (h : a.id ≠ b.id) :
    (ds.insert a).insert b = (ds.insert b).insert a := by
  refine find?_ext fun id => ?_
  simp only [find?_insert]
  by_cases hb : id = b.id
  · rw [if_pos hb, if_pos hb, if_neg fun ha => h (ha.symm.trans hb)]
  · rw [if_neg hb, if_neg hb]

end Declarations

/-! ### Imports -/

namespace SourceFile

/-- The file with more imports of types, one declared after the other. -/
def declareAll (f : SourceFile) (types : List Name) : SourceFile :=
  types.foldl (fun f type => f.declare (.single type)) f

@[simp]
theorem declareAll_nil (f : SourceFile) : f.declareAll [] = f := rfl

@[simp]
theorem declareAll_cons (f : SourceFile) (type : Name) (rest : List Name) :
    f.declareAll (type :: rest) = (f.declare (.single type)).declareAll rest := rfl

@[simp]
theorem package_declareAll (f : SourceFile) (types : List Name) :
    (f.declareAll types).package = f.package := by
  induction types generalizing f with
  | nil => rfl
  | cons type rest ih => exact ih _

theorem imports_declareAll (f : SourceFile) (types : List Name) :
    (f.declareAll types).imports = (types.map .single).foldl Import.extend f.imports := by
  induction types generalizing f with
  | nil => rfl
  | cons type rest ih => exact ih _

theorem mem_imports_declareAll {f : SourceFile} {types : List Name} {i : Import} :
    i ∈ (f.declareAll types).imports ↔ i ∈ f.imports ∨ ∃ type ∈ types, .single type = i := by
  rw [imports_declareAll, Import.mem_foldl_extend, List.mem_map]

end SourceFile

end SpellOut
