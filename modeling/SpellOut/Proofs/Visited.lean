import SpellOut.Proofs.FirstFlaw
import SpellOut.Proofs.References

/-! The nodes that a walk visits.

The walk that writes a type goes from node to node, and goes on after a node only if nothing is wrong
with it. What it finds at the nodes that it visits settles the rest: where another cap finds the same
at each of them, the walk comes to the same end (`spellAt_congr`). The names that it writes are those
of the references that it visits and finds nothing wrong with, whether it gets through or ends early
(`spellAt_names`). -/
namespace SpellOut

namespace TypeNode

/-- The nodes that are visited, of those that are to come: none after one with a flaw. -/
def visited (cap : Nat) : List TypeNode → List TypeNode
  | [] => []
  | n :: rest => n :: if (n.flaw? cap).isNone then visited cap rest else []

theorem visited_append (cap : Nat) (a b : List TypeNode) :
    visited cap (a ++ b) =
      visited cap a ++ if (a.findSome? (flaw? cap)).isNone then visited cap b else [] := by
  induction a with
  | nil => rfl
  | cons n rest ih =>
    cases hn : n.flaw? cap with
    | none => simp [visited, hn, ih]
    | some flaw => simp [visited, hn]

/-- A node that is visited has no flaw, or it is the first one that has. -/
theorem flaw?_of_mem_visited {cap : Nat} {n : TypeNode} {ns : List TypeNode}
    (h : n ∈ visited cap ns) :
    n.flaw? cap = none ∨ ns.find? (fun m => (m.flaw? cap).isSome) = some n := by
  induction ns with
  | nil => cases h
  | cons first rest ih =>
    rw [visited] at h
    cases hfirst : first.flaw? cap with
    | some flaw =>
      rw [hfirst] at h
      cases List.mem_singleton.mp h
      exact .inr (List.find?_cons_of_pos (by simp [hfirst]))
    | none =>
      rw [hfirst] at h
      rcases List.mem_cons.mp h with rfl | hrest
      · exact .inl hfirst
      · rw [List.find?_cons_of_neg (by simp [hfirst])]
        exact ih hrest

/-- The name that is written at a node, if the node is a reference without a flaw. -/
def name? (cap : Nat) (n : TypeNode) : Option Name :=
  match n.type with
  | .reference name _ => if (n.flaw? cap).isNone then some name else none
  | _ => none

/-- The names that are written at the nodes, up to the first one with a flaw. -/
def names (cap : Nat) (ns : List TypeNode) : List Name := (visited cap ns).filterMap (name? cap)

theorem names_append (cap : Nat) (a b : List TypeNode) :
    names cap (a ++ b) =
      names cap a ++ if (a.findSome? (flaw? cap)).isNone then names cap b else [] := by
  rw [names, visited_append, List.filterMap_append]
  split <;> rfl

/-- No name is written at a node with a flaw, nor after it. -/
theorem names_cons_of_flaw {cap : Nat} {n : TypeNode} {flaw : TypeFlaw}
    (h : n.flaw? cap = some flaw) (rest : List TypeNode) : names cap (n :: rest) = [] := by
  have hname : n.name? cap = none := by
    unfold name?
    split <;> simp [h]
  simp [names, visited, h, hname]

theorem names_cons {cap : Nat} {n : TypeNode} (h : n.flaw? cap = none) (rest : List TypeNode) :
    names cap (n :: rest) = (n.name? cap).toList ++ names cap rest := by
  cases hname : n.name? cap <;> simp [names, visited, h, hname]

end TypeNode

namespace ResolvedType

open TypeNode

theorem exists_nodesAt_eq_cons (depth : Nat) (place : Place) (type : ResolvedType) :
    ∃ rest, type.nodesAt depth place = ⟨depth, place, type⟩ :: rest := by
  cases type <;> exact ⟨_, rfl⟩

/-- The names that writing the type comes to before it ends, at the end of the type or at a flaw. -/
def reached (cap : Nat) (type : ResolvedType) : List Name := TypeNode.names cap type.nodes

/-! ### What the walk writes -/

mutual

/-- The walk over a type leaves what writing the names that it reaches leaves. -/
theorem spellAt_names (cap depth : Nat) (place : Place) (type : ResolvedType) (d : Draft) :
    (type.spellAt cap depth place d).2 =
      d.writeAll (TypeNode.names cap (type.nodesAt depth place)) := by
  unfold spellAt
  split
  · next flaw hflaw =>
    have hroot : TypeNode.flaw? cap ⟨depth, place, type⟩ = some flaw := hflaw
    cases type <;> rw [nodesAt, names_cons_of_flaw hroot] <;> rfl
  · next hflaw =>
    have hroot : TypeNode.flaw? cap ⟨depth, place, type⟩ = none := hflaw
    cases type with
    | primitive word => rw [nodesAt, names_cons hroot]; rfl
    | array component =>
      rw [nodesAt, names_cons hroot, name?, Option.toList_none, List.nil_append,
        ← spellAt_names cap (depth + 1) .component component d]
      simp only
      split <;> next hc => simp only [hc]
    | reference name arguments =>
      have hname : TypeNode.name? cap ⟨depth, place, reference name arguments⟩ = some name := by
        simp [name?, hroot]
      have hwrite : ∀ names, d.writeAll (name :: names) = (d.write name).writeAll names :=
        fun _ => rfl
      rw [nodesAt, names_cons hroot, hname, Option.toList_some, List.singleton_append, hwrite,
        ← spellArguments_names cap (depth + 1) arguments (d.write name)]
      simp only
      split <;> next hc => simp only [hc]
    | wildcard bound =>
      rw [nodesAt, names_cons hroot, name?, Option.toList_none, List.nil_append,
        ← spellAt_names cap (depth + 1) .bound bound d]
      simp only
      split <;> next hc => simp only [hc]
    | typeVariable name => rw [nodesAt, names_cons hroot]; rfl
    | raw text => rw [nodesAt, names_cons hroot]; rfl

theorem spellArguments_names (cap depth : Nat) (types : List ResolvedType) (d : Draft) :
    (spellArguments cap depth types d).2 =
      d.writeAll (TypeNode.names cap (nodesIn depth types)) := by
  unfold spellArguments
  cases types with
  | nil => rfl
  | cons first rest =>
    have hdraft := spellAt_names cap depth .argument first d
    have hreported := spellAt_reported cap depth .argument first d
    rw [nodesIn, names_append, ← hreported, Draft.writeAll_append, ← hdraft]
    simp only
    split
    · next hfirst => simp [hfirst, reported?, Draft.writeAll]
    · next d' hfirst =>
      have hrest := spellArguments_names cap depth rest d'
      simp only [hfirst, reported?, Option.isNone_none, if_true]
      rw [← hrest]
      split <;> next hc => rw [hc]

end

/-! ### What the walk depends on -/

mutual

/-- A walk comes to the same end under another cap, if it finds the same at each node it visits. -/
theorem spellAt_congr {cap cap' depth : Nat} {place : Place} {type : ResolvedType}
    (h : ∀ n ∈ visited cap (type.nodesAt depth place), n.flaw? cap' = n.flaw? cap) (d : Draft) :
    type.spellAt cap' depth place d = type.spellAt cap depth place d := by
  obtain ⟨rest, hnodes⟩ := exists_nodesAt_eq_cons depth place type
  have hroot : type.flaw? cap' depth place = type.flaw? cap depth place := by
    rw [hnodes] at h
    exact h _ List.mem_cons_self
  unfold spellAt
  rw [hroot]
  cases hflaw : type.flaw? cap depth place with
  | some flaw => rfl
  | none =>
    have hsound : (TypeNode.flaw? cap ⟨depth, place, type⟩).isNone = true := by
      rw [TypeNode.flaw?, hflaw, Option.isNone_none]
    cases type with
    | primitive word => rfl
    | array component =>
      simp only [nodesAt, visited, hsound, if_true, List.forall_mem_cons] at h
      simp only [spellAt_congr h.2]
    | reference name arguments =>
      simp only [nodesAt, visited, hsound, if_true, List.forall_mem_cons] at h
      simp only [spellArguments_congr h.2]
    | wildcard bound =>
      simp only [nodesAt, visited, hsound, if_true, List.forall_mem_cons] at h
      simp only [spellAt_congr h.2]
    | typeVariable name => rfl
    | raw text => rfl

theorem spellArguments_congr {cap cap' depth : Nat} {types : List ResolvedType}
    (h : ∀ n ∈ visited cap (nodesIn depth types), n.flaw? cap' = n.flaw? cap) (d : Draft) :
    spellArguments cap' depth types d = spellArguments cap depth types d := by
  unfold spellArguments
  cases types with
  | nil => rfl
  | cons first rest =>
    rw [nodesIn, visited_append, ← spellAt_reported cap depth .argument first d,
      List.forall_mem_append] at h
    obtain ⟨hfirst, hrest⟩ := h
    simp only [spellAt_congr hfirst]
    split
    · rfl
    · next d' hok =>
      simp only [hok, reported?, Option.isNone_none, if_true] at hrest
      simp only [spellArguments_congr hrest]

end

end ResolvedType

end SpellOut
