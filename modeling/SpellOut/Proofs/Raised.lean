import SpellOut.Proofs.RawType.Accepted
import SpellOut.Proofs.Visited

/-! Raising the cap.

A node that is sound stays sound under a higher cap, and a flaw of its own stays its flaw; only that
it lies too deep, or that a text nests too deep, may come to an end (`Sound.raise`, `HasFlaw.raise`).
So a type that can be written is written the same under every higher cap, and one with a flaw of
another kind has that flaw under every higher cap, and leaves the same behind (`spell_raise`). -/
namespace SpellOut

/-- A text that is a type under a cap is one under every higher cap. -/
theorem RawType.accepts_raise {cap cap' : Nat} (hcap : cap ≤ cap') {text : String}
    (h : accepts cap text = true) : accepts cap' text = true := by
  obtain ⟨tokens, hlexed, htype⟩ := exists_lexed_of_accepts h
  rw [accepts_of_lexed hlexed, isType_iff]
  exact (isType_iff.mp htype).deepen (k := 0) hcap

/-- Whether the type is known only as text. -/
def ResolvedType.isRaw : ResolvedType → Bool
  | raw _ => true
  | _ => false

/-! ### Nodes -/

namespace TypeNode

variable {cap cap' : Nat} {n : TypeNode}

theorem Sound.raise (h : n.Sound cap) (hcap : cap ≤ cap') : n.Sound cap' := by
  refine ⟨Nat.le_trans h.shallow hcap, ?_⟩
  have hfits := h.fits
  obtain ⟨depth, place, type⟩ := n
  cases type with
  | raw text => exact RawType.accepts_raise (Nat.sub_le_sub_right hcap depth) hfits
  -- the cap has a say in nothing else that is asked of a node
  | _ => exact hfits

/-- A flaw that is neither a matter of depth nor one of a text stays. -/
theorem HasFlaw.raise {flaw : TypeFlaw} (h : n.HasFlaw cap flaw) (hcap : cap ≤ cap')
    (hdepth : flaw ≠ .tooDeep cap) (hraw : n.type.isRaw = false) : n.HasFlaw cap' flaw := by
  cases h with
  | tooDeep _ => exact absurd rfl hdepth
  | unknownPrimitive hshallow hword => exact .unknownPrimitive (Nat.le_trans hshallow hcap) hword
  | primitiveArgument hshallow hword hplace =>
    exact .primitiveArgument (Nat.le_trans hshallow hcap) hword hplace
  | malformedName hshallow hsegment hname =>
    exact .malformedName (Nat.le_trans hshallow hcap) hsegment hname
  | misplacedWildcard hshallow hplace =>
    exact .misplacedWildcard (Nat.le_trans hshallow hcap) hplace
  | malformedVariable hshallow hname => exact .malformedVariable (Nat.le_trans hshallow hcap) hname
  | malformedText _ _ => cases hraw

end TypeNode

/-! ### Types -/

namespace ResolvedType

/-- The node whose flaw ends the writing of the type: the first one that has a flaw. -/
def flawed? (cap : Nat) (type : ResolvedType) : Option TypeNode :=
  type.nodes.find? fun n => (n.flaw? cap).isSome

/-- A higher cap makes no difference, if the node whose flaw ends the writing keeps its flaw. -/
theorem spell_eq_of_kept {cap cap' : Nat} (hcap : cap ≤ cap') {type : ResolvedType}
    (h : ∀ n, type.flawed? cap = some n → n.flaw? cap' = n.flaw? cap) (d : Draft) :
    type.spell cap' d = type.spell cap d := by
  refine spellAt_congr (fun n hn => ?_) d
  rcases TypeNode.flaw?_of_mem_visited hn with hsound | hflawed
  · rw [hsound, TypeNode.flaw?_eq_none_iff]
    exact (TypeNode.flaw?_eq_none_iff.mp hsound).raise hcap
  · exact h n hflawed

/-- What is reported is the flaw of the node whose flaw ends the writing. -/
theorem flaw?_of_flawed? {cap : Nat} {type : ResolvedType} {n : TypeNode}
    (hn : type.flawed? cap = some n) (d : Draft) :
    reported? (type.spell cap d).1 = n.flaw? cap := by
  obtain ⟨hflaw, before, after, hnodes, hbefore⟩ := List.find?_eq_some_iff_append.mp hn
  obtain ⟨flaw, hflaw⟩ := Option.isSome_iff_exists.mp hflaw
  have hnone : before.findSome? (TypeNode.flaw? cap) = none :=
    List.findSome?_eq_none_iff.mpr fun m hm => by simpa using hbefore m hm
  have hreported : reported? (type.spell cap d).1 = type.nodes.findSome? (TypeNode.flaw? cap) :=
    spellAt_reported cap 0 .whole type d
  rw [hreported, hnodes, List.findSome?_append, hnone, Option.none_or, List.findSome?_cons, hflaw]

/-- **Raising the cap changes nothing that is settled.** A type that can be written is written the
same under a higher cap, with the same requests for imports; and one that cannot, for a flaw that is
neither a matter of depth nor one of a text, has the same flaw under a higher cap and asks for the
same imports before it. -/
theorem spell_raise {cap cap' : Nat} (hcap : cap ≤ cap') (type : ResolvedType) (d : Draft) :
    (∀ e d', type.spell cap d = (.ok e, d') → type.spell cap' d = (.ok e, d')) ∧
      ∀ flaw d', type.spell cap d = (.error flaw, d') → flaw ≠ .tooDeep cap →
        (∀ n, type.flawed? cap = some n → n.type.isRaw = false) →
        type.spell cap' d = (.error flaw, d') := by
  constructor
  · intro e d' h
    rw [← h]
    refine spell_eq_of_kept hcap (fun n hn => ?_) d
    have hsound : n.flaw? cap = none := by
      rw [← flaw?_of_flawed? hn d, h, reported?]
    rw [hsound, TypeNode.flaw?_eq_none_iff]
    exact (TypeNode.flaw?_eq_none_iff.mp hsound).raise hcap
  · intro flaw d' h hdepth hraw
    rw [← h]
    refine spell_eq_of_kept hcap (fun n hn => ?_) d
    have hflaw : n.flaw? cap = some flaw := by
      rw [← flaw?_of_flawed? hn d, h, reported?]
    rw [hflaw, TypeNode.flaw?_eq_some_iff]
    exact (TypeNode.flaw?_eq_some_iff.mp hflaw).raise hcap hdepth (hraw n hn)

theorem eq_error_of_reported? {α : Type} {result : Except TypeFlaw α × Draft} {flaw : TypeFlaw}
    (h : reported? result.1 = some flaw) : result = (.error flaw, result.2) := by
  obtain ⟨_ | _, d⟩ := result <;> cases h
  rfl

/-- A pair with a list and, after it, what is given. -/
def listAnd (type : ResolvedType) : ResolvedType :=
  reference (.ofText "util.Pair")
    [reference (.ofText "java.util.List") [reference (.ofText "java.lang.String") []], type]

/-- Under a cap that leaves just enough room, and under a higher one. -/
theorem listAnd_raise :
    let d := Draft.ofScope (.ofFile 1 none [])
    (∃ e d', (listAnd (raw "int[]")).spell 2 d = (.ok e, d') ∧
        (listAnd (raw "int[]")).spell 9 d = (.ok e, d') ∧ e.text = "Pair<List<String>, int[]>") ∧
      ∃ d', (listAnd (primitive "int")).spell 2 d = (.error (.primitiveArgument "int"), d') ∧
        (listAnd (primitive "int")).spell 9 d = (.error (.primitiveArgument "int"), d') ∧
        d'.scope.staged = [.ofText "util.Pair", .ofText "java.util.List"] := by
  intro d
  constructor
  · have hrun : (listAnd (raw "int[]")).spellsTo 2 d.scope
        (fun e _ => e.text == "Pair<List<String>, int[]>") = true := by
      decide +kernel
    obtain ⟨e, d', h, htext⟩ := exists_of_spellsTo hrun
    exact ⟨e, d', h, (spell_raise (by decide) _ d).1 e d' h, beq_iff_eq.mp htext⟩
  · have hreported : reported? ((listAnd (primitive "int")).spell 2 d).1 =
        some (.primitiveArgument "int") := by
      decide +kernel
    have hstaged : ((listAnd (primitive "int")).spell 2 d).2.scope.staged =
        [.ofText "util.Pair", .ofText "java.util.List"] := by
      decide +kernel
    have hraw : ((listAnd (primitive "int")).flawed? 2).all (fun n => n.type.isRaw = false) =
        true := by
      decide +kernel
    have h := eq_error_of_reported? hreported
    refine ⟨_, h, (spell_raise (by decide) _ d).2 _ _ h (by decide) fun n hn => ?_, hstaged⟩
    rw [hn] at hraw
    exact of_decide_eq_true hraw

end ResolvedType

end SpellOut
