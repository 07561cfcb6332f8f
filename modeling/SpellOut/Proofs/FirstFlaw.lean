import SpellOut.ResolvedType.Spelled

/-! Which types can be written, and what is wrong with the others.

A type is the list of its nodes, each with its depth and its place. What is asked of a node can be
said of it alone (`TypeNode.Sound`), and so can what is wrong with it (`TypeNode.HasFlaw`). The walk
that writes a type reports the flaw of the first node that has one, whatever the scope
(`spellAt_reported`). So a type can be written exactly if all its nodes are sound
(`spell_firstFlaw`). -/
namespace SpellOut

/-! ### Nodes -/

/-- A part of a type, with the depth at which it lies and the place in which it stands. -/
structure TypeNode where
  depth : Nat
  place : Place
  type : ResolvedType

namespace ResolvedType

mutual

/-- The nodes of a type that lies at a depth and stands in a place, from left to right, each before
its parts. -/
def nodesAt (depth : Nat) (place : Place) : ResolvedType → List TypeNode
  | primitive word => [⟨depth, place, primitive word⟩]
  | array component =>
    ⟨depth, place, array component⟩ :: component.nodesAt (depth + 1) .component
  | reference name arguments =>
    ⟨depth, place, reference name arguments⟩ :: nodesIn (depth + 1) arguments
  | wildcard bound => ⟨depth, place, wildcard bound⟩ :: bound.nodesAt (depth + 1) .bound
  | typeVariable name => [⟨depth, place, typeVariable name⟩]
  | raw text => [⟨depth, place, raw text⟩]

/-- The nodes of type arguments at a depth. -/
def nodesIn (depth : Nat) : List ResolvedType → List TypeNode
  | [] => []
  | first :: rest => first.nodesAt depth .argument ++ nodesIn depth rest

end

/-- The nodes of a type that stands for itself. -/
def nodes (type : ResolvedType) : List TypeNode := type.nodesAt 0 .whole

end ResolvedType

namespace TypeNode

/-- What is asked of a node besides its depth, by the kind of its type. A text may nest as deep as
the cap leaves room below it. -/
def Fits (cap : Nat) (n : TypeNode) : Prop :=
  match n.type with
  | .primitive word => word ∈ Word.primitives ∧ n.place ≠ .argument ∧ n.place ≠ .bound
  | .array _ => True
  | .reference name _ => ∀ segment ∈ name.segments, Word.isIdentifier segment.text = true
  | .wildcard _ => n.place = .argument
  | .typeVariable name => Word.isIdentifier name = true
  | .raw text => RawType.accepts (cap - n.depth) text = true

/-- What is asked of a node. -/
structure Sound (cap : Nat) (n : TypeNode) : Prop where
  shallow : n.depth ≤ cap
  fits : n.Fits cap

/-- What is wrong with a node. A node that lies too deep has no other flaw, and a primitive that is
unknown has no flaw of its place. -/
inductive HasFlaw (cap : Nat) : TypeNode → TypeFlaw → Prop where
  | tooDeep {n : TypeNode} (hdepth : cap < n.depth) : HasFlaw cap n (.tooDeep cap)
  | unknownPrimitive {depth : Nat} {place : Place} {word : String} (hdepth : depth ≤ cap)
      (hword : word ∉ Word.primitives) :
      HasFlaw cap ⟨depth, place, .primitive word⟩ (.unknownPrimitive word)
  | primitiveArgument {depth : Nat} {place : Place} {word : String} (hdepth : depth ≤ cap)
      (hword : word ∈ Word.primitives) (hplace : place = .argument ∨ place = .bound) :
      HasFlaw cap ⟨depth, place, .primitive word⟩ (.primitiveArgument word)
  | malformedName {depth : Nat} {place : Place} {name : Name} {arguments : List ResolvedType}
      {segment : Segment} (hdepth : depth ≤ cap) (hsegment : segment ∈ name.segments)
      (h : Word.isIdentifier segment.text = false) :
      HasFlaw cap ⟨depth, place, .reference name arguments⟩ (.malformed name.text)
  | misplacedWildcard {depth : Nat} {place : Place} {bound : ResolvedType} (hdepth : depth ≤ cap)
      (hplace : place ≠ .argument) :
      HasFlaw cap ⟨depth, place, .wildcard bound⟩ .misplacedWildcard
  | malformedVariable {depth : Nat} {place : Place} {name : String} (hdepth : depth ≤ cap)
      (h : Word.isIdentifier name = false) :
      HasFlaw cap ⟨depth, place, .typeVariable name⟩ (.malformed name)
  | malformedText {depth : Nat} {place : Place} {text : String} (hdepth : depth ≤ cap)
      (h : RawType.accepts (cap - depth) text = false) :
      HasFlaw cap ⟨depth, place, .raw text⟩ (.malformed text)

/-- The flaw that is looked for at a node. -/
def flaw? (cap : Nat) (n : TypeNode) : Option TypeFlaw := n.type.flaw? cap n.depth n.place

theorem isPrimitive_iff {word : String} : Word.isPrimitive word = true ↔ word ∈ Word.primitives :=
  List.contains_iff_mem

/-- Nothing is found wrong with a node that is sound. -/
theorem Sound.flaw?_eq {cap : Nat} {n : TypeNode} (h : n.Sound cap) : n.flaw? cap = none := by
  obtain ⟨depth, place, type⟩ := n
  have hdepth : ¬ cap < depth := Nat.not_lt.mpr h.shallow
  have hfits := h.fits
  cases type with
  | primitive word =>
    obtain ⟨hword, hargument, hbound⟩ := hfits
    have hplace : ¬ (place = .argument ∨ place = .bound) := not_or.mpr ⟨hargument, hbound⟩
    simp [flaw?, ResolvedType.flaw?, hdepth, isPrimitive_iff.mpr hword, hplace]
  | array component => simp [flaw?, ResolvedType.flaw?, hdepth]
  | reference name arguments =>
    simpa [flaw?, ResolvedType.flaw?, hdepth, Fits] using hfits
  | wildcard bound => simpa [flaw?, ResolvedType.flaw?, hdepth, Fits] using hfits
  | typeVariable name => simpa [flaw?, ResolvedType.flaw?, hdepth, Fits] using hfits
  | raw text => simpa [flaw?, ResolvedType.flaw?, hdepth, Fits] using hfits

/-- What is wrong with a node is found. -/
theorem HasFlaw.flaw?_eq {cap : Nat} {n : TypeNode} {flaw : TypeFlaw} (h : n.HasFlaw cap flaw) :
    n.flaw? cap = some flaw := by
  cases h with
  | tooDeep hdepth => simp [flaw?, ResolvedType.flaw?, hdepth]
  | @unknownPrimitive depth place word hdepth hword =>
    have hknown : Word.isPrimitive word = false :=
      Bool.eq_false_iff.mpr (mt isPrimitive_iff.mp hword)
    simp [flaw?, ResolvedType.flaw?, Nat.not_lt.mpr hdepth, hknown]
  | primitiveArgument hdepth hword hplace =>
    simp [flaw?, ResolvedType.flaw?, Nat.not_lt.mpr hdepth, isPrimitive_iff.mpr hword, hplace]
  | @malformedName depth place name arguments segment hdepth hsegment h =>
    have hname : (name.segments.all fun segment => Word.isIdentifier segment.text) = false :=
      List.all_eq_false.mpr ⟨segment, hsegment, by simp [h]⟩
    simp only [flaw?, ResolvedType.flaw?, Nat.not_lt.mpr hdepth, hname]
    rfl
  | misplacedWildcard hdepth hplace =>
    simp [flaw?, ResolvedType.flaw?, Nat.not_lt.mpr hdepth, hplace]
  | malformedVariable hdepth h => simp [flaw?, ResolvedType.flaw?, Nat.not_lt.mpr hdepth, h]
  | malformedText hdepth h => simp [flaw?, ResolvedType.flaw?, Nat.not_lt.mpr hdepth, h]

/-- A node is sound, or something is wrong with it. -/
theorem sound_or_hasFlaw (cap : Nat) (n : TypeNode) : n.Sound cap ∨ ∃ flaw, n.HasFlaw cap flaw := by
  obtain ⟨depth, place, type⟩ := n
  by_cases hdeep : cap < depth
  · exact .inr ⟨_, .tooDeep hdeep⟩
  have hdepth : depth ≤ cap := Nat.le_of_not_lt hdeep
  cases type with
  | primitive word =>
    by_cases hword : word ∈ Word.primitives
    · by_cases hplace : place = .argument ∨ place = .bound
      · exact .inr ⟨_, .primitiveArgument hdepth hword hplace⟩
      · exact .inl ⟨hdepth, hword, not_or.mp hplace⟩
    · exact .inr ⟨_, .unknownPrimitive hdepth hword⟩
  | array component => exact .inl ⟨hdepth, trivial⟩
  | reference name arguments =>
    cases hname : name.segments.all fun segment => Word.isIdentifier segment.text with
    | false =>
      obtain ⟨segment, hsegment, h⟩ := List.all_eq_false.mp hname
      exact .inr ⟨_, .malformedName hdepth hsegment (Bool.eq_false_iff.mpr h)⟩
    | true => exact .inl ⟨hdepth, List.all_eq_true.mp hname⟩
  | wildcard bound =>
    by_cases hplace : place = .argument
    · exact .inl ⟨hdepth, hplace⟩
    · exact .inr ⟨_, .misplacedWildcard hdepth hplace⟩
  | typeVariable name =>
    cases hname : Word.isIdentifier name with
    | false => exact .inr ⟨_, .malformedVariable hdepth hname⟩
    | true => exact .inl ⟨hdepth, hname⟩
  | raw text =>
    cases htext : RawType.accepts (cap - depth) text with
    | false => exact .inr ⟨_, .malformedText hdepth htext⟩
    | true => exact .inl ⟨hdepth, htext⟩

theorem flaw?_eq_none_iff {cap : Nat} {n : TypeNode} : n.flaw? cap = none ↔ n.Sound cap := by
  refine ⟨fun hnone => ?_, Sound.flaw?_eq⟩
  rcases n.sound_or_hasFlaw cap with hsound | ⟨flaw, hflaw⟩
  · exact hsound
  · cases hnone.symm.trans hflaw.flaw?_eq

theorem flaw?_eq_some_iff {cap : Nat} {n : TypeNode} {flaw : TypeFlaw} :
    n.flaw? cap = some flaw ↔ n.HasFlaw cap flaw := by
  refine ⟨fun hsome => ?_, HasFlaw.flaw?_eq⟩
  rcases n.sound_or_hasFlaw cap with hsound | ⟨other, hother⟩
  · cases hsome.symm.trans hsound.flaw?_eq
  · cases hsome.symm.trans hother.flaw?_eq
    exact hother

instance (cap : Nat) (n : TypeNode) : Decidable (n.Sound cap) := decidable_of_iff _ flaw?_eq_none_iff

instance (cap : Nat) (n : TypeNode) (flaw : TypeFlaw) : Decidable (n.HasFlaw cap flaw) :=
  decidable_of_iff _ flaw?_eq_some_iff

/-- An unknown primitive that is a type argument is unknown, and that is all. -/
example : HasFlaw 2 ⟨1, .argument, .primitive "no"⟩ (.unknownPrimitive "no") ∧
    ¬ HasFlaw 2 ⟨1, .argument, .primitive "no"⟩ (.primitiveArgument "no") := by
  decide +kernel

end TypeNode

/-! ### The walk -/

namespace ResolvedType

/-- The flaw that the result of a walk reports, if it does. -/
def reported? {α : Type} : Except TypeFlaw α → Option TypeFlaw
  | .ok _ => none
  | .error flaw => some flaw

/-- The root comes first. -/
theorem findSome?_nodesAt {α : Type} (f : TypeNode → Option α) (depth : Nat) (place : Place)
    {type : ResolvedType} {a : α} (h : f ⟨depth, place, type⟩ = some a) :
    (type.nodesAt depth place).findSome? f = some a := by
  cases type <;> simp only [nodesAt, List.findSome?_cons, h]

mutual

/-- The walk over a type reports the flaw of the first node that has one. -/
theorem spellAt_reported (cap depth : Nat) (place : Place) (type : ResolvedType) (d : Draft) :
    reported? (type.spellAt cap depth place d).1 =
      (type.nodesAt depth place).findSome? (TypeNode.flaw? cap) := by
  unfold spellAt
  split
  · next flaw hflaw => exact (findSome?_nodesAt (TypeNode.flaw? cap) depth place hflaw).symm
  · next hflaw =>
    have hroot : TypeNode.flaw? cap ⟨depth, place, type⟩ = none := hflaw
    cases type with
    | primitive word => simp only [nodesAt, List.findSome?_cons, hroot]; rfl
    | array component =>
      simp only [nodesAt, List.findSome?_cons, hroot]
      rw [← spellAt_reported cap (depth + 1) .component component d]
      split <;> next hc => simp only [hc, reported?]
    | reference name arguments =>
      simp only [nodesAt, List.findSome?_cons, hroot]
      rw [← spellArguments_reported cap (depth + 1) arguments (d.write name)]
      split <;> next hc => simp only [hc, reported?]
    | wildcard bound =>
      simp only [nodesAt, List.findSome?_cons, hroot]
      rw [← spellAt_reported cap (depth + 1) .bound bound d]
      split <;> next hc => simp only [hc, reported?]
    | typeVariable name => simp only [nodesAt, List.findSome?_cons, hroot]; rfl
    | raw text => simp only [nodesAt, List.findSome?_cons, hroot]; rfl

theorem spellArguments_reported (cap depth : Nat) (types : List ResolvedType) (d : Draft) :
    reported? (spellArguments cap depth types d).1 =
      (nodesIn depth types).findSome? (TypeNode.flaw? cap) := by
  unfold spellArguments
  cases types with
  | nil => rfl
  | cons first rest =>
    rw [nodesIn, List.findSome?_append, ← spellAt_reported cap depth .argument first d]
    simp only
    split
    · next hfirst => rw [hfirst]; rfl
    · next d' hfirst =>
      rw [hfirst, ← spellArguments_reported cap depth rest d']
      split <;> next hrest => simp only [hrest, reported?, Option.none_or]

end

/-- **A type can be written exactly if all its nodes are sound.** Else what is reported is the flaw
of the first node, from left to right, that is not. The scope has no part in either. -/
theorem spell_firstFlaw (cap : Nat) (type : ResolvedType) (d : Draft) :
    ((∃ e, (type.spell cap d).1 = .ok e) ↔ ∀ n ∈ type.nodes, n.Sound cap) ∧
      ∀ flaw, (type.spell cap d).1 = .error flaw ↔
        ∃ before n after, type.nodes = before ++ n :: after ∧ (∀ m ∈ before, m.Sound cap) ∧
          n.HasFlaw cap flaw := by
  have hwalk : reported? (type.spell cap d).1 = type.nodes.findSome? (TypeNode.flaw? cap) :=
    spellAt_reported cap 0 .whole type d
  constructor
  · have hok : (∃ e, (type.spell cap d).1 = .ok e) ↔ reported? (type.spell cap d).1 = none := by
      cases (type.spell cap d).1 <;> simp [reported?]
    simp only [hok, hwalk, List.findSome?_eq_none_iff, TypeNode.flaw?_eq_none_iff]
  · intro flaw
    have herror : (type.spell cap d).1 = .error flaw ↔
        reported? (type.spell cap d).1 = some flaw := by
      cases (type.spell cap d).1 <;> simp [reported?]
    rw [herror, hwalk, List.findSome?_eq_some_iff]
    simp only [TypeNode.flaw?_eq_none_iff, TypeNode.flaw?_eq_some_iff, and_comm]

end ResolvedType

end SpellOut
