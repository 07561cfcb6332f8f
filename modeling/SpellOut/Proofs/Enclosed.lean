import SpellOut.Proofs.RawType.Lexed
import SpellOut.Proofs.References
import SpellOut.Proofs.SpelledAs

/-! When a primitive type is written between angle brackets.

No primitive type may stand as a type argument or as the bound of a wildcard. One that is described
as such is refused there, and so is one within a type that is given as text. But a text that is all
of the argument or of the bound is only asked to be a type, and a primitive type is one. So a
primitive type is written in such a place exactly if a text that is nothing else stands there
(`primitive_not_enclosed_iff`). -/
namespace SpellOut

/-! ### Arguments and bounds -/

mutual

/-- The types that stand as a type argument or as the bound of a wildcard, at any depth. -/
def SpelledType.enclosed : SpelledType → List SpelledType
  | primitive _ => []
  | array component => component.enclosed
  | reference _ _ arguments => enclosedIn arguments
  | wildcard bound => bound :: bound.enclosed
  | typeVariable _ => []
  | raw _ => []

def SpelledType.enclosedIn : List SpelledType → List SpelledType
  | [] => []
  | first :: rest => first :: (first.enclosed ++ enclosedIn rest)

end

namespace ResolvedType

mutual

/-- The types that stand as a type argument or as the bound of a wildcard, at any depth. -/
def enclosed : ResolvedType → List ResolvedType
  | primitive _ => []
  | array component => component.enclosed
  | reference _ arguments => enclosedIn arguments
  | wildcard bound => bound :: bound.enclosed
  | typeVariable _ => []
  | raw _ => []

def enclosedIn : List ResolvedType → List ResolvedType
  | [] => []
  | first :: rest => first :: (first.enclosed ++ enclosedIn rest)

end

theorem forall_enclosedIn_cons {p : ResolvedType → Prop} {first : ResolvedType}
    {rest : List ResolvedType} :
    (∀ x ∈ enclosedIn (first :: rest), p x) ↔
      p first ∧ (∀ x ∈ first.enclosed, p x) ∧ ∀ x ∈ enclosedIn rest, p x := by
  rw [enclosedIn, List.forall_mem_cons, List.forall_mem_append]

/-- Whether the type is a text whose only token is a word for a primitive type. -/
def isBareRaw : ResolvedType → Bool
  | raw text => (RawType.Token.read? text).any RawType.isBarePrimitive
  | _ => false

end ResolvedType

/-! ### What is written in such a place -/

/-- A text is a bare primitive exactly if the word for one is left of it by trimming. -/
theorem RawType.isPrimitive_trimBlanks (text : String) :
    Word.isPrimitive (CharClass.trimBlanks text) = (Token.read? text).any isBarePrimitive := by
  cases hprimitive : Word.isPrimitive (CharClass.trimBlanks text) with
  | true =>
    have hlexed : Lexed (CharClass.trimBlanks text).toList [.word (CharClass.trimBlanks text)] :=
      .single (Word.isWord_of_isPrimitive hprimitive)
    rw [← Token.read?_trimBlanks, Token.read?_eq_some_iff.mpr hlexed, Option.any_some,
      isBarePrimitive, hprimitive]
  | false =>
    cases hread : Token.read? text with
    | none => rfl
    | some tokens =>
      rw [Option.any_some, eq_comm]
      unfold isBarePrimitive
      split
      · next word =>
        obtain ⟨before, after, htext, hbefore, hword, hafter⟩ :=
          (Token.read?_eq_some_iff.mp hread).exists_blanks_around rfl
        rw [CharClass.trimBlanks, htext, CharClass.trim_around hbefore hword hafter,
          String.ofList_toList] at hprimitive
        exact hprimitive
      · rfl

namespace ResolvedType

/-- Of what is written as an argument or a bound, only a text can be the word for a primitive type. -/
theorem SpelledAs.isPrimitive_text {cap depth : Nat} {place : Place} {type : ResolvedType}
    {e : SpelledType} (h : SpelledAs cap depth place type e)
    (hplace : place = .argument ∨ place = .bound) :
    Word.isPrimitive e.text = type.isBareRaw := by
  cases h with
  | primitive _ _ houtside => exact absurd hplace (by simp [houtside])
  | array _ _ =>
    exact RawType.Mark.isPrimitive_of_mem (m := .leftBracket)
      (by simp [SpelledType.text, RawType.Mark.char])
  | @reference _ _ name _ es _ hname s _ =>
    cases es with
    | nil =>
      obtain ⟨n, htext, hn⟩ := hname.exists_of_spell s
      rw [SpelledType.text, ← htext]
      exact hn.isPrimitive_text
    | cons first rest =>
      exact RawType.Mark.isPrimitive_of_mem (m := .less)
        (by simp [SpelledType.text, RawType.Mark.char])
  | wildcard _ _ =>
    exact RawType.Mark.isPrimitive_of_mem (m := .question)
      (by simp [SpelledType.text, RawType.Mark.char])
  | typeVariable _ hname => exact Word.isPrimitive_eq_false_of_isIdentifier hname
  | raw _ _ => exact RawType.isPrimitive_trimBlanks _

mutual

theorem SpelledAs.map_enclosed {cap depth : Nat} {place : Place} {type : ResolvedType}
    {e : SpelledType} (h : SpelledAs cap depth place type e) :
    e.enclosed.map (fun x => Word.isPrimitive x.text) = type.enclosed.map isBareRaw := by
  cases h with
  | primitive _ _ _ => rfl
  | array _ h => exact h.map_enclosed
  | reference _ _ _ h => exact h.map_enclosedIn
  | wildcard _ h =>
    rw [SpelledType.enclosed, enclosed, List.map_cons, List.map_cons, h.map_enclosed,
      h.isPrimitive_text (.inr rfl)]
  | typeVariable _ _ => rfl
  | raw _ _ => rfl

theorem AllSpelledAs.map_enclosedIn {cap depth : Nat} {types : List ResolvedType}
    {es : List SpelledType} (h : AllSpelledAs cap depth types es) :
    (SpelledType.enclosedIn es).map (fun x => Word.isPrimitive x.text) =
      (enclosedIn types).map isBareRaw := by
  cases h with
  | nil => rfl
  | cons h hrest =>
    simp only [SpelledType.enclosedIn, enclosedIn, List.map_cons, List.map_append, h.map_enclosed,
      hrest.map_enclosedIn, h.isPrimitive_text (.inl rfl)]

end

/-- **No primitive type is written as an argument or a bound, unless it is given there as a text.**
What a type is written as has a primitive type in such a place exactly if the type has a text there
whose only token is the word for one. -/
theorem primitive_not_enclosed_iff {cap : Nat} {type : ResolvedType} {d d' : Draft}
    {e : SpelledType} (h : type.spell cap d = (.ok e, d')) :
    (∀ x ∈ e.enclosed, Word.isPrimitive x.text = false) ↔
      ∀ x ∈ type.enclosed, x.isBareRaw = false := by
  have hmap := (spellAt_spelledAs h).map_enclosed
  calc (∀ x ∈ e.enclosed, Word.isPrimitive x.text = false)
      ↔ ∀ b ∈ e.enclosed.map fun x => Word.isPrimitive x.text, b = false := by
        rw [List.forall_mem_map]
    _ ↔ ∀ b ∈ type.enclosed.map isBareRaw, b = false := by rw [hmap]
    _ ↔ ∀ x ∈ type.enclosed, x.isBareRaw = false := by rw [List.forall_mem_map]

/-- A list of a type that is given as text. -/
def listOfRaw (text : String) : ResolvedType := reference (.ofText "java.util.List") [raw text]

/-- An array of a primitive type may be given as text. -/
theorem listOfRaw_array : ∃ e d,
    (listOfRaw " int [ ] ").spell 32 (.ofScope (.ofFile 1 none [])) = (.ok e, d) ∧
      e.text = "List<int [ ]>" ∧ ∀ x ∈ e.enclosed, Word.isPrimitive x.text = false := by
  have hrun : (listOfRaw " int [ ] ").spellsTo 32 (.ofFile 1 none [])
      (fun e _ => e.text == "List<int [ ]>") = true := by
    decide +kernel
  obtain ⟨e, d, h, htext⟩ := exists_of_spellsTo hrun
  have hbare : ∀ x ∈ (listOfRaw " int [ ] ").enclosed, x.isBareRaw = false := by
    decide +kernel
  exact ⟨e, d, h, beq_iff_eq.mp htext, (primitive_not_enclosed_iff h).mpr hbare⟩

/-- A primitive type that is given as text is written as an argument. -/
theorem listOfRaw_primitive : ∃ e d,
    (listOfRaw "int").spell 32 (.ofScope (.ofFile 1 none [])) = (.ok e, d) ∧
      e.text = "List<int>" ∧ ¬ ∀ x ∈ e.enclosed, Word.isPrimitive x.text = false := by
  have hrun : (listOfRaw "int").spellsTo 32 (.ofFile 1 none [])
      (fun e _ => e.text == "List<int>" && e.enclosed.any fun x => Word.isPrimitive x.text) =
      true := by
    decide +kernel
  obtain ⟨e, d, h, htest⟩ := exists_of_spellsTo hrun
  obtain ⟨htext, hany⟩ := Bool.and_eq_true_iff.mp htest
  obtain ⟨x, hx, hprimitive⟩ := List.any_eq_true.mp hany
  exact ⟨e, d, h, beq_iff_eq.mp htext, fun hnone => by simp [hnone x hx] at hprimitive⟩

end ResolvedType

end SpellOut
