import Mathlib.Data.List.TakeWhile
import SpellOut.Proofs.Decimal
import SpellOut.Proofs.Trim
import SpellOut.Toon.Document

/-! Documents of one field, with a whole number.

The line of such a field is its key, a colon, a space and the number in base ten. What is read from
a line like that is the key with the value that is given to the number as a whole number
(`Toon.Document.ofText?_decimal`): the number itself, or a text with its digits if it is too great.
The key has to be one that is written without quotes (`Toon.IsKey`). -/
namespace SpellOut.Toon

/-! ### Digits -/

section Digits

variable {c : Char}

theorem isBlank_of_isDigit (h : c.isDigit) : CharClass.isBlank c = false :=
  Bool.not_eq_true' _ |>.mp (of_isDigit (p := fun c => !CharClass.isBlank c) (by decide) h)

theorem endsWord_of_isDigit (h : c.isDigit) : endsWord c = false :=
  Bool.not_eq_true' _ |>.mp (of_isDigit (p := fun c => !endsWord c) (by decide) h)

theorem endsLine_of_isDigit (h : c.isDigit) : endsLine c = false :=
  Bool.not_eq_true' _ |>.mp (of_isDigit (p := fun c => !endsLine c) (by decide) h)

theorem inNumber_of_isDigit (h : c.isDigit) : inNumber c = true := by simp [inNumber, h]

end Digits

/-! ### Numbers in base ten -/

section Decimals

variable {chars : List Char}

theorem tight_of_decimal (h : Decimal chars) : CharClass.Tight chars :=
  .of_forall h.nonempty fun c hc => isBlank_of_isDigit (h.digit c hc)

namespace Numeral

theorem value_eq (digits : List Char) : value digits = Nat.ofDigitChars 10 digits 0 :=
  Nat.ofDigitChars_eq_foldl.symm

theorem ofChars?_of_ne {first : Char} {rest : List Char} (hsign : first ≠ '-') :
    ofChars? (first :: rest) = ofMagnitude? false (first :: rest) := by
  unfold ofChars?
  split
  · next heq => exact absurd (List.cons.inj heq).1 hsign
  · rfl

/-- What begins with neither a digit nor a minus sign is no number. -/
theorem ofChars?_eq_none {first : Char} {rest : List Char} (hsign : first ≠ '-')
    (hdigit : first.isDigit = false) : ofChars? (first :: rest) = none := by
  rw [ofChars?_of_ne hsign]
  simp [ofMagnitude?, hdigit]

theorem ofChars?_decimal (h : Decimal chars) :
    ofChars? chars = some ⟨false, value chars, 0, true⟩ := by
  obtain ⟨first, rest, rfl, hfirst⟩ := h.exists_cons
  have htake : (first :: rest).takeWhile Char.isDigit = first :: rest :=
    List.takeWhile_eq_self_iff.mpr h.digit
  have hdrop : (first :: rest).dropWhile Char.isDigit = [] := List.dropWhile_eq_nil_iff.mpr h.digit
  have hlead : ¬((first :: rest).head? = some '0' ∧ (first :: rest).length ≠ 1) :=
    fun ⟨hzero, hlength⟩ => hlength (h.lead hzero)
  rw [ofChars?_of_ne (ne_of_isDigit hfirst rfl)]
  simpa [ofMagnitude?, fraction, htake, hdrop] using hlead

end Numeral

namespace Value

/-- A number is the value that it has as a whole number. -/
theorem ofPlain?_decimal (h : Decimal chars) :
    ofPlain? chars = some (ofWhole (Numeral.value chars)) := by
  obtain ⟨first, rest, hchars, hfirst⟩ := h.exists_cons
  -- the words that are no texts begin with letters
  have hword : ∀ word : String, (word.toList.head?.any Char.isDigit) = false →
      String.ofList chars ≠ word := by
    rintro word hword rfl
    simp [hchars, hfirst] at hword
  rw [ofPlain?, (tight_of_decimal h).trimEnd_eq, Numeral.ofChars?_decimal h]
  simp only [hword "null" rfl, hword "true" rfl, hword "false" rfl, if_false, if_true,
    Numeral.toInt, Bool.false_eq_true]

/-- Digits up to the end of a line are a number. -/
theorem ofLine?_decimal (h : Decimal chars) :
    ofLine? chars = some (ofWhole (Numeral.value chars)) := by
  obtain ⟨first, rest, hchars, hfirst⟩ := h.exists_cons
  have hsplit : splitWord endsLine chars = (chars, []) := by
    have hgoesOn : ∀ c ∈ chars, inNumber c = true :=
      fun c hc => inNumber_of_isDigit (h.digit c hc)
    have hhead : (chars.head?.any fun c => c.isDigit || c = '-') = true := by simp [hchars, hfirst]
    simp only [splitWord, hhead, if_true, List.takeWhile_eq_self_iff.mpr hgoesOn,
      List.dropWhile_eq_nil_iff.mpr hgoesOn]
  have hbegins : beginsWord endsLine chars = true := by
    have hsign : first ≠ '-' := ne_of_isDigit hfirst rfl
    simp [hchars, beginsWord, endsWord_of_isDigit hfirst, endsLine_of_isDigit hfirst, hsign]
  simp [ofLine?, hsplit, hbegins, ofWord?, ofPlain?_decimal h]

end Value

end Decimals

/-! ### The value of a whole number -/

namespace Value

variable {n : Nat}

theorem ofWhole_of_lt (h : n < Nat.pow 2 63) : ofWhole n = .whole n := by
  have hlimit : wholeLimit = (Nat.pow 2 63 : Int) := rfl
  exact if_pos (by omega)

theorem ofWhole_of_le (h : Nat.pow 2 63 ≤ n) : ofWhole n = .text (toString n) := by
  have hlimit : wholeLimit = (Nat.pow 2 63 : Int) := rfl
  exact if_neg (by omega)

end Value

/-! ### The line of a field -/

/-- Whether a character can stand in a key that is written without quotes. -/
def inKey (c : Char) : Bool :=
  !endsWord c && c != '"' && c != '-' && !c.isDigit && !CharClass.isBlank c

theorem inKey_iff {c : Char} :
    inKey c = true ↔ endsWord c = false ∧ c ≠ '"' ∧ c ≠ '-' ∧ c.isDigit = false ∧
      CharClass.isBlank c = false := by
  simp [inKey, and_assoc]

/-- A key that is read as it is written, without quotes around it. -/
structure IsKey (key : String) : Prop where
  nonempty : key ≠ ""
  plain : ∀ c ∈ key.toList, inKey c = true
  noValue : key ≠ "null" ∧ key ≠ "true" ∧ key ≠ "false"

namespace IsKey

variable {key : String}

theorem exists_cons (h : IsKey key) :
    ∃ first word, key.toList = first :: word ∧ inKey first = true := by
  have hnonempty : key.toList ≠ [] := fun hnil => h.nonempty (String.toList_eq_nil_iff.mp hnil)
  obtain ⟨first, word, hkey⟩ := List.exists_cons_of_ne_nil hnonempty
  exact ⟨first, word, hkey, h.plain first (by simp [hkey])⟩

theorem tight (h : IsKey key) : CharClass.Tight key.toList := by
  obtain ⟨first, word, hkey, -⟩ := h.exists_cons
  refine .of_forall (by simp [hkey]) fun c hc => ?_
  obtain ⟨-, -, -, -, hblank⟩ := inKey_iff.mp (h.plain c hc)
  exact hblank

/-- A key has no value but its own text. -/
theorem ofPlain? (h : IsKey key) : Value.ofPlain? key.toList = some (.text key) := by
  obtain ⟨first, word, hkey, hfirst⟩ := h.exists_cons
  obtain ⟨hnull, htrue, hfalse⟩ := h.noValue
  have hnumber : Numeral.ofChars? key.toList = none := by
    obtain ⟨-, -, hsign, hdigit, -⟩ := inKey_iff.mp hfirst
    rw [hkey, Numeral.ofChars?_eq_none hsign hdigit]
  rw [Value.ofPlain?, h.tight.trimEnd_eq, String.ofList_toList, hnumber]
  simp only [hnull, htrue, hfalse, if_false]

end IsKey

theorem endsLine_of_endsWord {c : Char} (h : endsWord c = false) : endsLine c = false := by
  simp_all [endsWord, endsLine]

namespace Line

variable {key : String} {chars rest : List Char}

/-- The word at the start of a line is its key, which ends at the colon. -/
theorem firstWord?_key (hkey : IsKey key) :
    firstWord? endsLine (key.toList ++ ':' :: rest) = some (.text key, ':' :: rest) := by
  obtain ⟨first, word, hchars, hfirst⟩ := hkey.exists_cons
  obtain ⟨hends, hquote, hsign, hdigit, -⟩ := inKey_iff.mp hfirst
  have hline : endsLine first = false := endsLine_of_endsWord hends
  have hbegins : beginsWord endsLine (key.toList ++ ':' :: rest) = true := by
    simp [hchars, beginsWord, hends, hline, hsign]
  have hgoesOn : ∀ c ∈ key.toList, (!endsWord c && !endsLine c) = true := by
    intro c hc
    obtain ⟨hc, -⟩ := inKey_iff.mp (hkey.plain c hc)
    simp [hc, endsLine_of_endsWord hc]
  have hsplit : splitWord endsLine (key.toList ++ ':' :: rest) = (key.toList, ':' :: rest) := by
    have hhead : ((key.toList ++ ':' :: rest).head?.any fun c => c.isDigit || c = '-') = false := by
      simp [hchars, hdigit, hsign]
    simp only [splitWord, hhead, Bool.false_eq_true, if_false,
      List.takeWhile_append_of_pos hgoesOn, List.dropWhile_append_of_pos hgoesOn]
    simp [endsWord]
  have hword : Value.ofWord? endsLine key.toList (':' :: rest) = some (.text key) := by
    simp [Value.ofWord?, endsWord, hkey.ofPlain?]
  unfold firstWord?
  split
  · next heq =>
    rw [hchars] at heq
    exact absurd (List.cons.inj heq).1 hquote
  · simp [hbegins, hsplit, hword]

/-- What begins with a key and a colon is a field. -/
theorem content?_key (hkey : IsKey key) :
    content? (key.toList ++ ':' :: rest) =
      (valueAfter? rest).map fun (v, rest) => (.field ⟨key, false⟩ v, rest) := by
  obtain ⟨first, word, hchars, hfirst⟩ := hkey.exists_cons
  obtain ⟨hword, -⟩ := inKey_iff.mp hfirst
  have hends : ends endsLine (key.toList ++ ':' :: rest) = false := by
    simp [hchars, ends, endsLine_of_endsWord hword]
  have hlist : first ≠ '[' := by
    rintro rfl
    cases hword
  unfold content?
  rw [hends]
  simp only [Bool.false_eq_true, if_false]
  split
  · next heq =>
    rw [hchars] at heq
    exact absurd (List.cons.inj heq).1 hlist
  · rw [firstWord?_key hkey]
    simp [afterText?, isSpace]

/-- The value after the colon is the number in base ten that stands there. -/
theorem valueAfter?_decimal (h : Decimal chars) :
    valueAfter? (' ' :: chars) = some (some (Value.ofWhole (Numeral.value chars)), []) := by
  obtain ⟨first, rest, hchars, hfirst⟩ := h.exists_cons
  have hspace : (' ' :: chars).dropWhile isSpace = chars := by
    have hfirstSpace : first ≠ ' ' := ne_of_isDigit hfirst rfl
    simp [hchars, isSpace, hfirstSpace]
  have hsplit : split chars = (chars, []) := by
    have hgoesOn : ∀ c ∈ chars, (!endsLine c) = true := fun c hc => by
      simp [endsLine_of_isDigit (h.digit c hc)]
    rw [split, List.takeWhile_eq_self_iff.mpr hgoesOn, List.dropWhile_eq_nil_iff.mpr hgoesOn]
  unfold valueAfter?
  rw [hspace]
  split
  · -- no digit is the quote of a text or the bracket of a list
    exact absurd (List.cons.inj hchars).1.symm (ne_of_isDigit hfirst rfl)
  · exact absurd (List.cons.inj hchars).1.symm (ne_of_isDigit hfirst rfl)
  · simp [hsplit, Value.ofLine?_decimal h, h.nonempty]

/-- The last line of a text. -/
theorem from?_last {steps indent : Nat} {content : Content}
    (h : content? chars = some (content, [])) :
    from? (steps + 1) indent chars = some [⟨indent, content⟩] := by
  unfold from?
  simp [h]

/-- A key, a colon, a space and a decimal are one line with a field. -/
theorem ofText?_decimal (hkey : IsKey key) (h : Decimal chars) :
    ofText? (key ++ ": " ++ String.ofList chars) =
      some [⟨0, .field ⟨key, false⟩ (some (Value.ofWhole (Numeral.value chars)))⟩] := by
  obtain ⟨first, word, hchars, hfirst⟩ := hkey.exists_cons
  have htext : (key ++ ": " ++ String.ofList chars).toList = key.toList ++ ':' :: ' ' :: chars := by
    simp
  have hindent : indent? (key.toList ++ ':' :: ' ' :: chars) =
      some (0, key.toList ++ ':' :: ' ' :: chars) := by
    obtain ⟨hword, -, -, -, hblank⟩ := inKey_iff.mp hfirst
    have hspace : isSpace first = false := by simp_all [endsWord, isSpace]
    have htab : first ≠ '\t' := by
      rintro rfl
      cases hblank
    simp [indent?, hchars, hspace, htab]
  have hcontent : content? (key.toList ++ ':' :: ' ' :: chars) =
      some (.field ⟨key, false⟩ (some (Value.ofWhole (Numeral.value chars))), []) := by
    rw [content?_key hkey, valueAfter?_decimal h]
    rfl
  simp only [ofText?, htext, hindent, Option.bind_some, from?_last hcontent]

end Line

namespace Document

theorem ofLines?_field (key : String) (value : Value) :
    ofLines? [⟨0, .field ⟨key, false⟩ (some value)⟩] = some [(key, value)] := rfl

theorem text_whole (key : String) (n : Nat) :
    text [(key, .whole n)] = key ++ ": " ++ toString n := by
  have hdigits : toString (n : Int) = toString n := rfl
  simp only [text, line, List.map_cons, List.map_nil, String.intercalate_singleton, hdigits]

/-- **A field with a decimal is read** with the value that its number is given. -/
theorem ofText?_decimal {key : String} {digits : List Char} (hkey : IsKey key)
    (h : Decimal digits) :
    ofText? (key ++ ": " ++ String.ofList digits) =
      some [(key, Value.ofWhole (Nat.ofDigitChars 10 digits 0))] := by
  rw [ofText?, Line.ofText?_decimal hkey h, Option.bind_some, ofLines?_field, Numeral.value_eq]

end Document

end SpellOut.Toon
