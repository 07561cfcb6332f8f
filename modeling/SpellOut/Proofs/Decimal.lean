import Mathlib.Data.List.Basic

/-! Numbers in base ten.

A decimal is a run of digits without a leading zero. The digits that a number is printed with are
one (`decimal_toDigits`), and their value is the number again. -/
namespace SpellOut

/-! ### Digits -/

section Digits

variable {c : Char}

/-- What holds of the ten digits holds of every character that is a digit. -/
theorem of_isDigit {p : Char → Bool} (hall : ∀ k : Fin 10, p (Char.ofNat (48 + k)) = true)
    (h : c.isDigit) : p c = true := by
  obtain ⟨hleast, hgreatest⟩ : 48 ≤ c.toNat ∧ c.toNat ≤ 57 := by
    simpa [Char.isDigit, UInt32.le_iff_toNat_le] using h
  have hc := hall ⟨c.toNat - 48, by omega⟩
  rwa [Nat.add_sub_cancel' hleast, Char.ofNat_toNat] at hc

theorem ne_of_isDigit {other : Char} (h : c.isDigit) (hother : other.isDigit = false) :
    c ≠ other := by
  rintro rfl
  cases h.symm.trans hother

end Digits

/-! ### Decimals -/

/-- Characters that a number is written with, if it has neither a sign nor a point nor an exponent:
digits, and a zero at the start only if there is nothing else. -/
structure Decimal (chars : List Char) : Prop where
  nonempty : chars ≠ []
  digit : ∀ c ∈ chars, c.isDigit
  lead : chars.head? = some '0' → chars.length = 1

theorem Decimal.exists_cons {chars : List Char} (h : Decimal chars) :
    ∃ first rest, chars = first :: rest ∧ first.isDigit := by
  obtain ⟨first, rest, rfl⟩ := List.exists_cons_of_ne_nil h.nonempty
  exact ⟨first, rest, rfl, h.digit first List.mem_cons_self⟩

theorem head?_toDigits_ne_zero {n : Nat} (h : 0 < n) : (Nat.toDigits 10 n).head? ≠ some '0' := by
  induction n using Nat.strongRecOn with
  | ind n ih =>
    by_cases hlt : n < 10
    · rw [Nat.toDigits_of_lt_base hlt, List.head?_cons, Ne, Option.some_inj, Nat.digitChar_eq_zero]
      omega
    · -- the digits of a tenth of the number come first
      rw [Nat.toDigits_of_base_le (by omega) (by omega),
        List.head?_append_of_ne_nil _ Nat.toDigits_ne_nil]
      exact ih (n / 10) (by omega) (by omega)

theorem decimal_toDigits (n : Nat) : Decimal (Nat.toDigits 10 n) where
  nonempty := Nat.toDigits_ne_nil
  digit := fun _ hc => Nat.isDigit_of_mem_toDigits (by omega) (Nat.le_refl 10) hc
  lead := by
    intro hzero
    cases n with
    | zero => rfl
    | succ n => exact absurd hzero (head?_toDigits_ne_zero n.succ_pos)

/-- **Every number is printed as a decimal, with the number as its value.** -/
theorem exists_decimal (n : Nat) :
    ∃ digits, Decimal digits ∧ toString n = String.ofList digits ∧
      Nat.ofDigitChars 10 digits 0 = n :=
  ⟨Nat.toDigits 10 n, decimal_toDigits n, Nat.toString_eq_ofList_toDigits,
    Nat.ofDigitChars_ten_toDigits⟩

end SpellOut
