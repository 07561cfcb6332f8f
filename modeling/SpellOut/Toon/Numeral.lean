import SpellOut.Toon.Binary

/-! Numbers as they are written: an optional minus sign, digits without a leading zero, and
optionally a fraction and an exponent. A fraction may have no digits after its point. -/
namespace SpellOut.Toon

/-- The number `digits · 10 ^ exponent`, or its negative. -/
structure Numeral where
  negative : Bool
  digits : Nat
  exponent : Int
  /-- Whether it is written with neither a point nor an exponent. -/
  plain : Bool
deriving DecidableEq

namespace Numeral

/-- The value of a run of digits. -/
def value (digits : List Char) : Nat := digits.foldl (fun n c => 10 * n + (c.toNat - '0'.toNat)) 0

/-! ### Reading -/

/-- The digits of the fraction, if there is a point, and what follows. -/
def fraction : List Char → Option (List Char) × List Char
  | '.' :: rest => (some (rest.takeWhile Char.isDigit), rest.dropWhile Char.isDigit)
  | rest => (none, rest)

/-- The exponent that is all the rest of the number. -/
def exponent? : List Char → Option Int
  | mark :: rest =>
    if mark = 'e' ∨ mark = 'E' then
      let (sign, digits) : Int × List Char := match rest with
        | '-' :: digits => (-1, digits)
        | '+' :: digits => (1, digits)
        | digits => (1, digits)
      if !digits.isEmpty && digits.all Char.isDigit then some (sign * value digits) else none
    else none
  | [] => none

/-- Reads a number without its sign. Digits before the point are left out only in a negative one. -/
def ofMagnitude? (negative : Bool) (chars : List Char) : Option Numeral :=
  let whole := chars.takeWhile Char.isDigit
  let (fraction, rest) := fraction (chars.dropWhile Char.isDigit)
  let places := fraction.getD []
  if (whole.head? = some '0' && whole.length != 1) || (whole ++ places).isEmpty
      || (whole.isEmpty && !negative) then none
  else if rest.isEmpty then
    some ⟨negative, value (whole ++ places), -places.length, fraction.isNone⟩
  else (exponent? rest).map fun exponent =>
    ⟨negative, value (whole ++ places), exponent - places.length, false⟩

/-- The number that these characters are, if they are one. -/
def ofChars? : List Char → Option Numeral
  | '-' :: rest => ofMagnitude? true rest
  | chars => ofMagnitude? false chars

/-! ### Values -/

/-- The whole number that a plain one is. -/
def toInt (n : Numeral) : Int := if n.negative then -n.digits else n.digits

/-- The nearest number in binary, unless the number is beyond all of them. No power of ten is
computed that is far beyond the digits it goes with: 400 more decimal places than the number has
binary digits make it vanish, and an exponent of 400 is beyond all numbers already. -/
def nearest? (n : Numeral) : Option Binary :=
  if n.digits = 0 then some ⟨n.negative, 0⟩
  else match n.exponent with
    | .ofNat up => Binary.nearest? n.negative (n.digits * Nat.pow 10 (min up 400)) 1
    | .negSucc down =>
      Binary.nearest? n.negative n.digits (Nat.pow 10 (min (down + 1) (n.digits.log2 + 400)))

end Numeral

end SpellOut.Toon
