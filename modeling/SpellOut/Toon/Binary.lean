/-! Numbers in binary, as documents hold those that are written with a point or an exponent. Such a
number has at most 53 binary digits and is a multiple of 2⁻¹⁰⁷⁴, so it is kept as a count of that
unit, and an exact fraction is rounded to the nearest of them. -/
namespace SpellOut.Toon

/-- The whole number nearest to a fraction, the even one of two that are equally near. -/
def nearestWhole (num den : Nat) : Nat :=
  let whole := num / den
  let rest := num % den
  if 2 * rest < den ∨ 2 * rest = den ∧ whole % 2 = 0 then whole else whole + 1

/-- The number `units · 2⁻¹⁰⁷⁴`, or its negative. -/
structure Binary where
  negative : Bool
  units : Nat
deriving DecidableEq

namespace Binary

/-- How many units make one. -/
def one : Nat := Nat.pow 2 1074

/-- The magnitude from which on there are no numbers, in units. -/
def limit : Nat := Nat.pow 2 1024 * one

/-- The distance between two neighbours at a number of units: numbers of more than 53 binary digits
have to end in zeros. -/
def spacing (units : Nat) : Nat := Nat.pow 2 (units.log2 - 52)

/-- The number nearest to a fraction, unless that is beyond all of them. -/
def nearest? (negative : Bool) (num den : Nat) : Option Binary :=
  let step := spacing (num * one / den)
  let units := nearestWhole (num * one) (den * step) * step
  if units < limit then some ⟨negative, units⟩ else none

/-- The whole number that this is, if it is one. -/
def whole? (x : Binary) : Option Int :=
  if x.units % one = 0 then
    some (if x.negative then -(x.units / one : Nat) else (x.units / one : Nat))
  else none

end Binary

end SpellOut.Toon
