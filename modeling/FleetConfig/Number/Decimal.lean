/-!
# Decimal numbers

A number in decimal notation is a mantissa and a power of ten. A double holds only numbers up to a
bound; those from the bound on round to infinity.

## Main definitions

* `Number.Decimal` — a mantissa and an exponent.
* `Number.Decimal.isFinite` — decides whether a number rounds to a finite double.
-/

namespace FleetConfig.Number

/-- The number `mantissa * 10 ^ exponent`. -/
structure Decimal where
  mantissa : Nat
  exponent : Int
deriving DecidableEq

/-- The least number that rounds to infinity: half a unit in the last place above the largest
double. -/
def infinityBound : Nat := Nat.pow 2 1024 - Nat.pow 2 970

/-- Decides whether a number rounds to a finite double. The number of digits settles all but the
numbers near the bound. -/
def Decimal.isFinite (d : Decimal) : Bool :=
  let magnitude := ((toString d.mantissa).length : Int) + d.exponent
  if d.mantissa = 0 || magnitude < 300 then true
  else if 320 < magnitude then false
  else if 0 ≤ d.exponent then d.mantissa * Nat.pow 10 d.exponent.toNat < infinityBound
  else d.mantissa < infinityBound * Nat.pow 10 (-d.exponent).toNat

end FleetConfig.Number
