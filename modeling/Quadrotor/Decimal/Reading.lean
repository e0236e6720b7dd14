import Quadrotor.Decimal.Shortest
/-!
# Reading a decimal as a double

A number in a document is read as a decimal `digits · 10 ^ exponent` whose digits fit in 64 bits
(the reader drops the digits past that). The rule rounds twice: first the digits to the nearest
double, then the product with, or quotient by, the nearest double of `10 ^ |exponent|`. A quotient
by a power beyond `10 ^ 308` is taken in steps of `10 ^ 308`, and stops early once it reaches
zero; a product that overflows has no value.

This is not always the nearest double to the decimal (`0.000016` reads as the double after
`1.6e-5`), so it is stated as its own rule rather than as correct rounding.
-/

namespace Quadrotor

namespace Decimal

/-- The nearest double to `10 ^ k`. -/
def tenPow (k : Nat) : Float := Float.ofScientific 1 false k

/-- Divides by `10 ^ k`, a step of `10 ^ 308` at a time while more is left, and keeps a zero. -/
def scaleDown (x : Float) (k : Nat) : Float :=
  if h : k ≤ 308 then x / tenPow k
  else if x == 0 then x
  else scaleDown (x / tenPow 308) (k - 308)
termination_by k
decreasing_by omega

/-- The double that a document's decimal reads as, or `none` when the product overflows. -/
def toFloat? (d : Decimal) : Option Float :=
  let x := Float.ofNat d.digits
  if d.exponent < 0 then some (scaleDown x (-d.exponent).toNat)
  else if d.exponent.toNat ≤ 308 then
    let y := x * tenPow d.exponent.toNat
    if y.isInf then none else some y
  else if x == 0 then some x
  else none

end Decimal

end Quadrotor
