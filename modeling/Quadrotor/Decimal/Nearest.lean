import Quadrotor.Decimal.Shortest
/-!
# The nearest double to a rational number

`Binary.nearest n d` is the double nearest to `n / d`, a tie going to the even mantissa, with
values past the largest double becoming infinity and values below half the least subnormal
becoming zero. It is computed on naturals: the quotient is scaled so that it has 53 bits (fewer
in the subnormal range), its remainder decides the rounding, and the bit pattern is assembled
directly.

`Decimal.toNearest` reads a decimal this way, and `Decimal.parseReal?` reads the usual text of a
floating-point number: an optional sign, then digits with an optional point and an optional
exponent, or `inf`, `infinity` or `nan` in any case.
-/

namespace Quadrotor

namespace Binary

/-- The exponent `e` with `2 ^ 52 ≤ n / d / 2 ^ e < 2 ^ 53`, not below `-1074`. -/
def scaleOf (n d : Nat) : Int :=
  let guess : Int := (Nat.log2 n : Int) - Nat.log2 d - 52
  -- `n / d` lies in `[2 ^ (guess + 51), 2 ^ (guess + 53))`; step down if the quotient is short
  let e :=
    if n * Nat.pow 2 (-(guess + 52)).toNat < d * Nat.pow 2 (guess + 52).toNat then guess - 1
    else guess
  max e (-1074)

/-- The double nearest to `n / d` for positive `d`, ties to even. -/
def nearest (n d : Nat) : Float :=
  if n = 0 then 0.0
  else
    let e := scaleOf n d
    let num := n * Nat.pow 2 (-e).toNat
    let den := d * Nat.pow 2 e.toNat
    let q := num / den
    let r := num % den
    let up := 2 * r > den || (2 * r == den && q % 2 == 1)
    let q := if up then q + 1 else q
    let (q, e) := if q = Nat.pow 2 53 then (Nat.pow 2 52, e + 1) else (q, e)
    if q < Nat.pow 2 52 then Float.ofBits q.toUInt64
    else if 1023 < e + 52 then Float.ofBits 0x7FF0000000000000
    else Float.ofBits ((e + 1075).toNat * Nat.pow 2 52 + (q - Nat.pow 2 52)).toUInt64

end Binary

namespace Decimal

/-- The number of decimal digits of a natural number, `1` for zero. -/
def digitCount (n : Nat) : Nat := (Nat.toDigits 10 n).length

/-- The double nearest to the decimal. A decimal whose leading digit stands past `10 ^ 310` is
beyond every double and one below `10 ^ -330` is nearer to zero than to any double, so neither
needs its power of ten computed. -/
def toNearest (d : Decimal) : Float :=
  let top := d.exponent + digitCount d.digits
  if d.digits = 0 then 0.0
  else if 310 < top then Float.ofBits 0x7FF0000000000000
  else if top < -330 then 0.0
  else if 0 ≤ d.exponent then Binary.nearest (d.digits * Nat.pow 10 d.exponent.toNat) 1
  else Binary.nearest d.digits (Nat.pow 10 (-d.exponent).toNat)

/-- The digits of a number text: the digits before the point, those after it, and the rest. -/
def splitDigits (cs : List Char) : List Char × List Char × List Char :=
  let whole := cs.takeWhile Char.isDigit
  let rest := cs.drop whole.length
  match rest with
  | '.' :: r =>
    let frac := r.takeWhile Char.isDigit
    (whole, frac, r.drop frac.length)
  | _ => (whole, [], rest)

/-- The value of a list of decimal digits. -/
def digitsValue (ds : List Char) : Nat := ds.foldl (fun n c => n * 10 + (c.toNat - '0'.toNat)) 0

/-- An exponent part, `e` or `E` with an optional sign and at least one digit, and nothing
after it; no exponent part is exponent zero. -/
def exponentOf? : List Char → Option Int
  | [] => some 0
  | e :: rest =>
    if e = 'e' ∨ e = 'E' then
      let (negative, ds) := match rest with
        | '+' :: r => (false, r)
        | '-' :: r => (true, r)
        | r => (false, r)
      if ds.isEmpty ∨ !ds.all Char.isDigit then none
      else
        let v : Int := digitsValue ds
        some (if negative then -v else v)
    else none

/-- The magnitude that an unsigned number text spells: `inf`, `infinity` and `nan` in any case,
or digits with an optional point and exponent, with at least one digit before the exponent. -/
def magnitudeOf? (cs : List Char) : Option Float :=
  let lower := String.ofList (cs.map Char.toLower)
  if lower = "inf" ∨ lower = "infinity" then some (1.0 / 0.0)
  else if lower = "nan" then some (0.0 / 0.0)
  else
    let (whole, frac, rest) := splitDigits cs
    if whole.isEmpty ∧ frac.isEmpty then none
    else (exponentOf? rest).map fun e =>
      toNearest ⟨digitsValue (whole ++ frac), e - frac.length⟩

/-- The double that a floating-point text spells, rounded to nearest. -/
def parseReal? (s : String) : Option Float :=
  match s.toList with
  | '-' :: rest => (magnitudeOf? rest).map fun x => -x
  | '+' :: rest => magnitudeOf? rest
  | cs => magnitudeOf? cs

end Decimal

end Quadrotor
