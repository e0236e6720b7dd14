import Quadrotor.Decimal.Shortest
/-!
# Writing a double in decimal

A `Notation` holds the decisions of one way of writing doubles: at which decimal positions the
digits are written out in full rather than with an exponent, whether an integral value keeps a
`.0`, how a tie between two shortest digit strings is settled, and the texts of NaN and of
infinity. `Notation.render` writes any double with it, always with the shortest digits that read
back (`Binary.shortest`).

A finite nonzero value with digits `d₁ d₂ … dₙ` and decimal position `k`
(`10 ^ (k - 1) ≤ |x| < 10 ^ k`) is written as

* `d₁ … dₖ . dₖ₊₁ … dₙ` when `0 < k < n`,
* `d₁ … dₙ 0 … 0` (and `.0` if the notation says so) when `n ≤ k`,
* `0 . 0 … 0 d₁ … dₙ` with `-k` zeros after the point when `k ≤ 0`,

if the position is written in full, and as `d₁ . d₂ … dₙ e (k - 1)` otherwise, a positive
exponent with a plus sign if the notation says so.
-/

namespace Quadrotor

/-- The decisions of one way of writing doubles in decimal. -/
structure Notation where
  /-- The decimal positions `k` (`10 ^ (k - 1) ≤ |x| < 10 ^ k`) written without an exponent. -/
  positional : Int → Bool
  /-- An integral value written without an exponent ends in `.0`. -/
  pointZero : Bool
  /-- A positive exponent is written with a plus sign, as `1e+20`. -/
  exponentPlus : Bool
  /-- How a tie between the two nearest shortest digit strings is settled. -/
  tie : Tie
  /-- The text of a NaN, whatever its sign. -/
  nanText : String
  /-- The text of positive infinity; negative infinity has a minus sign before it. -/
  infinityText : String

namespace Notation

/-- `n` zero digits. -/
def zeros (n : Nat) : List Char := List.replicate n '0'

/-- The digits of a decimal with decimal position `k`, written without an exponent. -/
def positionalDigits (fmt : Notation) (ds : List Char) (k : Int) : List Char :=
  if k ≤ 0 then '0' :: '.' :: zeros k.natAbs ++ ds
  else if ds.length ≤ k.toNat then
    ds ++ zeros (k.toNat - ds.length) ++ (if fmt.pointZero then ['.', '0'] else [])
  else ds.take k.toNat ++ '.' :: ds.drop k.toNat

/-- The digits of a decimal with decimal position `k`, written with an exponent `k - 1`. -/
def exponentDigits (fmt : Notation) (ds : List Char) (k : Int) : List Char :=
  let mantissa := match ds with
    | [] => []
    | [d] => [d]
    | d :: rest => d :: '.' :: rest
  let sign := if fmt.exponentPlus && 0 < k - 1 then ['+'] else []
  mantissa ++ 'e' :: sign ++ (toString (k - 1)).toList

/-- The text of a nonzero finite magnitude. -/
def magnitude (fmt : Notation) (b : Binary) : List Char :=
  let d := b.shortest fmt.tie
  let ds := Nat.toDigits 10 d.digits
  let k := d.exponent + ds.length
  if fmt.positional k then fmt.positionalDigits ds k else fmt.exponentDigits ds k

/-- Writes a double: NaN and infinities by their texts, all others, zero included, by their
shortest digits with the sign. -/
def render (fmt : Notation) (x : Float) : String :=
  let sign := if x.toBits.toNat ≥ Nat.pow 2 63 then "-" else ""
  if x.isNaN then fmt.nanText
  else if x.isInf then sign ++ fmt.infinityText
  else match Binary.ofBits x.toBits with
    | none =>
      -- zero has the one digit `0` at decimal position `1`
      sign ++ String.ofList
        (if fmt.positional 1 then fmt.positionalDigits ['0'] 1 else fmt.exponentDigits ['0'] 1)
    | some b => sign ++ String.ofList (fmt.magnitude b)

end Notation

end Quadrotor
