/-!
# Shortest decimal digits of a double

A finite positive double is `m · 2 ^ q`. The reals that round to it form an interval around it:
half the gap to each neighbouring double, except that below a power-of-two mantissa at the start
of its binade the gap is half as wide. Its two ends belong to it iff `m` is even, since a tie
rounds to the even mantissa.

`Binary.shortest` tries the decimal grids of `1, 2, …, 17` significant digits in turn. On each it
looks at the two grid points around the value and stops at the first grid where one of them lies
in the interval; of two such points it keeps the nearer, and an exact tie is settled by a `Tie`.
If some grid point lies in the interval, so does one of the two around the value, so the first
hit gives the fewest digits that read back. Seventeen digits always suffice for a double.

## Main definitions

* `Binary.ofBits` — a double's bit pattern as `mantissa · 2 ^ exponent`;
* `Binary.point` — the decimal position `k` with `10 ^ (k - 1) ≤ value < 10 ^ k`;
* `Binary.pickOn` — the grid point that the value picks on one decimal grid, if any;
* `Binary.shortest` — the shortest nearest decimal.
-/

namespace Quadrotor

/-- How an exact tie between the two nearest candidates is settled. -/
inductive Tie where
  /-- The candidate whose last digit is even wins. -/
  | toEven
  /-- The larger candidate wins. -/
  | up
  deriving DecidableEq, Repr

/-- A finite positive double as `mantissa · 2 ^ exponent`, with the shape of its rounding
interval. -/
structure Binary where
  mantissa : Nat
  exponent : Int
  /-- The gap to the double below is half the gap to the double above. -/
  narrow : Bool
  deriving DecidableEq, Repr

/-- A decimal number `digits · 10 ^ exponent`. -/
structure Decimal where
  digits : Nat
  exponent : Int
  deriving DecidableEq, Repr

namespace Decimal

/-- Drops trailing zero digits into the exponent; the value is unchanged. -/
def trim (digits : Nat) (exponent : Int) : Decimal :=
  if h : digits ≠ 0 ∧ digits % 10 = 0 then trim (digits / 10) (exponent + 1)
  else ⟨digits, exponent⟩
termination_by digits
decreasing_by exact Nat.div_lt_self (Nat.pos_of_ne_zero h.1) (by decide)

end Decimal

namespace Binary

/-- The magnitude of a double's bit pattern: subnormal values have exponent `-1074` and no hidden
bit. Zeros, infinities and NaNs have no such form. -/
def ofBits (bits : UInt64) : Option Binary :=
  let raw : Nat := bits.toNat % Nat.pow 2 63
  let field : Nat := raw / Nat.pow 2 52
  let fraction : Nat := raw % Nat.pow 2 52
  if field = 2047 then none
  else if field = 0 then
    if fraction = 0 then none else some ⟨fraction, -1074, false⟩
  else some ⟨fraction + Nat.pow 2 52, (field : Int) - 1075, fraction == 0 && decide (1 < field)⟩

/-- The value in units of `2 ^ (exponent - 2)`, the unit in which both interval ends are whole. -/
def center (b : Binary) : Nat := 4 * b.mantissa

/-- The lower end of the rounding interval, in units of `2 ^ (exponent - 2)`. -/
def below (b : Binary) : Nat := 4 * b.mantissa - if b.narrow then 1 else 2

/-- The upper end of the rounding interval, in units of `2 ^ (exponent - 2)`. -/
def above (b : Binary) : Nat := 4 * b.mantissa + 2

/-- The ends of the rounding interval read back iff the mantissa is even. -/
def closed (b : Binary) : Bool := b.mantissa % 2 == 0

/-- Whether the value lies below `10 ^ t`, by cross-multiplying both sides to naturals. -/
def ltPow10 (b : Binary) (t : Int) : Bool :=
  let e := b.exponent - 2
  decide (b.center * Nat.pow 2 e.toNat * Nat.pow 10 (-t).toNat <
    Nat.pow 10 t.toNat * Nat.pow 2 (-e).toNat)

/-- The least `t ≥ start` with the value below `10 ^ t`, looking at most `fuel` steps up. -/
def climb (b : Binary) (start : Int) : Nat → Int
  | 0 => start
  | fuel + 1 => if b.ltPow10 start then start else b.climb (start + 1) fuel

/-- The decimal position `k` of the value: `10 ^ (k - 1) ≤ value < 10 ^ k`. The value is at least
`2 ^ s` for `s = log₂ center + exponent - 2`, so `k` exceeds `s · log₁₀ 2`; the search starts just
below that bound and climbs. -/
def point (b : Binary) : Int :=
  let s : Int := (Nat.log2 b.center : Int) + (b.exponent - 2)
  b.climb (Int.fdiv (s * 30102999566) 100000000000 - 1) 8

/-- The grid point of unit `10 ^ j` that the value picks: of the grid points just below and just
above the value, those in the rounding interval; the nearer of two, an exact tie by `tie`. -/
def pickOn (b : Binary) (tie : Tie) (j : Int) : Option Nat :=
  let e := b.exponent - 2
  -- a grid point `c · 10 ^ j` compares with `n · 2 ^ e` as `c * unit` with `n * scale`
  let scale := Nat.pow 2 e.toNat * Nat.pow 10 (-j).toNat
  let unit := Nat.pow 10 j.toNat * Nat.pow 2 (-e).toNat
  let value := b.center * scale
  let lo := b.below * scale
  let hi := b.above * scale
  let inside : Nat → Bool := fun c =>
    if b.closed then decide (lo ≤ c * unit ∧ c * unit ≤ hi)
    else decide (lo < c * unit ∧ c * unit < hi)
  let c := value / unit
  match inside c, inside (c + 1) with
  | true, true =>
    let gapDown := value - c * unit
    let gapUp := (c + 1) * unit - value
    if gapDown < gapUp then some c
    else if gapUp < gapDown then some (c + 1)
    else match tie with
      | .up => some (c + 1)
      | .toEven => some (if c % 2 = 0 then c else c + 1)
  | true, false => some c
  | false, true => some (c + 1)
  | false, false => none

/-- The exact value as a decimal, which always reads back. -/
def exact (b : Binary) : Decimal :=
  if 0 ≤ b.exponent then ⟨b.mantissa * Nat.pow 2 b.exponent.toNat, 0⟩
  else ⟨b.mantissa * Nat.pow 5 (-b.exponent).toNat, b.exponent⟩

/-- The shortest decimal that reads back as the value, nearest among those of its length, with
trailing zeros moved into the exponent. -/
def shortest (b : Binary) (tie : Tie) : Decimal :=
  let k := b.point
  let grids := (List.range 17).map fun i => k - ((i + 1 : Nat) : Int)
  match grids.findSome? (fun j => (b.pickOn tie j).map fun c => (c, j)) with
  | some (c, j) => Decimal.trim c j
  | none => b.exact

end Binary

end Quadrotor
