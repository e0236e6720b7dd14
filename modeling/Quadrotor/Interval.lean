import Quadrotor.Guard
/-!
# Closed intervals of doubles

An `Interval` is a range `[lo, hi]` of doubles with finite ends and `lo` not above `hi`; these
facts are fields of the structure, so every interval that exists has them. `Interval.make` is the
only way from two doubles to an interval, and it gives a `GuardError` naming the range otherwise.

Clamping follows IEEE comparison: a value below `lo` becomes `lo`, then a value above `hi`
becomes `hi`, and a NaN, which is neither, stays a NaN. `-0.0` is not below `0.0`, so it stays.

## Main definitions

* `Interval.make` — the interval of two finite ordered ends;
* `Interval.width`, `Interval.midpoint`, `Interval.contains`, `Interval.clamp`;
* `Interval.normalize`, `Interval.denormalize` — the affine maps to and from `[-1, 1]`.
-/

namespace Quadrotor

/-- A range of doubles with finite ends in order. -/
structure Interval where
  lo : Float
  hi : Float
  lo_finite : lo.isFinite = true
  hi_finite : hi.isFinite = true
  ordered : ¬ hi < lo

namespace Interval

/-- The interval `[lo, hi]`, named `what` in errors: each end must be finite, the lower one
first, and the ends must be in order. -/
def make (what : String) (lo hi : Float) : Except GuardError Interval :=
  if hlo : lo.isFinite = true then
    if hhi : hi.isFinite = true then
      if h : hi < lo then .error (.invalidBounds what lo hi)
      else .ok ⟨lo, hi, hlo, hhi, h⟩
    else .error (.nonFinite what hi)
  else .error (.nonFinite what lo)

/-- The ends as a pair. -/
def pair (r : Interval) : Float × Float := (r.lo, r.hi)

/-- The length of the range. -/
def width (r : Interval) : Float := r.hi - r.lo

/-- The middle of the range, as half the sum of its ends. -/
def midpoint (r : Interval) : Float := 0.5 * (r.lo + r.hi)

/-- Whether a value lies in the range; a NaN never does. -/
def contains (r : Interval) (v : Float) : Bool := decide (r.lo ≤ v) && decide (v ≤ r.hi)

/-- Moves a value below the range up to `lo`, then a value above it down to `hi`. -/
def clamp (r : Interval) (v : Float) : Float :=
  let x := if v < r.lo then r.lo else v
  if r.hi < x then r.hi else x

/-- The affine map of the range onto `[-1, 1]`; a range of width zero maps everything to `0`. -/
def normalize (r : Interval) (v : Float) : Float :=
  let w := r.width
  if w == 0 then 0 else 2.0 * (v - r.lo) / w - 1.0

/-- The affine map of `[-1, 1]` onto the range. -/
def denormalize (r : Interval) (v : Float) : Float := (v + 1.0) / 2.0 * r.width + r.lo

end Interval

end Quadrotor
