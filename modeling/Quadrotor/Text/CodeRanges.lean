/-!
# Sets of code points as ranges

A set of code points is kept as a list of closed ranges `(lo, hi)`, sorted and disjoint, so that
membership is a walk that stops at the first range reaching the code point.
-/

namespace Quadrotor

namespace Text

/-- Whether `n` lies in one of the closed ranges, given sorted and disjoint. -/
def inRanges : List (Nat × Nat) → Nat → Bool
  | [], _ => false
  | (lo, hi) :: rest, n => if n < lo then false else if n ≤ hi then true else inRanges rest n

end Text

end Quadrotor
