/-!
# Shapes of arrays

A `Shape` lists the extents of an array's axes, outermost first; `[]` is the shape of an array
that holds one value. Arrays are stored flat in row-major order, so an array of shape `s` holds
`s.volume` values.

An array is laid out with signed 64-bit offsets, so the product of the non-zero extents of its
shape must stay below `2 ^ 63` (`Shape.isAddressable`); this holds the empty extents aside, so a
shape such as `[0, 2 ^ 63]` is refused although its arrays hold nothing.

Broadcasting stretches an array to a larger shape. The axes are aligned from the right, and the
source may have fewer of them; each source extent must equal the target's or be `1`, and an
extent `1` repeats its values along that axis, to any extent including `0`.
-/

namespace Quadrotor

/-- The extents of an array's axes, outermost first. -/
abbrev Shape := List Nat

namespace Shape

/-- The number of values an array of this shape holds. -/
def volume (s : Shape) : Nat := s.foldr (· * ·) 1

/-- The product of the extents that are not zero. -/
def nonzeroVolume (s : Shape) : Nat := volume (s.filter (· ≠ 0))

/-- Whether arrays of this shape can be laid out: the product of the non-zero extents is below
`2 ^ 63`. -/
def isAddressable (s : Shape) : Bool := decide (nonzeroVolume s < Nat.pow 2 63)

/-- A shape whose arrays cannot be laid out. -/
structure Overflow where
  shape : Shape

/-- The text that reports a shape too large to lay out. -/
def Overflow.message (_ : Overflow) : String :=
  "ndarray: Shape too large, product of non-zero axis lengths overflows isize"

/-- Whether an array of shape `src` broadcasts to shape `dst`: no more axes than the target,
and, aligned from the right, each extent equal to the target's or `1`. -/
def broadcastsTo (src dst : Shape) : Bool :=
  decide (src.length ≤ dst.length) &&
    (src.reverse.zip dst.reverse).all fun p => p.1 == p.2 || p.1 == 1

/-- A shape written as the bracketed list of its extents, `[3, 4]` or `[]`. -/
def render (s : Shape) : String := "[" ++ ", ".intercalate (s.map toString) ++ "]"

@[simp] theorem volume_nil : volume [] = 1 := rfl

@[simp] theorem volume_cons (n : Nat) (s : Shape) : volume (n :: s) = n * volume s := rfl

end Shape

end Quadrotor
