import Quadrotor.Guard
import Quadrotor.Grid.Shape
/-!
# Errors of vehicle models

A `ModelError` is why a model cannot be built, evaluated or moved on: a refused parameter
(`GuardError`), a state dimension past the model's, arrays whose shapes do not fit, a vector of
the wrong length, or a broken internal promise. `ModelError.message` gives its text, with shapes
as bracketed lists of extents.

A `panic` is none of these: it is the array library stopping the program on rows cut past the end
of an array, which the code does not check for and cannot catch. It stands beside the code's own
errors so that a theorem can say it never happens.
-/

namespace Quadrotor

/-- Why a vehicle model cannot be built, evaluated or moved on. -/
inductive ModelError where
  /-- A parameter refused by a guard. -/
  | guard (e : GuardError)
  /-- A state dimension that the model does not have. -/
  | dimensionOutOfRange (dim stateDim : Nat)
  /-- An array whose shape does not fit. -/
  | shapeMismatch (what : String) (expected actual : Shape)
  /-- A vector of the wrong length. -/
  | lengthMismatch (what : String) (expected actual : Nat)
  /-- An internal promise that did not hold. -/
  | invariant (what : String)
  /-- A panic of the array library, which stops the program. -/
  | panic (what : String)

namespace ModelError

/-- The text of a model error. -/
def message : ModelError → String
  | .guard e => e.message
  | .dimensionOutOfRange dim stateDim =>
    "State dimension " ++ toString dim ++ " out of range for model with " ++ toString stateDim ++
      " states"
  | .shapeMismatch what expected actual =>
    "Shape mismatch for " ++ what ++ ": expected " ++ expected.render ++ ", got " ++ actual.render
  | .lengthMismatch what expected actual =>
    "Length mismatch for " ++ what ++ ": expected " ++ toString expected ++ ", got " ++
      toString actual
  | .invariant what => "Invariant violated: " ++ what
  | .panic what => what

/-- The name of the kind of a model error. -/
def kind : ModelError → String
  | .guard e => e.kind
  | .dimensionOutOfRange .. => "DimensionOutOfRange"
  | .shapeMismatch .. => "ShapeMismatch"
  | .lengthMismatch .. => "LengthMismatch"
  | .invariant .. => "Invariant"
  | .panic .. => "panic"

end ModelError

/-- Accepts a vector length equal to the expected one. -/
def checkLength (what : String) (expected actual : Nat) : Except ModelError Unit :=
  if expected = actual then .ok () else .error (.lengthMismatch what expected actual)

end Quadrotor
