import Quadrotor.Decimal.Notation
/-!
# Guards on real parameters

A physical parameter is accepted only when it is a finite double, and some only when they are
also positive. `Guard.finite`, `Guard.positive` and `Guard.allFinite` check this and name the
parameter in the error they give.

Numbers in error texts are written by `Notation.message`: the shortest digits that read back,
never with an exponent, an integral value without `.0`, and a tie to the larger digit string.

## Main definitions

* `GuardError` — a non-finite value, bounds in the wrong order, a value that is not positive;
* `Guard.finite`, `Guard.positive`, `Guard.allFinite` — the checks.
-/

namespace Quadrotor

/-- Numbers in error texts: shortest digits, always positional, no `.0`, ties up. -/
def Notation.message : Notation where
  positional _ := true
  pointZero := false
  exponentPlus := false
  tie := .up
  nanText := "NaN"
  infinityText := "inf"

/-- Why a real parameter is refused. -/
inductive GuardError where
  /-- The value is a NaN or an infinity. -/
  | nonFinite (what : String) (value : Float)
  /-- The lower bound of a range lies above its upper bound. -/
  | invalidBounds (what : String) (lo hi : Float)
  /-- The value is not above zero. -/
  | nonPositive (what : String) (value : Float)

namespace GuardError

/-- The text of a guard error. -/
def message : GuardError → String
  | .nonFinite what v =>
    "Non-finite numeric value for " ++ what ++ ": " ++ Notation.message.render v
  | .invalidBounds what lo hi =>
    "Invalid bounds for " ++ what ++ ": min=" ++ Notation.message.render lo ++ " exceeds max=" ++
      Notation.message.render hi
  | .nonPositive what v => what ++ " must be positive, got " ++ Notation.message.render v

/-- The name of the kind of a guard error. -/
def kind : GuardError → String
  | .nonFinite .. => "NonFinite"
  | .invalidBounds .. => "InvalidBounds"
  | .nonPositive .. => "NonPositive"

end GuardError

namespace Guard

/-- Accepts a finite value. -/
def finite (what : String) (v : Float) : Except GuardError Float :=
  if v.isFinite then .ok v else .error (.nonFinite what v)

/-- Accepts a finite value above zero; a non-finite value is reported as such first. -/
def positive (what : String) (v : Float) : Except GuardError Float :=
  if !v.isFinite then .error (.nonFinite what v)
  else if 0 < v then .ok v
  else .error (.nonPositive what v)

/-- Accepts a list of finite values, and reports the first that is not. -/
def allFinite (what : String) (vs : List Float) : Except GuardError Unit :=
  match vs.find? (fun v => !v.isFinite) with
  | some v => .error (.nonFinite what v)
  | none => .ok ()

end Guard

end Quadrotor
