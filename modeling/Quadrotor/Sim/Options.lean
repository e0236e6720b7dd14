import Quadrotor.Model.Error
import Quadrotor.Document.Decode
/-!
# Options of a simulation run

`RunOptions` hold the time step, the end time, the largest number of steps, how often a state is
recorded, the integration scheme and whether controls are clamped to their ranges. They are read
from a document with a default for every field, and checked by `RunOptions.validate`: a positive
finite step, a non-negative finite end time, and positive step and recording counts, in that
order.

A `RunError` is why a run stops: a refused option, a state that left the finite doubles, or an
error of the model.
-/

namespace Quadrotor

/-- Why a simulation run stops. -/
inductive RunError where
  /-- A refused option. -/
  | invalidArg (what : String)
  /-- A state that is no longer physical, at time `t`. -/
  | nonPhysical (what : String) (t : Float)
  /-- An error of the model. -/
  | model (e : ModelError)

namespace RunError

/-- The text of a run error. -/
def message : RunError → String
  | .invalidArg what => "Invalid argument: " ++ what
  | .nonPhysical what t =>
    "Non-physical condition: " ++ what ++ " (t=" ++ Notation.message.render t ++ ")"
  | .model e => "Dynamics error: " ++ e.message

/-- The name of the kind of a run error. -/
def kind : RunError → String
  | .invalidArg .. => "InvalidArg"
  | .nonPhysical .. => "NonPhysical"
  | .model .. => "Dynamics"

end RunError

/-- A scheme that advances a state by one time step. -/
inductive Integrator where
  /-- The classical fourth-order Runge–Kutta scheme. -/
  | rk4
  /-- The explicit Euler scheme. -/
  | forwardEuler
  deriving DecidableEq, Repr

namespace Integrator

/-- The name of a scheme. -/
def name : Integrator → String
  | .rk4 => "rk4"
  | .forwardEuler => "forward_euler"

/-- The schemes with their names. -/
def all : List (String × Integrator) := [("rk4", .rk4), ("forward_euler", .forwardEuler)]

end Integrator

/-- The options of a simulation run. -/
structure RunOptions where
  /-- The time step. -/
  dt : Float := 1e-3
  /-- The time at which the run ends. -/
  tEnd : Float := 1.0
  /-- The largest number of steps taken. -/
  maxSteps : Nat := 100000
  /-- Every this many steps a state is recorded. -/
  recordEvery : Nat := 10
  integrator : Integrator := .rk4
  /-- Whether controls are clamped to their ranges. -/
  clampControls : Bool := true

namespace RunOptions

/-- The fields of the options, in their order. -/
def fields : List (Decode.Field RunOptions) :=
  [ ⟨"dt", fun s d o => (Decode.real s d).map fun x => { o with dt := x }⟩,
    ⟨"t_end", fun s d o => (Decode.real s d).map fun x => { o with tEnd := x }⟩,
    ⟨"max_steps", fun s d o =>
      (Decode.count (Decode.spelledNumber s d)).map fun n => { o with maxSteps := n }⟩,
    ⟨"record_every", fun s d o =>
      (Decode.count (Decode.spelledNumber s d)).map fun n => { o with recordEvery := n }⟩,
    ⟨"integrator", fun s d o =>
      (Decode.choice Integrator.all (Decode.spelledNumber s d)).map fun i =>
        { o with integrator := i }⟩,
    ⟨"clamp_controls", fun s d o =>
      (Decode.flag (Decode.spelledNumber s d)).map fun b => { o with clampControls := b }⟩ ]

/-- Reads options, with defaults for the fields not given; `spelled` says whether texts spelling
non-finite doubles are read for the step and the end time given by name. -/
def decode (spelled : Bool) (d : Document) : Except DecodeError RunOptions :=
  Decode.fields "SimOptions" fields {} spelled d

/-- The options as a record of all their fields. -/
def toDocument (o : RunOptions) : Document :=
  .record [("dt", .real o.dt), ("t_end", .real o.tEnd), ("max_steps", .int o.maxSteps),
    ("record_every", .int o.recordEvery), ("integrator", .text o.integrator.name),
    ("clamp_controls", .bool o.clampControls)]

/-- Checks the options: a positive finite step, a non-negative finite end time, a positive step
count and a positive recording interval, reporting the first that fails. -/
def validate (o : RunOptions) : Except RunError Unit :=
  if decide (o.dt ≤ 0) || !o.dt.isFinite then .error (.invalidArg "dt must be positive")
  else if decide (o.tEnd < 0) || !o.tEnd.isFinite then
    .error (.invalidArg "t_end must be non-negative")
  else if o.maxSteps = 0 then .error (.invalidArg "max_steps must be positive")
  else if o.recordEvery = 0 then .error (.invalidArg "record_every must be positive")
  else .ok ()

end RunOptions

end Quadrotor
