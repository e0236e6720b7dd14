import Quadrotor.Model.Config
import Quadrotor.Sim.Options
/-!
# Parameter files and scenarios

The command line reads parameter sets and scenarios from files. A parameter file holds the
fields of one model's parameter set. In a scenario the parameter set is tagged with its model
under the key `kind`; a scenario also gives the initial state, a constant control and, if it
wants other than the defaults, the run options.
-/

namespace Quadrotor

/-- The two vehicle models, as the command line names them. -/
inductive ModelKind where
  | reduced
  | planar
  deriving DecidableEq, Repr

namespace ModelKind

/-- The models with their names. -/
def all : List (String × ModelKind) := [("reduced", .reduced), ("planar", .planar)]

/-- The default parameter set of a model. -/
def defaults : ModelKind → Config
  | .reduced => .lateral {}
  | .planar => .planar {}

/-- Reads a parameter file of a model: its fields, each with a default. -/
def decodeConfig (kind : ModelKind) (d : Document) : Except DecodeError Config :=
  match kind with
  | .reduced => (LateralConfig.decode false d).map .lateral
  | .planar => (PlanarConfig.decode false d).map .planar

end ModelKind

namespace Config

/-- The name of the model a parameter set is for. -/
def kindName : Config → String
  | .lateral _ => "reduced"
  | .planar _ => "planar"

/-- The parameter set tagged with its model under `kind`, followed by its fields. -/
def toTagged (c : Config) : Document :=
  match c.toDocument with
  | .record fields => .record (("kind", .text c.kindName) :: fields)
  | d => d

/-- Reads a parameter set tagged with its model under `kind`; the other fields are the model's. -/
def decodeTagged (d : Document) : Except DecodeError Config :=
  match d with
  | .record fields =>
    match Document.lookup fields "kind" with
    | none => .error (.missingField "kind")
    | some tag => do
      let kind ← Decode.choice ModelKind.all tag
      kind.decodeConfig (.record (fields.filter (·.1 != "kind")))
  | _ => .error (.invalidType d "internally tagged enum ModelConfig")

end Config

/-- A run under constant control: the tagged parameter set, the initial state, the control and
the run options. -/
structure Scenario where
  config : Config
  initialState : List Float
  control : List Float
  options : RunOptions := {}

namespace Scenario

/-- Reads a scenario: the model, the initial state and the control must be given, the options
default. -/
def decode (d : Document) : Except DecodeError Scenario :=
  match d with
  | .record fields => do
    let need := fun (key : String) =>
      match Document.lookup fields key with
      | some v => .ok v
      | none => .error (DecodeError.missingField key)
    let config ← Config.decodeTagged (← need "model")
    let initialState ← Decode.reals false (← need "initial_state")
    let control ← Decode.reals false (← need "control")
    let options ← match Document.lookup fields "options" with
      | some v => RunOptions.decode false v
      | none => pure {}
    pure ⟨config, initialState, control, options⟩
  | _ => .error (.invalidType d "struct Scenario")

end Scenario

end Quadrotor
