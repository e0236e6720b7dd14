import Quadrotor.Model.Vehicle
import Quadrotor.Model.StateLog
/-!
# Vehicle models with a state

A `Model` is a checked vehicle together with the log of its states. `Model.make` checks the
parameter set and then that the initial state is finite, and reports the first failure;
`Model.advance` moves the model on to a next state of the model's dimension.
-/

namespace Quadrotor

/-- A checked vehicle and the log of its states. -/
structure Model where
  vehicle : Vehicle
  log : StateLog

namespace Model

/-- The model of a parameter set starting from an initial state: the parameter checks first,
then the finiteness of the initial state. -/
def make (config : Config) (initial : List Float) : Except ModelError Model := do
  let v ← Vehicle.make config initial
  let log ← StateLog.make initial
  pure ⟨v, log⟩

/-- The current state. -/
def state (m : Model) : List Float := m.log.current

/-- The earlier states, oldest first. -/
def history (m : Model) : List (List Float) := m.log.history

/-- Moves on to a next state: its length must be the model's state dimension, then the log's
own checks apply. -/
def advance (m : Model) (next : List Float) : Except ModelError Model := do
  checkLength "state" m.vehicle.stateDim next.length
  let log ← m.log.advance next
  pure { m with log := log }

end Model

end Quadrotor
