import Quadrotor.Model.Error
/-!
# The state log of a model

A `StateLog` holds a model's current state and the states it held before, oldest first. A log
starts from a finite state with no history; moving on to a next state checks its length against
the current one and that it is finite, and only then files the current state into the history.
A refused state leaves the log as it was.
-/

namespace Quadrotor

/-- A current state and the earlier states, kept newest first. -/
structure StateLog where
  current : List Float
  /-- The earlier states, the newest first. -/
  past : List (List Float)

namespace StateLog

/-- A log starting from a finite state. -/
def make (initial : List Float) : Except ModelError StateLog :=
  match Guard.allFinite "initial state" initial with
  | .ok () => .ok ⟨initial, []⟩
  | .error e => .error (.guard e)

/-- The earlier states, oldest first. -/
def history (log : StateLog) : List (List Float) := log.past.reverse

/-- The number of state components. -/
def dim (log : StateLog) : Nat := log.current.length

/-- Moves on to a state of the same length with finite entries, filing the current one. -/
def advance (log : StateLog) (next : List Float) : Except ModelError StateLog := do
  checkLength "state" log.current.length next.length
  match Guard.allFinite "state" next with
  | .ok () => pure ⟨next, log.current :: log.past⟩
  | .error e => .error (.guard e)

end StateLog

end Quadrotor
