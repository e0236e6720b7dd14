import Quadrotor.Model.Basic
import Quadrotor.Sim.ClosedLoop
/-!
# Simulation runs

`rollout` runs a model forward under a policy from its current state. The number of steps is
`⌈t_end / dt - 10⁻⁹⌉`, taken as a count (a negative value or a NaN counts as zero, a value
beyond the counts as the largest count), but no more than the options' largest number of steps.
Step `k` integrates the closed loop over one time step, sets the time to `k · dt` (a product, so
that times do not drift), refuses a state with a non-finite entry, moves the model on to the new
state, and records it when `k` is a multiple of the recording interval. A run that ends between
two recordings records its last state as well. The record starts with time `0` and the model's
state.

A run that fails keeps the steps it has already taken: the model is returned with them whatever
the outcome.

## Main definitions

* `RunOptions.plannedSteps` — the number of steps to reach the end time;
* `Run` — a run between two steps;
* `rollout` — the model after the run and the record, or the reason it stopped.
-/

namespace Quadrotor

/-- The times and states recorded by a run. -/
structure Record where
  times : List Float
  states : List (List Float)

/-- The record as a document: the times under `t` and the states under `x`. -/
def Record.toDocument (r : Record) : Document :=
  .record [("t", .list (r.times.map .real)),
    ("x", .list (r.states.map fun x => .list (x.map .real)))]

/-- The number of steps that reach the end time: `⌈t_end / dt - 10⁻⁹⌉` as a count, a negative
value or NaN giving zero and a value too large giving the largest count. The rounding up is done
on the count: the value cut to a count, plus one when the cut lost a fraction. -/
def RunOptions.plannedSteps (o : RunOptions) : Nat :=
  let z := o.tEnd / o.dt - 1e-9
  let q := z.toUInt64
  if q.toFloat < z then min (q.toNat + 1) (UInt64.size - 1) else q.toNat

/-- A run between two steps: the model, the steps taken, the time and state reached, and the
recordings so far, the newest first. -/
structure Run where
  model : Model
  steps : Nat
  time : Float
  state : List Float
  times : List Float
  states : List (List Float)

namespace Run

/-- A run that has taken no step: time zero and the model's state, recorded. -/
def start (m : Model) : Run := ⟨m, 0, 0.0, m.state, [0.0], [m.state]⟩

/-- One more step of the run. -/
def next (r : Run) (policy : Policy) (o : RunOptions) : Except RunError Run := do
  let sys : ClosedLoop := ⟨r.model.vehicle, policy, o.clampControls⟩
  let x ← o.integrator.step sys r.time r.state o.dt
  let k := r.steps + 1
  let t := Float.ofNat k * o.dt
  if x.any (fun v => !v.isFinite) then .error (.nonPhysical "non-finite state" t)
  else
    let m ← (r.model.advance x).mapError .model
    if k % o.recordEvery = 0 then pure ⟨m, k, t, x, t :: r.times, x :: r.states⟩
    else pure ⟨m, k, t, x, r.times, r.states⟩

/-- Up to `n` more steps: the run reached, and the error that stopped it if one did. -/
def advance (policy : Policy) (o : RunOptions) : Nat → Run → Run × Option RunError
  | 0, r => (r, none)
  | n + 1, r =>
    match r.next policy o with
    | .ok r' => advance policy o n r'
    | .error e => (r, some e)

/-- The record of a finished run: the last state is recorded too if its step was not. -/
def record (r : Run) (o : RunOptions) : Record :=
  if r.steps % o.recordEvery = 0 then ⟨r.times.reverse, r.states.reverse⟩
  else ⟨(r.time :: r.times).reverse, (r.state :: r.states).reverse⟩

end Run

/-- Runs a model under a policy with the given options: the model with the steps taken, and the
record of the run or the reason it stopped. -/
def rollout (m : Model) (policy : Policy) (o : RunOptions) : Model × Except RunError Record :=
  match o.validate with
  | .error e => (m, .error e)
  | .ok () =>
    match Run.advance policy o (min o.plannedSteps o.maxSteps) (Run.start m) with
    | (r, some e) => (r.model, .error e)
    | (r, none) => (r.model, .ok (r.record o))

end Quadrotor
