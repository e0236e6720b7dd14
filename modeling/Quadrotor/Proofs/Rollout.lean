import Mathlib
import Quadrotor.Sim.Rollout
import Quadrotor.Proofs.Evaluation
/-!
# What a run commits and records

A run of `rollout` takes `n = min plannedSteps maxSteps` steps. When it succeeds, its states are
the trajectory of the closed loop from the model's state, step `k` integrating from the time
`k · dt`: the model ends at state `n` with the states `0` to `n - 1` appended to its history, and
the record holds time `0` and the model's state, then the time and state of every step that is a
multiple of the recording interval, then the last step's if it is not one.

The proof follows the loop. `Run.OnTrajectory` says what a run that has taken `j` steps holds:
one successful step keeps it (`Run.OnTrajectory.next`), so a run that took all its steps keeps
it (`Run.OnTrajectory.advance`), and the record is read off it (`Run.OnTrajectory.record`). A
rollout whose options pass their check is the run of its steps from the model, its result read off
the run's end by `Run.result` (`rollout_of_validate_eq_ok`).

## Main results

* `RunOptions.zero_mul_dt` — step `0` is at time `0`;
* `Model.advance_eq_ok` — moving a model on files its state and keeps its vehicle;
* `Run.OnTrajectory.advance` — the run invariant;
* `rollout_commits_and_records` — what a successful rollout commits and records.
-/

namespace Quadrotor

/-! ### Options and times -/

namespace RunOptions

/-- Options that pass their check have a positive finite step. -/
theorem validate_eq_ok {o : RunOptions} (h : o.validate = .ok ()) :
    ¬ o.dt ≤ 0 ∧ o.dt.isFinite = true := by
  unfold validate at h
  split at h
  · cases h
  · next hdt =>
      split at h
      · cases h
      · split at h
        · cases h
        · simp only [Bool.or_eq_true, decide_eq_true_eq, Bool.not_eq_eq_eq_not, Bool.not_true,
            not_or, Bool.not_eq_false] at hdt
          exact hdt

open Float.Model in
/-- **Step `0` is at time `0`**: zero steps of a positive finite step are positive zero. -/
theorem zero_mul_dt {o : RunOptions} (h : o.validate = .ok ()) : Float.ofNat 0 * o.dt = 0.0 := by
  obtain ⟨hle, hfinite⟩ := validate_eq_ok h
  have hzero : (0.0 : Float) = Float.ofModel (Float.Model.pack (.zero .positive)) := rfl
  rw [hzero]
  show Float.ofModel (Float.Model.pack
    (UnpackedFloat.mul _ (.zero .positive) o.dt.toModel.unpack)) = _
  -- the product of positive zero and `dt` is positive zero exactly when `dt` is positive finite
  have hpos : o.dt.toModel.unpack.le (.zero .positive) = false := by
    have h' : ¬ (o.dt.le 0 = true) := hle
    exact Bool.eq_false_iff.mpr fun hle' => h' (decide_eq_true hle')
  have hfinite' : o.dt.toModel.unpack.isFinite = true := hfinite
  cases hdt : o.dt.toModel.unpack with
  | infinity s => simp [hdt, UnpackedFloat.isFinite] at hfinite'
  | notANumber => simp [hdt, UnpackedFloat.isFinite] at hfinite'
  | zero s => simp [hdt, UnpackedFloat.le, UnpackedFloat.compare] at hpos
  | finite s m e hm =>
      cases s with
      | positive => rfl
      | negative => simp [hdt, UnpackedFloat.le, UnpackedFloat.compare] at hpos

end RunOptions

/-! ### The recorded steps -/

/-- The steps among `1, …, n` that a run recording every `every` steps records as it goes. -/
def recordedSteps (n every : Nat) : List Nat := (List.range' 1 n).filter fun s => s % every = 0

@[simp] theorem recordedSteps_zero (every : Nat) : recordedSteps 0 every = [] := rfl

theorem recordedSteps_succ (n every : Nat) :
    recordedSteps (n + 1) every =
      recordedSteps n every ++ if (n + 1) % every = 0 then [n + 1] else [] := by
  rw [recordedSteps, recordedSteps, List.range'_concat, List.filter_append, Nat.one_mul,
    Nat.add_comm 1 n]
  split <;> simp [*]

/-- A run records one step in every `every`. -/
theorem length_recordedSteps (n every : Nat) :
    (recordedSteps n every).length = n / every := by
  induction n with
  | zero => simp
  | succ n ih =>
      rw [recordedSteps_succ, List.length_append, ih, Nat.succ_div]
      by_cases hdvd : (n + 1) % every = 0
      · rw [if_pos hdvd, if_pos (Nat.dvd_of_mod_eq_zero hdvd)]
        rfl
      · rw [if_neg hdvd, if_neg fun h' => hdvd (Nat.mod_eq_zero_of_dvd h')]
        rfl

/-- A step's value is recorded, newest first, when the step is a multiple of the interval. -/
theorem reverse_map_recordedSteps_succ {α : Type} (f : Nat → α) (j every : Nat) :
    ((0 :: recordedSteps (j + 1) every).map f).reverse =
      if (j + 1) % every = 0 then f (j + 1) :: ((0 :: recordedSteps j every).map f).reverse
      else ((0 :: recordedSteps j every).map f).reverse := by
  rw [recordedSteps_succ]
  split <;> simp

/-- The values of the recorded steps, and of the last step if it was not recorded, end with the
last step's. -/
theorem getLast?_recorded {α : Type} (f : Nat → α) (n every : Nat) :
    ([f 0] ++ (recordedSteps n every).map f ++ if n % every ≠ 0 then [f n] else []).getLast? =
      some (f n) := by
  cases n with
  | zero => simp
  | succ n =>
      by_cases hdvd : (n + 1) % every = 0
      · -- the last step is a recorded one
        have hsplit : [f 0] ++ (recordedSteps (n + 1) every).map f ++
            (if (n + 1) % every ≠ 0 then [f (n + 1)] else []) =
            ([f 0] ++ (recordedSteps n every).map f) ++ [f (n + 1)] := by
          rw [recordedSteps_succ, if_pos hdvd,
            if_neg (show ¬ ((n + 1) % every ≠ 0) from not_not_intro hdvd), List.map_append,
            List.map_singleton, List.append_nil, List.append_assoc]
        rw [hsplit, List.getLast?_concat]
      · rw [if_pos (show (n + 1) % every ≠ 0 from hdvd), List.getLast?_concat]

/-! ### Moving a model on -/

namespace Model

/-- **Moving a model on files its state**: it keeps its vehicle, takes the new state, and its
history gains the state it had. -/
theorem advance_eq_ok {m m' : Model} {x : List Float} (h : m.advance x = .ok m') :
    m'.vehicle = m.vehicle ∧ m'.state = x ∧ m'.history = m.history ++ [m.state] := by
  unfold advance at h
  cases hlen : checkLength "state" m.vehicle.stateDim x.length with
  | error e =>
      rw [hlen] at h
      cases h
  | ok u =>
      rw [hlen, ok_bind] at h
      cases hlog : m.log.advance x with
      | error e =>
          rw [hlog] at h
          cases h
      | ok log =>
          rw [hlog, ok_bind] at h
          cases h
          unfold StateLog.advance at hlog
          cases hlen' : checkLength "state" m.log.current.length x.length with
          | error e =>
              rw [hlen'] at hlog
              cases hlog
          | ok u' =>
              rw [hlen', ok_bind] at hlog
              split at hlog
              · cases hlog
                exact ⟨rfl, rfl, by simp [history, StateLog.history, state]⟩
              · cases hlog

end Model

/-! ### The run invariant -/

namespace Run

/-- The states of a run of `m` under `policy`: the model's state, then each step of the closed
loop integrated from the time of the step, while the steps succeed. -/
def trajectory (m : Model) (policy : Policy) (o : RunOptions) : Nat → List Float
  | 0 => m.state
  | k + 1 =>
    match o.integrator.step ⟨m.vehicle, policy, o.clampControls⟩ (Float.ofNat k * o.dt)
        (trajectory m policy o k) o.dt with
    | .ok x => x
    | .error _ => trajectory m policy o k

theorem trajectory_succ {m : Model} {policy : Policy} {o : RunOptions} {k : Nat} {x : List Float}
    (h : o.integrator.step ⟨m.vehicle, policy, o.clampControls⟩ (Float.ofNat k * o.dt)
      (trajectory m policy o k) o.dt = .ok x) :
    trajectory m policy o (k + 1) = x := by
  rw [trajectory, h]

/-- What a run of `m` under `policy` holds after `j` steps: the first `j` steps of the trajectory
succeeded; the run is at step `j`, at time `j · dt`, in state `j` of the trajectory, and so is the
model, whose vehicle is `m`'s and whose history gained the states `0` to `j - 1`; and the
recordings, newest first, are step `0` and the multiples of the interval up to `j`. -/
structure OnTrajectory (m : Model) (policy : Policy) (o : RunOptions) (j : Nat) (r : Run) :
    Prop where
  steps_ok : ∀ k < j, o.integrator.step ⟨m.vehicle, policy, o.clampControls⟩
    (Float.ofNat k * o.dt) (trajectory m policy o k) o.dt = .ok (trajectory m policy o (k + 1))
  vehicle : r.model.vehicle = m.vehicle
  steps : r.steps = j
  time : r.time = Float.ofNat j * o.dt
  state : r.state = trajectory m policy o j
  model_state : r.model.state = trajectory m policy o j
  history : r.model.history = m.history ++ (List.range j).map (trajectory m policy o)
  times : r.times = ((0 :: recordedSteps j o.recordEvery).map fun s => Float.ofNat s * o.dt).reverse
  states : r.states = ((0 :: recordedSteps j o.recordEvery).map (trajectory m policy o)).reverse

variable {m : Model} {policy : Policy} {o : RunOptions}

/-- A run starts on the trajectory, step `0` being at time `0`. -/
theorem onTrajectory_start (hzero : Float.ofNat 0 * o.dt = 0.0) :
    (start m).OnTrajectory m policy o 0 where
  steps_ok k hk := absurd hk (Nat.not_lt_zero k)
  vehicle := rfl
  steps := rfl
  time := hzero.symm
  state := rfl
  model_state := rfl
  history := by simp [start]
  times := by simp [start, hzero]
  states := rfl

/-- What a successful step is made of: the integrator's step from the run's time and state, the
model moved on to it, and the new step, time and state, recorded when the step is a multiple of
the interval. -/
theorem next_eq_ok {r r' : Run} (h : r.next policy o = .ok r') :
    ∃ x m', o.integrator.step ⟨r.model.vehicle, policy, o.clampControls⟩ r.time r.state o.dt =
        .ok x ∧ r.model.advance x = .ok m' ∧
      r' = ⟨m', r.steps + 1, Float.ofNat (r.steps + 1) * o.dt, x,
        if (r.steps + 1) % o.recordEvery = 0 then Float.ofNat (r.steps + 1) * o.dt :: r.times
        else r.times,
        if (r.steps + 1) % o.recordEvery = 0 then x :: r.states else r.states⟩ := by
  unfold next at h
  dsimp only at h
  cases hx : o.integrator.step ⟨r.model.vehicle, policy, o.clampControls⟩ r.time r.state
      o.dt with
  | error e =>
      rw [hx] at h
      cases h
  | ok x =>
      rw [hx, ok_bind] at h
      split at h
      · cases h
      · cases hm : r.model.advance x with
        | error e =>
            rw [hm] at h
            cases h
        | ok m' =>
            rw [hm] at h
            refine ⟨x, m', rfl, hm, ?_⟩
            split at h
            · next hrec =>
                cases h
                simp [hrec]
            · next hrec =>
                cases h
                simp [hrec]

/-- **One successful step keeps a run on the trajectory.** -/
theorem OnTrajectory.next {r r' : Run} {j : Nat} (hr : r.OnTrajectory m policy o j)
    (h : r.next policy o = .ok r') : r'.OnTrajectory m policy o (j + 1) := by
  obtain ⟨x, m', hx, hm, rfl⟩ := next_eq_ok h
  rw [hr.vehicle, hr.time, hr.state] at hx
  have hy : trajectory m policy o (j + 1) = x := trajectory_succ hx
  obtain ⟨hveh, hstate, hhist⟩ := Model.advance_eq_ok hm
  refine ⟨fun k hk => ?_, ?_, ?_, ?_, ?_, ?_, ?_, ?_, ?_⟩
  · -- the new step is the last one the invariant did not cover
    rcases Nat.lt_succ_iff_lt_or_eq.1 hk with hk | rfl
    · exact hr.steps_ok k hk
    · rw [hy]
      exact hx
  · rw [hveh, hr.vehicle]
  · rw [hr.steps]
  · rw [hr.steps]
  · exact hy.symm
  · rw [hstate, hy]
  · rw [hhist, hr.history, hr.model_state, List.range_succ, List.map_append, List.map_singleton,
      List.append_assoc]
  · simp only [hr.steps, hr.times]
    rw [reverse_map_recordedSteps_succ]
  · simp only [hr.steps, hr.states, ← hy]
    rw [reverse_map_recordedSteps_succ]

/-- **A run that took all its steps stays on the trajectory**: after `k` more successful steps
from step `j` it is at step `j + k`. -/
theorem OnTrajectory.advance {r r' : Run} {j k : Nat} (hr : r.OnTrajectory m policy o j)
    (h : Run.advance policy o k r = (r', none)) : r'.OnTrajectory m policy o (j + k) := by
  induction k generalizing r j with
  | zero =>
      simp only [Run.advance, Prod.mk.injEq, and_true] at h
      subst h
      exact hr
  | succ k ih =>
      simp only [Run.advance] at h
      cases hn : r.next policy o with
      | error e =>
          rw [hn] at h
          simp at h
      | ok r'' =>
          rw [hn] at h
          rw [← Nat.add_assoc, Nat.add_right_comm]
          exact ih (hr.next hn) h

/-- The record of a run that took its `n` steps: time `0` and state `0`, the recorded steps, and
the last step if it was not recorded. -/
theorem OnTrajectory.record {r : Run} {n : Nat} (hr : r.OnTrajectory m policy o n)
    (hzero : Float.ofNat 0 * o.dt = 0.0) :
    (r.record o).times = [0.0] ++
        (recordedSteps n o.recordEvery).map (fun s => Float.ofNat s * o.dt) ++
        (if n % o.recordEvery ≠ 0 then [Float.ofNat n * o.dt] else []) ∧
      (r.record o).states = [trajectory m policy o 0] ++
        (recordedSteps n o.recordEvery).map (trajectory m policy o) ++
        (if n % o.recordEvery ≠ 0 then [trajectory m policy o n] else []) := by
  unfold Run.record
  rw [hr.steps]
  by_cases hrec : n % o.recordEvery = 0
  · simp [hrec, hr.times, hr.states, hzero]
  · simp [hrec, hr.times, hr.states, hzero, hr.time, hr.state]

end Run

/-! ### Rollouts -/

/-- What a rollout returns once its run has ended: the model the run reached, with the error that
stopped it or else the record. -/
def Run.result (o : RunOptions) : Run × Option RunError → Model × Except RunError Record
  | (r, some e) => (r.model, .error e)
  | (r, none) => (r.model, .ok (r.record o))

@[simp] theorem Run.result_fst (o : RunOptions) (res : Run × Option RunError) :
    (Run.result o res).1 = res.1.model := by
  cases res with
  | mk r stop => cases stop <;> rfl

/-- A rollout succeeds exactly when its run took all its steps. -/
theorem Run.exists_result_eq_ok_iff (o : RunOptions) (res : Run × Option RunError) :
    (∃ rec, (Run.result o res).2 = .ok rec) ↔ res.2 = none := by
  cases res with
  | mk r stop => cases stop <;> simp [Run.result]

section RunResult

variable {m : Model} {policy : Policy} {o : RunOptions}

/-- A rollout whose options fail their check reports the failure and leaves the model
untouched. -/
theorem rollout_of_validate_eq_error {e : RunError} (hv : o.validate = .error e) :
    rollout m policy o = (m, .error e) := by
  simp [rollout, hv]

/-- A rollout whose options pass their check is the run of its steps from the model. -/
theorem rollout_of_validate_eq_ok (hv : o.validate = .ok ()) :
    rollout m policy o =
      Run.result o (Run.advance policy o (min o.plannedSteps o.maxSteps) (Run.start m)) := by
  unfold rollout
  rw [hv]
  cases Run.advance policy o (min o.plannedSteps o.maxSteps) (Run.start m) with
  | mk r stop => cases stop <;> rfl

end RunResult

/-- What a run of `m` under `policy` with the options `o` commits to the model `m'` and records
in `rec`, with `n = min plannedSteps maxSteps` steps and the interval `every`: there are states
`y 0 = m.state, y 1, …, y n`, each step integrating the closed loop from the time `k · dt`, such
that `m'`'s history is `m`'s followed by `y 0, …, y (n - 1)` and its state is `y n`; the record's
times are `0`, the times of the multiples of `every` up to `n`, and `n · dt` if `n` is not one, and
its states are the `y` of the same steps, so both have `1 + n / every` entries, one more when
`every` does not divide `n`; and the last recorded state is `m'`'s state. -/
def RunCommits (m : Model) (policy : Policy) (o : RunOptions) (m' : Model) (rec : Record) : Prop :=
  let n := min o.plannedSteps o.maxSteps
  let every := o.recordEvery
  ∃ y : Nat → List Float, y 0 = m.state ∧
    (∀ k < n, o.integrator.step ⟨m.vehicle, policy, o.clampControls⟩ (Float.ofNat k * o.dt)
      (y k) o.dt = .ok (y (k + 1))) ∧
    m'.history = m.history ++ (List.range n).map y ∧
    m'.state = y n ∧
    rec.times = [0.0] ++ (recordedSteps n every).map (fun s => Float.ofNat s * o.dt) ++
      (if n % every ≠ 0 then [Float.ofNat n * o.dt] else []) ∧
    rec.states = [y 0] ++ (recordedSteps n every).map y ++
      (if n % every ≠ 0 then [y n] else []) ∧
    rec.times.length = 1 + n / every + (if n % every ≠ 0 then 1 else 0) ∧
    rec.states.length = 1 + n / every + (if n % every ≠ 0 then 1 else 0) ∧
    rec.states.getLast? = some m'.state

/-- **A rollout commits and records exactly its steps**: whenever it succeeds, the model it
returns and its record are those of `RunCommits`, for any prior history of the model, any policy
and any options. -/
theorem rollout_commits_and_records {m : Model} {policy : Policy} {o : RunOptions} {rec : Record}
    (h : (rollout m policy o).2 = .ok rec) : RunCommits m policy o (rollout m policy o).1 rec := by
  simp only [RunCommits]
  cases hv : o.validate with
  | error e => simp [rollout, hv] at h
  | ok u =>
      have hzero := RunOptions.zero_mul_dt hv
      cases hadv : Run.advance policy o (min o.plannedSteps o.maxSteps) (Run.start m) with
      | mk r stop =>
          cases stop with
          | some e => simp [rollout, hv, hadv] at h
          | none =>
              have hrollout : rollout m policy o = (r.model, .ok (r.record o)) := by
                simp [rollout, hv, hadv]
              rw [hrollout, Except.ok.injEq] at h
              subst h
              have hr := (Run.onTrajectory_start hzero).advance hadv
              rw [Nat.zero_add] at hr
              obtain ⟨htimes, hstates⟩ := hr.record hzero
              have hlen := length_recordedSteps (min o.plannedSteps o.maxSteps) o.recordEvery
              rw [hrollout]
              refine ⟨Run.trajectory m policy o, rfl, hr.steps_ok, hr.history, hr.model_state,
                htimes, hstates, ?_, ?_, ?_⟩
              · rw [htimes]
                split <;> simp [hlen] <;> omega
              · rw [hstates]
                split <;> simp [hlen] <;> omega
              · rw [hstates, hr.model_state]
                exact getLast?_recorded (Run.trajectory m policy o) _ _

/-- A run to the end time `0` takes no step: it succeeds, leaves the model as it was, and records
time `0` and the model's state. -/
theorem rollout_to_time_zero_records_start :
    let range : Interval := ⟨0.0, 0.14, by decide, by decide, by decide⟩
    let m : Model := ⟨Vehicle.lateral {} range range range, ⟨[0.0, 0.0], []⟩⟩
    let policy : Policy := ⟨fun _ _ => [0.0, 0.0, 0.0]⟩
    let o : RunOptions := { tEnd := 0.0 }
    let out : Record := ⟨[0.0], [[0.0, 0.0]]⟩
    (rollout m policy o).2 = .ok out ∧ RunCommits m policy o (rollout m policy o).1 out := by
  intro range m policy o out
  have h : (rollout m policy o).2 = .ok out := by
    simp only [o]
    rfl
  exact ⟨h, rollout_commits_and_records h⟩

end Quadrotor
