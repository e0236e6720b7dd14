import Quadrotor.Proofs.History
import Quadrotor.Proofs.Pointwise
import Quadrotor.Proofs.Interval
/-!
# How a run can stop

A run stops with an error in three ways only. An option fails its check, and the model is left
untouched; the first failing check is reported, in the order: a positive finite step, a
non-negative finite end time, a positive number of steps, a positive recording interval
(`RunOptions.fault`). Or a stage of a step, at that stage's own time and state
(`Integrator.Stage`), meets a control whose length is not the model's (`ClosedLoop.ControlFault`).
Or a step reaches a state with an entry that is not finite. In the
last two cases the steps taken before stay committed, exactly as a run allowed only those steps
commits them, and the failing step commits nothing.

Nothing else can go wrong inside a run, because every state it meets has the model's dimension:
the model's state has it, the right-hand side of the loop gives a derivative of that length
whenever the control has the right length (`ClosedLoop.rhs_eq`), and so every stage of a step and
the step's result have it (`Integrator.step_length`). So the evaluation refuses nothing but the
control's length, it never gives arrays for a plain state, and the model never refuses a state
that the run found finite.

## Main results

* `Float.le_zero_or_not_finite_iff`, `Float.lt_zero_or_not_finite_iff` — the checks of the step
  and of the end time read as "positive and finite" and "non-negative and finite";
* `ClosedLoop.rhs_eq` — the right-hand side at a state of the model's dimension;
* `Integrator.step_eq_error` — a step fails only at one of its stages, whose control has the wrong
  length;
* `Run.advance_eq_some` — a run that stopped took its steps up to the one that failed;
* `rollout_stops_only_so` — the three ways a rollout stops, and what it leaves committed.
-/

/-! ### Comparing a double with zero -/

namespace Float

open Float.Model

theorem zero_toModel_unpack : (0 : Float).toModel.unpack = .zero .positive := rfl

/-- A double is at most zero or not finite exactly when it is not a positive finite double. -/
theorem le_zero_or_not_finite_iff (a : Float) :
    (decide (a ≤ 0) || !a.isFinite) = true ↔ ¬ (0 < a ∧ a.isFinite = true) := by
  rw [Bool.or_eq_true, decide_eq_true_iff, le_iff_unpack, lt_iff_unpack, isFinite_eq_unpack,
    zero_toModel_unpack]
  -- compare by the unpacked form: its sign and whether it is zero, finite, infinite or a NaN
  cases a.toModel.unpack with
  | finite s m e hm => cases s <;> simp [UnpackedFloat.le, UnpackedFloat.lt, UnpackedFloat.compare]
  | zero s => cases s <;> simp [UnpackedFloat.le, UnpackedFloat.lt, UnpackedFloat.compare]
  | infinity s =>
      cases s <;> simp [UnpackedFloat.le, UnpackedFloat.lt, UnpackedFloat.compare,
        UnpackedFloat.isFinite]
  | notANumber =>
      simp [UnpackedFloat.le, UnpackedFloat.lt, UnpackedFloat.compare, UnpackedFloat.isFinite]

/-- A double is below zero or not finite exactly when it is not a non-negative finite double. -/
theorem lt_zero_or_not_finite_iff (a : Float) :
    (decide (a < 0) || !a.isFinite) = true ↔ ¬ (0 ≤ a ∧ a.isFinite = true) := by
  rw [Bool.or_eq_true, decide_eq_true_iff, le_iff_unpack, lt_iff_unpack, isFinite_eq_unpack,
    zero_toModel_unpack]
  cases a.toModel.unpack with
  | finite s m e hm => cases s <;> simp [UnpackedFloat.le, UnpackedFloat.lt, UnpackedFloat.compare]
  | zero s => cases s <;> simp [UnpackedFloat.le, UnpackedFloat.lt, UnpackedFloat.compare]
  | infinity s =>
      cases s <;> simp [UnpackedFloat.le, UnpackedFloat.lt, UnpackedFloat.compare,
        UnpackedFloat.isFinite]
  | notANumber =>
      simp [UnpackedFloat.le, UnpackedFloat.lt, UnpackedFloat.compare, UnpackedFloat.isFinite]

end Float

namespace Quadrotor

namespace RunOptions

/-- The first option that fails its check, with the text that reports it: a step that is not a
positive finite double, an end time that is not a non-negative finite double, no step allowed, no
recording interval. -/
def fault (o : RunOptions) : Option String :=
  if ¬ (0 < o.dt ∧ o.dt.isFinite = true) then some "dt must be positive"
  else if ¬ (0 ≤ o.tEnd ∧ o.tEnd.isFinite = true) then some "t_end must be non-negative"
  else if o.maxSteps = 0 then some "max_steps must be positive"
  else if o.recordEvery = 0 then some "record_every must be positive"
  else none

/-- **The options are refused exactly with their first fault.** -/
theorem validate_eq_error_iff {o : RunOptions} {e : RunError} :
    o.validate = .error e ↔ ∃ msg, o.fault = some msg ∧ e = .invalidArg msg := by
  unfold validate fault
  simp only [Float.le_zero_or_not_finite_iff, Float.lt_zero_or_not_finite_iff]
  split_ifs <;> simp [eq_comm]

theorem validate_eq_ok_iff {o : RunOptions} : o.validate = .ok () ↔ o.fault = none := by
  unfold validate fault
  simp only [Float.le_zero_or_not_finite_iff, Float.lt_zero_or_not_finite_iff]
  split_ifs <;> simp

/-- Options that pass their check pass it with any positive number of steps. -/
theorem validate_withMaxSteps {o : RunOptions} (h : o.validate = .ok ()) {k : Nat} (hk : 0 < k) :
    { o with maxSteps := k }.validate = .ok () := by
  rw [validate_eq_ok_iff] at h ⊢
  unfold fault at h ⊢
  have hk' : k ≠ 0 := Nat.pos_iff_ne_zero.1 hk
  split_ifs at h with hdt htEnd hmax hrec
  simp [hdt, htEnd, hrec, hk']

end RunOptions

/-! ### The right-hand side of the loop -/

@[simp] theorem length_clampEach : ∀ (rs : List Interval) (vs : List Float),
    (clampEach rs vs).length = vs.length
  | _ :: rs, _ :: vs => by simp [clampEach, length_clampEach rs vs]
  | [], _ => rfl
  | _ :: _, [] => rfl

namespace ClosedLoop

variable {sys : ClosedLoop} {t : Float} {x : List Float}

/-- Clamping keeps the length of the policy's control. -/
@[simp] theorem length_control (sys : ClosedLoop) (t : Float) (x : List Float) :
    (sys.control t x).length = (sys.policy.control t x).length := by
  unfold control
  split <;> simp

/-- At the time `t` and the state `x` of the vehicle's dimension, the loop's policy gives a control
whose length is not the vehicle's, and `e` reports that length. -/
def ControlFault (sys : ClosedLoop) (t : Float) (x : List Float) (e : RunError) : Prop :=
  x.length = sys.vehicle.stateDim ∧ (sys.policy.control t x).length ≠ sys.vehicle.controlDim ∧
    e = .model (.lengthMismatch "control" sys.vehicle.controlDim (sys.policy.control t x).length)

/-- **The right-hand side at a state of the vehicle's dimension** is the list of components at the
state under the loop's control when the control has the vehicle's length, and the report of the
control's length otherwise. -/
theorem rhs_eq (hx : x.length = sys.vehicle.stateDim) :
    sys.rhs t x =
      if (sys.control t x).length = sys.vehicle.controlDim then
        .ok ((List.range sys.vehicle.stateDim).map fun d =>
          sys.vehicle.component d x (sys.control t x))
      else .error (.model (.lengthMismatch "control" sys.vehicle.controlDim
        (sys.control t x).length)) := by
  unfold rhs
  split_ifs with hu
  · rw [Vehicle.derivative, Vehicle.evaluate_scalar (fun d hd => List.mem_range.1 hd) hx hu]
  · have hu' : (sys.policy.control t x).length ≠ sys.vehicle.controlDim := by simpa using hu
    have hfault : sys.vehicle.evaluationFault (.scalar x) (.scalar (sys.control t x)) =
        some (.lengthMismatch "control" sys.vehicle.controlDim (sys.control t x).length) := by
      simp [Vehicle.evaluationFault, Encoding.length, hx, hu']
    rw [Vehicle.derivative_eq_error_iff.2 hfault]

/-- The right-hand side at a state of the vehicle's dimension has that dimension. -/
theorem length_of_rhs_eq_ok (hx : x.length = sys.vehicle.stateDim) {k : List Float}
    (h : sys.rhs t x = .ok k) : k.length = sys.vehicle.stateDim := by
  rw [rhs_eq hx] at h
  split_ifs at h
  cases h
  simp

/-- The right-hand side at a state of the vehicle's dimension fails only for the control's
length. -/
theorem controlFault_of_rhs_eq_error (hx : x.length = sys.vehicle.stateDim) {e : RunError}
    (h : sys.rhs t x = .error e) : sys.ControlFault t x e := by
  rw [rhs_eq hx] at h
  split_ifs at h with hu
  cases h
  exact ⟨hx, by simpa using hu, by simp⟩

end ClosedLoop

/-! ### One step -/

/-- `x + k · h` has the length of `x` and `k` when they have one. -/
theorem length_shiftBy {x k : List Float} {n : Nat} (hx : x.length = n) (hk : k.length = n)
    (h : Float) : (shiftBy x k h).length = n := by
  simp [shiftBy, hx, hk]

/-- A step that fails failed at its first failing stage. -/
theorem bind_eq_error {ε α β : Type} {x : Except ε α} {f : α → Except ε β} {e : ε}
    (h : (x >>= f) = .error e) : x = .error e ∨ ∃ a, x = .ok a ∧ f a = .error e := by
  cases x with
  | error e' =>
      have he : e' = e := Except.error.inj h
      exact .inl (by rw [he])
  | ok a => exact .inr ⟨a, rfl, h⟩

namespace Integrator

/-- The times and states at which one step of a scheme from the time `t` and the state `x`
evaluates the right-hand side of the loop: `(t, x)` first, and for the classical fourth-order
scheme, once the slopes before it are found, `(t + dt/2, x + k₁ · dt/2)`,
`(t + dt/2, x + k₂ · dt/2)` and `(t + dt, x + k₃ · dt)`. -/
inductive Stage (sys : ClosedLoop) (t : Float) (x : List Float) (dt : Float) :
    Integrator → Float → List Float → Prop
  | start (scheme : Integrator) : Stage sys t x dt scheme t x
  | second {k1 : List Float} : sys.rhs t x = .ok k1 →
      Stage sys t x dt .rk4 (t + 0.5 * dt) (shiftBy x k1 (0.5 * dt))
  | third {k1 k2 : List Float} : sys.rhs t x = .ok k1 →
      sys.rhs (t + 0.5 * dt) (shiftBy x k1 (0.5 * dt)) = .ok k2 →
      Stage sys t x dt .rk4 (t + 0.5 * dt) (shiftBy x k2 (0.5 * dt))
  | fourth {k1 k2 k3 : List Float} : sys.rhs t x = .ok k1 →
      sys.rhs (t + 0.5 * dt) (shiftBy x k1 (0.5 * dt)) = .ok k2 →
      sys.rhs (t + 0.5 * dt) (shiftBy x k2 (0.5 * dt)) = .ok k3 →
      Stage sys t x dt .rk4 (t + dt) (shiftBy x k3 dt)

variable {sys : ClosedLoop} {t dt : Float} {x : List Float}

/-- **A step from a state of the vehicle's dimension** reaches a state of that dimension. -/
theorem step_length (scheme : Integrator) (hx : x.length = sys.vehicle.stateDim)
    {y : List Float} (h : scheme.step sys t x dt = .ok y) : y.length = sys.vehicle.stateDim := by
  cases scheme with
  | forwardEuler =>
      obtain ⟨f, hf, h⟩ := bind_eq_ok h
      cases h
      exact length_shiftBy hx (ClosedLoop.length_of_rhs_eq_ok hx hf) dt
  | rk4 =>
      -- every stage starts from a state of the vehicle's dimension and gives a derivative of it
      obtain ⟨k1, hk1, h⟩ := bind_eq_ok h
      have h1 := ClosedLoop.length_of_rhs_eq_ok hx hk1
      obtain ⟨k2, hk2, h⟩ := bind_eq_ok h
      have h2 := ClosedLoop.length_of_rhs_eq_ok (length_shiftBy hx h1 _) hk2
      obtain ⟨k3, hk3, h⟩ := bind_eq_ok h
      have h3 := ClosedLoop.length_of_rhs_eq_ok (length_shiftBy hx h2 _) hk3
      obtain ⟨k4, hk4, h⟩ := bind_eq_ok h
      have h4 := ClosedLoop.length_of_rhs_eq_ok (length_shiftBy hx h3 _) hk4
      cases h
      exact length_shiftBy hx (by simp [h1, h2, h3, h4]) _

/-- **A step fails only at one of its stages, whose control has the wrong length**: the policy's
control at that stage's own time and state, all stages before it having found their slopes. -/
theorem step_eq_error (scheme : Integrator) (hx : x.length = sys.vehicle.stateDim)
    {e : RunError} (h : scheme.step sys t x dt = .error e) :
    ∃ t' x', scheme.Stage sys t x dt t' x' ∧ sys.ControlFault t' x' e := by
  cases scheme with
  | forwardEuler =>
      rcases bind_eq_error h with hf | ⟨f, -, h⟩
      · exact ⟨t, x, .start _, ClosedLoop.controlFault_of_rhs_eq_error hx hf⟩
      · cases h
  | rk4 =>
      -- the first stage that fails is one of the four evaluations of the right-hand side
      rcases bind_eq_error h with hk1 | ⟨k1, hk1, h⟩
      · exact ⟨t, x, .start _, ClosedLoop.controlFault_of_rhs_eq_error hx hk1⟩
      have hx2 := length_shiftBy hx (ClosedLoop.length_of_rhs_eq_ok hx hk1) (0.5 * dt)
      rcases bind_eq_error h with hk2 | ⟨k2, hk2, h⟩
      · exact ⟨_, _, .second hk1, ClosedLoop.controlFault_of_rhs_eq_error hx2 hk2⟩
      have hx3 := length_shiftBy hx (ClosedLoop.length_of_rhs_eq_ok hx2 hk2) (0.5 * dt)
      rcases bind_eq_error h with hk3 | ⟨k3, hk3, h⟩
      · exact ⟨_, _, .third hk1 hk2, ClosedLoop.controlFault_of_rhs_eq_error hx3 hk3⟩
      have hx4 := length_shiftBy hx (ClosedLoop.length_of_rhs_eq_ok hx3 hk3) dt
      rcases bind_eq_error h with hk4 | ⟨k4, -, h⟩
      · exact ⟨_, _, .fourth hk1 hk2 hk3, ClosedLoop.controlFault_of_rhs_eq_error hx4 hk4⟩
      · cases h

end Integrator

/-! ### Runs that stop -/

namespace Run

variable {m : Model} {policy : Policy} {o : RunOptions}

/-- A step reads the options' step, scheme, clamping and recording interval, never their number
of steps. -/
theorem next_withMaxSteps (r : Run) (k : Nat) :
    r.next policy { o with maxSteps := k } = r.next policy o := rfl

theorem advance_withMaxSteps (k n : Nat) (r : Run) :
    advance policy { o with maxSteps := k } n r = advance policy o n r := by
  induction n generalizing r with
  | zero => rfl
  | succ n ih => simp only [advance, next_withMaxSteps, ih]

/-- **A run that stopped took its steps up to the one that failed**: it stopped after `k` of its
`n` steps, where `k` steps succeed and the next one fails. -/
theorem advance_eq_some {n : Nat} {r r' : Run} {e : RunError}
    (h : advance policy o n r = (r', some e)) :
    ∃ k < n, advance policy o k r = (r', none) ∧ r'.next policy o = .error e := by
  induction n generalizing r with
  | zero => simp [advance] at h
  | succ n ih =>
      simp only [advance] at h
      cases hn : r.next policy o with
      | error e' =>
          rw [hn] at h
          simp only [Prod.mk.injEq, Option.some.injEq] at h
          obtain ⟨rfl, rfl⟩ := h
          exact ⟨0, Nat.succ_pos n, rfl, hn⟩
      | ok r'' =>
          rw [hn] at h
          obtain ⟨k, hk, hrun, hnext⟩ := ih h
          refine ⟨k + 1, Nat.succ_lt_succ hk, ?_, hnext⟩
          simp [advance, hn, hrun]

/-- What a failing step is made of: the integrator failed, or it reached a state with an entry that
is not finite, reported at the time of the step, or the model refused the state it reached. -/
theorem next_eq_error {r : Run} {e : RunError} (h : r.next policy o = .error e) :
    o.integrator.step ⟨r.model.vehicle, policy, o.clampControls⟩ r.time r.state o.dt = .error e ∨
    (∃ x, o.integrator.step ⟨r.model.vehicle, policy, o.clampControls⟩ r.time r.state o.dt =
        .ok x ∧ x.any (fun v => !v.isFinite) = true ∧
      e = .nonPhysical "non-finite state" (Float.ofNat (r.steps + 1) * o.dt)) ∨
    ∃ x e', o.integrator.step ⟨r.model.vehicle, policy, o.clampControls⟩ r.time r.state o.dt =
        .ok x ∧ x.any (fun v => !v.isFinite) = false ∧ r.model.advance x = .error e' ∧
      e = .model e' := by
  unfold next at h
  dsimp only at h
  rcases bind_eq_error h with hx | ⟨x, hx, h⟩
  · exact .inl hx
  · split at h
    · next hbad =>
        cases h
        exact .inr (.inl ⟨x, hx, hbad, rfl⟩)
    · next hgood =>
        rcases bind_eq_error h with hm | ⟨m', -, h⟩
        · cases hm' : r.model.advance x with
          | error e' =>
              rw [hm'] at hm
              cases hm
              exact .inr (.inr ⟨x, e', hx, by simpa using hgood, hm', rfl⟩)
          | ok m' =>
              rw [hm'] at hm
              cases hm
        · split at h <;> cases h

/-- The states of a run of a model whose state has its dimension all have that dimension. -/
theorem trajectory_length (hm : m.state.length = m.vehicle.stateDim) (k : Nat) :
    (trajectory m policy o k).length = m.vehicle.stateDim := by
  induction k with
  | zero => exact hm
  | succ k ih =>
      rw [trajectory]
      split
      · next x hx => exact Integrator.step_length _ ih hx
      · exact ih

end Run

/-! ### Rollouts that stop -/

/-- How step `k + 1` of a run of `m` under `policy` with the options `o` may fail with the error
`e`: from state `k` of the trajectory at the time `k · dt`, a stage of the step meets, at its own
time and state, a control of the wrong length, or the step reaches a state with an entry that is
not finite, reported at the time `(k + 1) · dt`. -/
def StepStops (m : Model) (policy : Policy) (o : RunOptions) (k : Nat) (e : RunError) : Prop :=
  let sys : ClosedLoop := ⟨m.vehicle, policy, o.clampControls⟩
  let t := Float.ofNat k * o.dt
  (o.integrator.step sys t (Run.trajectory m policy o k) o.dt = .error e ∧
    ∃ t' x', o.integrator.Stage sys t (Run.trajectory m policy o k) o.dt t' x' ∧
      sys.ControlFault t' x' e) ∨
  (∃ x, o.integrator.step sys t (Run.trajectory m policy o k) o.dt = .ok x ∧
    x.any (fun v => !v.isFinite) = true ∧
    e = .nonPhysical "non-finite state" (Float.ofNat (k + 1) * o.dt))

/-- How a run of `m` under `policy` with the options `o` may stop with the error `e`, leaving the
model `m'`. Either an option fails its check, the first in order being reported, and the model is
untouched. Or the run stops at step `k + 1` of its `n = min plannedSteps maxSteps` steps as
`StepStops` says, and the `k` steps before left `m'` exactly as a run allowed `k` steps leaves the
model (`m` itself for `k = 0`): its history gained the states `0` to `k - 1` of the trajectory
and its state is state `k`, so the failed step committed nothing. -/
def RunStops (m : Model) (policy : Policy) (o : RunOptions) (m' : Model) (e : RunError) : Prop :=
  (∃ msg, o.fault = some msg ∧ e = .invalidArg msg ∧ m' = m) ∨
  ∃ k < min o.plannedSteps o.maxSteps,
    (k = 0 → m' = m) ∧
    (0 < k → ∃ rec, rollout m policy { o with maxSteps := k } = (m', .ok rec)) ∧
    m'.history = m.history ++ (List.range k).map (Run.trajectory m policy o) ∧
    m'.state = Run.trajectory m policy o k ∧
    StepStops m policy o k e

/-- **A step of a run on the trajectory fails only in two ways**, for a model whose state has the
model's dimension: the integrator meets a control of the wrong length, or it reaches a state that
is not finite. The model never refuses the state a step reaches, since that state has the model's
dimension and the run found it finite. -/
theorem Run.OnTrajectory.next_eq_error {m : Model} {policy : Policy} {o : RunOptions} {r : Run}
    {k : Nat} (hr : r.OnTrajectory m policy o k) (hm : m.state.length = m.vehicle.stateDim)
    {e : RunError} (h : r.next policy o = .error e) : StepStops m policy o k e := by
  have hlen : (Run.trajectory m policy o k).length = m.vehicle.stateDim := Run.trajectory_length hm k
  rcases Run.next_eq_error h with hstep | ⟨x, hx, hbad, rfl⟩ | ⟨x, e', hx, hgood, hadvance, rfl⟩
  · rw [hr.vehicle, hr.time, hr.state] at hstep
    exact .inl ⟨hstep, Integrator.step_eq_error _ hlen hstep⟩
  · rw [hr.vehicle, hr.time, hr.state] at hx
    exact .inr ⟨x, hx, hbad, by rw [hr.steps]⟩
  · rw [hr.vehicle, hr.time, hr.state] at hx
    have hdim : r.model.log.dim = r.model.vehicle.stateDim := by
      show r.model.state.length = _
      rw [hr.model_state, hr.vehicle, hlen]
    have hadmits : StateLog.admits m.vehicle.stateDim x = true :=
      StateLog.admits_iff.2 ⟨Integrator.step_length _ hlen hx, by simpa using hgood⟩
    rw [Model.advance_eq_error_iff hdim, hr.vehicle, StateLog.refusal_eq_none_iff.2 hadmits]
      at hadvance
    cases hadvance

section Rollouts

variable {m : Model} {policy : Policy} {o : RunOptions}

/-- A run allowed another number of steps plans the same steps. -/
theorem RunOptions.plannedSteps_withMaxSteps (o : RunOptions) (k : Nat) :
    { o with maxSteps := k }.plannedSteps = o.plannedSteps := rfl

/-- A rollout allowed `k` of its planned steps is the run of `k` steps from the model. -/
theorem rollout_withMaxSteps {k : Nat} (hv : { o with maxSteps := k }.validate = .ok ())
    (hk : k ≤ o.plannedSteps) :
    rollout m policy { o with maxSteps := k } =
      Run.result { o with maxSteps := k } (Run.advance policy o k (Run.start m)) := by
  rw [rollout_of_validate_eq_ok hv, RunOptions.plannedSteps_withMaxSteps,
    Nat.min_eq_right hk, Run.advance_withMaxSteps]

/-- **A rollout stops only in three ways**, for a model whose state has the model's dimension, as
every model built and moved on has: an option fails its check and the model is untouched, or a
step meets a control of the wrong length or reaches a state that is not finite, and the model keeps
exactly the steps before it. The evaluation's other errors, a plain state giving arrays, and a
refusal by the model never stop a run. -/
theorem rollout_stops_only_so {e : RunError} (hm : m.state.length = m.vehicle.stateDim)
    (h : (rollout m policy o).2 = .error e) : RunStops m policy o (rollout m policy o).1 e := by
  cases hv : o.validate with
  | error e' =>
      rw [rollout_of_validate_eq_error hv] at h ⊢
      cases h
      obtain ⟨msg, hmsg, rfl⟩ := RunOptions.validate_eq_error_iff.1 hv
      exact .inl ⟨msg, hmsg, rfl, rfl⟩
  | ok u =>
      rw [rollout_of_validate_eq_ok hv] at h ⊢
      cases hadv : Run.advance policy o (min o.plannedSteps o.maxSteps) (Run.start m) with
      | mk r stop =>
          rw [hadv] at h
          cases stop with
          | none => cases h
          | some e' =>
              cases h
              -- the run took `k` steps, on the trajectory, and failed at the next one
              obtain ⟨k, hk, hrun, hnext⟩ := Run.advance_eq_some hadv
              have hr := (Run.onTrajectory_start (RunOptions.zero_mul_dt hv)).advance hrun
              rw [Nat.zero_add] at hr
              refine .inr ⟨k, hk, ?_, ?_, hr.history, hr.model_state, hr.next_eq_error hm hnext⟩
              · rintro rfl
                have hr0 : Run.start m = r := congrArg Prod.fst hrun
                rw [← hr0]
                rfl
              · -- a run allowed `k` steps takes the same `k` steps and succeeds
                intro hkpos
                rw [rollout_withMaxSteps (RunOptions.validate_withMaxSteps hv hkpos) (by omega),
                  hrun]
                exact ⟨_, rfl⟩

end Rollouts

/-- A lateral model driven by a policy that gives two controls where the model takes three stops
at the first stage of its first step, with the model untouched. -/
theorem rollout_stops_at_short_control :
    let range : Interval := ⟨0.0, 0.14, by decide, by decide, by decide⟩
    let m : Model := ⟨.lateral {} range range range, ⟨[0.0, 0.0], []⟩⟩
    let policy : Policy := ⟨fun _ _ => [0.05, 0.05]⟩
    let o : RunOptions := { tEnd := 0.01 }
    m.state.length = m.vehicle.stateDim ∧
      (rollout m policy o).2 = .error (.model (.lengthMismatch "control" 3 2)) ∧
      RunStops m policy o (rollout m policy o).1 (.model (.lengthMismatch "control" 3 2)) := by
  intro range m policy o
  have hm : m.state.length = m.vehicle.stateDim := rfl
  have h : (rollout m policy o).2 = .error (.model (.lengthMismatch "control" 3 2)) := by
    simp only [o]
    rfl
  exact ⟨hm, h, rollout_stops_only_so hm h⟩

end Quadrotor
