import Quadrotor.Proofs.RunFailure
/-!
# Clamping the controls of a closed loop

With clamping on, the control a closed loop hands its vehicle is the policy's, each channel that
has a range clamped to it; channels past the vehicle's ranges are left alone
(`ClosedLoop.getElem?_control`). With clamping off it is the policy's control as it is.

A run reads its policy and the clamping flag only through the loop's control: two ways of
driving a vehicle that hand it the same control at every time and state give the same right-hand
side, the same steps with every stage of the integrator, and so the same rollout, bit for bit
(`rollout_congr`). Two consequences:

* a rollout with clamping is the rollout without clamping under the clamped policy
  (`rollout_clamp_eq`), so every control the vehicle is handed, at every stage of every step, is
  a clamped one, with each channel that has a range and is not a NaN inside its range;
* under a policy whose every channel already lies in its range, clamping changes nothing, as a
  double inside a range is clamped to itself (`rollout_clamp_irrelevant`).

## Main results

* `getElem?_clampEach` — each channel clamped to the range at its position;
* `rollout_congr` — rollouts that hand the vehicle the same controls coincide;
* `closed_loop_clamps_controls` — the control with and without clamping, and what clamping means
  for a whole rollout.
-/

namespace Quadrotor

/-! ### Clamping channel by channel -/

/-- **Each channel is clamped to the range at its position**, and left as it is past the ranges. -/
theorem getElem?_clampEach : ∀ (rs : List Interval) (vs : List Float) (i : Nat),
    (clampEach rs vs)[i]? = match rs[i]? with
      | some r => vs[i]?.map r.clamp
      | none => vs[i]?
  | r :: rs, v :: vs, 0 => by simp [clampEach]
  | r :: rs, v :: vs, i + 1 => by simp [clampEach, getElem?_clampEach rs vs i]
  | [], vs, i => by simp [clampEach]
  | r :: rs, [], 0 => by simp [clampEach]
  | r :: rs, [], i + 1 => by cases h : rs[i]? <;> simp [clampEach, h]

/-- Values each lying in the range at its position, as far as both go. -/
def WithinRanges (rs : List Interval) (vs : List Float) : Prop :=
  ∀ i (hr : i < rs.length) (hv : i < vs.length), rs[i].contains vs[i] = true

/-- Values already in their ranges are clamped to themselves. -/
theorem clampEach_eq_self : ∀ {rs : List Interval} {vs : List Float}, WithinRanges rs vs →
    clampEach rs vs = vs
  | r :: rs, v :: vs, h => by
      have hv : r.contains v = true := h 0 (by simp) (by simp)
      have hrest : WithinRanges rs vs := fun i hr hv =>
        h (i + 1) (by simpa using hr) (by simpa using hv)
      rw [clampEach, r.clamp_eq_self_of_contains hv, clampEach_eq_self hrest]
  | [], _, _ => rfl
  | _ :: _, [], _ => rfl

namespace Policy

/-- The policy giving the policy's controls clamped channel by channel to the ranges `rs`. -/
def clampedTo (policy : Policy) (rs : List Interval) : Policy :=
  ⟨fun t x => clampEach rs (policy.control t x)⟩

/-- A policy whose every control lies in the ranges `rs`, channel by channel. -/
def WithinBounds (policy : Policy) (rs : List Interval) : Prop :=
  ∀ t x, WithinRanges rs (policy.control t x)

end Policy

/-! ### The control of a closed loop -/

namespace ClosedLoop

variable {sys : ClosedLoop} {t : Float} {x : List Float}

theorem control_of_clamp_false (h : sys.clamp = false) :
    sys.control t x = sys.policy.control t x := by
  simp [control, h]

theorem control_of_clamp_true (h : sys.clamp = true) :
    sys.control t x = clampEach sys.vehicle.controlBounds (sys.policy.control t x) := by
  simp [control, h]

/-- With clamping on, each channel that has a range is the policy's clamped to it, and the others
are the policy's. -/
theorem getElem?_control (h : sys.clamp = true) (i : Nat) :
    (sys.control t x)[i]? = match sys.vehicle.controlBounds[i]? with
      | some r => (sys.policy.control t x)[i]?.map r.clamp
      | none => (sys.policy.control t x)[i]? := by
  rw [control_of_clamp_true h, getElem?_clampEach]

/-- **With clamping on, a channel that has a range and is not a NaN lands in its range.** -/
theorem contains_control (h : sys.clamp = true) {i : Nat}
    (hr : i < sys.vehicle.controlBounds.length) (hp : i < (sys.policy.control t x).length)
    (hnan : (sys.policy.control t x)[i].isNaN = false) :
    (sys.control t x)[i]? =
        some (sys.vehicle.controlBounds[i].clamp (sys.policy.control t x)[i]) ∧
      sys.vehicle.controlBounds[i].contains
        (sys.vehicle.controlBounds[i].clamp (sys.policy.control t x)[i]) = true := by
  refine ⟨?_, Interval.contains_clamp _ hnan⟩
  rw [getElem?_control h, List.getElem?_eq_getElem hr, List.getElem?_eq_getElem hp]
  rfl

/-- The right-hand side reads the policy and the clamping flag only through the control. -/
theorem rhs_congr {sys₁ sys₂ : ClosedLoop} (hv : sys₁.vehicle = sys₂.vehicle)
    (hc : ∀ t x, sys₁.control t x = sys₂.control t x) : sys₁.rhs = sys₂.rhs := by
  funext t x
  simp only [rhs, hc, hv]

end ClosedLoop

/-- A step reads the loop only through its right-hand side, at every stage. -/
theorem Integrator.step_congr (scheme : Integrator) {sys₁ sys₂ : ClosedLoop}
    (h : sys₁.rhs = sys₂.rhs) : scheme.step sys₁ = scheme.step sys₂ := by
  funext t x dt
  cases scheme <;> simp only [step, h]

/-! ### Runs that hand the vehicle the same controls -/

/-- Driving the vehicle `v` by `policy₁` with clamping `clamp₁` and by `policy₂` with clamping
`clamp₂` hands it the same control at every time and state. -/
def SameControls (v : Vehicle) (policy₁ : Policy) (clamp₁ : Bool) (policy₂ : Policy)
    (clamp₂ : Bool) : Prop :=
  ∀ t x, (ClosedLoop.mk v policy₁ clamp₁).control t x = (ClosedLoop.mk v policy₂ clamp₂).control t x

section SameControls

variable {v : Vehicle} {policy₁ policy₂ : Policy} {clamp₁ clamp₂ : Bool} {o : RunOptions}

/-- A step keeps the vehicle of the run. -/
theorem Run.vehicle_next {policy : Policy} {r r' : Run} (h : r.next policy o = .ok r') :
    r'.model.vehicle = r.model.vehicle := by
  obtain ⟨x, m', -, hm, rfl⟩ := Run.next_eq_ok h
  exact (Model.advance_eq_ok hm).1

/-- One step of runs that hand the vehicle the same controls. -/
theorem Run.next_congr (h : SameControls v policy₁ clamp₁ policy₂ clamp₂) {r : Run}
    (hr : r.model.vehicle = v) :
    r.next policy₁ { o with clampControls := clamp₁ } =
      r.next policy₂ { o with clampControls := clamp₂ } := by
  have hstep := o.integrator.step_congr (@ClosedLoop.rhs_congr ⟨r.model.vehicle, policy₁, clamp₁⟩
    ⟨r.model.vehicle, policy₂, clamp₂⟩ rfl (hr ▸ h))
  simp only [Run.next, hstep]

/-- **Runs that hand the vehicle the same controls go on alike**, step for step, from any run of
the vehicle. -/
theorem Run.advance_congr (h : SameControls v policy₁ clamp₁ policy₂ clamp₂) (n : Nat) :
    ∀ r : Run, r.model.vehicle = v →
      Run.advance policy₁ { o with clampControls := clamp₁ } n r =
        Run.advance policy₂ { o with clampControls := clamp₂ } n r := by
  induction n with
  | zero => exact fun _ _ => rfl
  | succ n ih =>
      intro r hr
      simp only [Run.advance]
      rw [Run.next_congr h hr]
      cases hn : r.next policy₂ { o with clampControls := clamp₂ } with
      | ok r' => exact ih r' ((Run.vehicle_next hn).trans hr)
      | error e => rfl

/-- **Rollouts that hand the vehicle the same controls coincide**: the same model, and the same
record or error. -/
theorem rollout_congr {m : Model} (h : SameControls m.vehicle policy₁ clamp₁ policy₂ clamp₂) :
    rollout m policy₁ { o with clampControls := clamp₁ } =
      rollout m policy₂ { o with clampControls := clamp₂ } := by
  -- the options' check, step count and recording do not read the clamping flag
  have hv : { o with clampControls := clamp₁ }.validate =
      { o with clampControls := clamp₂ }.validate := rfl
  cases hval : { o with clampControls := clamp₂ }.validate with
  | error e =>
      rw [rollout_of_validate_eq_error (hv.trans hval), rollout_of_validate_eq_error hval]
  | ok u =>
      rw [rollout_of_validate_eq_ok (hv.trans hval), rollout_of_validate_eq_ok hval,
        Run.advance_congr h _ _ rfl]
      rfl

end SameControls

/-- A rollout with clamping is the rollout without clamping under the clamped policy. -/
theorem rollout_clamp_eq (m : Model) (policy : Policy) (o : RunOptions) :
    rollout m policy { o with clampControls := true } =
      rollout m (policy.clampedTo m.vehicle.controlBounds) { o with clampControls := false } :=
  rollout_congr fun _ _ => rfl

/-- Under a policy whose controls already lie in the vehicle's ranges, clamping changes nothing. -/
theorem rollout_clamp_irrelevant {m : Model} {policy : Policy}
    (h : policy.WithinBounds m.vehicle.controlBounds) (o : RunOptions) :
    rollout m policy { o with clampControls := true } =
      rollout m policy { o with clampControls := false } :=
  rollout_congr fun t x => clampEach_eq_self (h t x)

/-- **Clamping the controls of a closed loop.** Without clamping, the loop's control is the
policy's. With clamping, each channel that has a range is the policy's clamped to it and the others
are left as they are; a channel that has a range and is not a NaN then lies in it. A rollout with
clamping is the rollout without clamping under the policy clamped to the model's ranges, so the
vehicle is handed clamped controls only, at every stage of every step of the integrator. And under
a policy whose every channel already lies in its range, a rollout gives the same model and the
same record, or error, bit for bit, with clamping on or off. -/
theorem closed_loop_clamps_controls :
    (∀ (sys : ClosedLoop) t x, sys.clamp = false → sys.control t x = sys.policy.control t x) ∧
    (∀ (sys : ClosedLoop) t x (i : Nat), sys.clamp = true →
      (sys.control t x)[i]? = match sys.vehicle.controlBounds[i]? with
        | some r => (sys.policy.control t x)[i]?.map r.clamp
        | none => (sys.policy.control t x)[i]?) ∧
    (∀ (sys : ClosedLoop) t x (i : Nat) (hr : i < sys.vehicle.controlBounds.length)
      (hp : i < (sys.policy.control t x).length), sys.clamp = true →
      (sys.policy.control t x)[i].isNaN = false →
      (sys.control t x)[i]? =
          some (sys.vehicle.controlBounds[i].clamp (sys.policy.control t x)[i]) ∧
        sys.vehicle.controlBounds[i].contains
          (sys.vehicle.controlBounds[i].clamp (sys.policy.control t x)[i]) = true) ∧
    (∀ (m : Model) (policy : Policy) (o : RunOptions),
      rollout m policy { o with clampControls := true } =
        rollout m (policy.clampedTo m.vehicle.controlBounds) { o with clampControls := false }) ∧
    ∀ (m : Model) (policy : Policy) (o : RunOptions), policy.WithinBounds m.vehicle.controlBounds →
      rollout m policy { o with clampControls := true } =
        rollout m policy { o with clampControls := false } :=
  ⟨fun _ _ _ h => ClosedLoop.control_of_clamp_false h,
    fun _ _ _ i h => ClosedLoop.getElem?_control h i,
    fun _ _ _ _ hr hp h hnan => ClosedLoop.contains_control h hr hp hnan,
    rollout_clamp_eq, fun _ _ o h => rollout_clamp_irrelevant h o⟩

end Quadrotor
