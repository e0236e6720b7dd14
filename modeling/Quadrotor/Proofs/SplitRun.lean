import Quadrotor.Proofs.RunFailure
/-!
# Splitting a run in two

Under a policy whose control does not depend on the time, nothing a step computes depends on the
time of the step: the loop's control, the right-hand side and every stage of the integrator read
the time only through the policy (`Integrator.step_timeInvariant`). What a run carries into its
next step is then its model and its state (`Run.SameCourse`), and two runs that carry the same go
on alike, step for step, whatever their times, step counts and recordings
(`Run.SameCourse.advance`).

A run of `a + b` steps is a run of `a` steps followed by `b` more (`Run.advance_add`). A second
rollout starts at time zero from the model the first one left, whose state is the state the first
run reached (`Run.sameCourse_start`); so it goes on as the single run goes on after its `a`
steps, and both leave the same model, bit for bit.

## Main results

* `Integrator.step_timeInvariant` — a step does not depend on its time;
* `Run.SameCourse.advance` — runs that carry the same model and state go on alike;
* `Run.advance_add` — a run of `a + b` steps is a run of `a` steps and then of `b`;
* `split_rollout_same_course` — rollouts of `a` and then `b` steps succeed exactly when one
  rollout of `a + b` steps does, and leave the same model.
-/

namespace Quadrotor

/-- A policy whose control does not depend on the time. -/
def Policy.TimeInvariant (policy : Policy) : Prop :=
  ∀ t t' x, policy.control t x = policy.control t' x

/-! ### Steps that ignore the time -/

/-- The right-hand side of a loop whose policy ignores the time does not depend on the time. -/
theorem ClosedLoop.rhs_timeInvariant {sys : ClosedLoop} (hp : sys.policy.TimeInvariant)
    (t t' : Float) (x : List Float) : sys.rhs t x = sys.rhs t' x := by
  simp only [ClosedLoop.rhs, ClosedLoop.control, hp t t' x]

/-- **A step of a loop whose policy ignores the time does not depend on the time**: each of its
stages evaluates the right-hand side at the same state whatever the time. -/
theorem Integrator.step_timeInvariant {sys : ClosedLoop} (hp : sys.policy.TimeInvariant)
    (scheme : Integrator) (t t' dt : Float) (x : List Float) :
    scheme.step sys t x dt = scheme.step sys t' x dt := by
  cases scheme with
  | forwardEuler => simp only [step, ClosedLoop.rhs_timeInvariant hp t t']
  | rk4 =>
      simp only [step, ClosedLoop.rhs_timeInvariant hp t t',
        ClosedLoop.rhs_timeInvariant hp (t + 0.5 * dt) (t' + 0.5 * dt),
        ClosedLoop.rhs_timeInvariant hp (t + dt) (t' + dt)]

/-! ### Runs that carry the same -/

namespace Run

variable {policy : Policy} {o : RunOptions}

/-- Two runs carry the same into their next steps: the same model and the same state. -/
def SameCourse (r₁ r₂ : Run) : Prop := r₁.model = r₂.model ∧ r₁.state = r₂.state

theorem SameCourse.symm {r₁ r₂ : Run} (h : r₁.SameCourse r₂) : r₂.SameCourse r₁ :=
  ⟨h.1.symm, h.2.symm⟩

/-- A run from a model that took its `k` steps carries what a new run from the model it reached
carries: the model's state is the state the run reached. -/
theorem sameCourse_start {m : Model} {r : Run} {k : Nat} (hzero : Float.ofNat 0 * o.dt = 0.0)
    (h : Run.advance policy o k (start m) = (r, none)) : r.SameCourse (start r.model) := by
  have hr := (onTrajectory_start hzero).advance h
  exact ⟨rfl, hr.state.trans hr.model_state.symm⟩

/-- A step goes through once the integrator reached a state and the model accepted it; the run
then carries the new model and state. -/
theorem exists_next_eq_ok {r : Run} {x : List Float} {m' : Model}
    (hx : o.integrator.step ⟨r.model.vehicle, policy, o.clampControls⟩ r.time r.state o.dt =
      .ok x)
    (hm : r.model.advance x = .ok m') :
    ∃ r', r.next policy o = .ok r' ∧ r'.model = m' ∧ r'.state = x := by
  -- a state the model accepts is finite, so the run does not stop at it
  have hgood : x.any (fun v => !v.isFinite) = false := by
    simpa using (StateLog.admits_iff.1 (Model.admits_of_advance_eq_ok hm)).2
  unfold next
  dsimp only
  rw [hx, ok_bind, if_neg (by simp [hgood]), hm]
  split <;> exact ⟨_, rfl, rfl, rfl⟩

/-- **A step goes on alike from runs that carry the same**, under a policy that ignores the
time. -/
theorem SameCourse.next (hp : policy.TimeInvariant) {r₁ r₂ : Run} (h : r₁.SameCourse r₂)
    {a : Run} (ha : r₁.next policy o = .ok a) :
    ∃ b, r₂.next policy o = .ok b ∧ a.SameCourse b := by
  obtain ⟨x, m', hx, hm, rfl⟩ := next_eq_ok ha
  -- the second run steps from the same state with the same model; only its time differs
  have hx₂ : o.integrator.step ⟨r₂.model.vehicle, policy, o.clampControls⟩ r₂.time r₂.state o.dt =
      .ok x := by
    rw [← h.1, ← h.2, Integrator.step_timeInvariant hp _ r₂.time r₁.time]
    exact hx
  obtain ⟨b, hb, hbm, hbx⟩ := exists_next_eq_ok hx₂ (h.1 ▸ hm)
  exact ⟨b, hb, hbm.symm, hbx.symm⟩

/-- **Runs that carry the same go on alike**: after the same number of steps they carry the same,
and one of them stopped exactly when the other did. -/
theorem SameCourse.advance (hp : policy.TimeInvariant) {r₁ r₂ : Run} (h : r₁.SameCourse r₂)
    (n : Nat) :
    (Run.advance policy o n r₁).1.SameCourse (Run.advance policy o n r₂).1 ∧
      ((Run.advance policy o n r₁).2 = none ↔ (Run.advance policy o n r₂).2 = none) := by
  induction n generalizing r₁ r₂ with
  | zero => exact ⟨h, Iff.rfl⟩
  | succ n ih =>
      simp only [Run.advance]
      cases h₁ : r₁.next policy o with
      | ok a =>
          obtain ⟨b, h₂, hab⟩ := h.next hp h₁
          rw [h₂]
          exact ih hab
      | error e₁ =>
          -- the second run fails too: a success would make the first one succeed
          cases h₂ : r₂.next policy o with
          | ok b =>
              obtain ⟨a, h₁', -⟩ := h.symm.next hp h₂
              rw [h₁] at h₁'
              cases h₁'
          | error e₂ => exact ⟨h, by simp⟩

/-- **A run of `a + b` steps is a run of `a` steps and then of `b` more**, unless it stopped in
the first `a`. -/
theorem advance_add (a b : Nat) (r : Run) :
    Run.advance policy o (a + b) r =
      match Run.advance policy o a r with
      | (r', none) => Run.advance policy o b r'
      | (r', some e) => (r', some e) := by
  induction a generalizing r with
  | zero => rw [Nat.zero_add]; rfl
  | succ a ih =>
      rw [Nat.succ_add]
      simp only [Run.advance]
      cases r.next policy o with
      | ok r' => exact ih r'
      | error e => rfl

end Run

/-! ### Rollouts split in two -/

namespace RunOptions

/-- Options with two positive numbers of steps pass or fail their check alike. -/
theorem validate_withMaxSteps_congr (o : RunOptions) {k k' : Nat} (hk : 0 < k) (hk' : 0 < k') :
    { o with maxSteps := k }.validate = { o with maxSteps := k' }.validate := by
  simp [validate, Nat.pos_iff_ne_zero.1 hk, Nat.pos_iff_ne_zero.1 hk']

end RunOptions

/-- **Splitting a run does not change its course**, under a policy that ignores the time. With
options that differ only in their number of steps, `a`, `b` and `a + b`, all positive and at most
the planned number of steps: a rollout of `a` steps followed by a rollout of `b` steps from the
model it left succeed exactly when one rollout of `a + b` steps does, and then both leave the same
model, with the same state and history. -/
theorem split_rollout_same_course {m : Model} {policy : Policy} {o : RunOptions} {a b : Nat}
    (hp : policy.TimeInvariant) (ha : 0 < a) (hb : 0 < b) (hplanned : a + b ≤ o.plannedSteps) :
    let first := rollout m policy { o with maxSteps := a }
    let second := rollout first.1 policy { o with maxSteps := b }
    let whole := rollout m policy { o with maxSteps := a + b }
    ((∃ rec₁ rec₂, first.2 = .ok rec₁ ∧ second.2 = .ok rec₂) ↔ ∃ rec, whole.2 = .ok rec) ∧
      ∀ rec₁ rec₂, first.2 = .ok rec₁ → second.2 = .ok rec₂ → second.1 = whole.1 := by
  intro first second whole
  cases hv : { o with maxSteps := a + b }.validate with
  | error e =>
      -- the options fail their check for every positive number of steps, and nothing runs
      have hva : { o with maxSteps := a }.validate = .error e :=
        (RunOptions.validate_withMaxSteps_congr o ha (by omega)).trans hv
      have hfirst : first = (m, .error e) := rollout_of_validate_eq_error hva
      have hwhole : whole = (m, .error e) := rollout_of_validate_eq_error hv
      simp [hfirst, hwhole]
  | ok u =>
      -- all three rollouts pass the checks and are allowed all their steps
      cases u
      have hva : { o with maxSteps := a }.validate = .ok () :=
        (RunOptions.validate_withMaxSteps_congr o ha (by omega)).trans hv
      have hvb : { o with maxSteps := b }.validate = .ok () :=
        (RunOptions.validate_withMaxSteps_congr o hb (by omega)).trans hv
      have hfirst : first = Run.result _ (Run.advance policy o a (Run.start m)) :=
        rollout_withMaxSteps hva (by omega)
      have hwhole : whole = Run.result _ (Run.advance policy o (a + b) (Run.start m)) :=
        rollout_withMaxSteps hv hplanned
      rw [Run.advance_add] at hwhole
      cases hA : Run.advance policy o a (Run.start m) with
      | mk r stop =>
          rw [hA] at hfirst hwhole
          cases stop with
          | some e =>
              -- the first `a` steps stop both
              simp [hfirst, hwhole, Run.result]
          | none =>
              have hsecond : second =
                  Run.result { o with maxSteps := b } (Run.advance policy o b (Run.start r.model)) := by
                show rollout first.1 policy _ = _
                rw [hfirst, Run.result_fst]
                exact rollout_withMaxSteps hvb (by omega)
              -- the run after `a` steps is in its model's state, as a second rollout starts
              have hsame : r.SameCourse (Run.start r.model) :=
                Run.sameCourse_start (RunOptions.zero_mul_dt hva)
                  ((Run.advance_withMaxSteps a a (Run.start m)).trans hA)
              obtain ⟨hcourse, hstop⟩ := hsame.advance hp b
              rw [hsecond, hwhole, hfirst]
              refine ⟨⟨?_, ?_⟩, fun _ _ _ _ => ?_⟩
              · rintro ⟨-, rec₂, -, h₂⟩
                exact (Run.exists_result_eq_ok_iff _ _).2
                  (hstop.2 ((Run.exists_result_eq_ok_iff _ _).1 ⟨rec₂, h₂⟩))
              · rintro ⟨rec, h⟩
                obtain ⟨rec₂, h₂⟩ := (Run.exists_result_eq_ok_iff _ _).2
                  (hstop.1 ((Run.exists_result_eq_ok_iff _ _).1 ⟨rec, h⟩))
                exact ⟨_, rec₂, rfl, h₂⟩
              · simp only [Run.result_fst]
                exact hcourse.1.symm

/-- A lateral model under a constant control, run for one step and then for one more, ends as a
run of two steps does. -/
theorem constant_control_split_rollout :
    let range : Interval := ⟨0.0, 0.14, by decide, by decide, by decide⟩
    let m : Model := ⟨.lateral {} range range range, ⟨[0.0, 0.0], []⟩⟩
    let policy := Policy.constant [0.05, 0.05, 1.0]
    let o : RunOptions := { dt := 0.5, tEnd := 1.0 }
    policy.TimeInvariant ∧ 1 + 1 ≤ o.plannedSteps ∧
      let first := rollout m policy { o with maxSteps := 1 }
      let second := rollout first.1 policy { o with maxSteps := 1 }
      let whole := rollout m policy { o with maxSteps := 1 + 1 }
      ((∃ rec₁ rec₂, first.2 = .ok rec₁ ∧ second.2 = .ok rec₂) ↔ ∃ rec, whole.2 = .ok rec) ∧
        ∀ rec₁ rec₂, first.2 = .ok rec₁ → second.2 = .ok rec₂ → second.1 = whole.1 := by
  intro range m policy o
  have hp : policy.TimeInvariant := fun _ _ _ => rfl
  have hplanned : 1 + 1 ≤ o.plannedSteps := by
    simp only [o]
    decide
  exact ⟨hp, hplanned, split_rollout_same_course hp Nat.one_pos Nat.one_pos hplanned⟩

end Quadrotor
