import Quadrotor.Proofs.PartitionSafety
/-!
# Any failing part may be the one reported

A pool that evaluates the parts of a split batch at once and collects their results gives up at
the first failure it meets. Which part that is depends on the schedule, so the pool reports the
error of some failing part, not necessarily the leftmost one that `evaluatePartitioned` reports.
`Vehicle.PoolOutcome` holds every outcome such a pool may give: that of `evaluatePartitioned`,
which is the joined result when every part succeeds, and the error of each failing part.

What holds of the partitioned evaluation holds of every such outcome. Every error a pool may
report is an input fault: never a panic of the array library, an invariant violation or a failed
join (`poolOutcome_error_isInputFault`). On the inputs that do not diverge, every outcome is the
single evaluation's. There a part fails only when the control has the wrong length, and then it
fails with the single evaluation's error (`poolOutcome_eq_derivative_iff`).

## Main results

* `Vehicle.partResult_eq_error_of_not_diverges` — on such inputs a part fails only as the whole
  does;
* `Vehicle.poolOutcome_error_isInputFault` — a pool reports only input faults;
* `Vehicle.poolOutcome_eq_derivative_iff` — every outcome of a pool is the single evaluation's
  exactly on the inputs that do not diverge.
-/

namespace Quadrotor

namespace Vehicle

/-- The outcomes a pool that evaluates the parts of a split batch at once may report: the outcome
of `evaluatePartitioned`, and, when the batch is split, the error of any part that fails. -/
inductive PoolOutcome (v : Vehicle) (state control : Encoding) (partitions : Nat) :
    Except ModelError Encoding → Prop
  /-- The outcome in the parts' order: the evaluation that does not split, the joined parts, or
  the leftmost failing part. -/
  | inOrder : PoolOutcome v state control partitions (v.evaluatePartitioned state control partitions)
  /-- The error of a failing part of a split batch, wherever it lies. -/
  | partFails {xs : List Grid} {rows : Nat} {t : Shape} {r : Nat × Nat} {e : ModelError} :
      state = .batched xs → xs.length = v.stateDim → commonShape xs = .ok (rows :: t) →
      2 ≤ partitions → 2 ≤ rows → r ∈ partitionRows rows partitions →
      v.partResult xs control (rows :: t).length rows r = .error e →
      PoolOutcome v state control partitions (.error e)

/-- **On inputs that do not diverge, a part fails only as the whole does.** A control of the right
length then broadcasts to the state's shape, and every part succeeds; a control of the wrong
length is refused by every part with the single evaluation's error. -/
theorem partResult_eq_error_of_not_diverges {v : Vehicle} {xs : List Grid} {control : Encoding}
    {partitions rows : Nat} {t : Shape}
    (h : ¬ v.PartitionDiverges (.batched xs) control partitions) (hx : xs.length = v.stateDim)
    (hS : commonShape xs = .ok (rows :: t)) (hp : 2 ≤ partitions) (hrows : 2 ≤ rows)
    {r : Nat × Nat} (hr : r ∈ partitionRows rows partitions) {e : ModelError}
    (he : v.partResult xs control (rows :: t).length rows r = .error e) :
    v.derivative (.batched xs) control = .error e := by
  obtain ⟨-, hxs⟩ := commonShape_eq_ok_iff.1 hS
  have hne := ne_nil_of_commonShape hS
  obtain ⟨-, hlo, hhi⟩ := (partitionRows_chain rows partitions).mem_bounds r hr
  by_cases hc : control.length = v.controlDim
  · -- the control broadcasts to the state's shape, so the part succeeds
    obtain ⟨bs, hbs⟩ :=
      exists_mapM_broadcastControl (broadcastsTo_of_not_diverges h hx hS hp hrows hc)
    obtain ⟨comps, hpart, -⟩ := derivative_part hxs hne hx hc hbs hlo hhi
    rw [hpart] at he
    cases he
  · rw [partResult_control_length hxs hne hx hc hlo hhi] at he
    rw [derivative_control_length hx hc, he]

/-- **A pool reports only input faults.** Whichever failing part it reports, the error is one of
the checks on the inputs: never a panic of the array library, never an invariant violation and
never a failed join of the parts. -/
theorem poolOutcome_error_isInputFault {v : Vehicle} {state control : Encoding}
    {partitions : Nat} {e : ModelError}
    (h : v.PoolOutcome state control partitions (.error e)) :
    e.IsInputFault ∧ (∀ msg, e ≠ .panic msg) ∧ (∀ msg, e ≠ .invariant msg) ∧
      ∀ s s', e ≠ .shapeMismatch "partition results" s s' := by
  have hfault : e.IsInputFault := by
    generalize hres : (Except.error e : Except ModelError Encoding) = res at h
    cases h with
    | inOrder => exact evaluatePartitioned_eq_error_isInputFault hres.symm
    | partFails _ _ hS _ _ hr hpart =>
        cases hres
        obtain ⟨-, hxs⟩ := commonShape_eq_ok_iff.1 hS
        obtain ⟨-, hlo, hhi⟩ := (partitionRows_chain _ _).mem_bounds _ hr
        exact partResult_eq_error_isInputFault hxs (ne_nil_of_commonShape hS) control hlo hhi hpart
  exact ⟨hfault, hfault.ne_panic, hfault.ne_invariant, hfault.ne_partitionResults⟩

/-- **Every outcome of a pool is the single evaluation's exactly on the inputs that do not
diverge**: whichever failing part a pool reports, it gives the single evaluation's result or
error outside the two cases of `PartitionDiverges`, and on them the outcome in the parts' order
already differs. -/
theorem poolOutcome_eq_derivative_iff (v : Vehicle) (state control : Encoding)
    (partitions : Nat) :
    (∀ res, v.PoolOutcome state control partitions res → res = v.derivative state control) ↔
      ¬ v.PartitionDiverges state control partitions := by
  constructor
  · intro hall hdiv
    exact evaluatePartitioned_ne_of_diverges hdiv (hall _ .inOrder)
  · intro h res hres
    cases hres with
    | inOrder => exact evaluatePartitioned_eq_of_not_diverges h
    | partFails hstate hx hS hp hrows hr he =>
        subst hstate
        exact (partResult_eq_error_of_not_diverges h hx hS hp hrows hr he).symm

end Vehicle

end Quadrotor
