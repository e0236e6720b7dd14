import Quadrotor.Proofs.Rollout
/-!
# What the log of a model's states holds

A log holds the state it started from and every state it accepted after it, in order: the
earlier states, oldest first, then the current one. A state is accepted when it has the log's
dimension and only finite entries (`StateLog.admits`). A refused state is reported by its length,
checked first, or by its first entry that is not finite (`StateLog.refusal`), and leaves the log
as it was: moving on gives no log then, and the caller keeps the one it had (`advanceAll`).

`StateLog.Keeps` is what a log holds after a sequence of calls. Building a log or a model gives it
with no accepted state, each call keeps it (`StateLog.Keeps.push`), and so does every sequence of
calls (`StateLog.Keeps.advanceAll`). A model checks the length of a state against its state
dimension before its log does; the two checks agree on every model that was built, so a model's
log moves exactly as a bare log would (`Model.advanceAll_eq`). A run moves its model on only by
such calls, each of them accepted: each step keeps `Run.MovedOnFrom`, and so does the whole run
(`rollout_eq_advanceAll`), so what holds after calls holds after runs too.

## Main results

* `StateLog.advance_eq` — moving on is the refusal of the state, or the state filed;
* `StateLog.Keeps.advanceAll` — the log invariant over any sequence of calls;
* `Model.advanceAll_eq` — a built model's log moves as a bare log;
* `rollout_eq_advanceAll` — a run is a sequence of accepted calls;
* `log_keeps_accepted_states` — the log of a built model or a bare log, after any calls.
-/

namespace Quadrotor

/-- A chain of steps that succeeds went through a success of its first step. -/
theorem bind_eq_ok {ε α β : Type} {x : Except ε α} {f : α → Except ε β} {b : β}
    (h : (x >>= f) = .ok b) : ∃ a, x = .ok a ∧ f a = .ok b := by
  cases x with
  | error e => cases h
  | ok a => exact ⟨a, rfl, h⟩

/-- A length check passes exactly when the lengths agree. -/
theorem checkLength_eq_ok {what : String} {expected actual : Nat} {u : Unit} :
    checkLength what expected actual = .ok u ↔ expected = actual := by
  unfold checkLength
  split <;> simp [*]

/-- A list passes the finiteness guard exactly when all its values are finite. -/
theorem Guard.allFinite_eq_ok_iff {what : String} {vs : List Float} {u : Unit} :
    Guard.allFinite what vs = .ok u ↔ ∀ v ∈ vs, v.isFinite = true := by
  unfold Guard.allFinite
  split
  · next v hv =>
      simp only [reduceCtorEq, false_iff, not_forall]
      exact ⟨v, List.mem_of_find?_eq_some hv, by simpa using List.find?_some hv⟩
  · next hv => simpa using List.find?_eq_none.1 hv

/-! ### Accepting and refusing a state -/

namespace StateLog

/-- Whether the state `x` may follow states of dimension `d`: it has `d` entries, all finite. -/
def admits (d : Nat) (x : List Float) : Bool := x.length == d && x.all Float.isFinite

/-- Why the state `x` may not follow states of dimension `d`: its length when it is not `d`, and
otherwise its first entry that is not finite. -/
def refusal (d : Nat) (x : List Float) : Option ModelError :=
  if x.length = d then (x.find? fun v => !v.isFinite).map fun v => .guard (.nonFinite "state" v)
  else some (.lengthMismatch "state" d x.length)

@[simp] theorem admits_iff {d : Nat} {x : List Float} :
    admits d x = true ↔ x.length = d ∧ ∀ v ∈ x, v.isFinite = true := by
  simp [admits]

/-- A state is refused exactly when it is not admitted. -/
theorem refusal_eq_none_iff {d : Nat} {x : List Float} : refusal d x = none ↔ admits d x = true := by
  unfold refusal
  split <;> simp [*, List.find?_eq_none]

/-- **Moving a log on** refuses the state when it may not follow the current one, and otherwise
files the current state and makes the new one current. -/
theorem advance_eq (log : StateLog) (x : List Float) :
    log.advance x = match refusal log.dim x with
      | some e => .error e
      | none => .ok ⟨x, log.current :: log.past⟩ := by
  unfold advance refusal dim
  by_cases hlen : x.length = log.current.length
  · have hcheck : checkLength "state" log.current.length x.length = .ok () :=
      checkLength_eq_ok.2 hlen.symm
    rw [hcheck, ok_bind, if_pos hlen]
    unfold Guard.allFinite
    cases x.find? fun v => !v.isFinite <;> rfl
  · have hcheck : checkLength "state" log.current.length x.length =
        .error (.lengthMismatch "state" log.current.length x.length) := by
      simp [checkLength, Ne.symm hlen]
    rw [hcheck, if_neg hlen]
    rfl

theorem advance_eq_error_iff {log : StateLog} {x : List Float} {e : ModelError} :
    log.advance x = .error e ↔ refusal log.dim x = some e := by
  rw [advance_eq]
  cases refusal log.dim x <;> simp

theorem advance_eq_ok_iff {log log' : StateLog} {x : List Float} :
    log.advance x = .ok log' ↔ admits log.dim x = true ∧ log' = ⟨x, log.current :: log.past⟩ := by
  rw [advance_eq, ← refusal_eq_none_iff]
  cases refusal log.dim x <;> simp [eq_comm]

/-! ### The log invariant -/

/-- The log after a sequence of calls moving it on, in order; a refused call leaves it as it
was. -/
def advanceAll (log : StateLog) : List (List Float) → StateLog
  | [] => log
  | x :: xs =>
    match log.advance x with
    | .ok log' => log'.advanceAll xs
    | .error _ => log.advanceAll xs

/-- What a log of states of dimension `d` started from `initial` holds once the states
`accepted` were accepted: the current state and every earlier state have `d` entries, all finite;
there is one earlier state per accepted one; and the earlier states followed by the current one
are the initial state followed by the accepted ones, in order. -/
structure Keeps (d : Nat) (initial : List Float) (accepted : List (List Float)) (log : StateLog) :
    Prop where
  current_admitted : admits d log.current = true
  history_admitted : ∀ y ∈ log.history, admits d y = true
  history_count : log.history.length = accepted.length
  states : log.history ++ [log.current] = initial :: accepted

variable {d : Nat} {initial : List Float} {accepted : List (List Float)}

/-- A log that keeps states of dimension `d` has dimension `d`. -/
theorem Keeps.dim_eq {log : StateLog} (h : log.Keeps d initial accepted) : log.dim = d := by
  simpa [dim] using (admits_iff.1 h.current_admitted).1

/-- A new log starts from its initial state, with nothing accepted. -/
theorem make_keeps {log : StateLog} (h : make initial = .ok log) :
    log.Keeps initial.length initial [] := by
  unfold make at h
  cases hfin : Guard.allFinite "initial state" initial with
  | error e =>
      rw [hfin] at h
      cases h
  | ok u =>
      rw [hfin] at h
      cases h
      have hfinite := Guard.allFinite_eq_ok_iff.1 hfin
      exact ⟨admits_iff.2 ⟨rfl, hfinite⟩, by simp [history], rfl, by simp [history]⟩

/-- **Filing an admitted state keeps the invariant**, the state joining the accepted ones. -/
theorem Keeps.push {log : StateLog} (h : log.Keeps d initial accepted) {x : List Float}
    (hx : admits d x = true) :
    (⟨x, log.current :: log.past⟩ : StateLog).Keeps d initial (accepted ++ [x]) where
  current_admitted := hx
  history_admitted y hy := by
    -- the new earlier states are the old ones and the old current state
    have hy' : y ∈ log.history ++ [log.current] := by simpa [history] using hy
    rcases List.mem_append.1 hy' with hy' | hy'
    · exact h.history_admitted y hy'
    · rw [List.mem_singleton.1 hy']
      exact h.current_admitted
  history_count := by simp [history, ← h.history_count]
  states := by
    have hs := congrArg (· ++ [x]) h.states
    simpa [history] using hs

/-- **The log invariant over any sequence of calls**: the admitted states join the accepted ones,
in order, and the refused ones leave no trace. -/
theorem Keeps.advanceAll {log : StateLog} (h : log.Keeps d initial accepted)
    (xs : List (List Float)) :
    (log.advanceAll xs).Keeps d initial (accepted ++ xs.filter (admits d)) := by
  induction xs generalizing log accepted with
  | nil => simpa [StateLog.advanceAll] using h
  | cons x xs ih =>
      by_cases hx : admits d x = true
      · have hstep : log.advance x = .ok ⟨x, log.current :: log.past⟩ := by
          rw [advance_eq_ok_iff, h.dim_eq]
          exact ⟨hx, rfl⟩
        simpa [StateLog.advanceAll, hstep, List.filter_cons, hx] using ih (h.push hx)
      · obtain ⟨e, he⟩ : ∃ e, refusal d x = some e :=
          Option.ne_none_iff_exists'.1 (mt refusal_eq_none_iff.1 hx)
        have hstep : log.advance x = .error e := by
          rw [advance_eq_error_iff, h.dim_eq]
          exact he
        simpa [StateLog.advanceAll, hstep, List.filter_cons, hx] using ih h

/-- After a sequence of calls, a state is refused for the reason `refusal` gives. -/
theorem Keeps.advance_eq_error_iff {log : StateLog} (h : log.Keeps d initial accepted)
    {x : List Float} {e : ModelError} :
    log.advance x = .error e ↔ refusal d x = some e := by
  rw [StateLog.advance_eq_error_iff, h.dim_eq]

end StateLog

/-! ### Models -/

namespace Vehicle

/-- A lateral parameter set is accepted only with an initial state of two components. -/
theorem makeLateral_stateDim {c : LateralConfig} {initial : List Float} {v : Vehicle}
    (h : makeLateral c initial = .ok v) : v.stateDim = initial.length := by
  unfold makeLateral at h
  obtain ⟨_, hlen, h⟩ := bind_eq_ok h
  obtain ⟨_, -, h⟩ := bind_eq_ok h
  obtain ⟨_, -, h⟩ := bind_eq_ok h
  obtain ⟨_, -, h⟩ := bind_eq_ok h
  obtain ⟨_, -, h⟩ := bind_eq_ok h
  obtain ⟨_, -, h⟩ := bind_eq_ok h
  cases h
  exact checkLength_eq_ok.1 hlen

/-- A planar parameter set is accepted only with an initial state of four components. -/
theorem makePlanar_stateDim {c : PlanarConfig} {initial : List Float} {v : Vehicle}
    (h : makePlanar c initial = .ok v) : v.stateDim = initial.length := by
  unfold makePlanar at h
  obtain ⟨_, hlen, h⟩ := bind_eq_ok h
  obtain ⟨_, -, h⟩ := bind_eq_ok h
  obtain ⟨_, -, h⟩ := bind_eq_ok h
  obtain ⟨_, -, h⟩ := bind_eq_ok h
  obtain ⟨_, -, h⟩ := bind_eq_ok h
  obtain ⟨_, -, h⟩ := bind_eq_ok h
  obtain ⟨_, -, h⟩ := bind_eq_ok h
  obtain ⟨_, -, h⟩ := bind_eq_ok h
  obtain ⟨_, -, h⟩ := bind_eq_ok h
  cases h
  exact checkLength_eq_ok.1 hlen

/-- A vehicle has as many state components as the initial state it was accepted with. -/
theorem make_stateDim {config : Config} {initial : List Float} {v : Vehicle}
    (h : make config initial = .ok v) : v.stateDim = initial.length := by
  cases config with
  | lateral c => exact makeLateral_stateDim h
  | planar c => exact makePlanar_stateDim h

end Vehicle

namespace Model

/-- A model after a sequence of calls moving it on, in order; a refused call leaves it as it
was. -/
def advanceAll (m : Model) : List (List Float) → Model
  | [] => m
  | x :: xs =>
    match m.advance x with
    | .ok m' => m'.advanceAll xs
    | .error _ => m.advanceAll xs

/-- Calls keep a model's vehicle. -/
@[simp] theorem vehicle_advanceAll (m : Model) (xs : List (List Float)) :
    (m.advanceAll xs).vehicle = m.vehicle := by
  induction xs generalizing m with
  | nil => rfl
  | cons x xs ih =>
      rw [advanceAll]
      split
      · next m' hm => rw [ih, (advance_eq_ok hm).1]
      · exact ih m

theorem advanceAll_append (m : Model) (xs ys : List (List Float)) :
    m.advanceAll (xs ++ ys) = (m.advanceAll xs).advanceAll ys := by
  induction xs generalizing m with
  | nil => rfl
  | cons x xs ih =>
      simp only [List.cons_append, advanceAll]
      split <;> exact ih _

/-- A built model has a log of its state dimension, started from the initial state. -/
theorem make_eq_ok {config : Config} {initial : List Float} {m : Model}
    (h : make config initial = .ok m) :
    m.vehicle.stateDim = initial.length ∧ m.log.Keeps initial.length initial [] := by
  unfold make at h
  obtain ⟨v, hv, h⟩ := bind_eq_ok h
  obtain ⟨log, hlog, h⟩ := bind_eq_ok h
  cases h
  exact ⟨Vehicle.make_stateDim hv, StateLog.make_keeps hlog⟩

/-- **A model whose log has its state dimension moves as its log**: its own length check is the
log's. -/
theorem advance_eq_map {m : Model} (hdim : m.log.dim = m.vehicle.stateDim) (x : List Float) :
    m.advance x = (m.log.advance x).map fun log => { m with log := log } := by
  unfold advance
  by_cases hlen : m.vehicle.stateDim = x.length
  · have hcheck : checkLength "state" m.vehicle.stateDim x.length = .ok () :=
      checkLength_eq_ok.2 hlen
    rw [hcheck, ok_bind]
    cases m.log.advance x <;> rfl
  · have hcheck : checkLength "state" m.vehicle.stateDim x.length =
        .error (.lengthMismatch "state" m.vehicle.stateDim x.length) := by
      simp [checkLength, hlen]
    have hlog : m.log.advance x = .error (.lengthMismatch "state" m.vehicle.stateDim x.length) := by
      rw [StateLog.advance_eq_error_iff, hdim]
      simp [StateLog.refusal, Ne.symm hlen]
    rw [hcheck, hlog]
    rfl

/-- **A built model's log moves as a bare log** under any sequence of calls, and the model keeps
its vehicle. -/
theorem advanceAll_eq {m : Model} (hdim : m.log.dim = m.vehicle.stateDim)
    (xs : List (List Float)) : m.advanceAll xs = { m with log := m.log.advanceAll xs } := by
  induction xs generalizing m with
  | nil => rfl
  | cons x xs ih =>
      rw [advanceAll, StateLog.advanceAll, advance_eq_map hdim]
      cases hlog : m.log.advance x with
      | error e => exact ih hdim
      | ok log' =>
          -- the new current state was admitted at the log's dimension
          have hdim' : log'.dim = m.vehicle.stateDim := by
            obtain ⟨hx, rfl⟩ := StateLog.advance_eq_ok_iff.1 hlog
            rw [← hdim]
            simpa [StateLog.dim] using (StateLog.admits_iff.1 hx).1
          exact @ih { m with log := log' } hdim'

/-- A model whose log has its state dimension refuses a state for the reason `refusal` gives. -/
theorem advance_eq_error_iff {m : Model} (hdim : m.log.dim = m.vehicle.stateDim)
    {x : List Float} {e : ModelError} :
    m.advance x = .error e ↔ StateLog.refusal m.vehicle.stateDim x = some e := by
  rw [advance_eq_map hdim, ← hdim, ← StateLog.advance_eq_error_iff]
  cases m.log.advance x <;> simp [Except.map]

/-- A call that moves a model on had an admitted state. -/
theorem admits_of_advance_eq_ok {m m' : Model} {x : List Float} (h : m.advance x = .ok m') :
    StateLog.admits m.vehicle.stateDim x = true := by
  unfold advance at h
  obtain ⟨_, hlen, h⟩ := bind_eq_ok h
  obtain ⟨log, hlog, -⟩ := bind_eq_ok h
  obtain ⟨hx, -⟩ := StateLog.advance_eq_ok_iff.1 hlog
  exact StateLog.admits_iff.2 ⟨(checkLength_eq_ok.1 hlen).symm, (StateLog.admits_iff.1 hx).2⟩

end Model

/-! ### Runs -/

/-- A run whose model is `m` moved on by states that `m`'s log admits. -/
def Run.MovedOnFrom (m : Model) (r : Run) : Prop :=
  ∃ ys, (∀ y ∈ ys, StateLog.admits m.vehicle.stateDim y = true) ∧ r.model = m.advanceAll ys

namespace Run.MovedOnFrom

variable {m : Model} {policy : Policy} {o : RunOptions}

theorem start (m : Model) : (Run.start m).MovedOnFrom m := ⟨[], by simp, rfl⟩

/-- A step moves the run's model on by the state it reached, which the model accepted. -/
theorem next {r r' : Run} (hr : r.MovedOnFrom m) (h : r.next policy o = .ok r') :
    r'.MovedOnFrom m := by
  obtain ⟨ys, hys, hmodel⟩ := hr
  obtain ⟨x, m', -, hm, rfl⟩ := Run.next_eq_ok h
  have hveh : r.model.vehicle = m.vehicle := by
    rw [hmodel, Model.vehicle_advanceAll]
  refine ⟨ys ++ [x], ?_, ?_⟩
  · intro y hy
    rcases List.mem_append.1 hy with hy | hy
    · exact hys y hy
    · rw [List.mem_singleton.1 hy, ← hveh]
      exact Model.admits_of_advance_eq_ok hm
  · rw [Model.advanceAll_append, ← hmodel]
    simp [Model.advanceAll, hm]

theorem advance {r : Run} (hr : r.MovedOnFrom m) (n : Nat) :
    (Run.advance policy o n r).1.MovedOnFrom m := by
  induction n generalizing r with
  | zero => exact hr
  | succ n ih =>
      simp only [Run.advance]
      cases hn : r.next policy o with
      | error e => exact hr
      | ok r' => exact ih (hr.next hn)

end Run.MovedOnFrom

/-- **A run moves its model on only by calls with states**, each of them accepted: the model it
leaves is its model moved on by the states of the steps it took. -/
theorem rollout_eq_advanceAll (m : Model) (policy : Policy) (o : RunOptions) :
    ∃ ys, (∀ y ∈ ys, StateLog.admits m.vehicle.stateDim y = true) ∧
      (rollout m policy o).1 = m.advanceAll ys := by
  cases hv : o.validate with
  | error e =>
      rw [rollout_of_validate_eq_error hv]
      exact Run.MovedOnFrom.start m
  | ok u =>
      cases u
      rw [rollout_of_validate_eq_ok hv, Run.result_fst]
      exact (Run.MovedOnFrom.start m).advance _

/-! ### The log of a model's states -/

/-- **The log of a model's states.** A model built from a parameter set and an initial state,
then moved on by any sequence of calls, keeps its vehicle and a log of states of its dimension
started from the initial state, whose accepted states are the admitted states of the calls, in
order; it refuses a next state exactly for its `refusal`, its length first and then its first
entry that is not finite. A run moves a model on only by accepted calls, so this holds after runs
too. A bare log behaves the same, the initial state's length being its dimension. -/
theorem log_keeps_accepted_states :
    (∀ (config : Config) (initial : List Float) (m : Model) (xs : List (List Float)),
      Model.make config initial = .ok m →
        (m.advanceAll xs).vehicle = m.vehicle ∧
        (m.advanceAll xs).log.Keeps m.vehicle.stateDim initial
          (xs.filter (StateLog.admits m.vehicle.stateDim)) ∧
        ∀ x e, (m.advanceAll xs).advance x = .error e ↔
          StateLog.refusal m.vehicle.stateDim x = some e) ∧
    (∀ (m : Model) (policy : Policy) (o : RunOptions), ∃ ys,
      (∀ y ∈ ys, StateLog.admits m.vehicle.stateDim y = true) ∧
        (rollout m policy o).1 = m.advanceAll ys) ∧
    (∀ (initial : List Float) (log : StateLog) (xs : List (List Float)),
      StateLog.make initial = .ok log →
        (log.advanceAll xs).Keeps initial.length initial
          (xs.filter (StateLog.admits initial.length)) ∧
        ∀ x e, (log.advanceAll xs).advance x = .error e ↔
          StateLog.refusal initial.length x = some e) := by
  refine ⟨fun config initial m xs hm => ?_, rollout_eq_advanceAll, fun initial log xs hlog => ?_⟩
  · obtain ⟨hdim, hkeeps⟩ := Model.make_eq_ok hm
    rw [← hdim] at hkeeps
    -- the model's log moves as a bare log, which keeps the invariant
    have hlog : (m.log.advanceAll xs).Keeps m.vehicle.stateDim initial
        (xs.filter (StateLog.admits m.vehicle.stateDim)) := by
      simpa using hkeeps.advanceAll xs
    have hmodel := Model.advanceAll_eq hkeeps.dim_eq xs
    refine ⟨by simp, by rw [hmodel]; exact hlog, fun x e => ?_⟩
    rw [hmodel]
    exact Model.advance_eq_error_iff hlog.dim_eq
  · have hlog' := (StateLog.make_keeps hlog).advanceAll xs
    rw [List.nil_append] at hlog'
    exact ⟨hlog', fun x e => hlog'.advance_eq_error_iff⟩

/-- A lateral model at rest handed a state of the wrong length, one with a NaN and one that fits
accepts only the last. -/
theorem lateral_log_accepts_admitted_state :
    let range : Interval := ⟨0.0, 0.14, by decide, by decide, by decide⟩
    let roll : Interval := ⟨0.0, 6.283185307179586, by decide, by decide, by decide⟩
    let m : Model := ⟨.lateral {} range range roll, ⟨[0.0, 0.0], []⟩⟩
    let xs : List (List Float) := [[1.0], [0.5, 0.0 / 0.0], [0.5, 0.25]]
    Model.make (.lateral {}) [0.0, 0.0] = .ok m ∧
      (m.advanceAll xs).log.Keeps 2 [0.0, 0.0] [[0.5, 0.25]] := by
  intro range roll m xs
  have hm : Model.make (.lateral {}) [0.0, 0.0] = .ok m := rfl
  have hkeeps := (log_keeps_accepted_states.1 _ _ _ xs hm).2.1
  have hfilter : xs.filter (StateLog.admits m.vehicle.stateDim) = [[0.5, 0.25]] := rfl
  rw [hfilter] at hkeeps
  exact ⟨hm, hkeeps⟩

end Quadrotor
