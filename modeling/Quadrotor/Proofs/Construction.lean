import Quadrotor.Model.Basic
import Quadrotor.Proofs.History
import Quadrotor.Proofs.Interval
/-!
# Building a model

A model is built from a parameter set and an initial state through a fixed sequence of checks,
and the first that fails is reported (`Model.checks`). For the lateral model: the initial state
has two entries; the mass is finite and then above zero; the drag is finite; the ranges of the
two thrusts and of the roll rate each have a finite lower end, a finite upper end, and a lower
end that is not above the upper one; and last the entries of the initial state are finite, the
first that is not being reported. The planar model checks four entries, a positive mass and
moment of inertia, finite drags, arm length and gravity, and its two thrust ranges. A guard's
refusal becomes the model error `ModelError.guard` of it, of the same kind and text.

`Config.Valid` says the same without an order: building succeeds exactly on valid parameter
sets. Since the mass is checked finite before positive, both zeros are refused as not positive;
and every model that is built divides only by positive finite parameters (`Vehicle.divisors`).

## Main results

* `Vehicle.make_reports`, `Model.make_reports` — the checks of building, in order;
* `Model.checks_pass_iff` — the checks pass exactly on valid parameter sets;
* `model_make_checks_in_order` — building reports its first failing check, succeeds exactly on
  valid parameter sets, and gives models with positive finite divisors.
-/

namespace Quadrotor

/-! ### The checks of building -/

/-- The check that a vector named `what` has `expected` entries, `actual` being its length. -/
def Check.length (what : String) (expected actual : Nat) : Check ModelError :=
  ⟨decide (actual = expected), .lengthMismatch what expected actual⟩

theorem checkLength_reports (what : String) (expected actual : Nat) :
    Reports (checkLength what expected actual) [Check.length what expected actual] := by
  intro e
  unfold checkLength
  by_cases h : expected = actual <;> simp [Check.length, h, eq_comm]

/-- A range whose ends are finite and whose lower end is not above its upper end. -/
def ValidRange (p : Float × Float) : Prop :=
  p.1.isFinite = true ∧ p.2.isFinite = true ∧ ¬ p.2 < p.1

/-- The checks of a guard, reported as model errors. -/
def guardChecks (cs : List (Check GuardError)) : List (Check ModelError) :=
  cs.map (Check.mapError .guard)

namespace LateralConfig

/-- The checks of a lateral parameter set against an initial state, in order. -/
def checks (c : LateralConfig) (initial : List Float) : List (Check ModelError) :=
  Check.length "initial state" 2 initial.length ::
    (guardChecks (Guard.positiveChecks "mass" c.mass) ++
      guardChecks [Guard.finiteCheck "drag" c.drag] ++
      guardChecks (Interval.checks "T1" c.t1Range.1 c.t1Range.2) ++
      guardChecks (Interval.checks "T2" c.t2Range.1 c.t2Range.2) ++
      guardChecks (Interval.checks "wp_range" c.wpRange.1 c.wpRange.2))

/-- A lateral parameter set that builds a model from the initial state. -/
def Valid (c : LateralConfig) (initial : List Float) : Prop :=
  initial.length = 2 ∧ c.mass.isFinite = true ∧ 0 < c.mass ∧ c.drag.isFinite = true ∧
    ValidRange c.t1Range ∧ ValidRange c.t2Range ∧ ValidRange c.wpRange ∧
    ∀ x ∈ initial, x.isFinite = true

end LateralConfig

namespace PlanarConfig

/-- The checks of a planar parameter set against an initial state, in order. -/
def checks (c : PlanarConfig) (initial : List Float) : List (Check ModelError) :=
  Check.length "initial state" 4 initial.length ::
    (guardChecks (Guard.positiveChecks "mass" c.mass) ++
      guardChecks (Guard.positiveChecks "inertia_yy" c.inertiaYY) ++
      guardChecks [Guard.finiteCheck "trans_drag" c.transDrag] ++
      guardChecks [Guard.finiteCheck "rot_drag" c.rotDrag] ++
      guardChecks [Guard.finiteCheck "length" c.length] ++
      guardChecks [Guard.finiteCheck "gravity" c.gravity] ++
      guardChecks (Interval.checks "T1" c.t1Range.1 c.t1Range.2) ++
      guardChecks (Interval.checks "T2" c.t2Range.1 c.t2Range.2))

/-- A planar parameter set that builds a model from the initial state. -/
def Valid (c : PlanarConfig) (initial : List Float) : Prop :=
  initial.length = 4 ∧ c.mass.isFinite = true ∧ 0 < c.mass ∧ c.inertiaYY.isFinite = true ∧
    0 < c.inertiaYY ∧ c.transDrag.isFinite = true ∧ c.rotDrag.isFinite = true ∧
    c.length.isFinite = true ∧ c.gravity.isFinite = true ∧ ValidRange c.t1Range ∧
    ValidRange c.t2Range ∧ ∀ x ∈ initial, x.isFinite = true

end PlanarConfig

namespace Config

/-- The checks of a parameter set against an initial state, in order. -/
def checks : Config → List Float → List (Check ModelError)
  | .lateral c, initial => c.checks initial
  | .planar c, initial => c.checks initial

/-- A parameter set that builds a model from the initial state. -/
def Valid : Config → List Float → Prop
  | .lateral c, initial => c.Valid initial
  | .planar c, initial => c.Valid initial

end Config

/-- All the checks of building a model, in order: the parameter set's, then that the entries of the
initial state are finite. -/
def Model.checks (config : Config) (initial : List Float) : List (Check ModelError) :=
  config.checks initial ++ guardChecks (initial.map (Guard.finiteCheck "initial state"))

/-- The parameters the equations of motion divide by: the mass, and for the planar model the
moment of inertia too. -/
def Vehicle.divisors : Vehicle → List Float
  | .lateral c .. => [c.mass]
  | .planar c .. => [c.mass, c.inertiaYY]

/-! ### Building reports its checks -/

namespace Vehicle

theorem makeLateral_reports (c : LateralConfig) (initial : List Float) :
    Reports (makeLateral c initial) (c.checks initial) := by
  simp only [LateralConfig.checks, List.append_assoc]
  unfold makeLateral
  -- one step per check, in the order the checks are listed
  refine (checkLength_reports _ _ _).bind fun ⟨⟩ _ => ?_
  refine ((Guard.positive_reports _ _).mapError _).bind fun _ _ => ?_
  refine ((Guard.finite_reports _ _).mapError _).bind fun _ _ => ?_
  refine ((Interval.make_reports _ _ _).mapError _).bind fun _ _ => ?_
  refine ((Interval.make_reports _ _ _).mapError _).bind fun _ _ => ?_
  exact ((Interval.make_reports _ _ _).mapError _).bind_pure _

theorem makePlanar_reports (c : PlanarConfig) (initial : List Float) :
    Reports (makePlanar c initial) (c.checks initial) := by
  simp only [PlanarConfig.checks, List.append_assoc]
  unfold makePlanar
  refine (checkLength_reports _ _ _).bind fun ⟨⟩ _ => ?_
  refine ((Guard.positive_reports _ _).mapError _).bind fun _ _ => ?_
  refine ((Guard.positive_reports _ _).mapError _).bind fun _ _ => ?_
  refine ((Guard.finite_reports _ _).mapError _).bind fun _ _ => ?_
  refine ((Guard.finite_reports _ _).mapError _).bind fun _ _ => ?_
  refine ((Guard.finite_reports _ _).mapError _).bind fun _ _ => ?_
  refine ((Guard.finite_reports _ _).mapError _).bind fun _ _ => ?_
  refine ((Interval.make_reports _ _ _).mapError _).bind fun _ _ => ?_
  exact ((Interval.make_reports _ _ _).mapError _).bind_pure _

theorem make_reports (config : Config) (initial : List Float) :
    Reports (make config initial) (config.checks initial) := by
  cases config with
  | lateral c => exact makeLateral_reports c initial
  | planar c => exact makePlanar_reports c initial

/-- A built lateral vehicle keeps its parameter set. -/
theorem makeLateral_eq_ok {c : LateralConfig} {initial : List Float} {v : Vehicle}
    (h : makeLateral c initial = .ok v) : ∃ t1 t2 wp, v = .lateral c t1 t2 wp := by
  unfold makeLateral at h
  obtain ⟨_, -, h⟩ := bind_eq_ok h
  obtain ⟨_, -, h⟩ := bind_eq_ok h
  obtain ⟨_, -, h⟩ := bind_eq_ok h
  obtain ⟨t1, -, h⟩ := bind_eq_ok h
  obtain ⟨t2, -, h⟩ := bind_eq_ok h
  obtain ⟨wp, -, h⟩ := bind_eq_ok h
  cases h
  exact ⟨t1, t2, wp, rfl⟩

/-- A built planar vehicle keeps its parameter set. -/
theorem makePlanar_eq_ok {c : PlanarConfig} {initial : List Float} {v : Vehicle}
    (h : makePlanar c initial = .ok v) : ∃ t1 t2, v = .planar c t1 t2 := by
  unfold makePlanar at h
  obtain ⟨_, -, h⟩ := bind_eq_ok h
  obtain ⟨_, -, h⟩ := bind_eq_ok h
  obtain ⟨_, -, h⟩ := bind_eq_ok h
  obtain ⟨_, -, h⟩ := bind_eq_ok h
  obtain ⟨_, -, h⟩ := bind_eq_ok h
  obtain ⟨_, -, h⟩ := bind_eq_ok h
  obtain ⟨_, -, h⟩ := bind_eq_ok h
  obtain ⟨t1, -, h⟩ := bind_eq_ok h
  obtain ⟨t2, -, h⟩ := bind_eq_ok h
  cases h
  exact ⟨t1, t2, rfl⟩

end Vehicle

/-- A log starts only from an initial state whose entries are finite, and reports the first that
is not. -/
theorem StateLog.make_reports (initial : List Float) :
    Reports (StateLog.make initial)
      (guardChecks (initial.map (Guard.finiteCheck "initial state"))) := by
  have h := (Guard.allFinite_reports "initial state" initial).mapError ModelError.guard
  intro e
  rw [guardChecks, ← h e]
  unfold StateLog.make
  cases Guard.allFinite "initial state" initial <;> simp [Except.mapError]

namespace Model

theorem make_reports (config : Config) (initial : List Float) :
    Reports (make config initial) (checks config initial) := by
  unfold make
  exact (Vehicle.make_reports config initial).bind fun _ _ =>
    (StateLog.make_reports initial).bind_pure _

/-- **The checks pass exactly on valid parameter sets**, whatever their order. -/
theorem checks_pass_iff (config : Config) (initial : List Float) :
    (∀ c ∈ checks config initial, c.passes = true) ↔ config.Valid initial := by
  cases config with
  | lateral c =>
      simp [checks, Config.checks, Config.Valid, LateralConfig.checks, LateralConfig.Valid,
        guardChecks, Check.mapError, Check.length, Guard.positiveChecks, Guard.finiteCheck,
        Interval.checks, ValidRange, and_assoc]
  | planar c =>
      simp [checks, Config.checks, Config.Valid, PlanarConfig.checks, PlanarConfig.Valid,
        guardChecks, Check.mapError, Check.length, Guard.positiveChecks, Guard.finiteCheck,
        Interval.checks, ValidRange, and_assoc]

/-- A model is built from a parameter set exactly when it is valid. -/
theorem exists_make_eq_ok_iff (config : Config) (initial : List Float) :
    (∃ m, make config initial = .ok m) ↔ config.Valid initial := by
  rw [(make_reports config initial).exists_ok_iff, checks_pass_iff]

/-- A built model keeps its parameter set. -/
theorem make_eq_ok_divisors {config : Config} {initial : List Float} {m : Model}
    (h : make config initial = .ok m) :
    m.vehicle.divisors = match config with
      | .lateral c => [c.mass]
      | .planar c => [c.mass, c.inertiaYY] := by
  unfold make at h
  obtain ⟨v, hv, h⟩ := bind_eq_ok h
  obtain ⟨log, -, h⟩ := bind_eq_ok h
  cases h
  cases config with
  | lateral c =>
      obtain ⟨t1, t2, wp, rfl⟩ := Vehicle.makeLateral_eq_ok hv
      rfl
  | planar c =>
      obtain ⟨t1, t2, rfl⟩ := Vehicle.makePlanar_eq_ok hv
      rfl

/-- **A built model divides only by positive finite parameters.** -/
theorem divisors_of_make_eq_ok {config : Config} {initial : List Float} {m : Model}
    (h : make config initial = .ok m) : ∀ d ∈ m.vehicle.divisors, 0 < d ∧ d.isFinite = true := by
  have hvalid := (exists_make_eq_ok_iff config initial).1 ⟨m, h⟩
  rw [make_eq_ok_divisors h]
  cases config with
  | lateral c =>
      obtain ⟨-, hfin, hpos, -⟩ := hvalid
      simp [hfin, hpos]
  | planar c =>
      obtain ⟨-, hfin, hpos, hIfin, hIpos, -⟩ := hvalid
      simp [hfin, hpos, hIfin, hIpos]

end Model

/-- **Building a model accepts exactly the valid parameter sets and reports the first
violation.** For both models, building fails exactly with the error of the first failing check of
`Model.checks`: the length of the initial state; the mass finite, then above zero (so `0.0` and
`-0.0` are refused as not positive); for the planar model the moment of inertia the same way; the
drag, or the drags, arm length and gravity, finite; the ranges, each with its lower end finite,
its upper end finite and its ends in order; and last the entries of the initial state, the first
that is not finite. A guard's refusal is reported as the model error of the same kind and fields.
Building succeeds exactly on a valid parameter set and initial state, and every model built
divides only by positive finite parameters. -/
theorem model_make_checks_in_order (config : Config) (initial : List Float) :
    Reports (Model.make config initial) (Model.checks config initial) ∧
    ((∃ m, Model.make config initial = .ok m) ↔ config.Valid initial) ∧
    ∀ m, Model.make config initial = .ok m →
      ∀ d ∈ m.vehicle.divisors, 0 < d ∧ d.isFinite = true :=
  ⟨Model.make_reports config initial, Model.exists_make_eq_ok_iff config initial,
    fun _ h => Model.divisors_of_make_eq_ok h⟩

/-- A mass of `-0.0` is finite but not above zero. -/
example : (match Model.make (.lateral { mass := -0.0 }) [0.0, 0.0] with
    | .error e => e.kind
    | .ok _ => "") = "NonPositive" := by decide

end Quadrotor
