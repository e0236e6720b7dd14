import Quadrotor.Model.Config
import Quadrotor.Model.Error
import Quadrotor.Interval
/-!
# Vehicle models and their equations of motion

A `Vehicle` is a parameter set that has passed its checks, together with the thrust ranges (and,
for the lateral model, the roll-rate range) as intervals. `Vehicle.make` runs the checks in a
fixed order and reports the first that fails.

`Vehicle.component` gives one component of the time derivative of the state at one point, by the
equations of motion; the operations are done exactly in the order written, since each rounds.

Lateral model, state `(v, φ)`, control `(T₁, T₂, ω)`:
* `v' = ((-drag) · v) / m + (sin φ · (T₁ + T₂)) / m`
* `φ' = ω`

Planar model, state `(vₓ, v_z, θ, q)`, control `(T₁, T₂)`:
* `vₓ' = ((-c_t) · vₓ) / m + (sin θ · (T₁ + T₂)) / m`
* `v_z' = (-(c_t · v_z + m · g)) / m + (cos θ · (T₁ + T₂)) / m`
* `θ' = q`
* `q' = (-(I · c_r)) · q + ((l · T₁) / I - (l · T₂) / I)`
-/

namespace Quadrotor

/-- A vehicle model whose parameters have passed their checks. -/
inductive Vehicle where
  /-- The lateral model with its thrust ranges and roll-rate range. -/
  | lateral (c : LateralConfig) (t1 t2 wp : Interval)
  /-- The planar model with its thrust ranges. -/
  | planar (c : PlanarConfig) (t1 t2 : Interval)

namespace Vehicle

/-- The name of the model. -/
def name : Vehicle → String
  | .lateral .. => "reduced_lateral"
  | .planar .. => "full_planar"

/-- The number of state components. -/
def stateDim : Vehicle → Nat
  | .lateral .. => 2
  | .planar .. => 4

/-- The number of control components. -/
def controlDim : Vehicle → Nat
  | .lateral .. => 3
  | .planar .. => 2

/-- The range of each control component. -/
def controlBounds : Vehicle → List Interval
  | .lateral _ t1 t2 wp => [t1, t2, wp]
  | .planar _ t1 t2 => [t1, t2]

/-- A range that belongs to the model beyond its thrusts: the lateral model's roll-rate range. -/
def auxiliaryRange : Vehicle → Option Interval
  | .lateral _ _ _ wp => some wp
  | .planar .. => none

/-- Checks a lateral parameter set against an initial state: the state's length, a positive
mass, a finite drag, then the three ranges. -/
def makeLateral (c : LateralConfig) (initial : List Float) : Except ModelError Vehicle := do
  checkLength "initial state" 2 initial.length
  let _ ← (Guard.positive "mass" c.mass).mapError .guard
  let _ ← (Guard.finite "drag" c.drag).mapError .guard
  let t1 ← (Interval.make "T1" c.t1Range.1 c.t1Range.2).mapError .guard
  let t2 ← (Interval.make "T2" c.t2Range.1 c.t2Range.2).mapError .guard
  let wp ← (Interval.make "wp_range" c.wpRange.1 c.wpRange.2).mapError .guard
  pure (.lateral c t1 t2 wp)

/-- Checks a planar parameter set against an initial state: the state's length, a positive mass
and moment of inertia, finite drags, arm length and gravity, then the two thrust ranges. -/
def makePlanar (c : PlanarConfig) (initial : List Float) : Except ModelError Vehicle := do
  checkLength "initial state" 4 initial.length
  let _ ← (Guard.positive "mass" c.mass).mapError .guard
  let _ ← (Guard.positive "inertia_yy" c.inertiaYY).mapError .guard
  let _ ← (Guard.finite "trans_drag" c.transDrag).mapError .guard
  let _ ← (Guard.finite "rot_drag" c.rotDrag).mapError .guard
  let _ ← (Guard.finite "length" c.length).mapError .guard
  let _ ← (Guard.finite "gravity" c.gravity).mapError .guard
  let t1 ← (Interval.make "T1" c.t1Range.1 c.t1Range.2).mapError .guard
  let t2 ← (Interval.make "T2" c.t2Range.1 c.t2Range.2).mapError .guard
  pure (.planar c t1 t2)

/-- Checks a parameter set against an initial state. -/
def make (config : Config) (initial : List Float) : Except ModelError Vehicle :=
  match config with
  | .lateral c => makeLateral c initial
  | .planar c => makePlanar c initial

/-- Component `i` of the state's time derivative at state `x` and control `u`. Missing entries
read as zero and components past the model's read as zero; evaluation checks both before. -/
def component (v : Vehicle) (i : Nat) (x u : List Float) : Float :=
  let entry (l : List Float) (k : Nat) : Float := l.getD k 0
  match v with
  | .lateral c .. =>
    match i with
    | 0 =>
      ((-c.drag) * entry x 0) / c.mass + (Float.sin (entry x 1) * (entry u 0 + entry u 1)) / c.mass
    | 1 => entry u 2
    | _ => 0
  | .planar c .. =>
    match i with
    | 0 =>
      ((-c.transDrag) * entry x 0) / c.mass +
        (Float.sin (entry x 2) * (entry u 0 + entry u 1)) / c.mass
    | 1 =>
      (-(c.transDrag * entry x 1 + c.mass * c.gravity)) / c.mass +
        (Float.cos (entry x 2) * (entry u 0 + entry u 1)) / c.mass
    | 2 => entry x 3
    | 3 =>
      (-(c.inertiaYY * c.rotDrag)) * entry x 3 +
        ((c.length * entry u 0) / c.inertiaYY - (c.length * entry u 1) / c.inertiaYY)
    | _ => 0

end Vehicle

end Quadrotor
