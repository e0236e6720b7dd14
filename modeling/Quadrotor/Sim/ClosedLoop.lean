import Quadrotor.Model.Evaluate
import Quadrotor.Sim.Options
import Quadrotor.Sim.Policy
/-!
# The closed loop of a vehicle and a policy

A `ClosedLoop` joins a vehicle to a policy. Its control at `(t, x)` is the policy's, clamped
component by component to the vehicle's control ranges when clamping is on; components past the
ranges are left alone. Its right-hand side is the vehicle's time derivative at the plain state
`x` under that control, with the vehicle's errors reported as run errors.

`Integrator.step` advances a state by one time step of the loop, all arithmetic done component
by component:
* explicit Euler: `x + f(t, x) · dt`;
* Runge–Kutta: `k₁ = f(t, x)`, `k₂ = f(t + dt/2, x + k₁ · (0.5 · dt))`,
  `k₃ = f(t + dt/2, x + k₂ · (0.5 · dt))`, `k₄ = f(t + dt, x + k₃ · dt)`, and
  `x + (((k₁ + k₂ · 2) + k₃ · 2) + k₄) · (dt / 6)`.
-/

namespace Quadrotor

/-- Clamps each value to the range at its position; values past the ranges stay. -/
def clampEach : List Interval → List Float → List Float
  | r :: rs, v :: vs => r.clamp v :: clampEach rs vs
  | _, vs => vs

/-- A vehicle driven by a policy. -/
structure ClosedLoop where
  vehicle : Vehicle
  policy : Policy
  /-- Whether controls are clamped to the vehicle's control ranges. -/
  clamp : Bool

namespace ClosedLoop

/-- The control at time `t` and state `x`, clamped to the control ranges if clamping is on. -/
def control (sys : ClosedLoop) (t : Float) (x : List Float) : List Float :=
  let u := sys.policy.control t x
  if sys.clamp then clampEach sys.vehicle.controlBounds u else u

/-- The time derivative of the state `x` at time `t` under the loop's control. -/
def rhs (sys : ClosedLoop) (t : Float) (x : List Float) : Except RunError (List Float) :=
  match sys.vehicle.derivative (.scalar x) (.scalar (sys.control t x)) with
  | .ok (.scalar d) => .ok d
  | .ok (.batched _) => .error (.invalidArg "scalar state produced a batched derivative")
  | .error e => .error (.model e)

end ClosedLoop

/-- `x + k · h`, component by component. -/
def shiftBy (x k : List Float) (h : Float) : List Float := List.zipWith (fun a b => a + b * h) x k

namespace Integrator

/-- The state one time step `dt` after the state `x` at time `t`. -/
def step (scheme : Integrator) (sys : ClosedLoop) (t : Float) (x : List Float) (dt : Float) :
    Except RunError (List Float) :=
  match scheme with
  | .forwardEuler => do
    let f ← sys.rhs t x
    pure (shiftBy x f dt)
  | .rk4 => do
    let k1 ← sys.rhs t x
    let k2 ← sys.rhs (t + 0.5 * dt) (shiftBy x k1 (0.5 * dt))
    let k3 ← sys.rhs (t + 0.5 * dt) (shiftBy x k2 (0.5 * dt))
    let k4 ← sys.rhs (t + dt) (shiftBy x k3 dt)
    let sum := List.zipWith (· + ·)
      (List.zipWith (· + ·) (List.zipWith (fun a b => a + b * 2.0) k1 k2) (k3.map (· * 2.0))) k4
    pure (shiftBy x sum (dt / 6.0))

end Integrator

end Quadrotor
