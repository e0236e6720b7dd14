import Quadrotor.Model.Vehicle
import Quadrotor.Model.Encoding
/-!
# Evaluating the equations of motion on points and batches

`Vehicle.evaluate` computes the requested components of the state's time derivative for a state
and a control given as plain values or as arrays. Plain values are boxed into arrays of shape
`[]`, so that points and batches go through the same steps. It checks, in this order, that the
state and the control have as many components as the model; that all state arrays share one
shape `S`; and that each control array broadcasts to `S`. The first failure is reported. Each
requested component is then computed by `Vehicle.derivativeComponent` point by point over `S`,
and the result has the state's form: plain values for a plain state (the arrays unboxed again),
arrays of shape `S` otherwise.

`Vehicle.derivativeComponent` makes checks of its own, as any model must: one array per state and
per control component, and a component the model has. The evaluation also checks that each
component it gets back has the shape `S`. None of these later checks can fail after the first
ones have passed.

## Main definitions

* `Vehicle.commonShape` — the shape shared by the state arrays;
* `Vehicle.componentGrid`, `Vehicle.derivativeComponent` — one component over arrays of one
  shape, without and with the model's own checks;
* `Vehicle.evaluate` — the requested components, on a point or a batch;
* `Vehicle.derivative`, `Vehicle.componentAt` — all components, or one by its index.
-/

namespace Quadrotor

namespace Encoding

/-- The components as arrays: plain values boxed into arrays of shape `[]`. -/
def arrays : Encoding → List Grid
  | .scalar values => box values
  | .batched arrays => arrays

end Encoding

namespace Grid

/-- The array of a shape whose value at flat position `k` is `f k`. -/
def tabulate (shape : Shape) (f : Nat → Float) : Grid :=
  ⟨shape, (List.range shape.volume).map f, by simp⟩

end Grid

namespace Vehicle

/-- The shape of the first state array, which every other must share; an empty list of arrays
has shape `[]`. -/
def commonShape (arrays : List Grid) : Except ModelError Shape :=
  match arrays with
  | [] => .ok []
  | a :: rest =>
    match rest.find? (fun b => b.shape != a.shape) with
    | some b => .error (.shapeMismatch "state arrays" a.shape b.shape)
    | none => .ok a.shape

/-- A control array stretched to the state's shape. -/
def broadcastControl (shape : Shape) (g : Grid) : Except ModelError Grid :=
  match g.broadcast? shape with
  | some b => .ok b
  | none => .error (.shapeMismatch "control array" shape g.shape)

/-- The values of each array at flat position `k`. -/
def pointAt (arrays : List (Array Float)) (k : Nat) : List Float :=
  arrays.map fun a => a.getD k 0

/-- The array of component `dim` over the shape `shape`, computed point by point from state arrays
`x` and control arrays `u` of that shape. -/
def componentGrid (v : Vehicle) (dim : Nat) (shape : Shape) (x u : List Grid) : Grid :=
  let xa := x.map fun g => g.data.toArray
  let ua := u.map fun g => g.data.toArray
  Grid.tabulate shape fun k => v.component dim (pointAt xa k) (pointAt ua k)

/-- Component `dim` of the state's time derivative over state arrays `x` and control arrays `u`,
all of shape `shape`. The arrays must be one per state and per control component, and `dim` one
of the model's components. -/
def derivativeComponent (v : Vehicle) (dim : Nat) (shape : Shape) (x u : List Grid) :
    Except ModelError Grid := do
  checkLength "state" v.stateDim x.length
  checkLength "control" v.controlDim u.length
  if v.stateDim ≤ dim then throw (.dimensionOutOfRange dim v.stateDim)
  pure (v.componentGrid dim shape x u)

/-- The components `dims` of the state's time derivative, for a state and a control given as
plain values or as arrays. -/
def evaluate (v : Vehicle) (dims : List Nat) (state control : Encoding) :
    Except ModelError Encoding := do
  checkLength "state" v.stateDim state.length
  checkLength "control" v.controlDim control.length
  let xs := state.arrays
  let shape ← commonShape xs
  let us ← control.arrays.mapM (broadcastControl shape)
  let out ← dims.mapM fun dim => do
    let dx ← v.derivativeComponent dim shape xs us
    if dx.shape = shape then pure dx
    else throw (.shapeMismatch "derivative component" shape dx.shape)
  if state.isScalar then (Encoding.unbox out).map .scalar else pure (.batched out)

/-- All components of the state's time derivative. -/
def derivative (v : Vehicle) (state control : Encoding) : Except ModelError Encoding :=
  v.evaluate (List.range v.stateDim) state control

/-- Component `dim` of the state's time derivative; a dimension past the model's is refused
before anything else is checked. -/
def componentAt (v : Vehicle) (dim : Nat) (state control : Encoding) :
    Except ModelError Encoding :=
  if v.stateDim ≤ dim then .error (.dimensionOutOfRange dim v.stateDim)
  else v.evaluate [dim] state control

end Vehicle

end Quadrotor
