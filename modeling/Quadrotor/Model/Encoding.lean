import Quadrotor.Grid.Basic
import Quadrotor.Model.Error
/-!
# States and controls, one point or a batch

A state or a control vector is given either as one value per component (`Encoding.scalar`), or
as one array per component (`Encoding.batched`), all describing the same batch of points.
Boxing turns each value into an array of shape `[]`; unboxing turns each array holding exactly
one value back into that value. The two are inverse on what they accept.

## Main definitions

* `Encoding` — one value or one array per component;
* `Encoding.length`, `Encoding.batchShape?`;
* `Encoding.boxed`, `Encoding.unboxed`, `Encoding.broadcastScalar`.
-/

namespace Quadrotor

/-- A vector of components: one value each, or one array each. -/
inductive Encoding where
  /-- One value per component. -/
  | scalar (values : List Float)
  /-- One array per component. -/
  | batched (arrays : List Grid)

namespace Encoding

/-- The number of components. -/
def length : Encoding → Nat
  | .scalar values => values.length
  | .batched arrays => arrays.length

/-- Whether there are no components. -/
def isEmpty (e : Encoding) : Bool := e.length == 0

/-- Whether the components are plain values. -/
def isScalar : Encoding → Bool
  | .scalar _ => true
  | .batched _ => false

/-- The shape of the first array; plain values and an empty batch have none. -/
def batchShape? : Encoding → Option Shape
  | .scalar _ => none
  | .batched arrays => arrays.head?.map (·.shape)

/-- Each value as an array of shape `[]`. -/
def box (values : List Float) : List Grid := values.map (Grid.fill [])

/-- Each array holding exactly one value as that value; the first array of another size is
refused with its shape. -/
def unbox (arrays : List Grid) : Except ModelError (List Float) :=
  arrays.mapM fun g =>
    match g.data with
    | [v] => .ok v
    | _ => .error (.shapeMismatch "unboxed value" [] g.shape)

/-- Plain values boxed into arrays of shape `[]`; arrays stay as they are. -/
def boxed : Encoding → Encoding
  | .scalar values => .batched (box values)
  | e => e

/-- Arrays of one value each unboxed into plain values; plain values stay as they are. -/
def unboxed : Encoding → Except ModelError Encoding
  | .batched arrays => (unbox arrays).map .scalar
  | e => .ok e

/-- Each value filled into an array of the given shape; a shape whose arrays cannot be laid out is
refused if there is a value to fill. -/
def broadcastScalar (values : List Float) (shape : Shape) : Except Shape.Overflow Encoding :=
  if values.isEmpty || shape.isAddressable then .ok (.batched (values.map (Grid.fill shape)))
  else .error ⟨shape⟩

end Encoding

end Quadrotor
