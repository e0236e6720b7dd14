import Quadrotor.Model.Evaluate
/-!
# Evaluating a batch in parts

A batch of states can be evaluated in parts along its first axis. `partitionRows rows n` splits
`rows` rows into consecutive ranges of as equal length as possible: the number of parts is `n`
clamped between `1` and `max rows 1`, and a loop over the parts lays the ranges out from row `0`,
range `i` holding `rows / parts` rows and one more while `i < rows % parts`.

`Vehicle.evaluatePartitioned` evaluates each range on its own and joins the results along the
first axis. Plain states, fewer than two rows, or at most one part fall back to one evaluation of
the whole. In a part, every state array is cut to the range; a plain control is passed whole, and
a control array is cut too when it has the state's number of axes and its row count, and is
passed whole to be broadcast otherwise. The parts are evaluated in order and the leftmost failing
part gives the error; a pool that evaluates them at once may report any failing part instead,
and `Vehicle.PoolOutcome` holds those outcomes.

## Main definitions

* `clampBetween` — a count kept between two ordered bounds;
* `partitionRows` — the balanced ranges of rows, laid out by `rowStep`;
* `Vehicle.evaluatePartitioned` — evaluation part by part.
-/

namespace Quadrotor

/-- `x` kept between `lo` and `hi`: raised to `lo` below it, cut to `hi` above it. The standard
library's clamp panics when `hi < lo`; here the bounds' order is an argument, so a clamp that could
panic cannot be written. -/
def clampBetween (x lo hi : Nat) (_ : lo ≤ hi) : Nat :=
  if x < lo then lo else if hi < x then hi else x

/-- One turn of the loop that lays out the ranges, on the end `lo` of the ranges so far and the
ranges themselves: range `i` holds `base` rows, one more while `i < extra`, and starts at `lo`. -/
def rowStep (base extra : Nat) (state : Nat × List (Nat × Nat)) (i : Nat) :
    Nat × List (Nat × Nat) :=
  let len := base + (decide (i < extra)).toNat
  (state.1 + len, state.2 ++ [(state.1, state.1 + len)])

/-- The split of `rows` rows into consecutive ranges `[lo, hi)`: the requested count clamped
between `1` and `max rows 1`, and the ranges laid out by a loop over the parts from row `0`. -/
def partitionRows (rows partitions : Nat) : List (Nat × Nat) :=
  let parts := clampBetween partitions 1 (max rows 1) (Nat.le_max_right rows 1)
  ((List.range parts).foldl (rowStep (rows / parts) (rows % parts)) (0, [])).2

namespace Vehicle

/-- The rows `lo` up to `hi` of an array. The array library panics on an end past the first
extent, or on an array without axes. -/
def sliceRows (lo hi : Nat) (g : Grid) : Except ModelError Grid :=
  match g.rows? lo hi with
  | some r => .ok r
  | none => .error (.panic "rows cut past the end of the first axis")

/-- The control of one part: plain values whole; each array cut to the rows when it has `rank`
axes and `rows` rows, whole otherwise. -/
def controlPart (rank rows lo hi : Nat) (control : Encoding) : Except ModelError Encoding :=
  match control with
  | .scalar _ => .ok control
  | .batched us =>
    (us.mapM fun a =>
      if a.shape.length = rank ∧ a.shape.headD 0 = rows then sliceRows lo hi a else .ok a).map
      .batched

/-- Array `dim` of a part's result. -/
def partArray (dim : Nat) : Encoding → Except ModelError Grid
  | .batched arrays =>
    match arrays[dim]? with
    | some a => .ok a
    | none => .error (.invariant "partition result must be batched with one array per state")
  | .scalar _ => .error (.invariant "partition result must be batched with one array per state")

/-- Arrays joined along the first axis, in order. -/
def joinRows (shape : Shape) : List Grid → Except ModelError Grid
  | [] => .error (.shapeMismatch "partition results" shape [])
  | first :: rest =>
    rest.foldlM (fun acc g =>
      match acc.appendRows? g with
      | some joined => .ok joined
      | none => .error (.shapeMismatch "partition results" shape first.shape)) first

/-- The results of the parts joined component by component along the first axis. -/
def joinParts (v : Vehicle) (shape : Shape) (parts : List Encoding) :
    Except ModelError Encoding := do
  let joined ← (List.range v.stateDim).mapM fun dim => do
    let arrays ← parts.mapM (partArray dim)
    joinRows shape arrays
  pure (.batched joined)

/-- All components of the state's time derivative, evaluated in up to `partitions` parts along
the batch's first axis and joined. -/
def evaluatePartitioned (v : Vehicle) (state control : Encoding) (partitions : Nat) :
    Except ModelError Encoding :=
  match state with
  | .scalar _ => v.derivative state control
  | .batched xs => do
    checkLength "state" v.stateDim xs.length
    let shape ← commonShape xs
    let rows := shape.headD 0
    if partitions ≤ 1 ∨ rows < 2 then v.derivative state control
    else
      let parts ← (partitionRows rows partitions).mapM fun r => do
        let xPart ← xs.mapM (sliceRows r.1 r.2)
        let uPart ← controlPart shape.length rows r.1 r.2 control
        v.derivative (.batched xPart) uPart
      v.joinParts shape parts

end Vehicle

end Quadrotor
