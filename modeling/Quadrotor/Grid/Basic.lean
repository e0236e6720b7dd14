import Quadrotor.Grid.Shape
/-!
# Arrays of doubles

A `Grid` is an array of doubles of some `Shape`, stored flat in row-major order; the number of
stored values is the shape's volume, and the structure carries that fact.

## Main definitions

* `Grid.ofData?` — the array of a shape and flat data, when the data has the shape's volume;
* `Grid.make?` — the same for a shape given by an input, which must also be one that can be laid
  out;
* `Grid.fill` — an array holding one value everywhere;
* `Grid.broadcast?` — an array stretched to a target shape by the broadcasting rule;
* `Grid.rows?`, `Grid.appendRows?` — cutting along the first axis and joining along it.
-/

namespace Quadrotor

/-- An array of doubles: its shape and its values in row-major order. -/
structure Grid where
  shape : Shape
  data : List Float
  size_eq : data.length = shape.volume

namespace Grid

/-- The array of a shape and flat data, when the data has as many values as the shape holds. -/
def ofData? (shape : Shape) (data : List Float) : Option Grid :=
  if h : data.length = shape.volume then some ⟨shape, data, h⟩ else none

/-- The array that an input gives by its shape and flat data: the shape must be one that can be
laid out, and the data must have as many values as the shape holds. -/
def make? (shape : Shape) (data : List Float) : Option Grid :=
  if shape.isAddressable then ofData? shape data else none

/-- The array of a shape holding `x` everywhere. -/
def fill (shape : Shape) (x : Float) : Grid :=
  ⟨shape, List.replicate shape.volume x, List.length_replicate⟩

/-- The values of an array of shape `src` stretched to the shape `dst` of as many axes: along an
axis of equal extent each slab is stretched in turn, along an axis of extent `1` the one slab is
stretched and repeated. -/
def stretch : Shape → Shape → List Float → List Float
  | s :: ss, d :: ds, data =>
    let slab := Shape.volume ss
    let parts := (List.range s).map fun i => stretch ss ds ((data.drop (i * slab)).take slab)
    if s = d then parts.flatten else (List.replicate d (parts.headD [])).flatten
  | _, _, data => data

/-- The array stretched to `target`, when its shape broadcasts to it; missing leading axes count
as axes of extent `1`. A target that holds no value is reached at once, however large its other
extents. -/
def broadcast? (g : Grid) (target : Shape) : Option Grid :=
  if g.shape.broadcastsTo target then
    let src := List.replicate (target.length - g.shape.length) 1 ++ g.shape
    ofData? target (if target.volume = 0 then [] else stretch src target g.data)
  else none

/-- The rows `lo` up to `hi` of an array along its first axis, no rows when `hi ≤ lo`. An array
without axes has no rows to cut, and an end past the first extent cuts nothing. -/
def rows? (g : Grid) (lo hi : Nat) : Option Grid :=
  match g.shape with
  | [] => none
  | n :: rest =>
    if lo ≤ n ∧ hi ≤ n then
      let slab := Shape.volume rest
      ofData? ((hi - lo) :: rest) ((g.data.drop (lo * slab)).take ((hi - lo) * slab))
    else none

/-- Two arrays joined along the first axis, when their other axes agree. -/
def appendRows? (a b : Grid) : Option Grid :=
  match a.shape, b.shape with
  | m :: r, n :: r' => if r = r' then ofData? ((m + n) :: r) (a.data ++ b.data) else none
  | _, _ => none

end Grid

end Quadrotor
