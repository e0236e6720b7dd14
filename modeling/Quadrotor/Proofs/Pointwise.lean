import Quadrotor.Proofs.Evaluation
/-!
# Evaluating a batch is evaluating each of its points

A batch of states is evaluated in one pass over arrays, and a single point by boxing its values
into arrays of shape `[]` and unboxing the result. The two modes agree: every entry of a batched
result is the value that evaluating the single point at that index gives, component by component
and bit for bit, where the point takes each state array at the index and each control array at
the index that broadcasting reads (`Shape.sourceIndex`).

The result also has the state's form: plain values of the model's length for a plain state,
otherwise one array per component, each of the shape shared by the state arrays, including shapes
that hold no value.

## Main results

* `Vehicle.evaluate_scalar` — a plain state and control are evaluated at their one point;
* `Vehicle.get_componentGrid` — a component array holds at each index the component at the
  point there;
* `Vehicle.derivative_agrees_pointwise` — a batched evaluation is the evaluation of each point.
-/

namespace Quadrotor

open Shape

namespace Grid

/-- An array holding one value everywhere holds it at every index. -/
theorem get_fill {S : Shape} {x : Float} {idx : List Nat} (h : IsIndex S idx) :
    (fill S x).get idx = x := by
  simp [get, fill, offset_lt_volume h]

/-- A tabulated array holds at each index the value at the index's offset. -/
theorem get_tabulate {S : Shape} {f : Nat → Float} {idx : List Nat} (h : IsIndex S idx) :
    (tabulate S f).get idx = f (offset S idx) := by
  simp [get, tabulate, offset_lt_volume h]

/-- Arrays broadcast to `S` read at an index of `S` are their sources read at the source index. -/
theorem map_get_of_broadcast {S : Shape} {us bs : List Grid}
    (h : List.Forall₂ (fun u b => u.broadcast? S = some b) us bs) {idx : List Nat}
    (hidx : IsIndex S idx) :
    bs.map (·.get idx) = us.map fun u => u.get (sourceIndex u.shape idx) := by
  induction h with
  | nil => rfl
  | cons hub _ ih => simp [ih, get_broadcast hub hidx]

/-- Arrays broadcast to `S` come from sources that broadcast to it, and have the shape `S`. -/
theorem broadcast_all {S : Shape} {us bs : List Grid}
    (h : List.Forall₂ (fun u b => u.broadcast? S = some b) us bs) :
    (∀ u ∈ us, broadcastsTo u.shape S = true) ∧ ∀ b ∈ bs, b.shape = S := by
  induction h with
  | nil => simp
  | cons hub _ ih =>
      obtain ⟨hb, hshape, -⟩ := broadcast?_eq_some hub
      exact ⟨by simpa [hb] using ih.1, by simpa [hshape] using ih.2⟩

end Grid

namespace Vehicle

/-- The values of arrays of shape `S` at flat place `k` are their values at an index with that
offset. -/
theorem pointAt_eq_map_get {S : Shape} {xs : List Grid} (hxs : ∀ x ∈ xs, x.shape = S)
    {idx : List Nat} :
    pointAt (xs.map fun g => g.data.toArray) (offset S idx) = xs.map (·.get idx) := by
  simp only [pointAt, List.map_map]
  refine List.map_congr_left fun x hx => ?_
  simp [Grid.get, hxs x hx]

/-- **A component array holds the component at each point**: at every index of `S`, the value
of component `dim` at the state and control values there. -/
theorem get_componentGrid (v : Vehicle) (dim : Nat) {S : Shape} {xs us : List Grid}
    (hxs : ∀ x ∈ xs, x.shape = S) (hus : ∀ u ∈ us, u.shape = S) {idx : List Nat}
    (hidx : IsIndex S idx) :
    (v.componentGrid dim S xs us).get idx =
      v.component dim (xs.map (·.get idx)) (us.map (·.get idx)) := by
  rw [componentGrid, Grid.get_tabulate hidx, pointAt_eq_map_get hxs, pointAt_eq_map_get hus]

/-- A boxed value read at the index `[]` is the value. -/
@[simp] theorem map_get_box (values : List Float) :
    (Encoding.box values).map (·.get []) = values := by
  simp [Encoding.box, Function.comp_def, Grid.get_fill (List.Forall₂.nil)]

/-- An array of shape `[]` broadcast to `[]` is itself. -/
theorem broadcast?_fill_nil (x : Float) : (Grid.fill [] x).broadcast? [] = some (Grid.fill [] x) :=
  rfl

/-- **A point is evaluated directly**: for a plain state and a plain control of the model's
lengths, the boxing, the checks and the unboxing give each requested component at that point. -/
theorem evaluate_scalar {v : Vehicle} {dims : List Nat} (hdims : ∀ d ∈ dims, d < v.stateDim)
    {x u : List Float} (hx : x.length = v.stateDim) (hu : u.length = v.controlDim) :
    v.evaluate dims (.scalar x) (.scalar u) =
      .ok (.scalar (dims.map fun d => v.component d x u)) := by
  have hS : commonShape (Encoding.scalar x).arrays = .ok [] :=
    commonShape_eq_ok_iff.2 ⟨by simp, fun g hg => Encoding.shape_of_mem_arrays_scalar hg⟩
  have hU : (Encoding.scalar u).arrays.mapM (broadcastControl []) = .ok (Encoding.box u) := by
    refine List.mapM_eq_ok_iff.2 (List.forall₂_same.2 fun g hg => ?_)
    simp only [Encoding.arrays, Encoding.box, List.mem_map] at hg
    obtain ⟨y, -, rfl⟩ := hg
    exact broadcastControl_eq_ok_iff.2 (broadcast?_fill_nil y)
  have hbox : ∀ g ∈ Encoding.box u, g.shape = [] := fun g hg =>
    Encoding.shape_of_mem_arrays_scalar hg
  rw [evaluate_eq hdims]
  simp only [checkLength, Encoding.length, hx, hu, if_true, ok_bind, hS, hU, Encoding.isScalar,
    List.map_map]
  refine congrArg (fun l => Except.ok (Encoding.scalar l)) (List.map_congr_left fun d _ => ?_)
  rw [Function.comp_apply,
    get_componentGrid v d (fun g hg => Encoding.shape_of_mem_arrays_scalar hg) hbox
      List.Forall₂.nil]
  simp [Encoding.arrays]

/-- The result of an evaluation read as arrays: the component arrays themselves for a batched
state, boxed again for a plain state, whose shape `S` is `[]`. -/
theorem getElem?_arrays_result {v : Vehicle} {dims : List Nat} {S : Shape} {xs bs : List Grid}
    {scalar : Bool} (hS : scalar = true → S = []) {d : Nat} {idx : List Nat}
    (hidx : IsIndex S idx) :
    (let out := dims.map fun dim => v.componentGrid dim S xs bs
      if scalar then Encoding.scalar (out.map (·.get [])) else .batched out).arrays[d]?.map
        (·.get idx) =
      (dims.map fun dim => v.componentGrid dim S xs bs)[d]?.map (·.get idx) := by
  cases scalar with
  | false => rfl
  | true =>
      obtain rfl := hS rfl
      obtain rfl := isIndex_nil_iff.1 hidx
      simp [Encoding.arrays, Encoding.box, Function.comp_def, Grid.get_fill List.Forall₂.nil]

/-- What it means for `r` to be the evaluation of `state` and `control` point by point: the state
arrays share a shape `S` (`[]` for a plain state) to which every control array broadcasts; `r` is
plain exactly when the state is, has one entry per state component, and reads as arrays of shape
`S`; and at every index of `S` its component `d` is, bit for bit, component `d` of the
derivative at the single point made of the state arrays at that index and the control arrays at
the index broadcasting reads. -/
def AgreesPointwise (v : Vehicle) (state control r : Encoding) : Prop :=
  ∃ S : Shape, (∀ x ∈ state.arrays, x.shape = S) ∧ (state.isScalar → S = []) ∧
    (∀ u ∈ control.arrays, broadcastsTo u.shape S) ∧
    r.isScalar = state.isScalar ∧ r.length = v.stateDim ∧ (∀ g ∈ r.arrays, g.shape = S) ∧
    ∀ d < v.stateDim, ∀ idx, IsIndex S idx →
      ∃ p, v.derivative (.scalar (state.arrays.map (·.get idx)))
          (.scalar (control.arrays.map fun u => u.get (sourceIndex u.shape idx))) =
            .ok (.scalar p) ∧
        r.arrays[d]?.map (·.get idx) = p[d]?

/-- **Batched evaluation is pointwise evaluation**: whenever the derivative succeeds, its result
agrees with evaluating each point on its own, for every shape of the state, every broadcast of
the control and every shape that holds no value. -/
theorem derivative_agrees_pointwise {v : Vehicle} {state control r : Encoding}
    (h : v.derivative state control = .ok r) : v.AgreesPointwise state control r := by
  have hdims : ∀ d ∈ List.range v.stateDim, d < v.stateDim := fun d hd => List.mem_range.1 hd
  obtain ⟨hs, hc, S, bs, hS, hbs, rfl⟩ := evaluate_eq_ok hdims h
  obtain ⟨hfirst, hxS⟩ := commonShape_eq_ok_iff.1 hS
  have hF : List.Forall₂ (fun u b => u.broadcast? S = some b) control.arrays bs :=
    (List.mapM_eq_ok_iff.1 hbs).imp fun _ _ hub => broadcastControl_eq_ok_iff.1 hub
  obtain ⟨hub, hbS⟩ := Grid.broadcast_all hF
  have hscalar : state.isScalar → S = [] := by
    cases state with
    | scalar x => exact fun _ => hfirst.trans Encoding.firstShape_arrays_scalar
    | batched xs => simp [Encoding.isScalar]
  refine ⟨S, hxS, hscalar, ?_, ?_, ?_, ?_, ?_⟩
  · exact hub
  · cases state <;> rfl
  · cases state <;> simp [Encoding.length, Encoding.isScalar]
  · intro g hg
    cases hst : state.isScalar
    · simp only [hst] at hg
      obtain ⟨d, -, rfl⟩ := List.mem_map.1 hg
      rfl
    · rw [hscalar hst]
      simp only [hst, if_true] at hg
      exact Encoding.shape_of_mem_arrays_scalar hg
  · intro d hd idx hidx
    refine ⟨_, evaluate_scalar hdims (by simp [hs]) (by simp [hc]), ?_⟩
    rw [getElem?_arrays_result hscalar hidx]
    simp only [List.getElem?_map, List.getElem?_range hd, Option.map_some]
    rw [get_componentGrid v d hxS hbS hidx, Grid.map_get_of_broadcast hF hidx]

/-- A row of two states with one control array along the row and two broadcast from shapes `[]`
and `[1]`: the derivative succeeds and agrees point by point. -/
theorem lateral_row_agrees_pointwise :
    let range : Interval := ⟨0.0, 0.14, by decide, by decide, by decide⟩
    let v := Vehicle.lateral {} range range range
    let u₀ : Grid := ⟨[2], [0.05, 0.07], rfl⟩
    let xs : List Grid := [⟨[2], [0.5, -0.5], rfl⟩, ⟨[2], [0.1, 0.2], rfl⟩]
    let us : List Grid := [u₀, ⟨[], [0.02], rfl⟩, ⟨[1], [1.0], rfl⟩]
    let r := Encoding.batched ((List.range 2).map fun d =>
      v.componentGrid d [2] xs [u₀, Grid.fill [2] 0.02, Grid.fill [2] 1.0])
    v.derivative (.batched xs) (.batched us) = .ok r ∧
      v.AgreesPointwise (.batched xs) (.batched us) r := by
  intro range v u₀ xs us r
  have h : v.derivative (.batched xs) (.batched us) = .ok r := rfl
  exact ⟨h, derivative_agrees_pointwise h⟩

end Vehicle

end Quadrotor
