import Quadrotor.Model.Evaluate
import Quadrotor.Proofs.GridIndex
/-!
# What an evaluation checks, and in which order

An evaluation makes checks in two layers. The dispatch checks the number of state and control
components, that the state arrays share one shape `S` (`Vehicle.commonShape`), and that every
control array broadcasts to `S`. The model then makes checks of its own for each component
(`Vehicle.derivativeComponent`), the dispatch checks the shape of each component it gets back,
and a plain state is unboxed at the end.

The second layer never fails once the first has passed: `Vehicle.evaluate_eq` shows that
evaluating components of the model is the first layer followed by the arrays of
`Vehicle.componentGrid`. From it, `Vehicle.evaluate_eq_error_iff` reads the error of an
evaluation off `Vehicle.evaluationFault`, the first check of the first layer that fails, stated
over the inputs alone. The same equation shows that asking for one component runs the same checks
as asking for all and gives that component of the full result (`Encoding.pick?`).

## Main results

* `List.mapM_eq_ok_iff`, `List.mapM_eq_error_iff` — a traversal that can fail succeeds on every
  element, or fails at the first element that fails;
* `Vehicle.evaluate_eq` — the model's own checks and the unboxing are never what fails;
* `Vehicle.evaluate_eq_error_iff` — an evaluation fails exactly with its first failing check;
* `Vehicle.componentAt_agrees_with_derivative` — one component is the full evaluation's.
-/

namespace List

variable {α β ε : Type}

/-- A traversal that can fail succeeds exactly when each element gives the value at its place. -/
theorem mapM_eq_ok_iff {f : α → Except ε β} {l : List α} {r : List β} :
    l.mapM f = .ok r ↔ Forall₂ (fun a b => f a = .ok b) l r := by
  constructor
  · intro h
    induction l generalizing r with
    | nil =>
        cases h
        exact Forall₂.nil
    | cons a l ih =>
        rw [mapM_cons] at h
        cases ha : f a with
        | error e => simp [ha, bind, Except.bind] at h
        | ok b =>
            cases hl : l.mapM f with
            | error e => simp [ha, hl, bind, Except.bind] at h
            | ok bs =>
                simp only [ha, hl, bind, Except.bind, pure, Except.pure, Except.ok.injEq] at h
                subst h
                exact Forall₂.cons ha (ih hl)
  · intro h
    induction h with
    | nil => rfl
    | cons hab _ ih => simp [mapM_cons, hab, ih, bind, Except.bind, pure, Except.pure]

/-- A traversal succeeds when every element succeeds, and its results are related to the
elements as each element's result is. -/
theorem exists_mapM_eq_ok {f : α → Except ε β} {P : α → β → Prop} {l : List α}
    (h : ∀ a ∈ l, ∃ b, f a = .ok b ∧ P a b) :
    ∃ r, l.mapM f = .ok r ∧ Forall₂ P l r := by
  induction l with
  | nil => exact ⟨[], rfl, Forall₂.nil⟩
  | cons a l ih =>
      obtain ⟨b, hb, hP⟩ := h a mem_cons_self
      obtain ⟨r, hr, hF⟩ := ih fun x hx => h x (mem_cons_of_mem a hx)
      refine ⟨b :: r, ?_, Forall₂.cons hP hF⟩
      simp [mapM_cons, hb, hr, bind, Except.bind, pure, Except.pure]

/-- A traversal that can fail fails exactly with the error of its first failing element. -/
theorem mapM_eq_error_iff {f : α → Except ε β} {l : List α} {e : ε} :
    l.mapM f = .error e ↔
      ∃ pre a post, l = pre ++ a :: post ∧ (∀ x ∈ pre, ∃ y, f x = .ok y) ∧
        f a = .error e := by
  induction l with
  | nil => simp [pure, Except.pure]
  | cons a l ih =>
      simp only [mapM_cons]
      cases ha : f a with
      | error e' =>
          simp only [bind, Except.bind, Except.error.injEq]
          constructor
          · rintro rfl
            exact ⟨[], a, l, rfl, by simp, ha⟩
          · rintro ⟨pre, a', post, hl, hpre, ha'⟩
            cases pre with
            | nil =>
                obtain ⟨rfl, rfl⟩ := List.cons.inj hl
                rw [ha] at ha'
                exact Except.error.inj ha'
            | cons x pre =>
                obtain ⟨rfl, -⟩ := List.cons.inj hl
                obtain ⟨y, hy⟩ := hpre a List.mem_cons_self
                rw [ha] at hy
                cases hy
      | ok b =>
          have hstep : (do let b' ← Except.ok b; let bs ← l.mapM f; pure (b' :: bs) :
              Except ε (List β)) = .error e ↔ l.mapM f = .error e := by
            cases l.mapM f <;> simp [bind, Except.bind, pure, Except.pure]
          rw [hstep, ih]
          constructor
          · rintro ⟨pre, a', post, rfl, hpre, ha'⟩
            refine ⟨a :: pre, a', post, rfl, ?_, ha'⟩
            intro x hx
            rcases List.mem_cons.1 hx with rfl | hx
            · exact ⟨b, ha⟩
            · exact hpre x hx
          · rintro ⟨pre, a', post, hl, hpre, ha'⟩
            cases pre with
            | nil =>
                obtain ⟨rfl, rfl⟩ := List.cons.inj hl
                rw [ha] at ha'
                cases ha'
            | cons x pre =>
                obtain ⟨rfl, rfl⟩ := List.cons.inj hl
                exact ⟨pre, a', post, rfl, fun y hy => hpre y (List.mem_cons_of_mem _ hy), ha'⟩

end List

namespace Quadrotor

open Shape

/-- A step that succeeds passes its value on. -/
@[simp] theorem ok_bind {ε α β : Type} (a : α) (f : α → Except ε β) :
    (Except.ok a >>= f) = f a := rfl

/-- The shape of the first of some arrays, `[]` when there are none. -/
def Grid.firstShape (xs : List Grid) : Shape := (xs.head?.map Grid.shape).getD []

/-- Arrays that all have one shape have it first. -/
theorem Grid.firstShape_eq {xs : List Grid} {S : Shape} (hne : xs ≠ [])
    (h : ∀ x ∈ xs, x.shape = S) :
    Grid.firstShape xs = S := by
  cases xs with
  | nil => exact absurd rfl hne
  | cons x xs => exact h x List.mem_cons_self

namespace Encoding

/-- Component `d` alone, in the same form: the value or the array at place `d`, as a vector of
one component; nothing when there is no component `d`. -/
def pick? (d : Nat) : Encoding → Option Encoding
  | .scalar values => values[d]?.map fun x => .scalar [x]
  | .batched arrays => arrays[d]?.map fun g => .batched [g]

@[simp] theorem length_batched (arrays : List Grid) :
    (Encoding.batched arrays).length = arrays.length := rfl

@[simp] theorem arrays_batched (arrays : List Grid) :
    (Encoding.batched arrays).arrays = arrays := rfl

@[simp] theorem length_arrays (e : Encoding) : e.arrays.length = e.length := by
  cases e <;> simp [arrays, length, box]

/-- Plain values are boxed into arrays of shape `[]`. -/
theorem shape_of_mem_arrays_scalar {values : List Float} {g : Grid}
    (h : g ∈ (Encoding.scalar values).arrays) : g.shape = [] := by
  simp only [arrays, box, List.mem_map] at h
  obtain ⟨x, -, rfl⟩ := h
  rfl

/-- Boxed plain values have shape `[]`, the first of them too. -/
@[simp] theorem firstShape_arrays_scalar {values : List Float} :
    Grid.firstShape (Encoding.scalar values).arrays = [] := by
  cases values <;> rfl

/-- An array of shape `[]` holds one value, the value at the index `[]`. -/
theorem data_of_shape_nil {g : Grid} (h : g.shape = []) : g.data = [g.get []] := by
  have hlen : g.data.length = 1 := by rw [g.size_eq, h]; rfl
  obtain ⟨x, hx⟩ := List.length_eq_one_iff.1 hlen
  simp [Grid.get, hx, h, offset]

/-- Arrays of shape `[]` unbox to their values. -/
theorem unbox_of_shape_nil {gs : List Grid} (h : ∀ g ∈ gs, g.shape = []) :
    unbox gs = .ok (gs.map (·.get [])) := by
  refine List.mapM_eq_ok_iff.2 (List.forall₂_map_right_iff.2 (List.forall₂_same.2 ?_))
  intro g hg
  simp [data_of_shape_nil (h g hg)]

end Encoding

namespace Vehicle

/-- `commonShape` names the first state array whose shape differs from the first one's, and
gives that shape when there is none. -/
theorem commonShape_eq (xs : List Grid) :
    commonShape xs =
      match xs.find? (fun b => b.shape != Grid.firstShape xs) with
      | some b => .error (.shapeMismatch "state arrays" (Grid.firstShape xs) b.shape)
      | none => .ok (Grid.firstShape xs) := by
  cases xs with
  | nil => rfl
  | cons a rest =>
      have hfirst : Grid.firstShape (a :: rest) = a.shape := rfl
      rw [hfirst, List.find?_cons_of_neg (by simp)]
      rfl

/-- The state arrays pass the shape check exactly when they all have the first one's shape. -/
theorem commonShape_eq_ok_iff {xs : List Grid} {S : Shape} :
    commonShape xs = .ok S ↔ S = Grid.firstShape xs ∧ ∀ x ∈ xs, x.shape = S := by
  rw [commonShape_eq]
  cases h : xs.find? (fun b => b.shape != Grid.firstShape xs) with
  | some b =>
      obtain ⟨hb, hne⟩ : b ∈ xs ∧ b.shape ≠ Grid.firstShape xs := by
        have := List.find?_some h
        exact ⟨List.mem_of_find?_eq_some h, by simpa using this⟩
      simp only [reduceCtorEq, false_iff, not_and]
      rintro rfl hall
      exact hne (hall b hb)
  | none =>
      have hall : ∀ x ∈ xs, x.shape = Grid.firstShape xs := by
        simpa using List.find?_eq_none.1 h
      simp only [Except.ok.injEq]
      constructor
      · rintro rfl
        exact ⟨rfl, hall⟩
      · rintro ⟨rfl, -⟩
        rfl

/-- A control array is brought to the shape `S` exactly when it broadcasts to it. -/
theorem broadcastControl_eq_ok_iff {S : Shape} {g b : Grid} :
    broadcastControl S g = .ok b ↔ g.broadcast? S = some b := by
  unfold broadcastControl
  cases g.broadcast? S <;> simp

/-- A control array that does not broadcast to `S` is refused with both shapes. -/
theorem broadcastControl_eq_error_iff {S : Shape} {g : Grid} {e : ModelError} :
    broadcastControl S g = .error e ↔
      broadcastsTo g.shape S = false ∧ e = .shapeMismatch "control array" S g.shape := by
  rw [← Grid.broadcast?_eq_none_iff]
  unfold broadcastControl
  cases g.broadcast? S <;> simp [eq_comm]

/-- The control arrays are refused at the first one, in order, that does not broadcast to `S`. -/
theorem mapM_broadcastControl_eq_error_iff {S : Shape} {us : List Grid} {e : ModelError} :
    us.mapM (broadcastControl S) = .error e ↔
      ∃ u, us.find? (fun u => !broadcastsTo u.shape S) = some u ∧
        e = .shapeMismatch "control array" S u.shape := by
  rw [List.mapM_eq_error_iff]
  constructor
  · rintro ⟨pre, u, post, rfl, hpre, hu⟩
    obtain ⟨hb, rfl⟩ := broadcastControl_eq_error_iff.1 hu
    refine ⟨u, List.find?_eq_some_iff_append.2 ⟨by simpa using hb, pre, post, rfl, ?_⟩, rfl⟩
    intro x hx
    obtain ⟨y, hy⟩ := hpre x hx
    have hne : x.broadcast? S ≠ none := by
      rw [broadcastControl_eq_ok_iff.1 hy]
      simp
    simpa using mt Grid.broadcast?_eq_none_iff.2 hne
  · rintro ⟨u, hfind, rfl⟩
    obtain ⟨hu, pre, post, rfl, hpre⟩ := List.find?_eq_some_iff_append.1 hfind
    refine ⟨pre, u, post, rfl, fun x hx => ?_,
      broadcastControl_eq_error_iff.2 ⟨by simpa using hu, rfl⟩⟩
    have hx' : broadcastsTo x.shape S = true := by simpa using hpre x hx
    cases hb : x.broadcast? S with
    | none => simp [Grid.broadcast?_eq_none_iff.1 hb] at hx'
    | some b => exact ⟨b, broadcastControl_eq_ok_iff.2 hb⟩

/-- The model's own checks pass on one array per component and a component it has, and give the
array of the component. -/
theorem derivativeComponent_eq_ok {v : Vehicle} {dim : Nat} {S : Shape} {x u : List Grid}
    (hx : x.length = v.stateDim) (hu : u.length = v.controlDim) (hdim : dim < v.stateDim) :
    v.derivativeComponent dim S x u = .ok (v.componentGrid dim S x u) := by
  simp [derivativeComponent, checkLength, hx, hu, Nat.not_le.2 hdim, bind, Except.bind, pure,
    Except.pure]

@[simp] theorem shape_componentGrid (v : Vehicle) (dim : Nat) (S : Shape) (x u : List Grid) :
    (v.componentGrid dim S x u).shape = S := rfl

/-- The loop over the requested components never fails: each passes the model's checks and comes
back with the shape `S`. -/
theorem mapM_components_eq_ok {v : Vehicle} {dims : List Nat}
    (hdims : ∀ d ∈ dims, d < v.stateDim)
    {S : Shape} {xs us : List Grid} (hx : xs.length = v.stateDim) (hu : us.length = v.controlDim) :
    (dims.mapM fun dim => do
        let dx ← v.derivativeComponent dim S xs us
        if dx.shape = S then pure dx
        else throw (ModelError.shapeMismatch "derivative component" S dx.shape)) =
      .ok (dims.map fun dim => v.componentGrid dim S xs us) := by
  refine List.mapM_eq_ok_iff.2 (List.forall₂_map_right_iff.2 (List.forall₂_same.2 ?_))
  intro d hd
  simp [derivativeComponent_eq_ok hx hu (hdims d hd), bind, Except.bind, pure, Except.pure]

/-- **The second layer of checks never fails.** Evaluating components of the model is the count
checks, the shape check of the state arrays and the broadcast of the control arrays, followed by
the component arrays; a plain state gets their values at the index `[]`. -/
theorem evaluate_eq {v : Vehicle} {dims : List Nat} (hdims : ∀ d ∈ dims, d < v.stateDim)
    (state control : Encoding) :
    v.evaluate dims state control = (do
      checkLength "state" v.stateDim state.length
      checkLength "control" v.controlDim control.length
      let shape ← commonShape state.arrays
      let us ← control.arrays.mapM (broadcastControl shape)
      let out := dims.map fun dim => v.componentGrid dim shape state.arrays us
      pure (if state.isScalar then .scalar (out.map (·.get [])) else .batched out)) := by
  unfold evaluate
  by_cases hs : v.stateDim = state.length
  · by_cases hc : v.controlDim = control.length
    · have h1 : checkLength "state" v.stateDim state.length = pure () := by
        simp [checkLength, hs]; rfl
      have h2 : checkLength "control" v.controlDim control.length = pure () := by
        simp [checkLength, hc]; rfl
      simp only [h1, h2, pure_bind]
      cases hS : commonShape state.arrays with
      | error e => rfl
      | ok S =>
          simp only [ok_bind]
          cases hU : control.arrays.mapM (broadcastControl S) with
          | error e => rfl
          | ok us =>
              have hus : us.length = v.controlDim := by
                rw [← (List.mapM_eq_ok_iff.1 hU).length_eq, Encoding.length_arrays, hc]
              have hxs : state.arrays.length = v.stateDim := by simp [hs]
              simp only [ok_bind]
              rw [mapM_components_eq_ok hdims hxs hus]
              cases state with
              | scalar x =>
                  obtain rfl : S = [] :=
                    (commonShape_eq_ok_iff.1 hS).1.trans Encoding.firstShape_arrays_scalar
                  simp [Encoding.isScalar, Encoding.unbox_of_shape_nil, Except.map, pure,
                    Except.pure, bind, Except.bind]
              | batched xs => rfl
    · simp [checkLength, hs, hc, bind, Except.bind]
  · simp [checkLength, hs, bind, Except.bind]

/-- What a successful evaluation is made of: the counts match, the state arrays share the shape
`S`, the control arrays are broadcast to it, and the result holds the component arrays over `S`,
unboxed for a plain state. -/
theorem evaluate_eq_ok {v : Vehicle} {dims : List Nat} (hdims : ∀ d ∈ dims, d < v.stateDim)
    {state control r : Encoding} (h : v.evaluate dims state control = .ok r) :
    state.length = v.stateDim ∧ control.length = v.controlDim ∧
      ∃ S bs, commonShape state.arrays = .ok S ∧
        control.arrays.mapM (broadcastControl S) = .ok bs ∧
        r = (let out := dims.map fun dim => v.componentGrid dim S state.arrays bs
          if state.isScalar then .scalar (out.map (·.get [])) else .batched out) := by
  rw [evaluate_eq hdims] at h
  by_cases hs : v.stateDim = state.length
  · by_cases hc : v.controlDim = control.length
    · simp only [checkLength, hs, hc, if_true, ok_bind] at h
      cases hS : commonShape state.arrays with
      | error e => simp [hS, bind, Except.bind] at h
      | ok S =>
          rw [hS, ok_bind] at h
          cases hU : control.arrays.mapM (broadcastControl S) with
          | error e => simp [hU, bind, Except.bind] at h
          | ok bs =>
              rw [hU, ok_bind] at h
              exact ⟨hs.symm, hc.symm, S, bs, rfl, hU, (Except.ok.inj h).symm⟩
    · simp [checkLength, hs, hc, bind, Except.bind] at h
  · simp [checkLength, hs, bind, Except.bind] at h

/-- The first check of an evaluation that fails, in the order they are made: the number of state
components, the number of control components, every state array having the first one's shape `S`
(plain values count as arrays of shape `[]`), and each control array, in order, broadcasting to
`S`. -/
def evaluationFault (v : Vehicle) (state control : Encoding) : Option ModelError :=
  let S := Grid.firstShape state.arrays
  if state.length ≠ v.stateDim then some (.lengthMismatch "state" v.stateDim state.length)
  else if control.length ≠ v.controlDim then
    some (.lengthMismatch "control" v.controlDim control.length)
  else
    match state.arrays.find? (fun x => x.shape != S) with
    | some x => some (.shapeMismatch "state arrays" S x.shape)
    | none =>
      (control.arrays.find? (fun u => !broadcastsTo u.shape S)).map fun u =>
        .shapeMismatch "control array" S u.shape

/-- **An evaluation fails exactly with its first failing check**, whatever components it asks
for among the model's. -/
theorem evaluate_eq_error_iff {v : Vehicle} {dims : List Nat}
    (hdims : ∀ d ∈ dims, d < v.stateDim)
    {state control : Encoding} {e : ModelError} :
    v.evaluate dims state control = .error e ↔ v.evaluationFault state control = some e := by
  rw [evaluate_eq hdims]
  unfold evaluationFault
  by_cases hs : state.length = v.stateDim
  · by_cases hc : control.length = v.controlDim
    · simp only [checkLength, hs, hc, if_true, ne_eq, not_true_eq_false, if_false]
      simp only [ok_bind]
      rw [commonShape_eq]
      cases hx : state.arrays.find? (fun b => b.shape != Grid.firstShape state.arrays) with
      | some b => simp [bind, Except.bind]
      | none =>
          simp only [ok_bind]
          cases hu : control.arrays.find?
              (fun u => !broadcastsTo u.shape (Grid.firstShape state.arrays)) with
          | some u =>
              rw [mapM_broadcastControl_eq_error_iff.2 ⟨u, hu, rfl⟩]
              simp [bind, Except.bind]
          | none =>
              cases hm : control.arrays.mapM (broadcastControl (Grid.firstShape state.arrays)) with
              | error e' =>
                  obtain ⟨u, hu', -⟩ := mapM_broadcastControl_eq_error_iff.1 hm
                  rw [hu] at hu'
                  cases hu'
              | ok bs => simp [pure, Except.pure]
    · simp [checkLength, hs, hc, bind, Except.bind, Ne.symm hc, eq_comm]
  · simp [checkLength, hs, bind, Except.bind, Ne.symm hs, eq_comm]

/-- All components of the derivative fail exactly with the first failing check. -/
theorem derivative_eq_error_iff {v : Vehicle} {state control : Encoding} {e : ModelError} :
    v.derivative state control = .error e ↔ v.evaluationFault state control = some e :=
  evaluate_eq_error_iff fun _ hd => List.mem_range.1 hd

/-- An outcome whose errors are exactly the faults of a check succeeds exactly when there is no
fault. -/
theorem exists_ok_iff_of_error_iff {ε α : Type} {x : Except ε α} {fault : Option ε}
    (h : ∀ e, x = .error e ↔ fault = some e) : (∃ r, x = .ok r) ↔ fault = none := by
  cases x with
  | error e => simp [(h e).1 rfl]
  | ok r =>
      simp only [Except.ok.injEq, exists_eq', true_iff]
      cases hf : fault with
      | none => rfl
      | some e => simpa using (h e).2 hf

/-- **Errors of evaluation.** All components of the derivative fail exactly with the first
failing check of `evaluationFault` and succeed when none fails; a single component is refused
first when the model does not have it, and otherwise behaves the same. The model's own checks,
the shape check of each component and the unboxing of a plain result never give the error. -/
theorem evaluation_fails_at_first_failing_check (v : Vehicle) (state control : Encoding) :
    (∀ e, v.derivative state control = .error e ↔ v.evaluationFault state control = some e) ∧
    ((∃ r, v.derivative state control = .ok r) ↔ v.evaluationFault state control = none) ∧
    ∀ dim,
      (∀ e, v.componentAt dim state control = .error e ↔
        (if v.stateDim ≤ dim then some (.dimensionOutOfRange dim v.stateDim)
          else v.evaluationFault state control) = some e) ∧
      ((∃ r, v.componentAt dim state control = .ok r) ↔
        dim < v.stateDim ∧ v.evaluationFault state control = none) := by
  have hall : ∀ e, v.derivative state control = .error e ↔
      v.evaluationFault state control = some e := fun _ => derivative_eq_error_iff
  have hone : ∀ dim e, v.componentAt dim state control = .error e ↔
      (if v.stateDim ≤ dim then some (.dimensionOutOfRange dim v.stateDim)
        else v.evaluationFault state control) = some e := by
    intro dim e
    unfold componentAt
    split
    · simp [eq_comm]
    · next hdim => exact evaluate_eq_error_iff (by simpa using Nat.not_le.1 hdim)
  refine ⟨hall, exists_ok_iff_of_error_iff hall, fun dim => ⟨hone dim, ?_⟩⟩
  rw [exists_ok_iff_of_error_iff (hone dim)]
  split
  · next hdim => simp [Nat.not_lt.2 hdim]
  · next hdim => simp [Nat.not_le.1 hdim]

/-! ### One component -/

/-- A component the model has is evaluated as the list of that one component. -/
theorem componentAt_eq_evaluate {v : Vehicle} {dim : Nat} (hdim : dim < v.stateDim)
    (state control : Encoding) : v.componentAt dim state control = v.evaluate [dim] state control := by
  simp [componentAt, Nat.not_le.2 hdim]

/-- The component arrays over `S` in the state's form, read at place `dim` of all of them: the
same as the one component `dim` in that form. -/
theorem pick?_components {v : Vehicle} {dim : Nat} (hdim : dim < v.stateDim) (S : Shape)
    (xs bs : List Grid) (scalar : Bool) :
    (let out := (List.range v.stateDim).map fun d => v.componentGrid d S xs bs
      if scalar then Encoding.scalar (out.map (·.get [])) else .batched out).pick? dim =
      some (let out := [dim].map fun d => v.componentGrid d S xs bs
        if scalar then Encoding.scalar (out.map (·.get [])) else .batched out) := by
  cases scalar <;> simp [Encoding.pick?, List.getElem?_range hdim]

/-- **One component is the full evaluation's component.** For a component the model has, the
single component succeeds exactly when all components do, with the same errors, and it is then
component `dim` of the full result, in the same form, which is the state's: the one value for a
plain state, the one array otherwise. -/
theorem componentAt_agrees_with_derivative (v : Vehicle) {dim : Nat} (hdim : dim < v.stateDim)
    (state control : Encoding) :
    (∀ e, v.componentAt dim state control = .error e ↔ v.derivative state control = .error e) ∧
    ((∃ r, v.componentAt dim state control = .ok r) ↔ ∃ r, v.derivative state control = .ok r) ∧
    ∀ r, v.derivative state control = .ok r →
      ∃ c, r.pick? dim = some c ∧ c.isScalar = state.isScalar ∧
        v.componentAt dim state control = .ok c := by
  have hone : ∀ d ∈ [dim], d < v.stateDim := by simpa using hdim
  have hall : ∀ d ∈ List.range v.stateDim, d < v.stateDim := fun d hd => List.mem_range.1 hd
  -- both fail exactly at the first failing check of the inputs
  have herr : ∀ e, v.componentAt dim state control = .error e ↔
      v.derivative state control = .error e := by
    intro e
    rw [componentAt_eq_evaluate hdim, evaluate_eq_error_iff hone, derivative_eq_error_iff]
  refine ⟨herr, ?_, ?_⟩
  · rw [exists_ok_iff_of_error_iff fun e => (herr e).trans derivative_eq_error_iff,
      exists_ok_iff_of_error_iff fun _ => derivative_eq_error_iff]
  · intro r hr
    obtain ⟨hs, hc, S, bs, hS, hbs, rfl⟩ := evaluate_eq_ok hall hr
    refine ⟨_, pick?_components hdim S state.arrays bs state.isScalar, ?_, ?_⟩
    · cases state.isScalar <;> rfl
    · rw [componentAt_eq_evaluate hdim, evaluate_eq hone]
      simp [checkLength, hs, hc, hS, hbs]

/-- The roll-rate component of the lateral model on a plain point is the full result's second
value. -/
theorem lateral_roll_rate_agrees_with_derivative :
    let range : Interval := ⟨0.0, 0.14, by decide, by decide, by decide⟩
    let v := Vehicle.lateral {} range range range
    1 < v.stateDim ∧
      ((∃ r, v.componentAt 1 (.scalar [0.5, 0.1]) (.scalar [0.05, 0.02, 1.0]) = .ok r) ↔
        ∃ r, v.derivative (.scalar [0.5, 0.1]) (.scalar [0.05, 0.02, 1.0]) = .ok r) := by
  intro range v
  exact ⟨by decide,
    (componentAt_agrees_with_derivative v (by decide) (.scalar [0.5, 0.1])
      (.scalar [0.05, 0.02, 1.0])).2.1⟩

end Vehicle

end Quadrotor
