import Quadrotor.Proofs.Partition
/-!
# The lateral model is the planar model's horizontal channel

The lateral model's speed equation is the planar model's equation of horizontal speed, with the
pitch angle read from the lateral model's roll angle: both compute
`((-drag) · v) / m + (sin φ · (T₁ + T₂)) / m`, in that order. With the same mass and the lateral
drag equal to the planar translational drag, component `0` of the two models agrees bit for bit,
on a point or on a batch, however the other state components (`v_z`, `q`) and the roll-rate
command are chosen, as long as both evaluations accept their inputs.

## Main results

* `Vehicle.componentAt_eq_ok_of_checks` — a component on inputs that pass the dispatch's checks;
* `Vehicle.lateral_speed_componentGrid` — the speed arrays of the two models agree;
* `Vehicle.lateral_speed_matches_planar` — the two evaluations of component `0` agree.
-/

namespace Quadrotor

open Shape

namespace Vehicle

/-- A component evaluated on inputs that pass the dispatch's checks, with the state arrays of the
shape `S` and the control arrays broadcast to `bs`: its array over `S`, unboxed for a plain
state. -/
theorem componentAt_eq_ok_of_checks {v : Vehicle} {dim : Nat} (hdim : dim < v.stateDim)
    {state control : Encoding} {S : Shape} {bs : List Grid}
    (hx : state.length = v.stateDim) (hu : control.length = v.controlDim)
    (hS : commonShape state.arrays = .ok S)
    (hbs : control.arrays.mapM (broadcastControl S) = .ok bs) :
    v.componentAt dim state control =
      .ok (if state.isScalar then .scalar [(v.componentGrid dim S state.arrays bs).get []]
        else .batched [v.componentGrid dim S state.arrays bs]) := by
  rw [componentAt_eq_evaluate hdim, evaluate_eq (by simpa using hdim)]
  simp [checkLength, hx, hu, hS, hbs]

/-- State arrays that all have the shape `S` pass the shape check with `S`. -/
theorem commonShape_of_shapes {xs : List Grid} {S : Shape} (hne : xs ≠ [])
    (h : ∀ x ∈ xs, x.shape = S) : commonShape xs = .ok S :=
  commonShape_eq_ok_iff.2 ⟨(Grid.firstShape_eq hne h).symm, h⟩

/-- **The speed arrays agree.** Over any shape, the lateral speed computed from `(v, φ)` and
`(T₁, T₂, ω)` is the planar horizontal speed computed from `(v, v_z, φ, q)` and `(T₁, T₂)`, when
the masses agree and the lateral drag is the translational drag. -/
theorem lateral_speed_componentGrid {cl : LateralConfig} {cp : PlanarConfig}
    (hmass : cl.mass = cp.mass) (hdrag : cl.drag = cp.transDrag) (t1 t2 wp t1' t2' : Interval)
    (S : Shape) (speed angle vz q T1 T2 ω : Grid) :
    (lateral cl t1 t2 wp).componentGrid 0 S [speed, angle] [T1, T2, ω] =
      (planar cp t1' t2').componentGrid 0 S [speed, vz, angle, q] [T1, T2] := by
  simp only [componentGrid, component, pointAt, List.map_cons, List.map_nil, hmass, hdrag]
  rfl

/-- **The lateral speed is the planar horizontal speed.** Take a lateral and a planar model with
the same mass and the lateral drag equal to the translational drag; state arrays `v`, `φ`, `v_z`,
`q` of one shape `S` (plain values count as arrays of shape `[]`), the lateral state being
`(v, φ)` and the planar one `(v, v_z, φ, q)` in the same form; and control arrays `T₁`, `T₂`, `ω`
that broadcast to `S`, the lateral control being `(T₁, T₂, ω)` and the planar one `(T₁, T₂)`.
Then component `0` of both models succeeds, with one and the same result. -/
theorem lateral_speed_matches_planar {cl : LateralConfig} {cp : PlanarConfig}
    (hmass : cl.mass = cp.mass) (hdrag : cl.drag = cp.transDrag) (t1 t2 wp t1' t2' : Interval)
    {xL xP uL uP : Encoding} {S : Shape} {speed angle vz q T1 T2 ω : Grid}
    (hxL : xL.arrays = [speed, angle]) (hxP : xP.arrays = [speed, vz, angle, q])
    (hform : xL.isScalar = xP.isScalar) (hS : ∀ g ∈ [speed, vz, angle, q], g.shape = S)
    (huL : uL.arrays = [T1, T2, ω]) (huP : uP.arrays = [T1, T2])
    (hb : ∀ g ∈ [T1, T2, ω], broadcastsTo g.shape S = true) :
    ∃ r, (lateral cl t1 t2 wp).componentAt 0 xL uL = .ok r ∧
      (planar cp t1' t2').componentAt 0 xP uP = .ok r := by
  -- both state lists pass the shape check with `S`, the lateral one being part of the planar one
  have hsub : [speed, angle] ⊆ [speed, vz, angle, q] := by
    intro g hg
    rcases List.mem_pair.1 hg with rfl | rfl <;> simp
  have hSL : commonShape xL.arrays = .ok S := by
    rw [hxL]
    exact commonShape_of_shapes (List.cons_ne_nil _ _) fun g hg => hS g (hsub hg)
  have hSP : commonShape xP.arrays = .ok S := by
    rw [hxP]
    exact commonShape_of_shapes (List.cons_ne_nil _ _) hS
  -- the thrusts are broadcast alike for both models
  obtain ⟨b1, hb1⟩ := broadcastControl_exists (hb T1 (by simp))
  obtain ⟨b2, hb2⟩ := broadcastControl_exists (hb T2 (by simp))
  obtain ⟨bω, hbω⟩ := broadcastControl_exists (hb ω (by simp))
  have hbL : uL.arrays.mapM (broadcastControl S) = .ok [b1, b2, bω] := by
    simp [huL, List.mapM_cons, hb1, hb2, hbω]
  have hbP : uP.arrays.mapM (broadcastControl S) = .ok [b1, b2] := by
    simp [huP, List.mapM_cons, hb1, hb2]
  have hL : (lateral cl t1 t2 wp).componentAt 0 xL uL = _ :=
    componentAt_eq_ok_of_checks (Nat.zero_lt_succ _) (by rw [← Encoding.length_arrays, hxL]; rfl)
      (by rw [← Encoding.length_arrays, huL]; rfl) hSL hbL
  have hP : (planar cp t1' t2').componentAt 0 xP uP = _ :=
    componentAt_eq_ok_of_checks (Nat.zero_lt_succ _) (by rw [← Encoding.length_arrays, hxP]; rfl)
      (by rw [← Encoding.length_arrays, huP]; rfl) hSP hbP
  refine ⟨_, hL, ?_⟩
  rw [hP, hxL, hxP, hform, lateral_speed_componentGrid hmass hdrag]

/-- On a batch of two points with plain controls, the lateral speed of a vehicle whose drag is
the planar default is the default planar vehicle's horizontal speed. -/
theorem lateral_speed_matches_planar_on_batch :
    let range : Interval := ⟨0.0, 0.14, by decide, by decide, by decide⟩
    let speed : Grid := ⟨[2], [0.5, 0.6], rfl⟩
    let angle : Grid := ⟨[2], [0.1, 0.2], rfl⟩
    let vz : Grid := ⟨[2], [0.0, 0.0], rfl⟩
    let q : Grid := ⟨[2], [1.0, -1.0], rfl⟩
    ∃ r, (lateral { drag := 9.17e-7 } range range range).componentAt 0
        (.batched [speed, angle]) (.scalar [0.05, 0.02, 1.0]) = .ok r ∧
      (planar {} range range).componentAt 0
        (.batched [speed, vz, angle, q]) (.scalar [0.05, 0.02]) = .ok r := by
  intro range speed angle vz q
  exact lateral_speed_matches_planar rfl rfl range range range range range rfl rfl rfl
    (by show ∀ g ∈ [speed, vz, angle, q], g.shape = [2]; simp [speed, angle, vz, q]) rfl rfl
    (by decide)

end Vehicle

end Quadrotor
