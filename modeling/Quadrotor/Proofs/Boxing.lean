import Quadrotor.Proofs.Evaluation
/-!
# Boxing and unboxing are inverse

Boxing puts each plain value into an array of shape `[]`, and unboxing takes each array that
holds exactly one value back to that value. An array holds one value exactly when every extent of
its shape is `1`, however many axes it has: `[]`, `[1]` and `[1, 1]` all qualify. Unboxing refuses
the first array of another size, with its shape.

Values come back as they went in, bit for bit: equality of doubles is equality of their bits, so
a `-0.0` stays a `-0.0` and a NaN keeps its payload.

## Main results

* `Grid.length_data_eq_one_iff` — an array holds one value exactly when its extents are all `1`;
* `Encoding.unbox_eq_ok_iff`, `Encoding.unbox_eq_error_iff` — when unboxing succeeds, and the
  error it fails with;
* `Encoding.boxing_unboxing_inverse` — the two are inverse on what unboxing accepts.
-/

namespace Quadrotor

/-- A shape holds one value exactly when each of its extents is `1`. -/
theorem Shape.volume_eq_one_iff {s : Shape} : s.volume = 1 ↔ ∀ n ∈ s, n = 1 := by
  induction s with
  | nil => simp
  | cons n s ih =>
      rw [Shape.volume_cons, List.forall_mem_cons, ← ih]
      constructor
      · intro h
        exact ⟨Nat.eq_one_of_mul_eq_one_right h, Nat.eq_one_of_mul_eq_one_left h⟩
      · rintro ⟨rfl, h⟩
        rw [h]

/-- An array holds exactly one value when every extent of its shape is `1`. -/
theorem Grid.length_data_eq_one_iff (g : Grid) : g.data.length = 1 ↔ ∀ n ∈ g.shape, n = 1 := by
  rw [g.size_eq, Shape.volume_eq_one_iff]

namespace Encoding

/-- Boxing gives one array of shape `[]` per value, in order, holding that value. -/
theorem box_forall₂ (values : List Float) :
    List.Forall₂ (fun g x => g.shape = [] ∧ g.data = [x]) (box values) values := by
  rw [box, List.forall₂_map_left_iff, List.forall₂_same]
  intro x _
  exact ⟨rfl, rfl⟩

/-- **Unboxing succeeds exactly on arrays that each hold one value**, and gives those values in
order. -/
theorem unbox_eq_ok_iff {arrays : List Grid} {values : List Float} :
    unbox arrays = .ok values ↔ List.Forall₂ (fun g x => g.data = [x]) arrays values := by
  unfold unbox
  rw [List.mapM_eq_ok_iff]
  -- one array unboxes to `x` exactly when `x` is all it holds
  constructor
  · refine List.Forall₂.imp fun g x h => ?_
    split at h <;> simp_all
  · refine List.Forall₂.imp fun g x h => ?_
    simp [h]

/-- Boxed values unbox to themselves. -/
theorem unbox_box (values : List Float) : unbox (box values) = .ok values :=
  unbox_eq_ok_iff.2 ((box_forall₂ values).imp fun _ _ h => h.2)

/-- **Unboxing fails at the first array that does not hold exactly one value**, with that
array's shape. -/
theorem unbox_eq_error_iff {arrays : List Grid} {e : ModelError} :
    unbox arrays = .error e ↔
      ∃ g, arrays.find? (fun g => g.data.length != 1) = some g ∧
        e = .shapeMismatch "unboxed value" [] g.shape := by
  unfold unbox
  rw [List.mapM_eq_error_iff]
  constructor
  · rintro ⟨pre, g, post, rfl, hpre, hg⟩
    -- the failing array holds another number of values, the arrays before it one each
    have hlen : g.data.length ≠ 1 := by
      intro h
      obtain ⟨x, hx⟩ := List.length_eq_one_iff.1 h
      simp [hx] at hg
    have hpre' : ∀ a ∈ pre, a.data.length = 1 := by
      intro a ha
      obtain ⟨y, hy⟩ := hpre a ha
      split at hy <;> simp_all
    refine ⟨g, List.find?_eq_some_iff_append.2 ⟨by simpa using hlen, pre, post, rfl, ?_⟩, ?_⟩
    · intro a ha
      simpa using hpre' a ha
    · split at hg <;> simp_all
  · rintro ⟨g, hfind, rfl⟩
    obtain ⟨hg, pre, post, rfl, hpre⟩ := List.find?_eq_some_iff_append.1 hfind
    refine ⟨pre, g, post, rfl, fun a ha => ?_, ?_⟩
    · have hone : a.data.length = 1 := by simpa using hpre a ha
      obtain ⟨x, hx⟩ := List.length_eq_one_iff.1 hone
      exact ⟨x, by simp [hx]⟩
    · have hlen : g.data.length ≠ 1 := by simpa using hg
      split
      · next x hx => simp [hx] at hlen
      · rfl

/-- Unboxing succeeds exactly when every array has all its extents `1`. -/
theorem exists_unbox_eq_ok_iff {arrays : List Grid} :
    (∃ values, unbox arrays = .ok values) ↔ ∀ g ∈ arrays, ∀ n ∈ g.shape, n = 1 := by
  constructor
  · rintro ⟨values, h⟩ g hg
    have hF : List.Forall₂ (fun g x => g.data.length = 1 ∧ g.data = [x]) arrays values :=
      (unbox_eq_ok_iff.1 h).imp fun _ _ hx => ⟨by simp [hx], hx⟩
    exact (Grid.length_data_eq_one_iff g).1 (((List.forall₂_and_left _ _).1 hF).1 g hg)
  · intro h
    refine ⟨arrays.map fun g => g.data.headD 0, unbox_eq_ok_iff.2 ?_⟩
    rw [List.forall₂_map_right_iff, List.forall₂_same]
    intro g hg
    -- an array whose extents are all `1` holds one value, its first
    obtain ⟨x, hx⟩ := List.length_eq_one_iff.1 ((Grid.length_data_eq_one_iff g).2 (h g hg))
    simp [hx]

/-- Arrays unbox to the plain values that `unbox` gives them. -/
theorem unboxed_batched_eq_ok_iff {arrays : List Grid} {r : Encoding} :
    (Encoding.batched arrays).unboxed = .ok r ↔
      ∃ values, unbox arrays = .ok values ∧ r = .scalar values := by
  cases h : unbox arrays <;> simp [unboxed, h, Except.map, eq_comm]

/-- Arrays fail to unbox with the error of `unbox`. -/
theorem unboxed_batched_eq_error_iff {arrays : List Grid} {e : ModelError} :
    (Encoding.batched arrays).unboxed = .error e ↔ unbox arrays = .error e := by
  cases h : unbox arrays <;> simp [unboxed, h, Except.map]

/-- **Boxing and unboxing are inverse.** Plain values box to one array of shape `[]` each, in
order, and unbox back to themselves. Arrays unbox to plain values exactly when each holds one
value, whatever its shape, and the values are those, in order; otherwise unboxing fails with the
shape of the first array that does not. Boxing leaves arrays alone and unboxing leaves plain
values alone. -/
theorem boxing_unboxing_inverse :
    (∀ values : List Float,
      (∃ arrays, (Encoding.scalar values).boxed = .batched arrays ∧
        List.Forall₂ (fun g x => g.shape = [] ∧ g.data = [x]) arrays values) ∧
      (Encoding.scalar values).boxed.unboxed = .ok (.scalar values)) ∧
    (∀ (arrays : List Grid) (r : Encoding),
      (Encoding.batched arrays).unboxed = .ok r ↔
        ∃ values, r = .scalar values ∧ List.Forall₂ (fun g x => g.data = [x]) arrays values) ∧
    (∀ arrays : List Grid,
      (∃ r, (Encoding.batched arrays).unboxed = .ok r) ↔ ∀ g ∈ arrays, ∀ n ∈ g.shape, n = 1) ∧
    (∀ (arrays : List Grid) (e : ModelError),
      (Encoding.batched arrays).unboxed = .error e ↔
        ∃ g, arrays.find? (fun g => g.data.length != 1) = some g ∧
          e = .shapeMismatch "unboxed value" [] g.shape) ∧
    (∀ arrays : List Grid, (Encoding.batched arrays).boxed = .batched arrays) ∧
    (∀ values : List Float, (Encoding.scalar values).unboxed = .ok (.scalar values)) := by
  refine ⟨fun values => ⟨⟨box values, rfl, box_forall₂ values⟩, ?_⟩, ?_, ?_, ?_,
    fun _ => rfl, fun _ => rfl⟩
  · exact unboxed_batched_eq_ok_iff.2 ⟨values, unbox_box values, rfl⟩
  · intro arrays r
    rw [unboxed_batched_eq_ok_iff]
    simp only [unbox_eq_ok_iff, and_comm]
  · intro arrays
    rw [← exists_unbox_eq_ok_iff]
    simp [unboxed_batched_eq_ok_iff]
  · intro arrays e
    rw [unboxed_batched_eq_error_iff, unbox_eq_error_iff]

end Encoding

end Quadrotor
