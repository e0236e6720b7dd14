import Quadrotor.Proofs.Partition
/-!
# The internal errors of a partitioned evaluation are unreachable

The partitioned evaluation has failures of its own beside those of the evaluation: a row range cut
past the end of an array, on which the array library panics, a part whose result is not one array
per state component, and parts whose arrays do not join along the first axis. None of them can
happen, for any input, the inputs on which the two evaluations differ included.

When the state is split, its arrays share the shape `rows :: t`, so the rank that decides whether
a control array is cut is at least one, and a control array is cut only when it has that rank and
`rows` rows. Every range lies within `0` to `rows` (`partitionRows_chain`), so every cut finds its
rows. A part's state arrays then have the shape `(hi - lo) :: t`, and a part that evaluates gives
one array per state component, each of that shape (`partResult_eq_ok`); arrays that agree past
the first axis always join (`joinRows_eq_ok`). So the partitioned evaluation fails only with the
errors of the checks on its inputs (`ModelError.IsInputFault`): a wrong number of components,
state arrays of different shapes, or a control array that does not broadcast.

## Main results

* `Vehicle.partResult_eq_ok` — a part gives one array per component, of the part's shape;
* `Vehicle.joinParts_eq_ok` — such parts always join;
* `evaluatePartitioned_never_internal_error` — the cuts find their rows, the parts have the
  shape the join needs, and only input faults are reported.
-/

namespace Quadrotor

/-- The errors of the checks an evaluation makes on its inputs: a state or a control with the
wrong number of components, state arrays of different shapes, or a control array that does not
broadcast to the state's shape. -/
def ModelError.IsInputFault : ModelError → Prop
  | .lengthMismatch what _ _ => what = "state" ∨ what = "control"
  | .shapeMismatch what _ _ => what = "state arrays" ∨ what = "control array"
  | _ => False

theorem ModelError.IsInputFault.ne_invariant {e : ModelError} (h : e.IsInputFault) (msg : String) :
    e ≠ .invariant msg := by
  rintro rfl
  exact h

theorem ModelError.IsInputFault.ne_panic {e : ModelError} (h : e.IsInputFault) (msg : String) :
    e ≠ .panic msg := by
  rintro rfl
  exact h

theorem ModelError.IsInputFault.ne_partitionResults {e : ModelError} (h : e.IsInputFault)
    (s s' : Shape) : e ≠ .shapeMismatch "partition results" s s' := by
  rintro rfl
  rcases h with h | h <;> simp at h

/-- Arrays that agree past the first axis join along it. -/
theorem Grid.appendRows?_eq_some {a b : Grid} {m n : Nat} {t : Shape} (ha : a.shape = m :: t)
    (hb : b.shape = n :: t) : ∃ c, a.appendRows? b = some c ∧ c.shape = (m + n) :: t := by
  have hlen : (a.data ++ b.data).length = Shape.volume ((m + n) :: t) := by
    rw [List.length_append, a.size_eq, b.size_eq, ha, hb]
    simp only [Shape.volume_cons, Nat.add_mul]
  simp only [Grid.appendRows?, ha, hb, if_true, Grid.ofData?, dif_pos hlen]
  exact ⟨_, rfl, rfl⟩

/-- Each element of the second of two related lists is related to one of the first. -/
theorem exists_mem_of_forall₂ {α β : Type} {R : α → β → Prop} {l₁ : List α} {l₂ : List β}
    (h : List.Forall₂ R l₁ l₂) {b : β} (hb : b ∈ l₂) : ∃ a ∈ l₁, R a b := by
  induction h with
  | nil => cases hb
  | @cons a b' l₁ l₂ hab _ ih =>
      rcases List.mem_cons.1 hb with rfl | hb
      · exact ⟨a, List.mem_cons_self, hab⟩
      · obtain ⟨a', ha', h'⟩ := ih hb
        exact ⟨a', List.mem_cons_of_mem a ha', h'⟩

namespace Vehicle

/-! ### Errors of the evaluation -/

/-- The evaluation's first failing check is a check on its inputs. -/
theorem evaluationFault_isInputFault {v : Vehicle} {state control : Encoding} {e : ModelError}
    (h : v.evaluationFault state control = some e) : e.IsInputFault := by
  unfold evaluationFault at h
  dsimp only at h
  split_ifs at h
  · cases h
    exact .inl rfl
  · cases h
    exact .inr rfl
  · split at h
    · cases h
      exact .inl rfl
    · obtain ⟨u, -, rfl⟩ := Option.map_eq_some_iff.1 h
      exact .inr rfl

theorem derivative_eq_error_isInputFault {v : Vehicle} {state control : Encoding}
    {e : ModelError} (h : v.derivative state control = .error e) : e.IsInputFault :=
  evaluationFault_isInputFault (derivative_eq_error_iff.1 h)

/-! ### The parts -/

section Parts

variable {v : Vehicle} {xs : List Grid} {rows : Nat} {t : Shape}

/-- **A part that evaluates gives one array per state component**, each with the part's rows and
the state's other extents. -/
theorem partResult_eq_ok (hxs : ∀ x ∈ xs, x.shape = rows :: t) (hne : xs ≠ [])
    (control : Encoding) {r : Nat × Nat} (hlo : r.1 ≤ r.2) (hhi : r.2 ≤ rows) {p : Encoding}
    (h : v.partResult xs control (rows :: t).length rows r = .ok p) :
    ∃ arrays, p = .batched arrays ∧ arrays.length = v.stateDim ∧
      ∀ a ∈ arrays, a.shape = (r.2 - r.1) :: t := by
  obtain ⟨ys, c', hys, hc', -, -, -, -, hyne, hyS⟩ := part_inputs hxs hne control hlo hhi
  simp only [partResult, hys, hc', ok_bind] at h
  obtain ⟨-, -, S, bs, hS, -, rfl⟩ := evaluate_eq_ok (fun d hd => List.mem_range.1 hd) h
  -- the part's state arrays share the part's shape, so its components have it
  have hSeq : S = (r.2 - r.1) :: t :=
    (commonShape_eq_ok_iff.1 hS).1.trans (Grid.firstShape_eq hyne hyS)
  subst hSeq
  exact ⟨_, rfl, by simp, by simp⟩

/-- A part fails only with the errors of the checks on its inputs: its cuts always find their
rows. -/
theorem partResult_eq_error_isInputFault (hxs : ∀ x ∈ xs, x.shape = rows :: t) (hne : xs ≠ [])
    (control : Encoding) {r : Nat × Nat} (hlo : r.1 ≤ r.2) (hhi : r.2 ≤ rows) {e : ModelError}
    (h : v.partResult xs control (rows :: t).length rows r = .error e) : e.IsInputFault := by
  obtain ⟨ys, c', hys, hc', -⟩ := part_inputs hxs hne control hlo hhi
  simp only [partResult, hys, hc', ok_bind] at h
  exact derivative_eq_error_isInputFault h

end Parts

/-! ### Joining the parts -/

/-- A join, onto an array of the extents `t` past the first axis, of arrays with those extents
goes through. -/
theorem foldlM_joinStep_eq_ok (err : ModelError) {t : Shape} {gs : List Grid}
    (hgs : ∀ g ∈ gs, ∃ n, g.shape = n :: t) {acc : Grid} {k : Nat} (hacc : acc.shape = k :: t) :
    ∃ G, gs.foldlM (joinStep err) acc = .ok G := by
  induction gs generalizing acc k with
  | nil => exact ⟨acc, rfl⟩
  | cons g gs ih =>
      obtain ⟨n, hg⟩ := hgs g List.mem_cons_self
      obtain ⟨c, hc, hcs⟩ := Grid.appendRows?_eq_some hacc hg
      rw [List.foldlM_cons, joinStep, hc]
      exact ih (fun g' hg' => hgs g' (List.mem_cons_of_mem g hg')) hcs

/-- **Arrays that agree past the first axis join**, whatever their numbers of rows. -/
theorem joinRows_eq_ok (S : Shape) {t : Shape} {gs : List Grid} (hne : gs ≠ [])
    (hgs : ∀ g ∈ gs, ∃ n, g.shape = n :: t) : ∃ G, joinRows S gs = .ok G := by
  cases gs with
  | nil => exact absurd rfl hne
  | cons first rest =>
      obtain ⟨k, hk⟩ := hgs first List.mem_cons_self
      rw [joinRows_cons]
      exact foldlM_joinStep_eq_ok _ (fun g hg => hgs g (List.mem_cons_of_mem first hg)) hk

/-- **Parts that each give one array per component join**, when their arrays agree past the
first axis. -/
theorem joinParts_eq_ok {v : Vehicle} (S : Shape) {t : Shape} {parts : List Encoding}
    (hne : parts ≠ [])
    (hparts : ∀ p ∈ parts, ∃ arrays, p = .batched arrays ∧ arrays.length = v.stateDim ∧
      ∀ a ∈ arrays, ∃ n, a.shape = n :: t) :
    ∃ res, v.joinParts S parts = .ok res := by
  -- component `d` of every part exists, and these arrays join
  have hdim : ∀ d < v.stateDim, ∃ joined,
      (do let arrays ← parts.mapM (partArray d); joinRows S arrays) = .ok joined := by
    intro d hd
    have helem : ∀ p ∈ parts, ∃ a, partArray d p = .ok a ∧ ∃ n, a.shape = n :: t := by
      intro p hp
      obtain ⟨as, rfl, hlen, has⟩ := hparts p hp
      have hd' : d < as.length := hlen ▸ hd
      exact ⟨as[d], by simp [partArray, List.getElem?_eq_getElem hd'], has _ (List.getElem_mem hd')⟩
    obtain ⟨arrays, harr, hF⟩ := List.exists_mapM_eq_ok helem
    have hane : arrays ≠ [] := by
      rintro rfl
      exact hne (List.forall₂_nil_right_iff.1 hF)
    have hshapes : ∀ a ∈ arrays, ∃ n, a.shape = n :: t := fun a ha =>
      (exists_mem_of_forall₂ hF ha).elim fun _ h => h.2
    obtain ⟨G, hG⟩ := joinRows_eq_ok S hane hshapes
    exact ⟨G, by rw [harr, ok_bind]; exact hG⟩
  obtain ⟨joined, hj, -⟩ := List.exists_mapM_eq_ok fun d hd =>
    (hdim d (List.mem_range.1 hd)).imp fun _ hj => ⟨hj, trivial⟩
  exact ⟨_, by rw [joinParts, hj]; rfl⟩

/-! ### The split evaluation -/

section Split

variable {v : Vehicle} {xs : List Grid} {control : Encoding} {partitions rows : Nat} {t : Shape}

/-- What the split evaluation does on each range: the range lies within the rows, the state
arrays and the control arrays to be cut are cut within their rows, and a part that evaluates
gives one array per state component, with the part's rows and the state's other extents. -/
theorem parts_fit (hS : commonShape xs = .ok (rows :: t)) {r : Nat × Nat}
    (hr : r ∈ partitionRows rows partitions) :
    r.1 ≤ r.2 ∧ r.2 ≤ rows ∧ (∃ ys, xs.mapM (sliceRows r.1 r.2) = .ok ys) ∧
      (∃ c', controlPart (rows :: t).length rows r.1 r.2 control = .ok c') ∧
      ∀ p, v.partResult xs control (rows :: t).length rows r = .ok p →
        ∃ arrays, p = .batched arrays ∧ arrays.length = v.stateDim ∧
          ∀ a ∈ arrays, a.shape = (r.2 - r.1) :: t := by
  obtain ⟨-, hxs⟩ := commonShape_eq_ok_iff.1 hS
  have hne := ne_nil_of_commonShape hS
  obtain ⟨-, hlo, hhi⟩ := (partitionRows_chain rows partitions).mem_bounds r hr
  obtain ⟨ys, c', hys, hc', -⟩ := part_inputs hxs hne control hlo hhi
  exact ⟨hlo, hhi, ⟨ys, hys⟩, ⟨c', hc'⟩, fun _ hp => partResult_eq_ok hxs hne control hlo hhi hp⟩

/-- The split evaluation fails only with the errors of the checks on its inputs: a part that
fails reports its inputs, and parts that evaluate always join. -/
theorem split_eq_error (hS : commonShape xs = .ok (rows :: t)) {e : ModelError}
    (h : ((partitionRows rows partitions).mapM (v.partResult xs control (rows :: t).length rows) >>=
      v.joinParts (rows :: t)) = .error e) : e.IsInputFault := by
  obtain ⟨-, hxs⟩ := commonShape_eq_ok_iff.1 hS
  have hne := ne_nil_of_commonShape hS
  cases hm : (partitionRows rows partitions).mapM (v.partResult xs control (rows :: t).length rows)
    with
  | error e' =>
      rw [hm] at h
      cases h
      -- the first part that fails
      obtain ⟨pre, r, post, hrs, -, hr⟩ := List.mapM_eq_error_iff.1 hm
      have hmem : r ∈ partitionRows rows partitions := by
        rw [hrs]
        exact List.mem_append_right pre List.mem_cons_self
      obtain ⟨-, hlo, hhi⟩ := (partitionRows_chain rows partitions).mem_bounds r hmem
      exact partResult_eq_error_isInputFault hxs hne control hlo hhi hr
  | ok parts =>
      rw [hm, ok_bind] at h
      -- every part has the shape the join needs, so the join goes through
      have hF := List.mapM_eq_ok_iff.1 hm
      have hpne : parts ≠ [] := by
        rintro rfl
        exact partitionRows_ne_nil rows partitions (List.forall₂_nil_right_iff.1 hF)
      have hparts : ∀ p ∈ parts, ∃ arrays, p = .batched arrays ∧ arrays.length = v.stateDim ∧
          ∀ a ∈ arrays, ∃ n, a.shape = n :: t := by
        intro p hp
        obtain ⟨r, hr, hpr⟩ := exists_mem_of_forall₂ hF hp
        obtain ⟨arrays, rfl, hlen, hshape⟩ := (parts_fit hS hr).2.2.2.2 p hpr
        exact ⟨arrays, rfl, hlen, fun a ha => ⟨_, hshape a ha⟩⟩
      obtain ⟨res, hres⟩ := joinParts_eq_ok (rows :: t) hpne hparts
      rw [hres] at h
      cases h

/-- The evaluation splits only a shape with a first axis of at least two rows. -/
theorem shape_of_splits {S : Shape} (hsplit : ¬(partitions ≤ 1 ∨ S.headD 0 < 2)) :
    ∃ rows t, S = rows :: t ∧ 2 ≤ rows ∧ 2 ≤ partitions := by
  obtain ⟨hp, hrows⟩ := not_or.1 hsplit
  cases S with
  | nil => exact absurd (Nat.zero_lt_succ 1) hrows
  | cons rows t => exact ⟨rows, t, rfl, Nat.le_of_not_lt hrows, by omega⟩

end Split

/-! ### The partitioned evaluation -/

/-- **The partitioned evaluation fails only with the errors of the checks on its inputs**: those
of the evaluation it falls back to, of the shape check on the state arrays, and of its parts. -/
theorem evaluatePartitioned_eq_error_isInputFault {v : Vehicle} {state control : Encoding}
    {partitions : Nat} {e : ModelError}
    (h : v.evaluatePartitioned state control partitions = .error e) : e.IsInputFault := by
  cases state with
  | scalar values => exact derivative_eq_error_isInputFault h
  | batched xs =>
      by_cases hx : xs.length = v.stateDim
      swap
      · rw [evaluatePartitioned_state_length hx] at h
        exact derivative_eq_error_isInputFault h
      cases hS : commonShape xs with
      | error e' =>
          rw [evaluatePartitioned_commonShape_error hx hS] at h
          cases h
          obtain ⟨s, s', rfl⟩ := commonShape_eq_error hS
          exact .inl rfl
      | ok S =>
          by_cases hsmall : partitions ≤ 1 ∨ S.headD 0 < 2
          · rw [evaluatePartitioned_of_small hx hS hsmall] at h
            exact derivative_eq_error_isInputFault h
          obtain ⟨rows, t, rfl, hrows, hp⟩ := shape_of_splits hsmall
          rw [evaluatePartitioned_parts hx hS hp hrows] at h
          exact split_eq_error hS h

/-- **The internal errors of the partitioned evaluation are unreachable.** When the evaluation
splits a batch, the state's shape has a first axis, the evaluation is the join of its parts, every
range lies within the rows and every cut of a state or control array finds its rows, and every
part that evaluates is batched with one array per state component, the arrays differing from the
state's shape only on the first axis. On every input, the errors it reports are those of the
checks on its inputs: never a panic of the array library, never an invariant violation and never
a failed join of the parts. -/
theorem evaluatePartitioned_never_internal_error (v : Vehicle) (state control : Encoding)
    (partitions : Nat) :
    (∀ xs S, state = .batched xs → xs.length = v.stateDim → commonShape xs = .ok S →
      ¬(partitions ≤ 1 ∨ S.headD 0 < 2) →
      ∃ rows t, S = rows :: t ∧
        v.evaluatePartitioned state control partitions =
          (partitionRows rows partitions).mapM (v.partResult xs control S.length rows) >>=
            v.joinParts S ∧
        ∀ r ∈ partitionRows rows partitions,
          r.1 ≤ r.2 ∧ r.2 ≤ rows ∧ (∃ ys, xs.mapM (sliceRows r.1 r.2) = .ok ys) ∧
          (∃ c', controlPart S.length rows r.1 r.2 control = .ok c') ∧
          ∀ p, v.partResult xs control S.length rows r = .ok p →
            ∃ arrays, p = .batched arrays ∧ arrays.length = v.stateDim ∧
              ∀ a ∈ arrays, a.shape = (r.2 - r.1) :: t) ∧
    ∀ e, v.evaluatePartitioned state control partitions = .error e →
      e.IsInputFault ∧ (∀ msg, e ≠ .panic msg) ∧ (∀ msg, e ≠ .invariant msg) ∧
        ∀ s s', e ≠ .shapeMismatch "partition results" s s' := by
  refine ⟨?split, fun e h => ?errors⟩
  case split =>
    rintro xs S rfl hx hS hsplit
    obtain ⟨rows, t, rfl, hrows, hp⟩ := shape_of_splits hsplit
    exact ⟨rows, t, rfl, evaluatePartitioned_parts hx hS hp hrows, fun r hr => parts_fit hS hr⟩
  case errors =>
    have hfault := evaluatePartitioned_eq_error_isInputFault h
    exact ⟨hfault, hfault.ne_panic, hfault.ne_invariant, hfault.ne_partitionResults⟩

end Vehicle

end Quadrotor
