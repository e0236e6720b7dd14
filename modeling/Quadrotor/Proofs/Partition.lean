import Quadrotor.Model.Partition
import Quadrotor.Proofs.Pointwise
/-!
# Evaluating a batch in parts

`partitionRows` lays out its ranges by a loop whose end, after the turns for ranges `0` to
`k - 1`, is the start of range `k` (`foldl_rowStep`), so range `i` runs from `partitionStart i` to
`partitionStart (i + 1)` (`partitionRows_eq`), and the ranges follow one another from `0` to
`rows` (`partitionRows_chain`). When every control array broadcasts to the state's shape `S`, each part
evaluates to the rows of the whole evaluation that it covers, and joining the parts gives the
whole back: the partitioned evaluation is the single one.

It is not the single one in general. The partitioned path checks the state's shapes before the
control's length, so a state of mismatched shapes with a control of the wrong length reports the
shapes, where the single evaluation reports the length. And a control array that does not
broadcast to `S` is broadcast against each part's shape instead: it is refused with the part's
shape, or even accepted when its first extent is a part's row count. `PartitionDiverges` names
these two cases, and `evaluatePartitioned_eq_derivative_iff` shows that they are exactly the
inputs on which the two evaluations differ.

## Main results

* `foldl_rowStep`, `partitionRows_eq` — the loop that lays out the ranges, in closed form;
* `partitionRows_chain` — the ranges cover the rows in order;
* `Vehicle.joinRows_rows` — joining the row ranges of an array gives the array;
* `Vehicle.derivative_part` — a part evaluates to the rows of the whole evaluation;
* `Vehicle.evaluatePartitioned_eq_derivative_iff` — the partitioned evaluation is the single one
  exactly when the inputs do not diverge.
-/

namespace Quadrotor

open Shape

/-! ### Row ranges -/

/-- Row ranges that follow one another from row `a` to row `b`: each starts where the previous
one ended and none goes back. -/
inductive RowChain : Nat → List (Nat × Nat) → Nat → Prop
  | nil (a : Nat) : RowChain a [] a
  | cons {a m b : Nat} {rs : List (Nat × Nat)} :
      a ≤ m → RowChain m rs b → RowChain a ((a, m) :: rs) b

namespace RowChain

/-- A range added at the end of a chain extends it. -/
theorem append_single {a b c : Nat} {rs : List (Nat × Nat)} (h : RowChain a rs b) (hbc : b ≤ c) :
    RowChain a (rs ++ [(b, c)]) c := by
  induction h with
  | nil a => exact cons hbc (nil c)
  | cons ham _ ih => exact cons ham (ih hbc)

/-- A chain goes forward. -/
theorem le {a b : Nat} {rs : List (Nat × Nat)} (h : RowChain a rs b) : a ≤ b := by
  induction h with
  | nil a => exact Nat.le_refl a
  | cons ham _ ih => exact Nat.le_trans ham ih

/-- Every range of a chain lies between its ends, in order. -/
theorem mem_bounds {a b : Nat} {rs : List (Nat × Nat)} (h : RowChain a rs b) :
    ∀ r ∈ rs, a ≤ r.1 ∧ r.1 ≤ r.2 ∧ r.2 ≤ b := by
  induction h with
  | nil a => simp
  | @cons a m b rs ham hrest ih =>
      intro r hr
      rcases List.mem_cons.1 hr with rfl | hr
      · exact ⟨Nat.le_refl a, ham, hrest.le⟩
      · obtain ⟨h₁, h₂, h₃⟩ := ih r hr
        exact ⟨Nat.le_trans ham h₁, h₂, h₃⟩

end RowChain

/-- The number of ranges `partitionRows rows partitions` makes. -/
def partitionCount (rows partitions : Nat) : Nat := max 1 (min partitions (max rows 1))

/-- The start of range `i` of `partitionRows rows partitions`. -/
def partitionStart (rows partitions i : Nat) : Nat :=
  i * (rows / partitionCount rows partitions) + min i (rows % partitionCount rows partitions)

/-- The clamped count of `partitionRows` is `partitionCount`. -/
theorem clampBetween_eq_partitionCount (rows partitions : Nat) :
    clampBetween partitions 1 (max rows 1) (Nat.le_max_right rows 1) =
      partitionCount rows partitions := by
  unfold clampBetween partitionCount
  split_ifs <;> omega

/-- Range `i + 1` starts where range `i` starts, moved on by the length of range `i`: `rows / k`
rows, one more while `i < rows % k`. -/
theorem partitionStart_succ (rows partitions i : Nat) :
    partitionStart rows partitions (i + 1) =
      partitionStart rows partitions i + (rows / partitionCount rows partitions +
        (decide (i < rows % partitionCount rows partitions)).toNat) := by
  simp only [partitionStart, Nat.add_mul, Nat.one_mul]
  generalize rows / partitionCount rows partitions = base
  generalize rows % partitionCount rows partitions = extra
  by_cases h : i < extra <;> simp [h] <;> omega

/-- **The loop invariant.** After the turns for ranges `0` to `k - 1`, the loop's end `lo` is the
start of range `k`, and the loop has laid out those ranges. -/
theorem foldl_rowStep (rows partitions k : Nat) :
    (List.range k).foldl
        (rowStep (rows / partitionCount rows partitions) (rows % partitionCount rows partitions))
        (0, []) =
      (partitionStart rows partitions k, (List.range k).map fun i =>
        (partitionStart rows partitions i, partitionStart rows partitions (i + 1))) := by
  induction k with
  | zero => simp [partitionStart]
  | succ k ih =>
      -- the turn for range `k` starts from the state the first `k` turns leave
      rw [List.range_succ, List.foldl_append, ih, List.map_append, List.map_singleton]
      simp only [List.foldl_cons, List.foldl_nil, rowStep, partitionStart_succ rows partitions k]

/-- The ranges in closed form: range `i` runs from the start of range `i` to that of range
`i + 1`. -/
theorem partitionRows_eq (rows partitions : Nat) :
    partitionRows rows partitions =
      (List.range (partitionCount rows partitions)).map fun i =>
        (partitionStart rows partitions i, partitionStart rows partitions (i + 1)) := by
  simp only [partitionRows, clampBetween_eq_partitionCount, foldl_rowStep]

theorem partitionCount_pos (rows partitions : Nat) : 0 < partitionCount rows partitions := by
  unfold partitionCount
  omega

theorem partitionStart_le_succ (rows partitions i : Nat) :
    partitionStart rows partitions i ≤ partitionStart rows partitions (i + 1) := by
  rw [partitionStart_succ]
  exact Nat.le_add_right _ _

/-- The last range ends at the last row. -/
theorem partitionStart_count (rows partitions : Nat) :
    partitionStart rows partitions (partitionCount rows partitions) = rows := by
  have hmod := Nat.mod_lt rows (partitionCount_pos rows partitions)
  rw [partitionStart, Nat.min_eq_right (Nat.le_of_lt hmod), Nat.div_add_mod]

/-- **The ranges cover the rows in order**: they follow one another from row `0` to the last. -/
theorem partitionRows_chain (rows partitions : Nat) :
    RowChain 0 (partitionRows rows partitions) rows := by
  -- the first `k` ranges run from row `0` to the start of range `k`
  have hprefix : ∀ k, RowChain 0 ((List.range k).map fun i =>
      (partitionStart rows partitions i, partitionStart rows partitions (i + 1)))
      (partitionStart rows partitions k) := by
    intro k
    induction k with
    | zero =>
        have h0 : partitionStart rows partitions 0 = 0 := by simp [partitionStart]
        rw [h0]
        exact RowChain.nil 0
    | succ k ih =>
        rw [List.range_succ, List.map_append, List.map_singleton]
        exact ih.append_single (partitionStart_le_succ rows partitions k)
  have h := hprefix (partitionCount rows partitions)
  rw [partitionStart_count] at h
  rw [partitionRows_eq]
  exact h

/-- There is at least one range. -/
theorem partitionRows_ne_nil (rows partitions : Nat) : partitionRows rows partitions ≠ [] := by
  simp [partitionRows_eq, Nat.ne_of_gt (partitionCount_pos rows partitions)]

/-- With at least two parts and two rows, no range holds all the rows. -/
theorem partitionRows_length_lt {rows partitions : Nat} (hp : 2 ≤ partitions) (hr : 2 ≤ rows)
    {r : Nat × Nat} (hmem : r ∈ partitionRows rows partitions) : r.2 - r.1 < rows := by
  rw [partitionRows_eq] at hmem
  obtain ⟨i, -, rfl⟩ := List.mem_map.1 hmem
  have hparts : 2 ≤ partitionCount rows partitions := by simp only [partitionCount]; omega
  simp only [partitionStart, Nat.add_mul, Nat.one_mul]
  generalize partitionCount rows partitions = parts at hparts ⊢
  -- a range has `base` rows, or one more while the remainder lasts
  have hdm := Nat.div_add_mod rows parts
  have hmod := Nat.mod_lt rows (show 0 < parts by omega)
  have hbase : parts * (rows / parts) ≥ 2 * (rows / parts) := Nat.mul_le_mul_right _ hparts
  omega

/-! ### Joining row ranges -/

namespace Vehicle

/-- One step of `joinRows`: the next array joined onto the arrays so far, or `err`. -/
def joinStep (err : ModelError) (acc g : Grid) : Except ModelError Grid :=
  match acc.appendRows? g with
  | some joined => .ok joined
  | none => .error err

theorem joinRows_cons (S : Shape) (first : Grid) (rest : List Grid) :
    joinRows S (first :: rest) =
      rest.foldlM (joinStep (.shapeMismatch "partition results" S first.shape)) first := rfl

/-- Joining, onto the rows `lo` up to `a` of an array, its slices over ranges that follow one
another from `a` to `b` gives its rows `lo` up to `b`. -/
theorem foldlM_appendRows {G : Grid} {n : Nat} {t : Shape} (hG : G.shape = n :: t)
    (err : ModelError) {a b : Nat} {rs : List (Nat × Nat)} (h : RowChain a rs b) (hbn : b ≤ n)
    {gs : List Grid} (hgs : List.Forall₂ (fun r g => G.rows? r.1 r.2 = some g) rs gs)
    {lo : Nat} {acc : Grid} (hlo : lo ≤ a) (hacc : G.rows? lo a = some acc) :
    ∃ g, G.rows? lo b = some g ∧ gs.foldlM (joinStep err) acc = .ok g := by
  induction h generalizing gs lo acc with
  | nil a =>
      cases hgs
      exact ⟨acc, hacc, rfl⟩
  | @cons a m b rs ham hrest ih =>
      cases hgs with
      | cons hg hgs =>
          have hmn : m ≤ n := Nat.le_trans hrest.le hbn
          obtain ⟨acc', hacc', -, -⟩ :=
            Grid.rows?_eq_some hG (Nat.le_trans (Nat.le_trans hlo ham) hmn) hmn
          have happend := Grid.appendRows?_rows hG hlo ham hacc hg hacc'
          obtain ⟨g', hg', hfold⟩ := ih hbn hgs (Nat.le_trans hlo ham) hacc'
          refine ⟨g', hg', ?_⟩
          rw [List.foldlM_cons, joinStep, happend]
          exact hfold

/-- **Joining the row ranges of an array gives the array**, for ranges that cover its rows in
order. -/
theorem joinRows_rows {G : Grid} {n : Nat} {t : Shape} (hG : G.shape = n :: t) (S : Shape)
    {rs : List (Nat × Nat)} (h : RowChain 0 rs n) (hne : rs ≠ []) {gs : List Grid}
    (hgs : List.Forall₂ (fun r g => G.rows? r.1 r.2 = some g) rs gs) :
    joinRows S gs = .ok G := by
  cases h with
  | nil => exact absurd rfl hne
  | @cons _ m _ rs h0m hrest =>
      cases hgs with
      | @cons _ first _ gs hfirst hgs =>
          obtain ⟨g, hg, hfold⟩ := foldlM_appendRows hG
            (.shapeMismatch "partition results" S first.shape) hrest (Nat.le_refl n) hgs h0m hfirst
          rw [Grid.rows?_all hG, Option.some.injEq] at hg
          rw [joinRows_cons, hg]
          exact hfold

/-- A join fails only with its own error. -/
theorem foldlM_joinStep_eq_error {err e : ModelError} {gs : List Grid} {acc : Grid}
    (h : gs.foldlM (joinStep err) acc = .error e) : e = err := by
  induction gs generalizing acc with
  | nil => cases h
  | cons g gs ih =>
      rw [List.foldlM_cons, joinStep] at h
      cases hj : acc.appendRows? g with
      | none =>
          rw [hj] at h
          exact (Except.error.inj h).symm
      | some joined =>
          rw [hj] at h
          exact ih h

/-- The arrays of a part's result, one per component. -/
theorem partArray_batched {n dim : Nat} (hdim : dim < n) (comps : Nat → Grid) :
    partArray dim (.batched ((List.range n).map comps)) = .ok (comps dim) := by
  simp [partArray, List.getElem?_range hdim]

/-- Parts whose component arrays are the row ranges of the whole's component arrays join into the
whole. -/
theorem joinParts_rows {v : Vehicle} (S : Shape) {rows : Nat} {t : Shape} (full : Nat → Grid)
    (hfull : ∀ d, (full d).shape = rows :: t) {rs : List (Nat × Nat)}
    (hchain : RowChain 0 rs rows)
    (hne : rs ≠ []) {parts : List Encoding}
    (hparts : List.Forall₂ (fun r p => ∃ comps : Nat → Grid,
      p = .batched ((List.range v.stateDim).map comps) ∧
        ∀ d, (full d).rows? r.1 r.2 = some (comps d)) rs parts) :
    v.joinParts S parts = .ok (.batched ((List.range v.stateDim).map full)) := by
  -- component `d` of the parts, in order, are the row ranges of `full d`
  have harrays : ∀ d < v.stateDim, ∃ arrays, parts.mapM (partArray d) = .ok arrays ∧
      List.Forall₂ (fun r g => (full d).rows? r.1 r.2 = some g) rs arrays := by
    intro d hd
    clear hchain hne
    induction hparts with
    | nil => exact ⟨[], rfl, List.Forall₂.nil⟩
    | cons hp _ ih =>
        obtain ⟨comps, rfl, hcomps⟩ := hp
        obtain ⟨arrays, harr, hF⟩ := ih
        refine ⟨comps d :: arrays, ?_, List.Forall₂.cons (hcomps d) hF⟩
        rw [List.mapM_cons, partArray_batched hd, ok_bind, harr]
        rfl
  have hjoin : (List.range v.stateDim).mapM (fun dim => do
      let arrays ← parts.mapM (partArray dim)
      joinRows S arrays) = .ok ((List.range v.stateDim).map full) := by
    refine List.mapM_eq_ok_iff.2 (List.forall₂_map_right_iff.2 (List.forall₂_same.2 ?_))
    intro d hd
    obtain ⟨arrays, harr, hF⟩ := harrays d (List.mem_range.1 hd)
    rw [harr, ok_bind]
    exact joinRows_rows (hfull d) S hchain hne hF
  rw [joinParts, hjoin]
  rfl

/-- Joining parts fails only with its own errors: a part that is not one array per component, or
arrays that do not join. -/
theorem joinParts_eq_error {v : Vehicle} {S : Shape} {parts : List Encoding} {e : ModelError}
    (h : v.joinParts S parts = .error e) :
    (∃ what, e = .invariant what) ∨ ∃ s s', e = .shapeMismatch "partition results" s s' := by
  unfold joinParts at h
  cases hm : (List.range v.stateDim).mapM (fun dim => do
      let arrays ← parts.mapM (partArray dim)
      joinRows S arrays) with
  | ok joined =>
      rw [hm] at h
      cases h
  | error e' =>
      rw [hm] at h
      cases h
      obtain ⟨-, dim, -, -, -, hdim⟩ := List.mapM_eq_error_iff.1 hm
      cases ha : parts.mapM (partArray dim) with
      | error e =>
          rw [ha] at hdim
          cases hdim
          obtain ⟨-, p, -, -, -, hp⟩ := List.mapM_eq_error_iff.1 ha
          left
          unfold partArray at hp
          split at hp
          · split at hp
            · cases hp
            · exact ⟨_, (Except.error.inj hp).symm⟩
          · exact ⟨_, (Except.error.inj hp).symm⟩
      | ok arrays =>
          rw [ha, ok_bind] at hdim
          right
          cases arrays with
          | nil => exact ⟨S, [], (Except.error.inj hdim).symm⟩
          | cons first rest =>
              rw [joinRows_cons] at hdim
              exact ⟨S, first.shape, foldlM_joinStep_eq_error hdim⟩

/-! ### The inputs of a part -/

/-- Cutting an array to rows succeeds exactly when the rows are there. -/
theorem sliceRows_eq_ok_iff {lo hi : Nat} {g g' : Grid} :
    sliceRows lo hi g = .ok g' ↔ g.rows? lo hi = some g' := by
  unfold sliceRows
  cases g.rows? lo hi <;> simp

/-- The state arrays cut to rows within their first extent. -/
theorem sliceRows_exists {rows : Nat} {t : Shape} {lo hi : Nat} (hlo : lo ≤ hi)
    (hhi : hi ≤ rows) {g : Grid} (hg : g.shape = rows :: t) :
    ∃ g', sliceRows lo hi g = .ok g' ∧ g.rows? lo hi = some g' := by
  obtain ⟨g', hg', -, -⟩ := Grid.rows?_eq_some hg (Nat.le_trans hlo hhi) hhi
  exact ⟨g', sliceRows_eq_ok_iff.2 hg', hg'⟩

/-- Rows of arrays of shape `rows :: t` have the range's length as first extent, and read the
arrays at the shifted row. -/
theorem rows_all {rows : Nat} {t : Shape} {lo hi : Nat} {xs ys : List Grid}
    (hxs : ∀ x ∈ xs, x.shape = rows :: t)
    (h : List.Forall₂ (fun x y => x.rows? lo hi = some y) xs ys) :
    (∀ y ∈ ys, y.shape = (hi - lo) :: t) ∧
      ∀ r < hi - lo, ∀ rest, IsIndex t rest →
        ys.map (·.get (r :: rest)) = xs.map (·.get ((lo + r) :: rest)) := by
  induction h with
  | nil => simp
  | @cons x y xs ys hxy _ ih =>
      have hx := hxs x List.mem_cons_self
      obtain ⟨ihs, ihv⟩ := ih fun x' hx' => hxs x' (List.mem_cons_of_mem x hx')
      refine ⟨?_, fun r hr rest hrest => ?_⟩
      · intro y' hy'
        rcases List.mem_cons.1 hy' with rfl | hy'
        · exact Grid.shape_of_rows? hx hxy
        · exact ihs y' hy'
      · rw [List.map_cons, List.map_cons, Grid.get_rows hx hxy hr hrest, ihv r hr rest hrest]

/-- What becomes of one control array in a part: cut to the rows when it has `rank` axes and
`rows` rows, passed whole otherwise. -/
def partControlArray (rank rows lo hi : Nat) (a : Grid) : Except ModelError Grid :=
  if a.shape.length = rank ∧ a.shape.headD 0 = rows then sliceRows lo hi a else .ok a

theorem controlPart_batched (rank rows lo hi : Nat) (us : List Grid) :
    controlPart rank rows lo hi (.batched us) =
      (us.mapM (partControlArray rank rows lo hi)).map .batched := rfl

/-- A control array whose cut is decided against the shape `rows :: t` can always be cut. -/
theorem partControlArray_exists {rows : Nat} {t : Shape} {lo hi : Nat} (hlo : lo ≤ hi)
    (hhi : hi ≤ rows) (u : Grid) :
    ∃ u', partControlArray (rows :: t).length rows lo hi u = .ok u' := by
  unfold partControlArray
  split
  · next hcut =>
      obtain ⟨hlen, hhead⟩ := hcut
      cases hu : u.shape with
      | nil => simp [hu] at hlen
      | cons a s =>
          rw [hu, List.headD_cons] at hhead
          rw [hhead] at hu
          obtain ⟨u', hu', -⟩ := sliceRows_exists hlo hhi hu
          exact ⟨u', hu'⟩
  · exact ⟨u, rfl⟩

/-- The control of a part exists, array for array. -/
theorem controlPart_exists {rows : Nat} {t : Shape} {lo hi : Nat} (hlo : lo ≤ hi)
    (hhi : hi ≤ rows) (control : Encoding) :
    ∃ c', controlPart (rows :: t).length rows lo hi control = .ok c' ∧
      List.Forall₂ (fun u u' => partControlArray (rows :: t).length rows lo hi u = .ok u')
        control.arrays c'.arrays := by
  cases control with
  | scalar values =>
      -- plain values are boxed into arrays of shape `[]`, which are never cut
      refine ⟨.scalar values, rfl, List.forall₂_same.2 fun u hu => ?_⟩
      simp [partControlArray, Encoding.shape_of_mem_arrays_scalar hu]
  | batched us =>
      obtain ⟨us', hus', hcut⟩ := List.exists_mapM_eq_ok fun u _ =>
        (partControlArray_exists (t := t) hlo hhi u).imp fun u' hu' => ⟨hu', hu'⟩
      have hus'' : us.mapM (partControlArray (rows :: t).length rows lo hi) = .ok us' := hus'
      refine ⟨.batched us', ?_, hcut⟩
      rw [controlPart_batched, hus'']
      rfl

/-- The control array `u'` of the part over rows `lo` up to `hi` stands for the array `u` of the
whole: it broadcasts to the part's shape `(hi - lo) :: t` and reads at row `r` of the part what `u`
reads at row `lo + r` of the whole. -/
def StandsFor (lo hi : Nat) (t : Shape) (u' u : Grid) : Prop :=
  broadcastsTo u'.shape ((hi - lo) :: t) = true ∧
    ∀ r < hi - lo, ∀ rest, IsIndex t rest →
      u'.get (sourceIndex u'.shape (r :: rest)) = u.get (sourceIndex u.shape ((lo + r) :: rest))

/-- An array with the state's first extent, cut to the part's rows, stands for itself. -/
theorem standsFor_cut {rows : Nat} {t s : Shape} {lo hi : Nat} (hhi : hi ≤ rows) {u u' : Grid}
    (hu : u.shape = rows :: s) (hlen : s.length = t.length) (hbcs : broadcastsTo s t = true)
    (hrows : u.rows? lo hi = some u') : StandsFor lo hi t u' u := by
  rw [StandsFor, Grid.shape_of_rows? hu hrows, hu]
  refine ⟨(broadcastsTo_cons_cons hlen).2 ⟨Or.inl rfl, hbcs⟩, fun r hr rest hrest => ?_⟩
  have hlen' : s.length = rest.length := hlen.trans hrest.length_eq.symm
  -- the part reads its row `r` along the cut axis, the whole its row `lo + r`
  have hpart : (if hi - lo = 1 then 0 else r) = r := by split <;> omega
  have hwhole : (if rows = 1 then 0 else lo + r) = lo + r := by split <;> omega
  rw [sourceIndex_cons_cons hlen', sourceIndex_cons_cons hlen', hpart, hwhole]
  exact Grid.get_rows hu hrows hr (isIndex_sourceIndex hbcs hrest)

/-- An array without the first axis, passed whole, stands for itself. -/
theorem standsFor_short {t : Shape} {lo hi : Nat} {u : Grid} (hshort : u.shape.length ≤ t.length)
    (hbc : broadcastsTo u.shape t = true) : StandsFor lo hi t u u := by
  refine ⟨by rw [broadcastsTo_cons_of_length_le hshort]; exact hbc, fun r _ rest hrest => ?_⟩
  have hshort' : u.shape.length ≤ rest.length := hrest.length_eq ▸ hshort
  rw [sourceIndex_cons_of_length_le hshort', sourceIndex_cons_of_length_le hshort']

/-- An array with extent `1` along the first axis, passed whole, stands for itself. -/
theorem standsFor_unit {t s : Shape} {lo hi : Nat} {u : Grid} (hu : u.shape = 1 :: s)
    (hlen : s.length = t.length) (hbcs : broadcastsTo s t = true) : StandsFor lo hi t u u := by
  rw [StandsFor, hu]
  refine ⟨(broadcastsTo_cons_cons hlen).2 ⟨Or.inr rfl, hbcs⟩, fun r _ rest hrest => ?_⟩
  have hlen' : s.length = rest.length := hlen.trans hrest.length_eq.symm
  rw [sourceIndex_cons_cons hlen', sourceIndex_cons_cons hlen', if_pos rfl, if_pos rfl]

/-- A control array that broadcasts to the state's shape `rows :: t` is cut exactly when it has
the state's first extent, and either way stands for itself in the part. -/
theorem partControlArray_standsFor {rows : Nat} {t : Shape} {lo hi : Nat} (hhi : hi ≤ rows)
    {u u' : Grid} (hu' : partControlArray (rows :: t).length rows lo hi u = .ok u')
    (hbc : broadcastsTo u.shape (rows :: t) = true) : StandsFor lo hi t u' u := by
  unfold partControlArray at hu'
  split at hu'
  · -- cut: the array has the state's rank and first extent
    next hcut =>
      obtain ⟨hlen, hhead⟩ := hcut
      cases hu : u.shape with
      | nil => simp [hu] at hlen
      | cons a s =>
          rw [hu, List.headD_cons] at hhead
          rw [hu, List.length_cons, List.length_cons, Nat.add_right_cancel_iff] at hlen
          rw [hhead] at hu
          rw [hu] at hbc
          exact standsFor_cut hhi hu hlen ((broadcastsTo_cons_cons hlen).1 hbc).2
            (sliceRows_eq_ok_iff.1 hu')
  · -- whole: the array lacks the first axis, or has extent `1` along it
    next hwhole =>
      cases hu'
      by_cases hshort : u.shape.length ≤ t.length
      · rw [broadcastsTo_cons_of_length_le hshort] at hbc
        exact standsFor_short hshort hbc
      · have hle := (broadcastsTo_iff.1 hbc).1
        cases hu : u.shape with
        | nil => simp [hu] at hshort
        | cons a s =>
            rw [hu, List.length_cons] at hle hshort
            rw [List.length_cons] at hle
            have hlen : s.length = t.length := by omega
            rw [hu] at hbc hwhole
            have ha : a ≠ rows := fun ha => hwhole ⟨by simp [hlen], by simp [ha]⟩
            obtain ⟨ha1, hbcs⟩ := (broadcastsTo_cons_cons hlen).1 hbc
            rw [ha1.resolve_left ha] at hu
            exact standsFor_unit hu hlen hbcs

/-- **A control array in a part broadcasts like the whole.** A control array that broadcasts to
the state's shape `rows :: t`, cut or passed whole, broadcasts to the part's shape and reads, at
row `r` of the part, what the whole reads at row `lo + r`. -/
theorem partControlArray_broadcast {rows : Nat} {t : Shape} {lo hi : Nat} (hhi : hi ≤ rows)
    {u u' b : Grid} (hu' : partControlArray (rows :: t).length rows lo hi u = .ok u')
    (hb : u.broadcast? (rows :: t) = some b) :
    ∃ b', u'.broadcast? ((hi - lo) :: t) = some b' ∧
      ∀ r < hi - lo, ∀ rest, IsIndex t rest →
        b'.get (r :: rest) = b.get ((lo + r) :: rest) := by
  obtain ⟨hbc', hval⟩ := partControlArray_standsFor hhi hu' (Grid.broadcast?_eq_some hb).1
  cases hb' : u'.broadcast? ((hi - lo) :: t) with
  | none => simp [Grid.broadcast?_eq_none_iff.1 hb'] at hbc'
  | some b' =>
      refine ⟨b', rfl, fun r hr rest hrest => ?_⟩
      rw [Grid.get_broadcast hb' (isIndex_cons_iff.2 ⟨r, rest, rfl, hr, hrest⟩),
        Grid.get_broadcast hb (isIndex_cons_iff.2 ⟨lo + r, rest, rfl, by omega, hrest⟩)]
      exact hval r hr rest hrest

/-- The control arrays of a part broadcast to the part's shape, and read at row `r` what the
whole's read at row `lo + r`. -/
theorem broadcast_part {rows : Nat} {t : Shape} {lo hi : Nat} (hhi : hi ≤ rows)
    {us us' bs : List Grid}
    (hcut : List.Forall₂ (fun u u' => partControlArray (rows :: t).length rows lo hi u = .ok u')
      us us')
    (hbs : List.Forall₂ (fun u b => u.broadcast? (rows :: t) = some b) us bs) :
    ∃ bs', List.Forall₂ (fun u' b' => u'.broadcast? ((hi - lo) :: t) = some b') us' bs' ∧
      ∀ r < hi - lo, ∀ rest, IsIndex t rest →
        bs'.map (·.get (r :: rest)) = bs.map (·.get ((lo + r) :: rest)) := by
  induction hcut generalizing bs with
  | nil =>
      cases hbs
      exact ⟨[], List.Forall₂.nil, fun _ _ _ _ => rfl⟩
  | cons hu' _ ih =>
      cases hbs with
      | cons hb hbs =>
          obtain ⟨b', hb', hval⟩ := partControlArray_broadcast hhi hu' hb
          obtain ⟨bs', hbs', hvals⟩ := ih hbs
          refine ⟨b' :: bs', List.Forall₂.cons hb' hbs', fun r hr rest hrest => ?_⟩
          rw [List.map_cons, List.map_cons, hval r hr rest hrest, hvals r hr rest hrest]

/-! ### Evaluating a part -/

/-- A batched state that passes the checks evaluates to its component arrays. -/
theorem derivative_batched_eq_ok {v : Vehicle} {xs : List Grid} {control : Encoding} {S : Shape}
    {bs : List Grid} (hx : xs.length = v.stateDim) (hc : control.length = v.controlDim)
    (hS : commonShape xs = .ok S) (hbs : control.arrays.mapM (broadcastControl S) = .ok bs) :
    v.derivative (.batched xs) control =
      .ok (.batched ((List.range v.stateDim).map fun d => v.componentGrid d S xs bs)) := by
  rw [derivative, evaluate_eq fun d hd => List.mem_range.1 hd]
  simp only [checkLength, Encoding.length_batched, hx, hc, if_true, ok_bind,
    Encoding.arrays_batched, hS, hbs]
  rfl

/-- **A part's component is the whole's over the part's rows**, when the part's state arrays are
the rows of the whole's and its broadcast control arrays read at row `r` what the whole's read at
row `lo + r`. -/
theorem rows?_componentGrid (v : Vehicle) (d : Nat) {rows : Nat} {t : Shape} {lo hi : Nat}
    (hlo : lo ≤ hi) (hhi : hi ≤ rows) {xs ys bs bs' : List Grid}
    (hxs : ∀ x ∈ xs, x.shape = rows :: t)
    (hys : List.Forall₂ (fun x y => x.rows? lo hi = some y) xs ys)
    (hbs : ∀ b ∈ bs, b.shape = rows :: t) (hbs' : ∀ b ∈ bs', b.shape = (hi - lo) :: t)
    (hval : ∀ r < hi - lo, ∀ rest, IsIndex t rest →
      bs'.map (·.get (r :: rest)) = bs.map (·.get ((lo + r) :: rest))) :
    (v.componentGrid d (rows :: t) xs bs).rows? lo hi =
      some (v.componentGrid d ((hi - lo) :: t) ys bs') := by
  have hfull := shape_componentGrid v d (rows :: t) xs bs
  obtain ⟨g, hg, hshape, -⟩ := Grid.rows?_eq_some hfull (Nat.le_trans hlo hhi) hhi
  obtain ⟨hyS, hyv⟩ := rows_all hxs hys
  rw [hg]
  refine congrArg some (Grid.ext_get (by rw [hshape, shape_componentGrid]) fun idx hidx => ?_)
  rw [hshape] at hidx
  obtain ⟨r, rest, rfl, hr, hrest⟩ := isIndex_cons_iff.1 hidx
  have hwhole : IsIndex (rows :: t) ((lo + r) :: rest) :=
    isIndex_cons_iff.2 ⟨lo + r, rest, rfl, by omega, hrest⟩
  rw [Grid.get_rows hfull hg hr hrest, get_componentGrid v d hxs hbs hwhole,
    get_componentGrid v d hyS hbs' hidx, hyv r hr rest hrest, hval r hr rest hrest]

/-- The evaluation of the part over the rows `r.1` up to `r.2`. -/
def partResult (v : Vehicle) (xs : List Grid) (control : Encoding) (rank rows : Nat)
    (r : Nat × Nat) : Except ModelError Encoding := do
  let xPart ← xs.mapM (sliceRows r.1 r.2)
  let uPart ← controlPart rank rows r.1 r.2 control
  v.derivative (.batched xPart) uPart

/-- The state and control of a part exist: the state arrays cut to the rows, of the part's
shape, and the control arrays cut or passed whole, as many as the control has. -/
theorem part_inputs {xs : List Grid} {rows : Nat} {t : Shape}
    (hxs : ∀ x ∈ xs, x.shape = rows :: t) (hne : xs ≠ []) (control : Encoding)
    {r : Nat × Nat} (hlo : r.1 ≤ r.2) (hhi : r.2 ≤ rows) :
    ∃ ys c', xs.mapM (sliceRows r.1 r.2) = .ok ys ∧
      controlPart (rows :: t).length rows r.1 r.2 control = .ok c' ∧
      List.Forall₂ (fun x y => x.rows? r.1 r.2 = some y) xs ys ∧
      List.Forall₂ (fun u u' => partControlArray (rows :: t).length rows r.1 r.2 u = .ok u')
        control.arrays c'.arrays ∧
      ys.length = xs.length ∧ c'.length = control.length ∧ ys ≠ [] ∧
      ∀ y ∈ ys, y.shape = (r.2 - r.1) :: t := by
  obtain ⟨ys, hys, hrows⟩ :=
    List.exists_mapM_eq_ok fun x hx => sliceRows_exists hlo hhi (hxs x hx)
  obtain ⟨c', hc', hcut⟩ := controlPart_exists hlo hhi control
  have hclen : c'.length = control.length := by
    rw [← Encoding.length_arrays, ← hcut.length_eq, Encoding.length_arrays]
  have hyne : ys ≠ [] := by
    rintro rfl
    exact hne (List.forall₂_nil_right_iff.1 hrows)
  exact ⟨ys, c', hys, hc', hrows, hcut, hrows.length_eq.symm, hclen, hyne,
    (rows_all hxs hrows).1⟩

/-- **A part evaluates to the rows of the whole evaluation.** When every control array broadcasts
to the state's shape `rows :: t`, the part over rows `r.1` up to `r.2` succeeds, and its component
arrays are the whole's component arrays over those rows. -/
theorem derivative_part {v : Vehicle} {xs : List Grid} {rows : Nat} {t : Shape}
    (hxs : ∀ x ∈ xs, x.shape = rows :: t) (hne : xs ≠ []) (hx : xs.length = v.stateDim)
    {control : Encoding} (hc : control.length = v.controlDim) {bs : List Grid}
    (hbs : control.arrays.mapM (broadcastControl (rows :: t)) = .ok bs) {r : Nat × Nat}
    (hlo : r.1 ≤ r.2) (hhi : r.2 ≤ rows) :
    ∃ comps : Nat → Grid,
      v.partResult xs control (rows :: t).length rows r =
        .ok (.batched ((List.range v.stateDim).map comps)) ∧
      ∀ d, (v.componentGrid d (rows :: t) xs bs).rows? r.1 r.2 = some (comps d) := by
  obtain ⟨ys, c', hys, hc', hrows, hcut, hylen, hclen, hyne, hyS⟩ :=
    part_inputs hxs hne control hlo hhi
  have hF := (List.mapM_eq_ok_iff.1 hbs).imp fun _ _ h => broadcastControl_eq_ok_iff.1 h
  obtain ⟨bs', hbs', hval⟩ := broadcast_part hhi hcut hF
  have hP : commonShape ys = .ok ((r.2 - r.1) :: t) :=
    commonShape_eq_ok_iff.2 ⟨(Grid.firstShape_eq hyne hyS).symm, hyS⟩
  have hU : c'.arrays.mapM (broadcastControl ((r.2 - r.1) :: t)) = .ok bs' :=
    List.mapM_eq_ok_iff.2 (hbs'.imp fun _ _ h => broadcastControl_eq_ok_iff.2 h)
  refine ⟨fun d => v.componentGrid d ((r.2 - r.1) :: t) ys bs', ?_, fun d => ?_⟩
  · simp only [partResult, hys, hc', ok_bind]
    exact derivative_batched_eq_ok (hylen.trans hx) (hclen.trans hc) hP hU
  · exact rows?_componentGrid v d hlo hhi hxs hrows (Grid.broadcast_all hF).2
      (Grid.broadcast_all hbs').2 hval

/-- The first failing check of a batched state whose arrays share the shape `P`: the control's
length, then the first control array that does not broadcast to `P`. -/
theorem evaluationFault_batched {v : Vehicle} {ys : List Grid} {P : Shape} (hne : ys ≠ [])
    (hyS : ∀ y ∈ ys, y.shape = P) (hy : ys.length = v.stateDim) (control : Encoding) :
    v.evaluationFault (.batched ys) control =
      if control.length ≠ v.controlDim then
        some (.lengthMismatch "control" v.controlDim control.length)
      else (control.arrays.find? fun u => !broadcastsTo u.shape P).map fun u =>
        .shapeMismatch "control array" P u.shape := by
  have hfirst := Grid.firstShape_eq hne hyS
  have hnone : ys.find? (fun x => x.shape != P) = none :=
    List.find?_eq_none.2 fun y hy => by simp [hyS y hy]
  simp only [evaluationFault, Encoding.length_batched, Encoding.arrays_batched, hy, hfirst, ne_eq,
    not_true_eq_false, if_false, hnone]

/-- With a control of the wrong length every part fails with the control's length, as the whole
does. -/
theorem partResult_control_length {v : Vehicle} {xs : List Grid} {rows : Nat} {t : Shape}
    (hxs : ∀ x ∈ xs, x.shape = rows :: t) (hne : xs ≠ []) (hx : xs.length = v.stateDim)
    {control : Encoding} (hc : control.length ≠ v.controlDim) {r : Nat × Nat}
    (hlo : r.1 ≤ r.2) (hhi : r.2 ≤ rows) :
    v.partResult xs control (rows :: t).length rows r =
      .error (.lengthMismatch "control" v.controlDim control.length) := by
  obtain ⟨ys, c', hys, hc', -, -, hylen, hclen, hyne, hyS⟩ :=
    part_inputs hxs hne control hlo hhi
  simp only [partResult, hys, hc', ok_bind]
  rw [derivative_eq_error_iff,
    evaluationFault_batched hyne hyS (hylen.trans hx), hclen, if_pos hc]

/-- A part fails only at a control array, and names the part's shape. -/
theorem partResult_eq_error {v : Vehicle} {xs : List Grid} {rows : Nat} {t : Shape}
    (hxs : ∀ x ∈ xs, x.shape = rows :: t) (hne : xs ≠ []) (hx : xs.length = v.stateDim)
    {control : Encoding} (hc : control.length = v.controlDim) {r : Nat × Nat}
    (hlo : r.1 ≤ r.2) (hhi : r.2 ≤ rows) {e : ModelError}
    (h : v.partResult xs control (rows :: t).length rows r = .error e) :
    ∃ s, e = .shapeMismatch "control array" ((r.2 - r.1) :: t) s := by
  obtain ⟨ys, c', hys, hc', -, -, hylen, hclen, hyne, hyS⟩ :=
    part_inputs hxs hne control hlo hhi
  simp only [partResult, hys, hc', ok_bind] at h
  rw [derivative_eq_error_iff,
    evaluationFault_batched hyne hyS (hylen.trans hx), hclen, if_neg (by simp [hc])] at h
  obtain ⟨u, -, hu⟩ := Option.map_eq_some_iff.1 h
  exact ⟨u.shape, hu.symm⟩

/-! ### The partitioned evaluation against the single one -/

/-- Past the checks on the state, with at least two parts and two rows, the partitioned
evaluation evaluates the parts and joins them. -/
theorem evaluatePartitioned_parts {v : Vehicle} {xs : List Grid} {control : Encoding}
    {partitions rows : Nat} {t : Shape} (hx : xs.length = v.stateDim)
    (hS : commonShape xs = .ok (rows :: t)) (hp : 2 ≤ partitions) (hrows : 2 ≤ rows) :
    v.evaluatePartitioned (.batched xs) control partitions =
      (partitionRows rows partitions).mapM (v.partResult xs control (rows :: t).length rows) >>=
        v.joinParts (rows :: t) := by
  have hsplit : ¬(partitions ≤ 1 ∨ (rows :: t).headD 0 < 2) := by
    rw [List.headD_cons]
    omega
  simp only [evaluatePartitioned, checkLength, hx, if_true, ok_bind, hS]
  rw [if_neg hsplit]
  rfl

/-- The inputs on which the partitioned evaluation differs from the single one. Both concern a
batched state with one array per component whose arrays share the shape `S` of the first:

* the state arrays do not all have the shape `S` and the control has the wrong length: the
  partitioned evaluation checks the shapes first, the single one the control's length;
* the state arrays share `S`, the control has the right length, there are at least two parts and
  two rows, and some control array does not broadcast to `S`: each part broadcasts the control
  to its own shape instead. -/
def PartitionDiverges (v : Vehicle) (state control : Encoding) (partitions : Nat) : Prop :=
  match state with
  | .scalar _ => False
  | .batched xs =>
    xs.length = v.stateDim ∧
      ((control.length ≠ v.controlDim ∧ ∃ x ∈ xs, x.shape ≠ Grid.firstShape xs) ∨
        (control.length = v.controlDim ∧ (∀ x ∈ xs, x.shape = Grid.firstShape xs) ∧
          2 ≤ partitions ∧ 2 ≤ (Grid.firstShape xs).headD 0 ∧
          ∃ u ∈ control.arrays, broadcastsTo u.shape (Grid.firstShape xs) = false))

instance (v : Vehicle) (state control : Encoding) (partitions : Nat) :
    Decidable (v.PartitionDiverges state control partitions) := by
  unfold PartitionDiverges
  cases state <;> infer_instance

/-- State arrays fail the shape check exactly when one of them differs from the first. -/
theorem commonShape_error_iff {xs : List Grid} :
    (∃ e, commonShape xs = .error e) ↔ ∃ x ∈ xs, x.shape ≠ Grid.firstShape xs := by
  constructor
  · rintro ⟨e, he⟩
    by_contra hdiffer
    have hall : ∀ x ∈ xs, x.shape = Grid.firstShape xs := by
      intro x hx
      by_contra hne
      exact hdiffer ⟨x, hx, hne⟩
    rw [commonShape_eq_ok_iff.2 ⟨rfl, hall⟩] at he
    cases he
  · rintro ⟨x, hx, hne⟩
    cases hS : commonShape xs with
    | error e => exact ⟨e, rfl⟩
    | ok S =>
        obtain ⟨rfl, hall⟩ := commonShape_eq_ok_iff.1 hS
        exact absurd (hall x hx) hne

/-- A common shape with a first axis is the shape of at least one state array. -/
theorem ne_nil_of_commonShape {xs : List Grid} {rows : Nat} {t : Shape}
    (hS : commonShape xs = .ok (rows :: t)) : xs ≠ [] := by
  rintro rfl
  cases hS

/-- State arrays that fail the shape check are refused as state arrays. -/
theorem commonShape_eq_error {xs : List Grid} {e : ModelError} (h : commonShape xs = .error e) :
    ∃ s s', e = .shapeMismatch "state arrays" s s' := by
  rw [commonShape_eq] at h
  split at h
  · exact ⟨_, _, (Except.error.inj h).symm⟩
  · cases h

/-- A control array that broadcasts is brought to the shape. -/
theorem broadcastControl_exists {S : Shape} {u : Grid} (h : broadcastsTo u.shape S = true) :
    ∃ b, broadcastControl S u = .ok b := by
  cases hb : u.broadcast? S with
  | none => simp [Grid.broadcast?_eq_none_iff.1 hb] at h
  | some b => exact ⟨b, broadcastControl_eq_ok_iff.2 hb⟩

/-- Control arrays that all broadcast are brought to the shape. -/
theorem exists_mapM_broadcastControl {S : Shape} {us : List Grid}
    (h : ∀ u ∈ us, broadcastsTo u.shape S = true) :
    ∃ bs, us.mapM (broadcastControl S) = .ok bs := by
  obtain ⟨bs, hbs, -⟩ := List.exists_mapM_eq_ok fun u hu =>
    (broadcastControl_exists (h u hu)).imp fun b hb => ⟨hb, trivial⟩
  exact ⟨bs, hbs⟩

/-! #### The cases where the two agree -/

/-- With the wrong number of state arrays both evaluations refuse the state. -/
theorem evaluatePartitioned_state_length {v : Vehicle} {xs : List Grid} {control : Encoding}
    {partitions : Nat} (hx : xs.length ≠ v.stateDim) :
    v.evaluatePartitioned (.batched xs) control partitions =
      v.derivative (.batched xs) control := by
  have hstate : checkLength "state" v.stateDim xs.length =
      .error (.lengthMismatch "state" v.stateDim xs.length) := if_neg (Ne.symm hx)
  have hsingle : v.derivative (.batched xs) control =
      .error (.lengthMismatch "state" v.stateDim xs.length) :=
    derivative_eq_error_iff.2 (by simp [evaluationFault, hx])
  simp only [evaluatePartitioned, hstate, hsingle]
  rfl

/-- State arrays of different shapes are refused by the partitioned evaluation before the
control is looked at. -/
theorem evaluatePartitioned_commonShape_error {v : Vehicle} {xs : List Grid} {control : Encoding}
    {partitions : Nat} {e : ModelError} (hx : xs.length = v.stateDim)
    (hS : commonShape xs = .error e) :
    v.evaluatePartitioned (.batched xs) control partitions = .error e := by
  simp only [evaluatePartitioned, checkLength, hx, if_true, ok_bind, hS]
  rfl

/-- The single evaluation refuses state arrays of different shapes when the control has the
right length. -/
theorem derivative_commonShape_error {v : Vehicle} {xs : List Grid} {control : Encoding}
    {e : ModelError} (hx : xs.length = v.stateDim) (hc : control.length = v.controlDim)
    (hS : commonShape xs = .error e) : v.derivative (.batched xs) control = .error e := by
  rw [derivative, evaluate_eq fun d hd => List.mem_range.1 hd]
  simp only [checkLength, Encoding.length_batched, hx, hc, if_true, ok_bind,
    Encoding.arrays_batched, hS]
  rfl

/-- With the right number of state arrays and a control of the wrong length, the single
evaluation refuses the control's length, whatever the shapes of the arrays. -/
theorem derivative_control_length {v : Vehicle} {xs : List Grid} {control : Encoding}
    (hx : xs.length = v.stateDim) (hc : control.length ≠ v.controlDim) :
    v.derivative (.batched xs) control =
      .error (.lengthMismatch "control" v.controlDim control.length) :=
  derivative_eq_error_iff.2 (by simp [evaluationFault, hx, hc])

/-- A single part or fewer than two rows fall back to the single evaluation. -/
theorem evaluatePartitioned_of_small {v : Vehicle} {xs : List Grid} {control : Encoding}
    {partitions : Nat} {S : Shape} (hx : xs.length = v.stateDim) (hS : commonShape xs = .ok S)
    (hsmall : partitions ≤ 1 ∨ S.headD 0 < 2) :
    v.evaluatePartitioned (.batched xs) control partitions =
      v.derivative (.batched xs) control := by
  simp only [evaluatePartitioned, checkLength, hx, if_true, ok_bind, hS]
  rw [if_pos hsmall]

/-- **The parts rebuild the whole.** When every control array broadcasts to the state's shape,
the parts' results joined along the first axis are the single evaluation's. -/
theorem evaluatePartitioned_eq_of_broadcast {v : Vehicle} {xs : List Grid} {control : Encoding}
    {partitions rows : Nat} {t : Shape} (hx : xs.length = v.stateDim)
    (hS : commonShape xs = .ok (rows :: t)) (hp : 2 ≤ partitions) (hrows : 2 ≤ rows)
    (hc : control.length = v.controlDim) {bs : List Grid}
    (hbs : control.arrays.mapM (broadcastControl (rows :: t)) = .ok bs) :
    v.evaluatePartitioned (.batched xs) control partitions =
      v.derivative (.batched xs) control := by
  obtain ⟨-, hxs⟩ := commonShape_eq_ok_iff.1 hS
  have hne := ne_nil_of_commonShape hS
  have hchain := partitionRows_chain rows partitions
  -- every part succeeds with the rows of the single evaluation's component arrays
  obtain ⟨parts, hparts, hF⟩ : ∃ parts,
      (partitionRows rows partitions).mapM (v.partResult xs control (rows :: t).length rows) =
        .ok parts ∧
      List.Forall₂ (fun r part => ∃ comps : Nat → Grid,
        part = .batched ((List.range v.stateDim).map comps) ∧
          ∀ d, (v.componentGrid d (rows :: t) xs bs).rows? r.1 r.2 = some (comps d))
        (partitionRows rows partitions) parts := by
    refine List.exists_mapM_eq_ok fun r hr => ?_
    obtain ⟨-, hlo, hhi⟩ := hchain.mem_bounds r hr
    obtain ⟨comps, hpart, hcomps⟩ := derivative_part hxs hne hx hc hbs hlo hhi
    exact ⟨_, hpart, comps, rfl, hcomps⟩
  rw [evaluatePartitioned_parts hx hS hp hrows, hparts, ok_bind,
    joinParts_rows (rows :: t) _ (fun d => rfl) hchain (partitionRows_ne_nil rows partitions) hF,
    derivative_batched_eq_ok hx hc hS hbs]

/-- With a control of the wrong length and state arrays of one shape, both evaluations refuse
the control's length. -/
theorem evaluatePartitioned_control_length {v : Vehicle} {xs : List Grid} {control : Encoding}
    {partitions rows : Nat} {t : Shape} (hx : xs.length = v.stateDim)
    (hS : commonShape xs = .ok (rows :: t)) (hp : 2 ≤ partitions) (hrows : 2 ≤ rows)
    (hc : control.length ≠ v.controlDim) :
    v.evaluatePartitioned (.batched xs) control partitions =
      v.derivative (.batched xs) control := by
  obtain ⟨-, hxs⟩ := commonShape_eq_ok_iff.1 hS
  have hne := ne_nil_of_commonShape hS
  -- the first part already fails
  obtain ⟨r₀, rest, hrs⟩ := List.exists_cons_of_ne_nil (partitionRows_ne_nil rows partitions)
  obtain ⟨-, hlo, hhi⟩ := (partitionRows_chain rows partitions).mem_bounds r₀
    (by rw [hrs]; exact List.mem_cons_self)
  rw [evaluatePartitioned_parts hx hS hp hrows, hrs, List.mapM_cons,
    partResult_control_length hxs hne hx hc hlo hhi, derivative_control_length hx hc]
  rfl

/-! #### The cases where the two differ -/

/-- State arrays of different shapes with a control of the wrong length: the partitioned
evaluation refuses the shapes, the single one the control's length. -/
theorem evaluatePartitioned_ne_of_shapes {v : Vehicle} {xs : List Grid} {control : Encoding}
    {partitions : Nat} (hx : xs.length = v.stateDim) (hc : control.length ≠ v.controlDim)
    (hdiff : ∃ x ∈ xs, x.shape ≠ Grid.firstShape xs) :
    v.evaluatePartitioned (.batched xs) control partitions ≠
      v.derivative (.batched xs) control := by
  obtain ⟨e, he⟩ := commonShape_error_iff.2 hdiff
  obtain ⟨s, s', rfl⟩ := commonShape_eq_error he
  rw [evaluatePartitioned_commonShape_error hx he, derivative_control_length hx hc]
  intro h
  cases h

/-- A control array that does not broadcast to the state's shape, with at least two parts and two
rows: the single evaluation refuses it with the state's shape, and the partitioned one never does,
as no part has that shape. -/
theorem evaluatePartitioned_ne_of_unbroadcast {v : Vehicle} {xs : List Grid} {control : Encoding}
    {partitions rows : Nat} {t : Shape} (hx : xs.length = v.stateDim)
    (hS : commonShape xs = .ok (rows :: t)) (hp : 2 ≤ partitions) (hrows : 2 ≤ rows)
    (hc : control.length = v.controlDim)
    (hu : ∃ u ∈ control.arrays, broadcastsTo u.shape (rows :: t) = false) :
    v.evaluatePartitioned (.batched xs) control partitions ≠
      v.derivative (.batched xs) control := by
  obtain ⟨-, hxs⟩ := commonShape_eq_ok_iff.1 hS
  have hne := ne_nil_of_commonShape hS
  obtain ⟨s, hsingle⟩ : ∃ s, v.derivative (.batched xs) control =
      .error (.shapeMismatch "control array" (rows :: t) s) := by
    obtain ⟨u, hu, hb⟩ := hu
    obtain ⟨u', hfind⟩ := Option.isSome_iff_exists.1
      (List.find?_isSome.2 ⟨u, hu, by simp [hb]⟩ :
        (control.arrays.find? fun u => !broadcastsTo u.shape (rows :: t)).isSome)
    refine ⟨u'.shape, ?_⟩
    rw [derivative_eq_error_iff,
      evaluationFault_batched hne hxs hx, if_neg (by simp [hc]), hfind]
    rfl
  rw [hsingle, evaluatePartitioned_parts hx hS hp hrows]
  intro h
  cases hm : (partitionRows rows partitions).mapM
      (v.partResult xs control (rows :: t).length rows) with
  | error e =>
      -- a failing part names its own shape, which has fewer rows
      rw [hm] at h
      obtain ⟨pre, r, post, hrs, -, hr⟩ := List.mapM_eq_error_iff.1 hm
      have hmem : r ∈ partitionRows rows partitions := by
        rw [hrs]
        exact List.mem_append_right pre List.mem_cons_self
      obtain ⟨-, hlo, hhi⟩ := (partitionRows_chain rows partitions).mem_bounds r hmem
      obtain ⟨s', rfl⟩ := partResult_eq_error hxs hne hx hc hlo hhi hr
      have hlt := partitionRows_length_lt hp hrows hmem
      have hsame := Except.error.inj h
      rw [ModelError.shapeMismatch.injEq, List.cons.injEq] at hsame
      exact absurd hsame.2.1.1 (Nat.ne_of_lt hlt)
  | ok parts =>
      -- a failing join names neither a control array nor the state's shape
      rw [hm, ok_bind] at h
      rcases joinParts_eq_error h with ⟨what, hw⟩ | ⟨s₁, s₂, hw⟩
      · cases hw
      · injection hw with hw
        exact absurd hw (by decide)

/-- The partitioned evaluation differs from the single one on diverging inputs. -/
theorem evaluatePartitioned_ne_of_diverges {v : Vehicle} {state control : Encoding}
    {partitions : Nat} (h : v.PartitionDiverges state control partitions) :
    v.evaluatePartitioned state control partitions ≠ v.derivative state control := by
  cases state with
  | scalar values => exact h.elim
  | batched xs =>
      obtain ⟨hx, ⟨hc, hdiff⟩ | ⟨hc, hxs, hp, hrows, hu⟩⟩ := h
      · exact evaluatePartitioned_ne_of_shapes hx hc hdiff
      · obtain ⟨rows, t, hfirst⟩ : ∃ rows t, Grid.firstShape xs = rows :: t := by
          cases hF : Grid.firstShape xs with
          | nil => simp [hF] at hrows
          | cons rows t => exact ⟨rows, t, rfl⟩
        rw [hfirst] at hxs hrows hu
        have hS : commonShape xs = .ok (rows :: t) := commonShape_eq_ok_iff.2 ⟨hfirst.symm, hxs⟩
        exact evaluatePartitioned_ne_of_unbroadcast hx hS hp hrows hc hu

/-- On inputs that do not diverge, with at least two parts and two rows and a control of the
right length, every control array broadcasts to the state's shape. -/
theorem broadcastsTo_of_not_diverges {v : Vehicle} {xs : List Grid} {control : Encoding}
    {partitions rows : Nat} {t : Shape}
    (h : ¬ v.PartitionDiverges (.batched xs) control partitions) (hx : xs.length = v.stateDim)
    (hS : commonShape xs = .ok (rows :: t)) (hp : 2 ≤ partitions) (hrows : 2 ≤ rows)
    (hc : control.length = v.controlDim) :
    ∀ u ∈ control.arrays, broadcastsTo u.shape (rows :: t) = true := by
  obtain ⟨hfirst, hxs⟩ := commonShape_eq_ok_iff.1 hS
  intro u hu
  by_contra hb
  refine h ⟨hx, Or.inr ⟨hc, ?_, hp, ?_, u, hu, ?_⟩⟩
  · rw [← hfirst]
    exact hxs
  · rw [← hfirst]
    exact hrows
  · rw [← hfirst]
    simpa using hb

/-- The partitioned evaluation is the single one on inputs that do not diverge. -/
theorem evaluatePartitioned_eq_of_not_diverges {v : Vehicle} {state control : Encoding}
    {partitions : Nat} (h : ¬ v.PartitionDiverges state control partitions) :
    v.evaluatePartitioned state control partitions = v.derivative state control := by
  cases state with
  | scalar values => rfl
  | batched xs =>
      by_cases hx : xs.length = v.stateDim
      · cases hS : commonShape xs with
        | error e =>
            have hc : control.length = v.controlDim := by
              by_contra hc
              exact h ⟨hx, Or.inl ⟨hc, commonShape_error_iff.1 ⟨e, hS⟩⟩⟩
            rw [evaluatePartitioned_commonShape_error hx hS, derivative_commonShape_error hx hc hS]
        | ok S =>
            obtain ⟨hfirst, hxs⟩ := commonShape_eq_ok_iff.1 hS
            by_cases hsmall : partitions ≤ 1 ∨ S.headD 0 < 2
            · exact evaluatePartitioned_of_small hx hS hsmall
            · obtain ⟨rows, t, rfl⟩ : ∃ rows t, S = rows :: t := by
                cases S with
                | nil => simp at hsmall
                | cons rows t => exact ⟨rows, t, rfl⟩
              have hp : 2 ≤ partitions := by omega
              have hrows : 2 ≤ rows := by
                rw [List.headD_cons] at hsmall
                omega
              by_cases hc : control.length = v.controlDim
              · obtain ⟨bs, hbs⟩ := exists_mapM_broadcastControl
                  (broadcastsTo_of_not_diverges h hx hS hp hrows hc)
                exact evaluatePartitioned_eq_of_broadcast hx hS hp hrows hc hbs
              · exact evaluatePartitioned_control_length hx hS hp hrows hc
      · exact evaluatePartitioned_state_length hx

/-- **The partitioned evaluation is the single one exactly on the inputs that do not diverge**:
the same result, or the same error, for every state, control and number of parts outside the two
cases of `PartitionDiverges`, and a different outcome on them. -/
theorem evaluatePartitioned_eq_derivative_iff (v : Vehicle) (state control : Encoding)
    (partitions : Nat) :
    v.evaluatePartitioned state control partitions = v.derivative state control ↔
      ¬ v.PartitionDiverges state control partitions :=
  ⟨fun heq hdiv => evaluatePartitioned_ne_of_diverges hdiv heq,
    evaluatePartitioned_eq_of_not_diverges⟩

/-- Four rows in two parts, with a control array of two rows: the single evaluation refuses the
control array, and the partitioned one accepts it, broadcasting it to each part of two rows. -/
theorem partitioned_accepts_control_of_part_rows :
    let range : Interval := ⟨0.0, 0.14, by decide, by decide, by decide⟩
    let v := Vehicle.lateral {} range range range
    let state := Encoding.batched
      [⟨[4], [0.0, 0.1, 0.2, 0.3], rfl⟩, ⟨[4], [0.0, 0.5, 1.0, 1.5], rfl⟩]
    let control := Encoding.batched
      [⟨[2], [0.05, 0.07], rfl⟩, ⟨[], [0.02], rfl⟩, ⟨[], [1.0], rfl⟩]
    (v.evaluatePartitioned state control 2).toBool = true ∧
      v.derivative state control = .error (.shapeMismatch "control array" [4] [2]) := by
  intro range v state control
  exact ⟨by decide, rfl⟩

end Vehicle

end Quadrotor
