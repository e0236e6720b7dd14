import Mathlib
import Quadrotor.Proofs.Partition
/-!
# The row ranges are an exact, balanced cover

`partitionRows rows partitions` makes `k` ranges, where `k` is the requested count clamped between
`1` and `max rows 1`. Those bounds are ordered for every row count, so the clamp always answers,
and `k = min (max partitions 1) (max rows 1)`.

The loop over the parts keeps one invariant: the end `lo` it carries is the sum of the lengths of
the ranges it has laid out (`foldl_rowStep_end_eq_sum`), so after `j` turns it holds the first `j`
ranges and their total length. Range `i` holds `rows / k` rows, one more while `i < rows % k`. The
ranges follow one another from row `0` to row `rows` (`partitionRows_chain`), and their lengths
are the `rows % k` longer ones first and then the shorter ones: non-increasing, never more than one
apart, and none empty when there is a row. Every start, end and length is at most `rows`, so the
loop adds nothing past the row count and cannot overflow.

## Main results

* `partitionCount_eq` — the number of ranges;
* `foldl_rowStep_end_eq_sum` — the loop's end is the total length of its ranges;
* `partitionRows_lengths` — the longer ranges first, then the shorter ones;
* `partitionRows_exact_balanced_cover` — the whole description.
-/

namespace Quadrotor

/-! ### Counts and lengths -/

/-- The number of rows in each range. -/
def rangeLengths (ranges : List (Nat × Nat)) : List Nat := ranges.map fun r => r.2 - r.1

/-- The number of ranges is the requested one raised to `1` and cut to `max rows 1`. -/
theorem partitionCount_eq (rows partitions : Nat) :
    partitionCount rows partitions = min (max partitions 1) (max rows 1) := by
  unfold partitionCount
  omega

@[simp] theorem length_partitionRows (rows partitions : Nat) :
    (partitionRows rows partitions).length = partitionCount rows partitions := by
  simp [partitionRows_eq]

/-- Range `i` holds `rows / k` rows, and one more while `i < rows % k`. -/
theorem partitionStart_succ_sub (rows partitions i : Nat) :
    partitionStart rows partitions (i + 1) - partitionStart rows partitions i =
      rows / partitionCount rows partitions +
        if i < rows % partitionCount rows partitions then 1 else 0 := by
  rw [partitionStart_succ, Nat.add_sub_cancel_left]
  by_cases h : i < rows % partitionCount rows partitions <;> simp [h]

/-! ### The loop's invariant -/

section Loop

variable {base extra : Nat}

/-- One turn of the loop keeps its end equal to the total length of the ranges laid out. -/
theorem rowStep_end_eq_sum {state : Nat × List (Nat × Nat)}
    (h : state.1 = (rangeLengths state.2).sum) (i : Nat) :
    (rowStep base extra state i).1 = (rangeLengths (rowStep base extra state i).2).sum := by
  simp [rowStep, rangeLengths, List.sum_append, h]

/-- **The loop's invariant.** Over any indices, a loop started from an end equal to the total
length of its ranges keeps it so. -/
theorem foldl_rowStep_end_eq_sum (is : List Nat) {state : Nat × List (Nat × Nat)}
    (h : state.1 = (rangeLengths state.2).sum) :
    (is.foldl (rowStep base extra) state).1 =
      (rangeLengths (is.foldl (rowStep base extra) state).2).sum := by
  induction is generalizing state with
  | nil => exact h
  | cons i is ih => exact ih (rowStep_end_eq_sum h i)

end Loop

/-- The first `j` ranges, for `j` up to the count, are those that `j` turns of the loop lay out. -/
theorem take_partitionRows {rows partitions j : Nat} (hj : j ≤ partitionCount rows partitions) :
    (partitionRows rows partitions).take j =
      ((List.range j).foldl
        (rowStep (rows / partitionCount rows partitions) (rows % partitionCount rows partitions))
        (0, [])).2 := by
  rw [partitionRows_eq, foldl_rowStep, ← List.map_take, List.take_range, Nat.min_eq_left hj]

/-- After `j` turns, for `j` up to the count, the loop holds the first `j` ranges, and its end is
their total length. -/
theorem foldl_rowStep_eq_prefix {rows partitions j : Nat}
    (hj : j ≤ partitionCount rows partitions) :
    (List.range j).foldl
        (rowStep (rows / partitionCount rows partitions) (rows % partitionCount rows partitions))
        (0, []) =
      ((rangeLengths ((partitionRows rows partitions).take j)).sum,
        (partitionRows rows partitions).take j) := by
  rw [take_partitionRows hj]
  exact Prod.ext (foldl_rowStep_end_eq_sum _ rfl) rfl

/-- **The longer ranges come first.** The lengths of the ranges are `rows % k` times
`rows / k + 1`, then `rows / k` for the rest. -/
theorem partitionRows_lengths (rows partitions : Nat) :
    rangeLengths (partitionRows rows partitions) =
      List.replicate (rows % partitionCount rows partitions)
          (rows / partitionCount rows partitions + 1) ++
        List.replicate (partitionCount rows partitions - rows % partitionCount rows partitions)
          (rows / partitionCount rows partitions) := by
  have hmod := Nat.mod_lt rows (partitionCount_pos rows partitions)
  rw [rangeLengths, partitionRows_eq, List.map_map]
  apply List.ext_getElem
  · simp only [List.length_map, List.length_range, List.length_append, List.length_replicate]
    omega
  · intro i hi _
    have hik : i < partitionCount rows partitions := by simpa using hi
    simp only [List.getElem_map, List.getElem_range, Function.comp_apply,
      partitionStart_succ_sub, List.getElem_append, List.length_replicate, List.getElem_replicate]
    split <;> simp_all

/-! ### Lists of two neighbouring lengths -/

section Neighbours

variable {m n b : Nat}

/-- A run of `b + 1` followed by a run of `b` never goes up. -/
theorem pairwise_ge_replicate_append :
    (List.replicate m (b + 1) ++ List.replicate n b).Pairwise (· ≥ ·) := by
  refine List.pairwise_append.2 ⟨?_, ?_, ?_⟩
  · exact List.pairwise_replicate.2 (Or.inr (Nat.le_refl _))
  · exact List.pairwise_replicate.2 (Or.inr (Nat.le_refl _))
  · intro x hx y hy
    rw [(List.mem_replicate.1 hx).2, (List.mem_replicate.1 hy).2]
    exact Nat.le_succ b

/-- Every entry of a run of `b + 1` followed by a run of `b` is `b` or `b + 1`. -/
theorem mem_replicate_append {x : Nat}
    (hx : x ∈ List.replicate m (b + 1) ++ List.replicate n b) : b ≤ x ∧ x ≤ b + 1 := by
  rcases List.mem_append.1 hx with hx | hx
  · rw [(List.mem_replicate.1 hx).2]
    exact ⟨Nat.le_succ b, Nat.le_refl _⟩
  · rw [(List.mem_replicate.1 hx).2]
    exact ⟨Nat.le_refl b, Nat.le_succ b⟩

end Neighbours

/-- With at least one row, every range holds at least `rows / k ≥ 1` rows, since `k ≤ rows`. -/
theorem one_le_rows_div_partitionCount {rows : Nat} (hrows : 0 < rows) (partitions : Nat) :
    1 ≤ rows / partitionCount rows partitions := by
  have hk := partitionCount_pos rows partitions
  have hle : partitionCount rows partitions ≤ rows := by
    rw [partitionCount_eq]
    omega
  exact (Nat.one_le_div_iff hk).2 hle

/-! ### The whole description -/

/-- **The row ranges are an exact, balanced cover.** The clamp's bounds `1 ≤ max rows 1` are
ordered, and the clamped count is `k = min (max partitions 1) (max rows 1)`, the number of ranges.
After `j ≤ k` turns the loop holds the first `j` ranges and its end is their total length. The
ranges follow one another from row `0` to row `rows`, each bound at most `rows`. The first
`rows % k` hold `rows / k + 1` rows and the rest `rows / k`, so the lengths never go up, never
differ by more than one, and are all positive when there is a row. -/
theorem partitionRows_exact_balanced_cover (rows partitions : Nat) :
    1 ≤ max rows 1 ∧
      clampBetween partitions 1 (max rows 1) (Nat.le_max_right rows 1) =
        partitionCount rows partitions ∧
      partitionCount rows partitions = min (max partitions 1) (max rows 1) ∧
      (partitionRows rows partitions).length = partitionCount rows partitions ∧
      (∀ j ≤ partitionCount rows partitions,
        (List.range j).foldl
            (rowStep (rows / partitionCount rows partitions) (rows % partitionCount rows partitions))
            (0, []) =
          ((rangeLengths ((partitionRows rows partitions).take j)).sum,
            (partitionRows rows partitions).take j)) ∧
      RowChain 0 (partitionRows rows partitions) rows ∧
      (∀ r ∈ partitionRows rows partitions, r.1 ≤ r.2 ∧ r.2 ≤ rows) ∧
      rangeLengths (partitionRows rows partitions) =
        List.replicate (rows % partitionCount rows partitions)
            (rows / partitionCount rows partitions + 1) ++
          List.replicate (partitionCount rows partitions - rows % partitionCount rows partitions)
            (rows / partitionCount rows partitions) ∧
      (rangeLengths (partitionRows rows partitions)).Pairwise (· ≥ ·) ∧
      (∀ a ∈ rangeLengths (partitionRows rows partitions),
        ∀ c ∈ rangeLengths (partitionRows rows partitions), a ≤ c + 1) ∧
      (0 < rows → ∀ a ∈ rangeLengths (partitionRows rows partitions), 0 < a) := by
  have hlengths := partitionRows_lengths rows partitions
  have hchain := partitionRows_chain rows partitions
  refine ⟨Nat.le_max_right rows 1, clampBetween_eq_partitionCount rows partitions,
    partitionCount_eq rows partitions, length_partitionRows rows partitions,
    fun _ hj => foldl_rowStep_eq_prefix hj, hchain, ?_, hlengths, ?_, ?_, ?_⟩
  · intro r hr
    obtain ⟨-, hlo, hhi⟩ := hchain.mem_bounds r hr
    exact ⟨hlo, hhi⟩
  · rw [hlengths]
    exact pairwise_ge_replicate_append
  · intro a ha c hc
    rw [hlengths] at ha hc
    have := mem_replicate_append ha
    have := mem_replicate_append hc
    omega
  · intro hrows a ha
    rw [hlengths] at ha
    exact Nat.lt_of_lt_of_le (one_le_rows_div_partitionCount hrows partitions)
      (mem_replicate_append ha).1

example : partitionRows 10 3 = [(0, 4), (4, 7), (7, 10)] ∧ partitionRows 2 8 = [(0, 1), (1, 2)] ∧
    partitionRows 4 0 = [(0, 4)] := by decide

end Quadrotor
