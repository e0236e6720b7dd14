import Mathlib
import Quadrotor.Interval
import Quadrotor.Proofs.Evaluation
/-!
# Checks in order, and the laws of intervals

A double is compared through its unpacked form: a NaN, an infinity, a zero, or a finite value
with a sign. Comparison is IEEE's: a NaN is comparable with nothing, the two zeros are equal, and
comparing the other way round swaps the answer (`UnpackedFloat.compare_swap`). So `<` is
irreflexive, `≤` is reflexive away from the NaN, and two doubles neither of which is a NaN are
ordered one way or the other (`Float.le_of_not_lt`).

Parameters are accepted through checks made in a fixed order, each with the error that reports
its failure. `Check.firstFailure` is the error of the first check that fails, and `Reports x cs`
says that the computation `x` fails exactly with it. The guards on doubles and `Interval.make`
report their checks, and steps made one after the other report their checks one after the other
(`Reports.bind`).

An interval has finite ends in order, so `lo ≤ hi` holds of every interval: that is the
comparison clamping to a range relies on. Clamping leaves a NaN as it is and brings every other
double into the interval; it leaves the double as it is exactly when it lies inside, moves it to
an end otherwise, and clamping twice is clamping once. Doubles here are their bit patterns, so
`r.clamp v = v` says that clamping returns `v` bit for bit.

## Main results

* `Float.le_of_not_lt` — doubles that are not NaNs are ordered one way or the other;
* `Reports.bind` — checks made one after the other report the first failure among both;
* `Interval.make_reports` — the checks of an interval, in order;
* `Interval.contains_clamp`, `Interval.clamp_eq_self_iff`, `Interval.clamp_clamp`;
* `interval_checks_and_clamp_laws` — the interval invariant and the clamp laws.
-/

/-! ### Comparing doubles -/

namespace Float.Model.UnpackedFloat

/-- Comparing signs the other way round swaps the answer. -/
theorem Sign.swap_compare (s t : Sign) : (compare s t).swap = compare t s := by
  cases s <;> cases t <;> rfl

theorem Sign.compare_self (s : Sign) : compare s s = .eq := by
  cases s <;> rfl

/-- Comparing the other way round swaps the answer. -/
theorem compare_swap (a b : UnpackedFloat) : b.compare a = (a.compare b).map Ordering.swap := by
  -- one case per pair of forms; finite values of one sign compare by exponent, then mantissa
  rcases a with ⟨_ | _⟩ | _ | ⟨_ | _⟩ | ⟨_ | _, m, e, hm⟩ <;>
  rcases b with ⟨_ | _⟩ | _ | ⟨_ | _⟩ | ⟨_ | _, m', e', hm'⟩ <;>
  simp [UnpackedFloat.compare, Ordering.swap_then, Int.compare_swap, Nat.compare_swap,
    Sign.swap_compare]

/-- A double that is not a NaN compares equal to itself. -/
theorem compare_self {a : UnpackedFloat} (ha : a.isNaN = false) : a.compare a = some .eq := by
  rcases a with ⟨_ | _⟩ | _ | ⟨_ | _⟩ | ⟨_ | _, m, e, hm⟩ <;>
  simp_all [UnpackedFloat.compare, isNaN, Sign.compare_self]

/-- A comparison has no answer exactly when one side is a NaN. -/
theorem compare_eq_none_iff {a b : UnpackedFloat} :
    a.compare b = none ↔ a.isNaN = true ∨ b.isNaN = true := by
  rcases a with ⟨_ | _⟩ | _ | ⟨_ | _⟩ | ⟨_ | _, m, e, hm⟩ <;>
  rcases b with ⟨_ | _⟩ | _ | ⟨_ | _⟩ | ⟨_ | _, m', e', hm'⟩ <;>
  simp [UnpackedFloat.compare, isNaN]

end Float.Model.UnpackedFloat

namespace Float

open Float.Model

theorem le_iff_unpack (a b : Float) : a ≤ b ↔ a.toModel.unpack.le b.toModel.unpack = true := by
  show Float.le a b = true ↔ _
  unfold Float.le
  rw [decide_eq_true_iff]
  rfl

theorem lt_iff_unpack (a b : Float) : a < b ↔ a.toModel.unpack.lt b.toModel.unpack = true := by
  show Float.lt a b = true ↔ _
  unfold Float.lt
  rw [decide_eq_true_iff]
  rfl

theorem isFinite_eq_unpack (a : Float) : a.isFinite = a.toModel.unpack.isFinite := rfl

theorem isNaN_eq_unpack (a : Float) : a.isNaN = a.toModel.unpack.isNaN := rfl

/-- A finite double is not a NaN. -/
theorem isNaN_eq_false_of_isFinite {a : Float} (h : a.isFinite = true) : a.isNaN = false := by
  rw [isFinite_eq_unpack] at h
  rw [isNaN_eq_unpack]
  cases hu : a.toModel.unpack <;> simp_all [UnpackedFloat.isFinite, UnpackedFloat.isNaN]

/-- No double lies below itself, a NaN included. -/
theorem lt_irrefl (a : Float) : ¬ a < a := by
  rw [lt_iff_unpack, UnpackedFloat.lt]
  cases ha : a.toModel.unpack.isNaN
  · rw [UnpackedFloat.compare_self ha]
    decide
  · rw [UnpackedFloat.compare_eq_none_iff.2 (.inl ha)]
    decide

/-- A double that is not a NaN is at most itself. -/
theorem le_refl {a : Float} (ha : a.isNaN = false) : a ≤ a := by
  rw [le_iff_unpack, UnpackedFloat.le, UnpackedFloat.compare_self ha]
  rfl

/-- A NaN lies below nothing. -/
theorem not_lt_of_isNaN_left {a : Float} (b : Float) (ha : a.isNaN = true) : ¬ a < b := by
  rw [lt_iff_unpack, UnpackedFloat.lt, UnpackedFloat.compare_eq_none_iff.2 (.inl ha)]
  decide

/-- Nothing lies below a NaN. -/
theorem not_lt_of_isNaN_right (a : Float) {b : Float} (hb : b.isNaN = true) : ¬ a < b := by
  rw [lt_iff_unpack, UnpackedFloat.lt, UnpackedFloat.compare_eq_none_iff.2 (.inr hb)]
  decide

/-- What is at most `b` does not lie above it. -/
theorem not_lt_of_le {a b : Float} (h : a ≤ b) : ¬ b < a := by
  rw [le_iff_unpack, UnpackedFloat.le] at h
  rw [lt_iff_unpack, UnpackedFloat.lt, UnpackedFloat.compare_swap]
  cases hc : a.toModel.unpack.compare b.toModel.unpack with
  | none => simp [hc] at h
  | some o => cases o <;> simp_all [Ordering.swap]

/-- **Doubles that are not NaNs are ordered one way or the other**: when `a` does not lie below
`b`, `b` is at most `a`. -/
theorem le_of_not_lt {a b : Float} (ha : a.isNaN = false) (hb : b.isNaN = false)
    (h : ¬ a < b) : b ≤ a := by
  rw [lt_iff_unpack, UnpackedFloat.lt] at h
  rw [le_iff_unpack, UnpackedFloat.le, UnpackedFloat.compare_swap]
  cases hc : a.toModel.unpack.compare b.toModel.unpack with
  | none =>
      -- a comparison without an answer has a NaN on one side
      have hnan := UnpackedFloat.compare_eq_none_iff.1 hc
      rw [← isNaN_eq_unpack, ← isNaN_eq_unpack, ha, hb] at hnan
      simp at hnan
  | some o => cases o <;> simp_all [Ordering.swap, Ordering.isLE]

end Float

namespace Quadrotor

/-! ### Checks made in order -/

/-- A check on an input: whether it passes, and the error that reports it when it does not. -/
structure Check (ε : Type) where
  passes : Bool
  error : ε

namespace Check

variable {ε ε' : Type}

/-- The error of the first check, in order, that fails. -/
def firstFailure (cs : List (Check ε)) : Option ε := (cs.find? (!·.passes)).map (·.error)

/-- The check with its error passed through `f`. -/
def mapError (f : ε → ε') (c : Check ε) : Check ε' := ⟨c.passes, f c.error⟩

@[simp] theorem firstFailure_nil : firstFailure ([] : List (Check ε)) = none := rfl

@[simp] theorem firstFailure_cons (c : Check ε) (cs : List (Check ε)) :
    firstFailure (c :: cs) = if c.passes then firstFailure cs else some c.error := by
  cases h : c.passes <;> simp [firstFailure, h]

theorem firstFailure_append (cs ds : List (Check ε)) :
    firstFailure (cs ++ ds) = (firstFailure cs).or (firstFailure ds) := by
  induction cs with
  | nil => rfl
  | cons c cs ih => cases h : c.passes <;> simp [h, ih]

/-- No check fails exactly when all pass. -/
theorem firstFailure_eq_none_iff {cs : List (Check ε)} :
    firstFailure cs = none ↔ ∀ c ∈ cs, c.passes = true := by
  simp [firstFailure, List.find?_eq_none]

@[simp] theorem firstFailure_map_mapError (f : ε → ε') (cs : List (Check ε)) :
    firstFailure (cs.map (mapError f)) = (firstFailure cs).map f := by
  induction cs with
  | nil => rfl
  | cons c cs ih => cases h : c.passes <;> simp [mapError, h, ih]

end Check

/-- The computation `x` fails exactly with the error of the first failing check of `cs`. -/
def Reports {ε α : Type} (x : Except ε α) (cs : List (Check ε)) : Prop :=
  ∀ e, x = .error e ↔ Check.firstFailure cs = some e

namespace Reports

variable {ε ε' α β : Type} {x : Except ε α} {cs ds : List (Check ε)}

/-- A computation that reports its checks and succeeds passed all of them. -/
theorem firstFailure_eq_none (h : Reports x cs) {a : α} (hx : x = .ok a) :
    Check.firstFailure cs = none := by
  cases hf : Check.firstFailure cs with
  | none => rfl
  | some e =>
      have := (h e).2 hf
      rw [hx] at this
      cases this

/-- A computation that reports its checks succeeds exactly when they all pass. -/
theorem exists_ok_iff (h : Reports x cs) : (∃ a, x = .ok a) ↔ ∀ c ∈ cs, c.passes = true := by
  rw [Vehicle.exists_ok_iff_of_error_iff h, Check.firstFailure_eq_none_iff]

/-- A value given at once makes no check. -/
theorem pure (a : α) : Reports (Pure.pure a : Except ε α) [] := by
  intro e
  simp only [Check.firstFailure_nil, reduceCtorEq, iff_false]
  exact fun h => nomatch h

/-- **Checks made one after the other** report the first failure among both, the first ones
first. -/
theorem bind {f : α → Except ε β} (hx : Reports x cs)
    (hf : ∀ a, x = .ok a → Reports (f a) ds) : Reports (x >>= f) (cs ++ ds) := by
  intro e
  rw [Check.firstFailure_append]
  cases hxa : x with
  | error e' =>
      rw [(hx e').1 hxa, Option.some_or]
      exact ⟨fun h => by cases h; rfl, fun h => by cases h; rfl⟩
  | ok a =>
      rw [hx.firstFailure_eq_none hxa, Option.none_or]
      exact hf a hxa e

/-- A last step that only gives a value adds no check. -/
theorem bind_pure (h : Reports x cs) (g : α → β) :
    Reports (x >>= fun a => Pure.pure (g a)) cs := by
  simpa using h.bind fun a _ => Reports.pure (g a)

/-- A computation whose errors are passed through `f` reports its checks with their errors
passed through `f`. -/
theorem mapError (h : Reports x cs) (f : ε → ε') :
    Reports (x.mapError f) (cs.map (Check.mapError f)) := by
  intro e
  rw [Check.firstFailure_map_mapError]
  cases hx : x with
  | error e' =>
      rw [(h e').1 hx]
      simp [Except.mapError]
  | ok a =>
      rw [h.firstFailure_eq_none hx]
      simp [Except.mapError]

end Reports

/-! ### The guards on doubles -/

namespace Guard

/-- The check that `v`, named `what`, is finite. -/
def finiteCheck (what : String) (v : Float) : Check GuardError := ⟨v.isFinite, .nonFinite what v⟩

/-- The checks that `v`, named `what`, is finite and then above zero. -/
def positiveChecks (what : String) (v : Float) : List (Check GuardError) :=
  [finiteCheck what v, ⟨decide (0 < v), .nonPositive what v⟩]

theorem finite_reports (what : String) (v : Float) :
    Reports (Guard.finite what v) [finiteCheck what v] := by
  intro e
  unfold Guard.finite
  cases h : v.isFinite <;> simp [finiteCheck, h, eq_comm]

/-- A positive double is checked to be finite first: a NaN or an infinity is reported as such,
and only a finite double that is not above zero, such as either zero, as not positive. -/
theorem positive_reports (what : String) (v : Float) :
    Reports (Guard.positive what v) (positiveChecks what v) := by
  intro e
  unfold Guard.positive
  by_cases hf : v.isFinite = true <;> by_cases hp : 0 < v <;>
    simp [positiveChecks, finiteCheck, hf, hp, eq_comm]

/-- The entries of a list are checked to be finite in order. -/
theorem allFinite_reports (what : String) (vs : List Float) :
    Reports (Guard.allFinite what vs) (vs.map (finiteCheck what)) := by
  intro e
  unfold Guard.allFinite
  induction vs with
  | nil => simp
  | cons v vs ih =>
      cases h : v.isFinite <;> simp_all [finiteCheck]

end Guard

/-! ### Intervals -/

namespace Interval

/-- The checks of the interval `[lo, hi]` named `what`: the lower end finite, then the upper end
finite, then the ends in order. -/
def checks (what : String) (lo hi : Float) : List (Check GuardError) :=
  [Guard.finiteCheck what lo, Guard.finiteCheck what hi,
    ⟨!decide (hi < lo), .invalidBounds what lo hi⟩]

/-- `Interval.make` fails exactly with the first failing check of the interval. -/
theorem make_reports (what : String) (lo hi : Float) :
    Reports (make what lo hi) (checks what lo hi) := by
  intro e
  unfold make
  by_cases hlo : lo.isFinite = true <;> by_cases hhi : hi.isFinite = true <;>
    by_cases hord : hi < lo <;> simp [checks, Guard.finiteCheck, hlo, hhi, hord, eq_comm]

/-- The interval `Interval.make` gives has the ends it was given. -/
theorem make_eq_ok {what : String} {lo hi : Float} {r : Interval} (h : make what lo hi = .ok r) :
    r.lo = lo ∧ r.hi = hi := by
  unfold make at h
  split_ifs at h
  cases h
  exact ⟨rfl, rfl⟩

variable (r : Interval) {v : Float}

theorem lo_isNaN : r.lo.isNaN = false := Float.isNaN_eq_false_of_isFinite r.lo_finite

theorem hi_isNaN : r.hi.isNaN = false := Float.isNaN_eq_false_of_isFinite r.hi_finite

/-- **The ends of an interval are in order**, as clamping to it requires. -/
theorem lo_le_hi : r.lo ≤ r.hi := Float.le_of_not_lt r.hi_isNaN r.lo_isNaN r.ordered

theorem contains_iff : r.contains v = true ↔ r.lo ≤ v ∧ v ≤ r.hi := by
  simp [contains]

theorem contains_lo : r.contains r.lo = true :=
  (r.contains_iff).2 ⟨Float.le_refl r.lo_isNaN, r.lo_le_hi⟩

theorem contains_hi : r.contains r.hi = true :=
  (r.contains_iff).2 ⟨r.lo_le_hi, Float.le_refl r.hi_isNaN⟩

/-- A NaN lies below no end and above none, so clamping leaves it as it is. -/
theorem clamp_of_isNaN (hv : v.isNaN = true) : r.clamp v = v := by
  simp [clamp, Float.not_lt_of_isNaN_left r.lo hv, Float.not_lt_of_isNaN_right r.hi hv]

/-- Where clamping sends a double that is not a NaN: one below the interval to the lower end, one
above it to the upper end, and one inside it to itself. -/
theorem clamp_cases (hv : v.isNaN = false) :
    (v < r.lo ∧ r.clamp v = r.lo) ∨ (r.hi < v ∧ r.clamp v = r.hi) ∨
      (r.contains v = true ∧ r.clamp v = v) := by
  unfold clamp
  by_cases hlo : v < r.lo
  · -- below the range: the lower end, which the upper end does not lie below
    rw [if_pos hlo, if_neg r.ordered]
    exact .inl ⟨hlo, rfl⟩
  · rw [if_neg hlo]
    by_cases hhi : r.hi < v
    · rw [if_pos hhi]
      exact .inr (.inl ⟨hhi, rfl⟩)
    · -- neither below nor above: the two comparisons that fail order the double between the ends
      have hin : r.contains v = true :=
        (r.contains_iff).2
          ⟨Float.le_of_not_lt hv r.lo_isNaN hlo, Float.le_of_not_lt r.hi_isNaN hv hhi⟩
      rw [if_neg hhi]
      exact .inr (.inr ⟨hin, rfl⟩)

/-- **Clamping lands inside** the interval, for every double that is not a NaN. -/
theorem contains_clamp (hv : v.isNaN = false) : r.contains (r.clamp v) = true := by
  rcases r.clamp_cases hv with ⟨-, h⟩ | ⟨-, h⟩ | ⟨hin, h⟩
  · rw [h]
    exact r.contains_lo
  · rw [h]
    exact r.contains_hi
  · rw [h]
    exact hin

/-- A double inside the interval is left as it is. -/
theorem clamp_eq_self_of_contains (h : r.contains v = true) : r.clamp v = v := by
  obtain ⟨hlo, hhi⟩ := (r.contains_iff).1 h
  simp [clamp, Float.not_lt_of_le hlo, Float.not_lt_of_le hhi]

/-- **Clamping leaves a double as it is exactly when it lies inside**, for every double that is
not a NaN. -/
theorem clamp_eq_self_iff (hv : v.isNaN = false) : r.clamp v = v ↔ r.contains v = true :=
  ⟨fun h => h ▸ r.contains_clamp hv, r.clamp_eq_self_of_contains⟩

/-- A double outside the interval, and not a NaN, is moved to one of its ends. -/
theorem clamp_eq_lo_or_hi (hv : v.isNaN = false) (h : r.contains v = false) :
    r.clamp v = r.lo ∨ r.clamp v = r.hi := by
  rcases r.clamp_cases hv with ⟨-, hc⟩ | ⟨-, hc⟩ | ⟨hin, -⟩
  · exact .inl hc
  · exact .inr hc
  · rw [hin] at h
    cases h

/-- **Clamping twice is clamping once.** -/
theorem clamp_clamp (v : Float) : r.clamp (r.clamp v) = r.clamp v := by
  cases hv : v.isNaN
  · exact r.clamp_eq_self_of_contains (r.contains_clamp hv)
  · rw [r.clamp_of_isNaN hv, r.clamp_of_isNaN hv]

end Interval

/-- **The interval invariant and the clamp laws.** `Interval.make` fails exactly with its first
failing check: a lower end that is not finite, then an upper end that is not finite, then a lower
end above the upper one. It succeeds exactly when the ends are finite and the lower one is not
above the upper one, and the interval it gives has those ends, finite and in order, so the
comparison `lo ≤ hi` that clamping relies on holds. For every interval and every double, clamping
leaves a NaN as it is; it brings any other double into the interval, leaves it as it is, bit for
bit, exactly when it lies inside, and moves it to an end otherwise; and clamping twice is clamping
once. -/
theorem interval_checks_and_clamp_laws :
    (∀ what lo hi, Reports (Interval.make what lo hi) (Interval.checks what lo hi)) ∧
    (∀ what lo hi, (∃ r, Interval.make what lo hi = .ok r) ↔
      lo.isFinite = true ∧ hi.isFinite = true ∧ ¬ hi < lo) ∧
    (∀ what lo hi r, Interval.make what lo hi = .ok r →
      r.lo = lo ∧ r.hi = hi ∧ r.lo.isFinite = true ∧ r.hi.isFinite = true ∧ r.lo ≤ r.hi) ∧
    ∀ (r : Interval) (v : Float),
      (v.isNaN = true → r.clamp v = v) ∧
      (v.isNaN = false → r.contains (r.clamp v) = true ∧ (r.clamp v = v ↔ r.contains v = true) ∧
        (r.contains v = false → r.clamp v = r.lo ∨ r.clamp v = r.hi)) ∧
      r.clamp (r.clamp v) = r.clamp v := by
  refine ⟨Interval.make_reports, fun what lo hi => ?_, fun what lo hi r h => ?_,
    fun r v => ⟨r.clamp_of_isNaN, fun hv => ⟨r.contains_clamp hv, r.clamp_eq_self_iff hv,
      r.clamp_eq_lo_or_hi hv⟩, r.clamp_clamp v⟩⟩
  · rw [(Interval.make_reports what lo hi).exists_ok_iff]
    simp [Interval.checks, Guard.finiteCheck]
  · obtain ⟨rfl, rfl⟩ := Interval.make_eq_ok h
    exact ⟨rfl, rfl, r.lo_finite, r.hi_finite, r.lo_le_hi⟩

/-- The ends `0.0` and `-0.0` are accepted: the zeros are equal, so neither lies above the
other. -/
example : (Interval.make "T1" 0.0 (-0.0)).toBool = true := by decide

end Quadrotor
