import Mathlib.Data.List.Forall2
import Quadrotor.Grid.Basic
/-!
# Reading arrays at an index

An index of a shape gives one position per axis, each below that axis's extent
(`Shape.IsIndex`); `Shape.offset` is where the index lands in the row-major data, and
`Grid.get` reads an array there. Two arrays of one shape that agree at every index are equal
(`Grid.ext_get`), so statements about arrays can be proved index by index.

Broadcasting an array of shape `src` to a target shape reads, at an index of the target, the
source at `Shape.sourceIndex src idx`: the leading positions that the source lacks are dropped,
and along an axis where the source has extent `1` position `0` is read. This is the rule the
flat definition `Grid.stretch` has to implement, and `Grid.get_broadcast` says that it does,
for every difference of rank, every stretched axis and every shape that holds no value.

## Main results

* `Shape.offset_lt_volume` — an index lands inside the data;
* `Grid.ext_get` — arrays are equal when their shapes and their values at every index are;
* `Grid.broadcast?_eq_none_iff` — broadcasting fails exactly when the shapes do not allow it;
* `Grid.get_broadcast` — a broadcast array reads its source at the source index;
* `Grid.get_rows`, `Grid.appendRows?_rows` — a range of rows reads the array at the shifted
  index, and two adjacent ranges join into the range that spans them.
-/

namespace Quadrotor

namespace Shape

/-- Whether `idx` is an index of the shape: one position per axis, each below the extent. -/
def IsIndex (s : Shape) (idx : List Nat) : Prop := List.Forall₂ (· < ·) idx s

/-- The place of an index in the row-major data of an array of the shape. -/
def offset : Shape → List Nat → Nat
  | _ :: s, i :: idx => i * volume s + offset s idx
  | _, _ => 0

/-- The index of a source array of shape `src` that broadcasting reads for the index `idx` of the
target: the leading positions that the source lacks are dropped, and position `0` is read along an
axis of extent `1`. -/
def sourceIndex (src : Shape) (idx : List Nat) : List Nat :=
  List.zipWith (fun n i => if n = 1 then 0 else i) src (idx.drop (idx.length - src.length))

@[simp] theorem isIndex_nil_iff {idx : List Nat} : IsIndex [] idx ↔ idx = [] := by
  simp [IsIndex]

@[simp] theorem isIndex_cons_iff {n : Nat} {s : Shape} {idx : List Nat} :
    IsIndex (n :: s) idx ↔ ∃ i rest, idx = i :: rest ∧ i < n ∧ IsIndex s rest := by
  cases idx <;> simp [IsIndex]

@[simp] theorem offset_cons_cons (n i : Nat) (s : Shape) (idx : List Nat) :
    offset (n :: s) (i :: idx) = i * volume s + offset s idx := rfl

theorem IsIndex.length_eq {s : Shape} {idx : List Nat} (h : IsIndex s idx) :
    idx.length = s.length :=
  List.Forall₂.length_eq h

/-- An index lands inside the data: its offset is below the volume. -/
theorem offset_lt_volume {s : Shape} {idx : List Nat} (h : IsIndex s idx) :
    offset s idx < volume s := by
  induction h with
  | nil => simp [offset]
  | @cons i n idx s hi _ ih =>
      simp only [offset_cons_cons, volume_cons]
      calc i * volume s + offset s idx < i * volume s + volume s := by omega
        _ = (i + 1) * volume s := by rw [Nat.succ_mul]
        _ ≤ n * volume s := Nat.mul_le_mul_right _ hi

/-- A shape with an index holds at least one value. -/
theorem volume_pos_of_isIndex {s : Shape} {idx : List Nat} (h : IsIndex s idx) :
    0 < volume s :=
  Nat.lt_of_le_of_lt (Nat.zero_le _) (offset_lt_volume h)

/-- Whether a source shape fits a target shape of the same rank axis by axis: each source extent
equals the target's or is `1`. -/
def Fits (src dst : Shape) : Prop := List.Forall₂ (fun a b => a = b ∨ a = 1) src dst

/-- The broadcasting rule read axis by axis: no more axes than the target, and the source fits
the target's last axes. -/
theorem broadcastsTo_iff {src dst : Shape} :
    broadcastsTo src dst = true ↔
      src.length ≤ dst.length ∧ Fits src (dst.drop (dst.length - src.length)) := by
  have hsplit : dst.reverse = (dst.drop (dst.length - src.length)).reverse ++
      (dst.take (dst.length - src.length)).reverse := by
    rw [← List.reverse_append, List.take_append_drop]
  simp only [broadcastsTo, Bool.and_eq_true, decide_eq_true_eq, List.all_eq_true,
    Bool.or_eq_true, beq_iff_eq]
  refine and_congr_right fun hle => ?_
  have hlen : src.reverse.length = (dst.drop (dst.length - src.length)).reverse.length := by
    simp; omega
  rw [hsplit, ← List.append_nil src.reverse, List.zip_append hlen, List.zip_nil_left,
    List.append_nil, Fits, ← List.forall₂_reverse_iff, List.forall₂_iff_zip]
  exact ⟨fun h => ⟨hlen, fun hp => h _ hp⟩, fun h p hp => h.2 hp⟩

/-- Missing leading axes count as axes of extent `1`, which fit any extent. -/
theorem fits_replicate_one (l : Shape) : Fits (List.replicate l.length 1) l := by
  induction l with
  | nil => exact List.Forall₂.nil
  | cons n l ih => exact List.Forall₂.cons (Or.inr rfl) ih

/-- The shape a broadcast source is read with: padded with leading axes of extent `1` to the
target's rank, it fits the target. -/
theorem fits_padded {src dst : Shape} (h : broadcastsTo src dst = true) :
    Fits (List.replicate (dst.length - src.length) 1 ++ src) dst := by
  obtain ⟨hle, hfit⟩ := broadcastsTo_iff.1 h
  have hpre := fits_replicate_one (dst.take (dst.length - src.length))
  rw [List.length_take_of_le (by omega)] at hpre
  simpa only [Fits, List.take_append_drop] using List.rel_append hpre hfit

/-- The source index of an index of the target is an index of a source that fits it. -/
theorem Fits.isIndex_zipWith {src dst : Shape} {idx : List Nat} (h : Fits src dst)
    (hidx : IsIndex dst idx) :
    IsIndex src (List.zipWith (fun n i => if n = 1 then 0 else i) src idx) := by
  induction h generalizing idx with
  | nil => simp_all
  | @cons s d ss ds hsd _ ih =>
      obtain ⟨i, rest, rfl, hi, hrest⟩ := isIndex_cons_iff.1 hidx
      refine List.Forall₂.cons ?_ (ih hrest)
      show (if s = 1 then 0 else i) < s
      split <;> omega

/-- The source index of an index of a target that the source broadcasts to is an index of the
source. -/
theorem isIndex_sourceIndex {src dst : Shape} (hb : broadcastsTo src dst = true)
    {idx : List Nat} (hidx : IsIndex dst idx) : IsIndex src (sourceIndex src idx) := by
  obtain ⟨-, hfit⟩ := broadcastsTo_iff.1 hb
  rw [sourceIndex, hidx.length_eq]
  exact Fits.isIndex_zipWith hfit (List.forall₂_drop _ hidx)

/-- A source with no more axes than the target's trailing axes ignores the target's first axis. -/
theorem broadcastsTo_cons_of_length_le {src t : Shape} (h : src.length ≤ t.length) (n : Nat) :
    broadcastsTo src (n :: t) = broadcastsTo src t := by
  have hdrop : (n :: t).drop ((n :: t).length - src.length) = t.drop (t.length - src.length) := by
    rw [List.length_cons, show t.length + 1 - src.length = (t.length - src.length) + 1 by omega,
      List.drop_succ_cons]
  apply Bool.eq_iff_iff.2
  rw [broadcastsTo_iff, broadcastsTo_iff, hdrop, List.length_cons]
  exact and_congr_left fun _ => ⟨fun _ => h, fun _ => by omega⟩

/-- A source with as many axes as the target broadcasts to it when its first extent fits the
target's and the rest broadcasts to the rest. -/
theorem broadcastsTo_cons_cons {a n : Nat} {s t : Shape} (h : s.length = t.length) :
    broadcastsTo (a :: s) (n :: t) = true ↔ (a = n ∨ a = 1) ∧ broadcastsTo s t = true := by
  rw [broadcastsTo_iff, broadcastsTo_iff]
  simp only [List.length_cons, h, Nat.sub_self, List.drop_zero, Fits, List.forall₂_cons,
    Nat.le_refl, true_and]

/-- Reading through a source with no more axes than the trailing positions ignores the first
position. -/
theorem sourceIndex_cons_of_length_le {src : Shape} {rest : List Nat}
    (h : src.length ≤ rest.length) (i : Nat) :
    sourceIndex src (i :: rest) = sourceIndex src rest := by
  rw [sourceIndex, sourceIndex, List.length_cons,
    show rest.length + 1 - src.length = (rest.length - src.length) + 1 by omega,
    List.drop_succ_cons]

/-- Reading through a source with as many axes as the index keeps the first position, or reads
position `0` along an axis of extent `1`. -/
theorem sourceIndex_cons_cons {a : Nat} {s : Shape} {i : Nat} {rest : List Nat}
    (h : s.length = rest.length) :
    sourceIndex (a :: s) (i :: rest) = (if a = 1 then 0 else i) :: sourceIndex s rest := by
  simp [sourceIndex, h]

/-- Every place of the data is the offset of an index. -/
theorem exists_isIndex_offset_eq {s : Shape} {k : Nat} (hk : k < volume s) :
    ∃ idx, IsIndex s idx ∧ offset s idx = k := by
  induction s generalizing k with
  | nil => exact ⟨[], List.Forall₂.nil, by simp at hk; simp [offset, hk]⟩
  | cons n s ih =>
      simp only [volume_cons] at hk
      have hV : 0 < volume s := Nat.pos_of_ne_zero fun h0 => by simp [h0] at hk
      obtain ⟨rest, hrest, hoff⟩ := ih (Nat.mod_lt k hV)
      refine ⟨k / volume s :: rest, List.Forall₂.cons ?_ hrest, ?_⟩
      · exact (Nat.div_lt_iff_lt_mul hV).2 hk
      · rw [offset_cons_cons, hoff, Nat.mul_comm]
        exact Nat.div_add_mod k (volume s)

/-- Leading axes of extent `1` hold nothing more. -/
@[simp] theorem volume_replicate_one_append (k : Nat) (s : Shape) :
    volume (List.replicate k 1 ++ s) = volume s := by
  induction k with
  | zero => rfl
  | succ k ih => simp [List.replicate_succ, ih]

/-- Position `0` along leading axes of extent `1` moves nothing. -/
@[simp] theorem offset_replicate_append (k : Nat) (s : Shape) (idx : List Nat) :
    offset (List.replicate k 1 ++ s) (List.replicate k 0 ++ idx) = offset s idx := by
  induction k with
  | zero => rfl
  | succ k ih => simp [List.replicate_succ, ih]

/-- The source index read through leading axes of extent `1`: zeros there, then the rest. -/
theorem zipWith_replicate_one_append (k : Nat) (s : Shape) {idx : List Nat}
    (hk : k ≤ idx.length) :
    List.zipWith (fun n i => if n = 1 then 0 else i) (List.replicate k 1 ++ s) idx =
      List.replicate k 0 ++ List.zipWith (fun n i => if n = 1 then 0 else i) s (idx.drop k) := by
  induction k generalizing idx with
  | zero => rfl
  | succ k ih =>
      obtain ⟨i, rest, rfl⟩ : ∃ i rest, idx = i :: rest := by
        cases idx with
        | nil => simp at hk
        | cons i rest => exact ⟨i, rest, rfl⟩
      simp [List.replicate_succ, ih (by simpa using hk)]

end Shape

/-! ### Blocks of equal length -/

/-- Blocks of one length joined: their total length. -/
theorem length_flatten_of_length_eq {α : Type} {parts : List (List α)} {L : Nat}
    (h : ∀ q ∈ parts, q.length = L) : parts.flatten.length = parts.length * L := by
  induction parts with
  | nil => simp
  | cons q qs ih =>
      simp only [List.flatten_cons, List.length_append, List.length_cons, Nat.succ_mul,
        h q List.mem_cons_self, ih fun r hr => h r (List.mem_cons_of_mem q hr)]
      omega

/-- Blocks of one length `L` joined: place `i * L + p` holds place `p` of block `i`. -/
theorem getElem?_flatten_mul_add {α : Type} {parts : List (List α)} {L p : Nat}
    (h : ∀ q ∈ parts, q.length = L) (hp : p < L) (i : Nat) :
    parts.flatten[i * L + p]? = parts[i]?.bind (·[p]?) := by
  induction parts generalizing i with
  | nil => simp
  | cons q qs ih =>
      have hq := h q List.mem_cons_self
      cases i with
      | zero => simp [List.getElem?_append_left (hq ▸ hp)]
      | succ i =>
          rw [List.flatten_cons, List.getElem?_append_right (by rw [hq, Nat.succ_mul]; omega)]
          have hidx : (i + 1) * L + p - q.length = i * L + p := by
            rw [hq, Nat.succ_mul]; omega
          rw [hidx, ih fun r hr => h r (List.mem_cons_of_mem q hr)]
          simp

/-- Slab `i` of row-major data, read at place `p` of the slab. -/
theorem getElem?_slab {α : Type} (data : List α) {slab p : Nat} (hp : p < slab) (i : Nat) :
    ((data.drop (i * slab)).take slab)[p]? = data[i * slab + p]? := by
  simp [hp]

namespace Grid

open Shape

/-- The value of an array at an index. -/
def get (g : Grid) (idx : List Nat) : Float := g.data.getD (g.shape.offset idx) 0

theorem stretch_cons_cons (s d : Nat) (ss ds : Shape) (data : List Float) :
    stretch (s :: ss) (d :: ds) data =
      let parts := (List.range s).map fun i =>
        stretch ss ds ((data.drop (i * volume ss)).take (volume ss))
      if s = d then parts.flatten else (List.replicate d (parts.headD [])).flatten := by
  rw [stretch]

/-- Slab `i < s` of data of shape `s :: ss` holds one value per place of `ss`. -/
theorem length_slab {s : Nat} {ss : Shape} {data : List Float}
    (hdata : data.length = volume (s :: ss)) {i : Nat} (hi : i < s) :
    ((data.drop (i * volume ss)).take (volume ss)).length = volume ss := by
  have : (i + 1) * volume ss ≤ s * volume ss := Nat.mul_le_mul_right _ hi
  simp only [volume_cons] at hdata
  simp only [List.length_take, List.length_drop, hdata]
  rw [Nat.succ_mul] at this
  omega

/-- Stretched data has the target's volume. -/
theorem length_stretch {src dst : Shape} (h : Fits src dst) {data : List Float}
    (hdata : data.length = volume src) : (stretch src dst data).length = volume dst := by
  induction h generalizing data with
  | nil => simpa [stretch] using hdata
  | @cons s d ss ds hsd _ ih =>
      have hparts : ∀ q ∈ (List.range s).map (fun i =>
          stretch ss ds ((data.drop (i * volume ss)).take (volume ss))), q.length = volume ds := by
        simp only [List.mem_map, List.mem_range]
        rintro q ⟨i, hi, rfl⟩
        exact ih (length_slab hdata hi)
      rw [stretch_cons_cons]
      split
      · next hs =>
          rw [length_flatten_of_length_eq hparts]
          simp [hs]
      · next hs =>
          have h1 : s = 1 := hsd.resolve_left hs
          subst h1
          rw [length_flatten_of_length_eq (L := volume ds)]
          · simp
          · intro q hq
            rw [List.eq_of_mem_replicate hq]
            exact hparts _ (by simp)

/-- **Stretching reads the source index**, for a source of the target's rank: at an index of the
target, stretched data holds the source's value at the same positions, position `0` along the
axes where the source has extent `1`. Induction on the axes, one slab per step. -/
theorem getElem?_stretch {src dst : Shape} (h : Fits src dst) {data : List Float}
    (hdata : data.length = volume src) {idx : List Nat} (hidx : IsIndex dst idx) :
    (stretch src dst data)[offset dst idx]? =
      data[offset src (List.zipWith (fun n i => if n = 1 then 0 else i) src idx)]? := by
  induction h generalizing data idx with
  | nil =>
      obtain rfl := isIndex_nil_iff.1 hidx
      simp [stretch, offset]
  | @cons s d ss ds hsd hfit ih =>
      obtain ⟨i, rest, rfl, hi, hrest⟩ := isIndex_cons_iff.1 hidx
      let part := fun j => stretch ss ds ((data.drop (j * volume ss)).take (volume ss))
      have hparts : ∀ q ∈ (List.range s).map part, q.length = volume ds := by
        simp only [List.mem_map, List.mem_range]
        rintro q ⟨j, hj, rfl⟩
        exact length_stretch hfit (length_slab hdata hj)
      have hp := offset_lt_volume hrest
      -- the slab the index falls in: slab `i`, or slab `0` along a stretched axis
      have hslab : (stretch (s :: ss) (d :: ds) data)[offset (d :: ds) (i :: rest)]? =
          (part (if s = 1 then 0 else i))[offset ds rest]? := by
        rw [stretch_cons_cons, offset_cons_cons]
        split
        · next hs =>
            subst hs
            rw [getElem?_flatten_mul_add hparts hp]
            have hj : (if s = 1 then 0 else i) = i := by split <;> omega
            simp [hj, hi, part]
        · next hs =>
            obtain rfl : s = 1 := hsd.resolve_left hs
            rw [getElem?_flatten_mul_add (L := volume ds) _ hp]
            · simp [hi, part]
            · intro q hq
              rw [List.eq_of_mem_replicate hq]
              exact hparts _ (by simp [part])
      have hj : (if s = 1 then 0 else i) < s := by split <;> omega
      have hzip := Fits.isIndex_zipWith hfit hrest
      rw [hslab, ih (length_slab hdata hj) hrest, getElem?_slab data (offset_lt_volume hzip)]
      rfl

/-! ### Arrays equal index by index -/

/-- Arrays with the same shape and the same data are equal. -/
theorem ext_data {g₁ g₂ : Grid} (hs : g₁.shape = g₂.shape) (hd : g₁.data = g₂.data) :
    g₁ = g₂ := by
  cases g₁
  cases g₂
  simp_all

/-- **Arrays are equal index by index**: two arrays of one shape that agree at every index of it
are equal. -/
theorem ext_get {g₁ g₂ : Grid} (hs : g₁.shape = g₂.shape)
    (h : ∀ idx, IsIndex g₁.shape idx → g₁.get idx = g₂.get idx) : g₁ = g₂ := by
  refine ext_data hs
    (List.ext_getElem (by rw [g₁.size_eq, g₂.size_eq, hs]) fun k hk₁ hk₂ => ?_)
  obtain ⟨idx, hidx, rfl⟩ := exists_isIndex_offset_eq (g₁.size_eq ▸ hk₁)
  have := h idx hidx
  simp only [get, List.getD_eq_getElem?_getD, ← hs, List.getElem?_eq_getElem hk₁,
    List.getElem?_eq_getElem hk₂, Option.getD_some] at this
  exact this

/-! ### Broadcasting -/

/-- Broadcasting fails exactly when the shapes do not allow it. -/
theorem broadcast?_eq_none_iff {g : Grid} {target : Shape} :
    g.broadcast? target = none ↔ broadcastsTo g.shape target = false := by
  unfold broadcast?
  split
  · next hb =>
      simp only [hb, reduceCtorEq, iff_false, ofData?, dite_eq_right_iff, not_forall]
      refine ⟨?_, by simp⟩
      split
      · simp_all
      · rw [length_stretch (fits_padded hb)]
        simpa using g.size_eq
  · next hb => simpa using hb

/-- An array built from a shape and data has that shape and that data. -/
theorem ofData?_eq_some {shape : Shape} {data : List Float} {b : Grid}
    (h : ofData? shape data = some b) : b.shape = shape ∧ b.data = data := by
  unfold ofData? at h
  split at h
  · cases h
    exact ⟨rfl, rfl⟩
  · simp at h

/-- What a successful broadcast is made of: the shapes allow it, and the array has the target
shape and the source's data stretched to it. -/
theorem broadcast?_eq_some {g b : Grid} {target : Shape} (h : g.broadcast? target = some b) :
    broadcastsTo g.shape target = true ∧ b.shape = target ∧
      b.data = if target.volume = 0 then [] else
        stretch (List.replicate (target.length - g.shape.length) 1 ++ g.shape) target g.data := by
  unfold broadcast? at h
  split at h
  · next hb => exact ⟨hb, ofData?_eq_some h⟩
  · simp at h

/-- **Broadcasting reads the source index**: at every index of the target, a broadcast array
holds its source's value at `sourceIndex`, for any number of missing leading axes and any
stretched axis; a target that holds no value has no index. -/
theorem get_broadcast {g b : Grid} {target : Shape} (h : g.broadcast? target = some b)
    {idx : List Nat} (hidx : IsIndex target idx) :
    b.get idx = g.get (sourceIndex g.shape idx) := by
  obtain ⟨hb, hshape, hdata⟩ := broadcast?_eq_some h
  have hvol := volume_pos_of_isIndex hidx
  have hle := (broadcastsTo_iff.1 hb).1
  have hk : target.length - g.shape.length ≤ idx.length := by
    rw [hidx.length_eq]; omega
  have hsrc : g.data.length =
      volume (List.replicate (target.length - g.shape.length) 1 ++ g.shape) := by
    simpa using g.size_eq
  simp only [get, List.getD_eq_getElem?_getD, hshape, hdata, Nat.pos_iff_ne_zero.1 hvol,
    if_false]
  rw [getElem?_stretch (fits_padded hb) hsrc hidx, zipWith_replicate_one_append _ _ hk,
    offset_replicate_append, sourceIndex, hidx.length_eq]

/-! ### Rows -/

/-- Consecutive chunks of a list, `y` then `z` places after the first `x`, make one chunk. -/
theorem take_drop_append_take_drop {α : Type} (l : List α) (x y z : Nat) :
    (l.drop x).take y ++ (l.drop (x + y)).take z = (l.drop x).take (y + z) := by
  rw [List.take_add, List.drop_drop]

/-- A cut of rows succeeds exactly when both ends lie within the first extent, and is then the
array of the rows' data. -/
theorem rows?_eq_some_iff {G g : Grid} {n : Nat} {t : Shape} (hG : G.shape = n :: t)
    {lo hi : Nat} :
    G.rows? lo hi = some g ↔ lo ≤ n ∧ hi ≤ n ∧
      ofData? ((hi - lo) :: t) ((G.data.drop (lo * volume t)).take ((hi - lo) * volume t)) =
        some g := by
  simp only [rows?, hG]
  split
  · next hin => simp [hin]
  · next hin =>
      simp only [reduceCtorEq, false_iff]
      exact fun h => hin ⟨h.1, h.2.1⟩

/-- Rows `lo` up to `hi` of an array with `n ≥ lo, hi` rows: an array of `hi - lo` rows holding
the data of those rows. -/
theorem rows?_eq_some {G : Grid} {n : Nat} {t : Shape} (hG : G.shape = n :: t) {lo hi : Nat}
    (hlo : lo ≤ n) (hhi : hi ≤ n) :
    ∃ g, G.rows? lo hi = some g ∧ g.shape = (hi - lo) :: t ∧
      g.data = (G.data.drop (lo * volume t)).take ((hi - lo) * volume t) := by
  have hlen : ((G.data.drop (lo * volume t)).take ((hi - lo) * volume t)).length =
      volume ((hi - lo) :: t) := by
    have hsize := G.size_eq
    rw [hG, volume_cons] at hsize
    have : (hi - lo) * volume t + lo * volume t ≤ n * volume t := by
      rw [← Nat.add_mul]
      exact Nat.mul_le_mul_right _ (by omega)
    simp only [List.length_take, List.length_drop, hsize, volume_cons]
    rw [Nat.sub_mul] at this ⊢
    omega
  refine ⟨⟨(hi - lo) :: t, _, hlen⟩, (rows?_eq_some_iff hG).2 ⟨hlo, hhi, ?_⟩, rfl, rfl⟩
  simp only [ofData?, dif_pos hlen]

/-- **A cut of rows fails exactly when an end lies past the first extent.** -/
theorem rows?_eq_none_iff {G : Grid} {n : Nat} {t : Shape} (hG : G.shape = n :: t)
    {lo hi : Nat} : G.rows? lo hi = none ↔ n < lo ∨ n < hi := by
  constructor
  · intro h
    by_cases hin : lo ≤ n ∧ hi ≤ n
    · obtain ⟨g, hg, -⟩ := rows?_eq_some hG hin.1 hin.2
      rw [hg] at h
      cases h
    · omega
  · intro h
    simp only [rows?, hG]
    rw [if_neg (by omega)]

/-- A range of rows has the range's length as its first extent. -/
theorem shape_of_rows? {G g : Grid} {n : Nat} {t : Shape} (hG : G.shape = n :: t) {lo hi : Nat}
    (h : G.rows? lo hi = some g) : g.shape = (hi - lo) :: t :=
  (ofData?_eq_some ((rows?_eq_some_iff hG).1 h).2.2).1

/-- An array read in rows `lo` up to `hi` holds at row `r` the whole array's row `lo + r`. -/
theorem get_rows {G g : Grid} {n : Nat} {t : Shape} (hG : G.shape = n :: t) {lo hi : Nat}
    (h : G.rows? lo hi = some g) {r : Nat} (hr : r < hi - lo) {rest : List Nat}
    (hrest : IsIndex t rest) : g.get (r :: rest) = G.get ((lo + r) :: rest) := by
  obtain ⟨hshape, hdata⟩ := ofData?_eq_some ((rows?_eq_some_iff hG).1 h).2.2
  have hoff := offset_lt_volume hrest
  have hlt : r * volume t + offset t rest < (hi - lo) * volume t := by
    calc r * volume t + offset t rest < r * volume t + volume t := by omega
      _ = (r + 1) * volume t := by rw [Nat.succ_mul]
      _ ≤ (hi - lo) * volume t := Nat.mul_le_mul_right _ hr
  simp only [get, hshape, hG, offset_cons_cons, List.getD_eq_getElem?_getD, hdata,
    List.getElem?_take, hlt, if_true, List.getElem?_drop]
  congr 2
  rw [Nat.add_mul]
  omega

/-- Two consecutive row ranges of one array join into the range that spans both. -/
theorem appendRows?_rows {G g₁ g₂ g₃ : Grid} {n : Nat} {t : Shape} (hG : G.shape = n :: t)
    {a b c : Nat} (hab : a ≤ b) (hbc : b ≤ c) (h₁ : G.rows? a b = some g₁)
    (h₂ : G.rows? b c = some g₂) (h₃ : G.rows? a c = some g₃) :
    g₁.appendRows? g₂ = some g₃ := by
  obtain ⟨hs₁, hd₁⟩ := ofData?_eq_some ((rows?_eq_some_iff hG).1 h₁).2.2
  obtain ⟨hs₂, hd₂⟩ := ofData?_eq_some ((rows?_eq_some_iff hG).1 h₂).2.2
  obtain ⟨hs₃, hd₃⟩ := ofData?_eq_some ((rows?_eq_some_iff hG).1 h₃).2.2
  have hdata : g₁.data ++ g₂.data = g₃.data := by
    rw [hd₁, hd₂, hd₃]
    have hbx : b * volume t = a * volume t + (b - a) * volume t := by
      rw [← Nat.add_mul]
      congr 1
      omega
    have hcx : (c - a) * volume t = (b - a) * volume t + (c - b) * volume t := by
      rw [← Nat.add_mul]
      congr 1
      omega
    rw [hbx, hcx, take_drop_append_take_drop]
  have hlen : (g₁.data ++ g₂.data).length = volume (((b - a) + (c - b)) :: t) := by
    rw [List.length_append, g₁.size_eq, g₂.size_eq, hs₁, hs₂]
    simp only [volume_cons, Nat.add_mul]
  simp only [appendRows?, hs₁, hs₂, if_true, ofData?, dif_pos hlen, Option.some.injEq]
  refine ext_data ?_ hdata
  rw [hs₃, List.cons.injEq]
  exact ⟨by omega, rfl⟩

/-- All the rows of an array are the array. -/
theorem rows?_all {G : Grid} {n : Nat} {t : Shape} (hG : G.shape = n :: t) :
    G.rows? 0 n = some G := by
  obtain ⟨g, hg, hshape, hdata⟩ := rows?_eq_some hG (Nat.zero_le n) (Nat.le_refl n)
  rw [hg]
  congr 1
  refine ext_data (by rw [hshape, hG, Nat.sub_zero]) ?_
  rw [hdata, Nat.zero_mul, List.drop_zero, Nat.sub_zero]
  exact List.take_of_length_le (Nat.le_of_eq (by rw [G.size_eq, hG, volume_cons]))

end Grid

end Quadrotor
