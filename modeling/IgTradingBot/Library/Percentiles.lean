import Mathlib.Algebra.Order.Floor.Semiring
import Mathlib.Algebra.Order.Field.Basic
import Mathlib.Data.List.Sort
import Mathlib.Tactic.Linarith
import Mathlib.Tactic.Ring

/-!
# Percentiles

A quantile of values is read from the sorted values at a position that may lie between two places. It
is then on the line from one value to the next. So quantiles do not decrease with their share, and no
quantile is beyond all values. The median is the quantile of one half.
-/

namespace Percentiles

section Order

variable {K : Type} [LinearOrder K] {sorted values : List K} {low high : ℕ} {value : K}

/-- The values in order. -/
def sort (values : List K) : List K := values.insertionSort (· ≤ ·)

/-- The value at a place, and the last one behind it. -/
def itemAt [Zero K] (sorted : List K) (place : ℕ) : K :=
  sorted[min place (sorted.length - 1)]?.getD 0

theorem mem_sort : value ∈ sort values ↔ value ∈ values := List.mem_insertionSort _

theorem length_sort (values : List K) : (sort values).length = values.length :=
  List.length_insertionSort _ values

theorem sort_ne_nil (nonempty : values ≠ []) : sort values ≠ [] := by
  rwa [← List.length_pos_iff, length_sort, List.length_pos_iff]

/-- The sorted values are in order. -/
theorem sort_ordered (values : List K) : (sort values).Pairwise (· ≤ ·) :=
  List.pairwise_insertionSort _ values

/-- A later item is no less. -/
theorem itemAt_mono [Zero K] (ordered : sorted.Pairwise (· ≤ ·)) (before : low ≤ high) :
    itemAt sorted low ≤ itemAt sorted high := by
  cases sorted with
  | nil => exact le_rfl
  | cons first rest =>
    have inside : min high rest.length < (first :: rest).length := by
      rw [List.length_cons]
      omega
    have earlier : min low rest.length ≤ min high rest.length := by omega
    rw [itemAt, itemAt, List.length_cons, Nat.add_sub_cancel, List.getElem?_eq_getElem inside,
      List.getElem?_eq_getElem (earlier.trans_lt inside)]
    obtain same | less := earlier.eq_or_lt
    · simp only [same, le_refl]
    · exact List.pairwise_iff_getElem.mp ordered _ _ (earlier.trans_lt inside) inside less

end Order

/-- The item at a place is one of the values. -/
theorem itemAt_mem {K : Type} [Zero K] [LinearOrder K] {sorted : List K} (nonempty : sorted ≠ [])
    (place : ℕ) : itemAt sorted place ∈ sorted := by
  have positive := List.length_pos_iff.mpr nonempty
  have inside : min place (sorted.length - 1) < sorted.length := by omega
  rw [itemAt, List.getElem?_eq_getElem inside]
  exact List.getElem_mem inside

variable {K : Type} [Field K] [LinearOrder K]

/-- The value at a position, on the line from the value before to the next one. -/
def atPosition [FloorSemiring K] (sorted : List K) (position : K) : K :=
  let before := ⌊position⌋₊
  itemAt sorted before +
    (itemAt sorted (before + 1) - itemAt sorted before) * (position - before)

/-- The quantile of a share. -/
def quantile [FloorSemiring K] (share : K) (values : List K) : K :=
  atPosition (sort values) ((values.length - 1) * share)

/-- The quantile of a share in percent. -/
def percentile [FloorSemiring K] (percent : K) (values : List K) : K :=
  quantile (percent / 100) values

/-- The value in the middle, or the mean of the two values there. -/
def median (values : List K) : K :=
  if values.length % 2 = 1 then itemAt (sort values) (values.length / 2)
  else (itemAt (sort values) (values.length / 2 - 1) + itemAt (sort values) (values.length / 2)) / 2

variable [IsStrictOrderedRing K] [FloorSemiring K] {sorted values : List K} {bound low high : K}

/-- The value at a position lies between the items around it. -/
theorem atPosition_between (ordered : sorted.Pairwise (· ≤ ·)) {position : K}
    (start : 0 ≤ position) :
    itemAt sorted ⌊position⌋₊ ≤ atPosition sorted position ∧
      atPosition sorted position ≤ itemAt sorted (⌊position⌋₊ + 1) := by
  have step := sub_nonneg.mpr (itemAt_mono ordered (Nat.le_succ ⌊position⌋₊))
  have way := sub_nonneg.mpr (Nat.floor_le start)
  have within : position - ⌊position⌋₊ ≤ 1 := by linarith [Nat.lt_floor_add_one position]
  rw [atPosition]
  constructor
  · linarith [mul_nonneg step way]
  · linarith [mul_le_mul_of_nonneg_left within step]

/-- A later position has no lower value. -/
theorem atPosition_mono (ordered : sorted.Pairwise (· ≤ ·)) (start : 0 ≤ low)
    (before : low ≤ high) : atPosition sorted low ≤ atPosition sorted high := by
  obtain same | earlier := (Nat.floor_mono before).eq_or_lt
  · -- both are on one line, which does not fall
    have step := sub_nonneg.mpr (itemAt_mono ordered (Nat.le_succ ⌊high⌋₊))
    rw [atPosition, atPosition, same]
    linarith [mul_le_mul_of_nonneg_left (sub_le_sub_right before (⌊high⌋₊ : K)) step]
  · calc
      atPosition sorted low ≤ itemAt sorted (⌊low⌋₊ + 1) := (atPosition_between ordered start).2
      _ ≤ itemAt sorted ⌊high⌋₊ := itemAt_mono ordered earlier
      _ ≤ atPosition sorted high := (atPosition_between ordered (start.trans before)).1

omit [FloorSemiring K] in
/-- Where there are values, their number less one is not negative. -/
theorem length_sub_one_nonneg (nonempty : values ≠ []) : 0 ≤ (values.length : K) - 1 := by
  have positive : (1 : K) ≤ values.length := by exact_mod_cast List.length_pos_iff.mpr nonempty
  exact sub_nonneg.mpr positive

/-- A greater share has no lower quantile. -/
theorem quantile_mono (nonempty : values ≠ []) (start : 0 ≤ low) (less : low ≤ high) :
    quantile low values ≤ quantile high values :=
  have places := length_sub_one_nonneg nonempty
  atPosition_mono (sort_ordered values) (mul_nonneg places start)
    (mul_le_mul_of_nonneg_left less places)

/-- No quantile is below all values. -/
theorem le_quantile (nonempty : values ≠ []) {share : K} (start : 0 ≤ share)
    (least : ∀ value ∈ values, bound ≤ value) : bound ≤ quantile share values := by
  have position := mul_nonneg (length_sub_one_nonneg nonempty) start
  refine le_trans ?_ (atPosition_between (sort_ordered values) position).1
  exact least _ (mem_sort.mp (itemAt_mem (sort_ne_nil nonempty) _))

/-- No quantile is above all values. -/
theorem quantile_le (nonempty : values ≠ []) {share : K} (start : 0 ≤ share)
    (greatest : ∀ value ∈ values, value ≤ bound) : quantile share values ≤ bound := by
  have position := mul_nonneg (length_sub_one_nonneg nonempty) start
  refine le_trans (atPosition_between (sort_ordered values) position).2 ?_
  exact greatest _ (mem_sort.mp (itemAt_mem (sort_ne_nil nonempty) _))

/-- The median is the quantile of one half. -/
theorem median_eq_quantile (nonempty : values ≠ []) : median values = quantile (1 / 2) values := by
  have positive := List.length_pos_iff.mpr nonempty
  obtain ⟨half, even | odd⟩ := values.length.even_or_odd'
  · obtain ⟨less, rfl⟩ : ∃ less, half = less + 1 := ⟨half - 1, by omega⟩
    have place : ((values.length : K) - 1) * (1 / 2) = less + 1 / 2 := by
      rw [even]
      push_cast
      ring
    have floor : ⌊(less : K) + 1 / 2⌋₊ = less :=
      (Nat.floor_eq_iff (by positivity)).mpr ⟨by linarith, by linarith⟩
    rw [median, if_neg (by omega), quantile, place, atPosition, floor, even,
      Nat.mul_div_cancel_left _ two_pos, Nat.add_sub_cancel]
    ring
  · have place : ((values.length : K) - 1) * (1 / 2) = half := by
      rw [odd]
      push_cast
      ring
    rw [median, if_pos (by omega), quantile, place, atPosition, Nat.floor_natCast, sub_self,
      mul_zero, add_zero]
    congr 1
    omega

end Percentiles
