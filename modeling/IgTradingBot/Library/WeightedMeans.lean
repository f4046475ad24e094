import Mathlib.Algebra.BigOperators.Ring.List
import Mathlib.Algebra.Order.BigOperators.Group.List
import Mathlib.Algebra.Order.Field.Basic
import Mathlib.Data.List.MinMax
import Mathlib.Tactic.Ring

/-!
# Weighted means

The weights of some items are made into shares of their sum, and the mean of a value is the sum of
its parts by these shares. With weights that are positive the shares are a whole, and the mean lies
between the values.

An average that goes from value to value takes a share of each and keeps the rest of what it was. It
does not matter whether the values or the averages are mirrored.
-/

namespace WeightedMeans

variable {Item K : Type} [Field K]

/-- The sum of the weights of some items. -/
def total (weight : Item → K) (items : List Item) : K := (items.map weight).sum

/-- The mean of a value by the shares of some items. -/
def mean (weight value : Item → K) (items : List Item) : K :=
  (items.map fun item => value item * (weight item / total weight items)).sum

/-- The averages that go from value to value, from the first one on. -/
def smoothed (share : K) : List K → List K
  | [] => []
  | first :: rest =>
    rest.scanl (fun average value => (1 - share) * average + share * value) first

section Sums

/-- The shares of the items are a whole. -/
theorem shares_sum {weight : Item → K} {items : List Item} (whole : total weight items ≠ 0) :
    (items.map fun item => weight item / total weight items).sum = 1 := by
  simp only [div_eq_mul_inv]
  rw [List.sum_map_mul_right]
  exact mul_inv_cancel₀ whole

/-- The mean of the opposite values. -/
theorem mean_neg (weight value : Item → K) (items : List Item) :
    mean weight (fun item => -value item) items = -mean weight value items := by
  have opposite := List.sum_map_mul_left items
    (fun item => value item * (weight item / total weight items)) (-1)
  simpa [mean] using opposite

/-- The mean of items that are made from others. -/
theorem mean_map {Other : Type} (change : Item → Other) (weight value : Other → K)
    (items : List Item) :
    mean weight value (items.map change) =
      mean (fun item => weight (change item)) (fun item => value (change item)) items := by
  simp only [mean, total, List.map_map, Function.comp_def]

/-- There are as many averages as values. -/
theorem length_smoothed (share : K) (values : List K) :
    (smoothed share values).length = values.length := by
  cases values with
  | nil => rfl
  | cons first rest => simp [smoothed]

/-- The averages of mirrored values are the mirrored averages. The induction is on the values after
the first one. -/
theorem smoothed_map_sub (share total : K) (values : List K) :
    smoothed share (values.map fun value => total - value) =
      (smoothed share values).map fun average => total - average := by
  cases values with
  | nil => rfl
  | cons first rest =>
    simp only [smoothed, List.map_cons]
    induction rest generalizing first with
    | nil => rfl
    | cons value rest inductionHypothesis =>
      simp only [List.map_cons, List.scanl_cons, List.cons.injEq, true_and]
      rw [← inductionHypothesis]
      congr 1
      ring

end Sums

section Bounds

variable [LinearOrder K] [IsStrictOrderedRing K] {weight value : Item → K} {items : List Item}

/-- Positive weights have a positive sum. -/
theorem total_pos (positive : ∀ item ∈ items, 0 < weight item) (some : items ≠ []) :
    0 < total weight items := by
  apply List.sum_pos
  · simpa using positive
  · simpa using some

/-- Every share of a positive weight is positive. -/
theorem share_pos (positive : ∀ item ∈ items, 0 < weight item) {item : Item}
    (among : item ∈ items) : 0 < weight item / total weight items :=
  div_pos (positive item among) (total_pos positive (List.ne_nil_of_mem among))

/-- A mean is at most what every value is at most. -/
theorem mean_le (positive : ∀ item ∈ items, 0 < weight item) (some : items ≠ []) {bound : K}
    (below : ∀ item ∈ items, value item ≤ bound) : mean weight value items ≤ bound :=
  calc mean weight value items
      ≤ (items.map fun item => bound * (weight item / total weight items)).sum :=
        List.sum_le_sum fun item among =>
          mul_le_mul_of_nonneg_right (below item among) (share_pos positive among).le
    _ = bound * (items.map fun item => weight item / total weight items).sum :=
        List.sum_map_mul_left ..
    _ = bound := by rw [shares_sum (total_pos positive some).ne', mul_one]

/-- A mean is at least what every value is at least. -/
theorem le_mean (positive : ∀ item ∈ items, 0 < weight item) (some : items ≠ []) {bound : K}
    (above : ∀ item ∈ items, bound ≤ value item) : bound ≤ mean weight value items := by
  have opposite := mean_le positive some fun item among => neg_le_neg (above item among)
  rw [mean_neg] at opposite
  exact neg_le_neg_iff.mp opposite

/-- A mean lies between two of the values. -/
theorem mean_between (positive : ∀ item ∈ items, 0 < weight item) (some : items ≠ []) :
    (∃ least ∈ items, value least ≤ mean weight value items) ∧
      ∃ greatest ∈ items, mean weight value items ≤ value greatest := by
  constructor
  · cases isLeast : items.argmin value with
    | none => exact absurd (List.argmin_eq_none.mp isLeast) some
    | some least =>
      exact ⟨least, List.argmin_mem isLeast,
        le_mean positive some fun item among => List.le_of_mem_argmin among isLeast⟩
  · cases isGreatest : items.argmax value with
    | none => exact absurd (List.argmax_eq_none.mp isGreatest) some
    | some greatest =>
      exact ⟨greatest, List.argmax_mem isGreatest,
        mean_le positive some fun item among => List.le_of_mem_argmax among isGreatest⟩

end Bounds

end WeightedMeans
