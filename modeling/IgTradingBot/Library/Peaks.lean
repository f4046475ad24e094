import Mathlib.Data.List.MinMax
import Mathlib.Order.Bounds.Basic

/-!
# Running peaks

The greatest value so far, for each value of a series. What a value has lost against an earlier one is
greatest against the peak at its place, if the loss grows with the earlier value. One pass with a
running peak thus finds the greatest loss of all pairs.
-/

namespace Peaks

variable {K L : Type} [LinearOrder K] [LinearOrder L] {values : List K}

/-- The greatest values so far, with a peak that was reached before. -/
def peaksFrom (peak : K) : List K → List K
  | [] => []
  | value :: rest => max peak value :: peaksFrom (max peak value) rest

/-- The greatest value so far, for each value. -/
def peaks : List K → List K
  | [] => []
  | first :: rest => first :: peaksFrom first rest

/-- The losses of the later values against the earlier ones, and of each against itself. -/
def losses (loss : K → K → L) (values : List K) : Set L :=
  {lost | ∃ (earlier later : ℕ) (before after : K), earlier ≤ later ∧
    values[earlier]? = some before ∧ values[later]? = some after ∧ lost = loss before after}

/-- The losses against the peaks. -/
def lossesFromPeaks (loss : K → K → L) (values : List K) : List L :=
  (peaks values).zipWith loss values

/-- The peak at a place is the greatest of the peak before and the values up to the place. The
induction is on the values. -/
theorem peaks_from_getElem? (peak : K) (values : List K) (place : ℕ) :
    (peaksFrom peak values)[place]? =
      values[place]?.map fun _ => (values.take (place + 1)).foldl max peak := by
  induction values generalizing peak place with
  | nil => rfl
  | cons value rest inductionHypothesis =>
    cases place with
    | zero => rfl
    | succ place =>
      rw [peaksFrom, List.getElem?_cons_succ, inductionHypothesis, List.getElem?_cons_succ]
      rfl

/-- The peak at a place is the greatest value up to it. -/
theorem peaks_getElem? (values : List K) (place : ℕ) :
    (peaks values)[place]? = values[place]?.bind fun _ => (values.take (place + 1)).max? := by
  cases values with
  | nil => rfl
  | cons first rest =>
    cases place with
    | zero => rfl
    | succ place =>
      rw [peaks, List.getElem?_cons_succ, peaks_from_getElem?, List.getElem?_cons_succ,
        List.take_succ_cons, List.max?_cons']
      cases rest[place]? <;> rfl

omit [LinearOrder K] in
/-- The values up to a place. -/
theorem mem_up_to_iff {place : ℕ} {value : K} :
    value ∈ values.take (place + 1) ↔ ∃ earlier ≤ place, values[earlier]? = some value := by
  rw [List.mem_iff_getElem?]
  refine exists_congr fun earlier => ?_
  rw [List.getElem?_take, Option.ite_none_right_eq_some, Nat.lt_succ_iff]

/-- Every value has a peak: itself or an earlier value, which no value up to it exceeds. -/
theorem exists_peak {place : ℕ} {after : K} (found : values[place]? = some after) :
    ∃ peak, (peaks values)[place]? = some peak ∧
      (∃ earlier ≤ place, values[earlier]? = some peak) ∧
      ∀ earlier ≤ place, ∀ before, values[earlier]? = some before → before ≤ peak := by
  have member : after ∈ values.take (place + 1) := mem_up_to_iff.mpr ⟨place, le_rfl, found⟩
  cases greatest : (values.take (place + 1)).max? with
  | none =>
    rw [List.max?_eq_none_iff.mp greatest] at member
    exact absurd member List.not_mem_nil
  | some peak =>
    obtain ⟨reached, bound⟩ := List.max?_eq_some_iff.mp greatest
    refine ⟨peak, ?_, mem_up_to_iff.mp reached, ?_⟩
    · rw [peaks_getElem?, found, Option.bind_some, greatest]
    · intro earlier before value same
      exact bound value (mem_up_to_iff.mpr ⟨earlier, before, same⟩)

omit [LinearOrder L] in
/-- The losses against the peaks are those of the pairs of a value and its peak. -/
theorem mem_losses_from_peaks {loss : K → K → L} {lost : L} :
    lost ∈ lossesFromPeaks loss values ↔ ∃ (place : ℕ) (peak after : K),
      (peaks values)[place]? = some peak ∧ values[place]? = some after ∧ loss peak after = lost := by
  rw [lossesFromPeaks, List.mem_iff_getElem?]
  refine exists_congr fun place => ?_
  rw [List.getElem?_zipWith_eq_some]

/-- The greatest loss against the peaks is the greatest loss of all pairs, where the loss of a value
grows with the earlier one. -/
theorem is_greatest_loss {loss : K → K → L}
    (grows : ∀ low ∈ values, ∀ high ∈ values, low ≤ high → ∀ after ∈ values,
      loss low after ≤ loss high after)
    {greatest : L} (found : (lossesFromPeaks loss values).max? = some greatest) :
    IsGreatest (losses loss values) greatest := by
  obtain ⟨reached, bound⟩ := List.max?_eq_some_iff.mp found
  constructor
  · obtain ⟨place, peak, after, isPeak, isValue, rfl⟩ := mem_losses_from_peaks.mp reached
    obtain ⟨same, known, ⟨earlier, before, isEarlier⟩, -⟩ := exists_peak isValue
    obtain rfl := Option.some.inj (isPeak.symm.trans known)
    exact ⟨earlier, place, peak, after, before, isEarlier, isValue, rfl⟩
  · rintro lost ⟨earlier, later, before, after, inOrder, isEarlier, isLater, rfl⟩
    obtain ⟨peak, isPeak, ⟨highest, -, isHighest⟩, above⟩ := exists_peak isLater
    calc
      loss before after ≤ loss peak after :=
        grows before (List.mem_of_getElem? isEarlier) peak (List.mem_of_getElem? isHighest)
          (above earlier inOrder before isEarlier) after (List.mem_of_getElem? isLater)
      _ ≤ greatest :=
        bound _ (mem_losses_from_peaks.mpr ⟨later, peak, after, isPeak, isLater, rfl⟩)

/-- Some loss is greatest, unless there are no values. -/
theorem exists_greatest_loss (loss : K → K → L) (nonempty : values ≠ []) :
    ∃ greatest, (lossesFromPeaks loss values).max? = some greatest := by
  cases found : (lossesFromPeaks loss values).max? with
  | some greatest => exact ⟨greatest, rfl⟩
  | none =>
    have none := List.max?_eq_none_iff.mp found
    cases values with
    | nil => exact absurd rfl nonempty
    | cons first rest => cases none

end Peaks
