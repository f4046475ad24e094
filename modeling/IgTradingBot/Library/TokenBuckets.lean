import IgTradingBot.Library.Windows
import Mathlib.Algebra.Order.Field.Basic
import Mathlib.Data.Nat.Cast.Order.Ring
import Mathlib.Tactic.Linarith
import Mathlib.Tactic.Ring

/-!
# Token buckets

A bucket fills at a rate up to its capacity, and every event spends one token. Since any time,
the events and the tokens that are left together are at most a full bucket and what has been
filled in since. Therefore a half-open window has fewer events than a full bucket and what is
filled in during the window.
-/

namespace TokenBuckets

open SlidingWindows

section Counting

variable {Time : Type} [LinearOrder Time]

/-- The events from a time on. -/
def since (start : Time) (history : List Time) : List Time :=
  history.filter fun event => start ≤ event

/-- Nothing happens from a time on that is later than every event. -/
theorem since_later {start latest : Time} {history : List Time}
    (past : ∀ event ∈ history, event ≤ latest) (later : latest < start) :
    since start history = [] := by
  rw [since, List.filter_eq_nil_iff]
  intro event member
  simpa using lt_of_le_of_lt (past event member) later

/-- A window has at most the events since it began. -/
theorem length_within_le_since [AddCommGroup Time] (width start : Time) (history : List Time) :
    (within id width start history).length ≤ (since start history).length := by
  have subset : within id width start (since start history) =
      within id width start history := by
    rw [within, within, since, List.filter_filter]
    apply List.filter_congr
    intro event _
    by_cases begun : start ≤ event <;> simp [begun]
  rw [← subset]
  exact List.length_filter_le _ _

end Counting

variable {Time : Type} [Field Time] [LinearOrder Time] [IsStrictOrderedRing Time]

/-- What the events of a history have left in a bucket that was last filled at a time. -/
structure Spent (capacity rate tokens filledAt : Time) (history : List Time) : Prop where
  nonneg : 0 ≤ tokens
  notOverfull : tokens ≤ capacity
  past : ∀ event ∈ history, event ≤ filledAt
  balance : ∀ start ≤ filledAt,
    ((since start history).length : Time) + tokens ≤ capacity + rate * (filledAt - start)
  windows : ∀ start width, 0 < width →
    ((within id width start history).length : Time) < capacity + rate * width

section Laws

variable {capacity rate tokens filledAt : Time} {history : List Time}

/-- A new bucket is full. -/
theorem spent_nothing (nonneg : 0 ≤ capacity) (positive : 0 < rate) (filledAt : Time) :
    Spent capacity rate capacity filledAt [] := by
  constructor
  · exact nonneg
  · exact le_refl capacity
  · simp
  · intro start before
    have filled := mul_nonneg positive.le (sub_nonneg.mpr before)
    simp only [since, List.filter_nil, List.length_nil, Nat.cast_zero, zero_add]
    linarith
  · intro start width wide
    have filled := mul_pos positive wide
    simp only [within, List.filter_nil, List.length_nil, Nat.cast_zero]
    linarith

/-- Filling keeps the balance. -/
theorem Spent.refill (spent : Spent capacity rate tokens filledAt history)
    (positive : 0 < rate) {now : Time} (later : filledAt ≤ now) :
    Spent capacity rate (min capacity (tokens + (now - filledAt) * rate)) now history := by
  have elapsed := sub_nonneg.mpr later
  constructor
  · exact le_min (spent.nonneg.trans spent.notOverfull)
      (add_nonneg spent.nonneg (mul_nonneg elapsed positive.le))
  · exact min_le_left _ _
  · exact fun event member => (spent.past event member).trans later
  · intro start before
    obtain inside | fresh := le_or_gt start filledAt
    · have balance := spent.balance start inside
      have filled := min_le_right capacity (tokens + (now - filledAt) * rate)
      calc ((since start history).length : Time) + min capacity (tokens + (now - filledAt) * rate)
          ≤ (since start history).length + (tokens + (now - filledAt) * rate) := by linarith
        _ ≤ capacity + rate * (filledAt - start) + (now - filledAt) * rate := by linarith
        _ = capacity + rate * (now - start) := by ring
    · have filled := mul_nonneg positive.le (sub_nonneg.mpr before)
      have full := min_le_left capacity (tokens + (now - filledAt) * rate)
      rw [since_later spent.past fresh]
      simp only [List.length_nil, Nat.cast_zero, zero_add]
      linarith
  · exact spent.windows

/-- An event that finds a whole token spends it. -/
theorem Spent.spend (spent : Spent capacity rate tokens filledAt history) (positive : 0 < rate)
    (whole : 1 ≤ tokens) :
    Spent capacity rate (tokens - 1) filledAt (history ++ [filledAt]) := by
  have balanced : ∀ start ≤ filledAt,
      ((since start (history ++ [filledAt])).length : Time) + (tokens - 1) ≤
        capacity + rate * (filledAt - start) := by
    intro start begun
    have joined : since start (history ++ [filledAt]) = since start history ++ [filledAt] := by
      simp [since, List.filter_append, begun]
    have balance := spent.balance start begun
    rw [joined, List.length_append, List.length_singleton, Nat.cast_add, Nat.cast_one]
    linarith
  constructor
  · exact sub_nonneg.mpr whole
  · exact (sub_le_self _ zero_le_one).trans spent.notOverfull
  · intro event member
    obtain earlier | same := List.mem_append.mp member
    · exact spent.past event earlier
    · exact (List.mem_singleton.mp same).le
  · exact balanced
  · intro start width wide
    by_cases inside : start ≤ filledAt ∧ filledAt < start + width
    · have counted : ((within id width start (history ++ [filledAt])).length : Time) ≤
          (since start (history ++ [filledAt])).length := by
        exact_mod_cast length_within_le_since width start _
      have balance := balanced start inside.1
      have shorter : rate * (filledAt - start) < rate * width :=
        mul_lt_mul_of_pos_left (by linarith [inside.2]) positive
      linarith
    · have unjoined : within id width start (history ++ [filledAt]) =
          within id width start history := by
        simp [within, List.filter_append, inside]
      rw [unjoined]
      exact spent.windows start width wide

end Laws

end TokenBuckets
