import IgTradingBot.Library.Peaks
import Mathlib.Algebra.Order.Field.Basic
import Mathlib.Algebra.Order.Field.Rat
import Mathlib.Tactic.Linarith

/-!
# Backtest metrics

The maximum drawdown of `src/backtesting/metrics.py`: one pass over an equity curve with its running
peak. Arithmetic is exact.
-/

namespace IgTradingBot

namespace Metrics

/-- What an equity has lost of an earlier one. -/
def drawdown (before after : ℚ) : ℚ := (before - after) / before

/-- What an equity has lost of its peak, and nothing of a peak that is not positive. -/
def drawdownFromPeak (peak equity : ℚ) : ℚ := if 0 < peak then drawdown peak equity else 0

/-- Calculate the maximum peak-to-trough drawdown. -/
def maxDrawdown (equityCurve : List ℚ) : ℚ :=
  if equityCurve.length < 2 then 0
  else ((Peaks.lossesFromPeaks drawdownFromPeak equityCurve).max?).getD 0

/-- The drawdowns of all pairs of an equity and a later one, or itself. -/
def drawdowns (equityCurve : List ℚ) : Set ℚ := Peaks.losses drawdown equityCurve

example : maxDrawdown [100, 120, 90, 130] = 1 / 4 := by decide +kernel

section Drawdowns

variable {equityCurve : List ℚ}

/-- The drawdown from a higher equity is greater. -/
theorem drawdown_mono {low high after : ℚ} (positive : 0 < low) (above : low ≤ high)
    (least : 0 < after) : drawdown low after ≤ drawdown high after := by
  have highPositive := positive.trans_le above
  have share : after / high ≤ after / low := div_le_div_of_nonneg_left least.le positive above
  unfold drawdown
  rw [sub_div, sub_div, div_self positive.ne', div_self highPositive.ne']
  exact sub_le_sub_left share 1

/-- No positive equity has lost all of an earlier one. -/
theorem drawdown_lt_one {before after : ℚ} (positive : 0 < before) (least : 0 < after) :
    drawdown before after < 1 := by
  rw [drawdown, div_lt_one positive]
  linarith only [least]

/-- On a positive curve the drawdowns from the peaks are among those of all pairs. -/
theorem drawdowns_from_peaks (positive : ∀ equity ∈ equityCurve, 0 < equity) :
    Peaks.losses drawdownFromPeak equityCurve = drawdowns equityCurve := by
  ext lost
  refine exists_congr fun earlier => exists_congr fun later => exists_congr fun before =>
    exists_congr fun after => and_congr_right fun _ => and_congr_right fun isBefore => ?_
  rw [drawdownFromPeak, if_pos (positive before (List.mem_of_getElem? isBefore))]

/-- An equity has lost nothing of itself. -/
theorem drawdown_from_itself (equity : ℚ) : drawdownFromPeak equity equity = 0 := by
  rw [drawdownFromPeak, drawdown, sub_self, zero_div, ite_self]

/-- The pass over a curve that is not empty returns the greatest of the drawdowns from the peaks. -/
theorem max_drawdown_found {greatest : ℚ}
    (found : (Peaks.lossesFromPeaks drawdownFromPeak equityCurve).max? = some greatest) :
    maxDrawdown equityCurve = greatest := by
  rw [maxDrawdown, found]
  split_ifs with short
  · match equityCurve, short with
    | [], _ => cases found
    | [only], _ => exact (drawdown_from_itself only).symm.trans (Option.some.inj found)
  · rfl

/-- The pass over a positive curve finds the greatest drawdown of all pairs. -/
theorem max_drawdown_greatest (positive : ∀ equity ∈ equityCurve, 0 < equity)
    (nonempty : equityCurve ≠ []) : IsGreatest (drawdowns equityCurve) (maxDrawdown equityCurve) := by
  have grows : ∀ low ∈ equityCurve, ∀ high ∈ equityCurve, low ≤ high → ∀ after ∈ equityCurve,
      drawdownFromPeak low after ≤ drawdownFromPeak high after := by
    intro low isLow high isHigh above after isAfter
    rw [drawdownFromPeak, drawdownFromPeak, if_pos (positive low isLow),
      if_pos (positive high isHigh)]
    exact drawdown_mono (positive low isLow) above (positive after isAfter)
  obtain ⟨greatest, found⟩ := Peaks.exists_greatest_loss drawdownFromPeak nonempty
  rw [max_drawdown_found found, ← drawdowns_from_peaks positive]
  exact Peaks.is_greatest_loss grows found

end Drawdowns

end Metrics

end IgTradingBot
