import IgTradingBot.Backtest.Metrics
import IgTradingBot.Library.Percentiles
import Mathlib.Algebra.Order.BigOperators.Group.List
import Mathlib.Data.Rat.Floor
import Mathlib.Tactic.FieldSimp

/-!
# Monte Carlo simulation

The simulator of `src/backtesting/monte_carlo.py` shuffles the returns of trades and takes statistics of
the paths. Arithmetic is exact, and the order of the returns then changes the drawdowns of a path but
not what it returns.
-/

namespace IgTradingBot

/-- The statistics of a simulation. -/
structure MonteCarloResult where
  medianReturn : ℚ
  p5Drawdown : ℚ
  p95Drawdown : ℚ
  probRuin : ℚ
  probProfit : ℚ
  confidenceIntervals : List (String × ℚ × ℚ)
  iterationCount : ℕ
  medianMaxDrawdown : ℚ
  deriving DecidableEq, Repr

/-- A simulator makes one path at least. -/
structure MonteCarloSimulator where
  iterations : ℕ
  positive : 1 ≤ iterations

namespace MonteCarloSimulator

/-- `__init__`. -/
def create (iterations : ℤ) : Except String MonteCarloSimulator :=
  if positive : 1 ≤ iterations then .ok ⟨iterations.toNat, by omega⟩
  else .error "Iterations must be at least 1"

/-- The equity after each trade of a path, and at first. -/
def equityCurve (initialEquity : ℚ) (shuffled : List ℚ) : List ℚ :=
  (List.range (shuffled.length + 1)).map fun place => initialEquity + (shuffled.take place).sum

def totalReturn (initialEquity : ℚ) (shuffled : List ℚ) : ℚ :=
  (initialEquity + shuffled.sum - initialEquity) / initialEquity

/-- The greatest drawdown of a path from its running peak. -/
def maxDrawdown (initialEquity : ℚ) (shuffled : List ℚ) : ℚ :=
  (Peaks.lossesFromPeaks Metrics.drawdownFromPeak (equityCurve initialEquity shuffled)).max?.getD 0

/-- The part of values that meet a condition. -/
def share (condition : ℚ → Bool) (values : List ℚ) : ℚ := values.countP condition / values.length

/-- A simulation. `permutation` is that of the random generator in an iteration. -/
def simulate (self : MonteCarloSimulator) (permutation : ℕ → List ℚ → List ℚ)
    (tradeReturns : List ℚ) (initialEquity : ℚ) : Except String MonteCarloResult :=
  if tradeReturns = [] then .error "trade_returns must not be empty"
  else
    let paths := (List.range self.iterations).map fun iteration =>
      permutation iteration tradeReturns
    let totalReturns := paths.map (totalReturn initialEquity)
    let maxDrawdowns := paths.map (maxDrawdown initialEquity)
    let interval (low high : ℚ) :=
      (Percentiles.percentile low totalReturns, Percentiles.percentile high totalReturns)
    .ok {
      medianReturn := Percentiles.median totalReturns
      p5Drawdown := Percentiles.percentile 5 maxDrawdowns
      p95Drawdown := Percentiles.percentile 95 maxDrawdowns
      probRuin := share (fun value => decide (value < 0)) totalReturns
      probProfit := share (fun value => decide (0 < value)) totalReturns
      confidenceIntervals := [("90%", interval 5 95), ("95%", interval (5 / 2) (195 / 2)),
        ("99%", interval (1 / 2) (199 / 2))]
      iterationCount := self.iterations
      medianMaxDrawdown := Percentiles.median maxDrawdowns }

/-- What the losing trades lose. -/
def lossesOf (tradeReturns : List ℚ) : ℚ := (tradeReturns.map fun value => max 0 (-value)).sum

section Paths

variable {initialEquity : ℚ} {shuffled : List ℚ}

/-- The equity at a place of a path. -/
theorem equityCurve_getElem?_eq_some {place : ℕ} {equity : ℚ} :
    (equityCurve initialEquity shuffled)[place]? = some equity ↔
      place ≤ shuffled.length ∧ initialEquity + (shuffled.take place).sum = equity := by
  rw [equityCurve, List.getElem?_map, Option.map_eq_some_iff]
  constructor
  · rintro ⟨known, found, rfl⟩
    obtain ⟨inside, rfl⟩ := List.getElem?_eq_some_iff.mp found
    rw [List.length_range] at inside
    rw [List.getElem_range]
    exact ⟨Nat.le_of_lt_succ inside, rfl⟩
  · rintro ⟨inside, rfl⟩
    exact ⟨place, List.getElem?_range (Nat.lt_succ_of_le inside), rfl⟩

theorem lossesOf_nonneg (tradeReturns : List ℚ) : 0 ≤ lossesOf tradeReturns := by
  refine List.sum_nonneg fun loss member => ?_
  obtain ⟨value, -, rfl⟩ := List.mem_map.mp member
  exact le_max_left 0 _

/-- A path loses no more between two places than its losing trades. The induction is on the trades. -/
theorem sum_take_sub_le (shuffled : List ℚ) {first last : ℕ} (before : first ≤ last) :
    (shuffled.take first).sum - (shuffled.take last).sum ≤ lossesOf shuffled := by
  induction shuffled generalizing first last with
  | nil => simp [lossesOf]
  | cons value rest inductionHypothesis =>
    have more : lossesOf (value :: rest) = max 0 (-value) + lossesOf rest := List.sum_cons
    have loses := le_max_left 0 (-value)
    have lost := le_max_right 0 (-value)
    rw [more]
    cases last with
    | zero =>
      obtain rfl := Nat.le_zero.mp before
      rw [sub_self]
      exact add_nonneg loses (lossesOf_nonneg rest)
    | succ last =>
      rw [List.take_succ_cons, List.sum_cons]
      cases first with
      | zero =>
        have later := inductionHypothesis (Nat.zero_le last)
        rw [List.take_zero, List.sum_nil] at later ⊢
        linarith
      | succ first =>
        have later := inductionHypothesis (Nat.le_of_succ_le_succ before)
        rw [List.take_succ_cons, List.sum_cons]
        linarith

/-- The greatest drawdown of a path is one, and no other is greater. -/
theorem maxDrawdown_isGreatest (initialEquity : ℚ) (shuffled : List ℚ) :
    IsGreatest {lost | lost ∈ Peaks.lossesFromPeaks Metrics.drawdownFromPeak
      (equityCurve initialEquity shuffled)} (maxDrawdown initialEquity shuffled) := by
  have nonempty : equityCurve initialEquity shuffled ≠ [] := by simp [equityCurve]
  obtain ⟨greatest, found⟩ := Peaks.exists_greatest_loss Metrics.drawdownFromPeak nonempty
  rw [maxDrawdown, found]
  exact List.max?_eq_some_iff.mp found

/-- The peak at every place is the equity of an earlier one, and not below the first. -/
theorem exists_peak_of_place (initialEquity : ℚ) {place : ℕ} (inside : place ≤ shuffled.length) :
    ∃ earlier ≤ place,
      (Peaks.peaks (equityCurve initialEquity shuffled))[place]? =
        some (initialEquity + (shuffled.take earlier).sum) ∧
      initialEquity ≤ initialEquity + (shuffled.take earlier).sum := by
  have here : (equityCurve initialEquity shuffled)[place]? =
      some (initialEquity + (shuffled.take place).sum) :=
    equityCurve_getElem?_eq_some.mpr ⟨inside, rfl⟩
  obtain ⟨peak, isPeak, ⟨earlier, before, isEarlier⟩, above⟩ := Peaks.exists_peak here
  obtain ⟨-, rfl⟩ := equityCurve_getElem?_eq_some.mp isEarlier
  have start : (equityCurve initialEquity shuffled)[0]? = some initialEquity :=
    equityCurve_getElem?_eq_some.mpr ⟨Nat.zero_le _, by simp⟩
  exact ⟨earlier, before, isPeak, above 0 (Nat.zero_le place) initialEquity start⟩

/-- A path draws down no more than all its losses, of the first equity. -/
theorem maxDrawdown_le (positive : 0 < initialEquity) (shuffled : List ℚ) :
    maxDrawdown initialEquity shuffled ≤ lossesOf shuffled / initialEquity := by
  obtain ⟨reached, -⟩ := maxDrawdown_isGreatest initialEquity shuffled
  obtain ⟨place, peak, equity, isPeak, isEquity, lost⟩ := Peaks.mem_losses_from_peaks.mp reached
  obtain ⟨inside, rfl⟩ := equityCurve_getElem?_eq_some.mp isEquity
  obtain ⟨earlier, before, known, above⟩ := exists_peak_of_place initialEquity inside
  obtain rfl := Option.some.inj (isPeak.symm.trans known)
  have peakPositive := positive.trans_le above
  have losses := sum_take_sub_le shuffled before
  rw [← lost, Metrics.drawdownFromPeak, if_pos peakPositive, Metrics.drawdown, add_sub_add_left_eq_sub]
  calc
    _ ≤ lossesOf shuffled / (initialEquity + (shuffled.take earlier).sum) :=
      div_le_div_of_nonneg_right losses peakPositive.le
    _ ≤ lossesOf shuffled / initialEquity :=
      div_le_div_of_nonneg_left (lossesOf_nonneg shuffled) positive above

/-- A path draws down at least what is lost in the end, unless more than all is lost. -/
theorem le_maxDrawdown (positive : 0 < initialEquity) (shuffled : List ℚ) :
    max 0 (min 1 (-(shuffled.sum / initialEquity))) ≤ maxDrawdown initialEquity shuffled := by
  obtain ⟨-, bound⟩ := maxDrawdown_isGreatest initialEquity shuffled
  have of_place {place : ℕ} (inside : place ≤ shuffled.length) : ∃ peak, initialEquity ≤ peak ∧
      (peak - (initialEquity + (shuffled.take place).sum)) / peak ≤
        maxDrawdown initialEquity shuffled := by
    obtain ⟨earlier, -, known, above⟩ := exists_peak_of_place initialEquity inside
    have reached : Metrics.drawdownFromPeak (initialEquity + (shuffled.take earlier).sum)
        (initialEquity + (shuffled.take place).sum) ≤ maxDrawdown initialEquity shuffled :=
      bound (Peaks.mem_losses_from_peaks.mpr ⟨place, _, _, known,
        equityCurve_getElem?_eq_some.mpr ⟨inside, rfl⟩, rfl⟩)
    refine ⟨_, above, ?_⟩
    rwa [Metrics.drawdownFromPeak, if_pos (positive.trans_le above)] at reached
  refine max_le ?_ ?_
  · -- the first place is on its peak or below
    obtain ⟨peak, above, reached⟩ := of_place (Nat.zero_le _)
    refine le_trans ?_ reached
    rw [List.take_zero, List.sum_nil, add_zero]
    exact div_nonneg (sub_nonneg.mpr above) (positive.le.trans above)
  · obtain ⟨peak, above, reached⟩ := of_place le_rfl
    have peakPositive := positive.trans_le above
    rw [List.take_length] at reached
    refine le_trans ?_ reached
    rw [le_div_iff₀ peakPositive]
    obtain solvent | ruined := le_total 0 (initialEquity + shuffled.sum)
    · have rest : peak - (initialEquity + shuffled.sum) - -(shuffled.sum / initialEquity) * peak =
          (initialEquity + shuffled.sum) * (peak - initialEquity) / initialEquity := by
        field_simp
        ring
      have restNonneg : 0 ≤ (initialEquity + shuffled.sum) * (peak - initialEquity) /
          initialEquity :=
        div_nonneg (mul_nonneg solvent (sub_nonneg.mpr above)) positive.le
      have less : min 1 (-(shuffled.sum / initialEquity)) * peak ≤
          -(shuffled.sum / initialEquity) * peak :=
        mul_le_mul_of_nonneg_right (min_le_right _ _) peakPositive.le
      linarith
    · have less : min 1 (-(shuffled.sum / initialEquity)) * peak ≤ 1 * peak :=
        mul_le_mul_of_nonneg_right (min_le_left _ _) peakPositive.le
      linarith

/-- The order of the trades changes no sum of their losses. -/
theorem lossesOf_perm {tradeReturns : List ℚ} (same : shuffled.Perm tradeReturns) :
    lossesOf shuffled = lossesOf tradeReturns := (same.map _).sum_eq

/-- The order of the trades does not change what a path returns. -/
theorem totalReturn_perm {tradeReturns : List ℚ} (same : shuffled.Perm tradeReturns) :
    totalReturn initialEquity shuffled = tradeReturns.sum / initialEquity := by
  rw [totalReturn, same.sum_eq, add_sub_cancel_left]

end Paths

section Simulations

variable (self : MonteCarloSimulator) {permutation : ℕ → List ℚ → List ℚ} {tradeReturns : List ℚ}
  {initialEquity : ℚ}

/-- Values that are all one have it as every quantile. -/
theorem quantile_of_all {values : List ℚ} {value share : ℚ} (nonempty : values ≠ [])
    (all : ∀ other ∈ values, other = value) (start : 0 ≤ share) :
    Percentiles.quantile share values = value :=
  le_antisymm (Percentiles.quantile_le nonempty start fun other member => (all other member).le)
    (Percentiles.le_quantile nonempty start fun other member => (all other member).ge)

/-- Of values that are all one, all meet a condition or none does. -/
theorem share_of_all {values : List ℚ} {value : ℚ} (nonempty : values ≠ [])
    (all : ∀ other ∈ values, other = value) (condition : ℚ → Bool) :
    share condition values = if condition value = true then 1 else 0 := by
  have positive : (values.length : ℚ) ≠ 0 :=
    Nat.cast_ne_zero.mpr (List.length_pos_iff.mpr nonempty).ne'
  rw [share]
  split
  · next meets =>
    have every : values.countP condition = values.length :=
      List.countP_eq_length.mpr fun other member => (all other member).symm ▸ meets
    rw [every, div_self positive]
  · next fails =>
    have none : values.countP condition = 0 :=
      List.countP_eq_zero.mpr fun other member => (all other member).symm ▸ fails
    rw [none, Nat.cast_zero, zero_div]

/-- There are statistics of some paths. -/
theorem statistics_ne_nil (permutation : ℕ → List ℚ → List ℚ) (tradeReturns : List ℚ)
    (statistic : List ℚ → ℚ) : ((List.range self.iterations).map fun iteration =>
      permutation iteration tradeReturns).map statistic ≠ [] := by
  rw [← List.length_pos_iff, List.length_map, List.length_map, List.length_range]
  exact self.positive

/-- Every other path is that of the trades in reverse. -/
def reversing (iteration : ℕ) (tradeReturns : List ℚ) : List ℚ :=
  if iteration % 2 = 0 then tradeReturns else tradeReturns.reverse

theorem reversing_perm (iteration : ℕ) (tradeReturns : List ℚ) :
    (reversing iteration tradeReturns).Perm tradeReturns := by
  rw [reversing]
  split
  · exact .refl _
  · exact List.reverse_perm _

/-- The drawdowns of a simulation are in order, and each is between what the trades lose in the end,
unless that is more than all, and what the losing trades lose together. -/
theorem simulated_drawdowns_bounded
    (shuffles : ∀ iteration, (permutation iteration tradeReturns).Perm tradeReturns)
    (trades : tradeReturns ≠ []) (positive : 0 < initialEquity) :
    ∃ result, self.simulate permutation tradeReturns initialEquity = .ok result ∧
      max 0 (min 1 (-(tradeReturns.sum / initialEquity))) ≤ result.p5Drawdown ∧
      result.p5Drawdown ≤ result.medianMaxDrawdown ∧
      result.medianMaxDrawdown ≤ result.p95Drawdown ∧
      result.p95Drawdown ≤ lossesOf tradeReturns / initialEquity := by
  refine ⟨_, if_neg trades, ?_⟩
  dsimp only
  generalize simulated : ((List.range self.iterations).map fun iteration =>
    permutation iteration tradeReturns).map (maxDrawdown initialEquity) = maxDrawdowns
  have nonempty : maxDrawdowns ≠ [] := simulated ▸ self.statistics_ne_nil _ _ _
  have drawn : ∀ other ∈ maxDrawdowns, ∃ iteration,
      maxDrawdown initialEquity (permutation iteration tradeReturns) = other := by
    intro other member
    rw [← simulated] at member
    obtain ⟨path, isPath, rfl⟩ := List.mem_map.mp member
    obtain ⟨iteration, -, rfl⟩ := List.mem_map.mp isPath
    exact ⟨iteration, rfl⟩
  rw [Percentiles.median_eq_quantile nonempty]
  refine ⟨?_, ?_, ?_, ?_⟩
  · refine Percentiles.le_quantile nonempty (by norm_num) fun other member => ?_
    obtain ⟨iteration, rfl⟩ := drawn other member
    rw [← (shuffles iteration).sum_eq]
    exact le_maxDrawdown positive _
  · exact Percentiles.quantile_mono nonempty (by norm_num) (by norm_num)
  · exact Percentiles.quantile_mono nonempty (by norm_num) (by norm_num)
  · refine Percentiles.quantile_le nonempty (by norm_num) fun other member => ?_
    obtain ⟨iteration, rfl⟩ := drawn other member
    rw [← lossesOf_perm (shuffles iteration)]
    exact maxDrawdown_le positive _

/-- Three trades draw down by a hundredth at least and by two at most. -/
theorem simulated_drawdowns_of_three_trades :
    ∃ result, simulate ⟨2, by decide⟩ reversing [500, -2000, 500] 100000 = .ok result ∧
      max 0 (min 1 (-([500, -2000, 500].sum / 100000))) ≤ result.p5Drawdown ∧
      result.p5Drawdown ≤ result.medianMaxDrawdown ∧
      result.medianMaxDrawdown ≤ result.p95Drawdown ∧
      result.p95Drawdown ≤ lossesOf [500, -2000, 500] / 100000 :=
  simulated_drawdowns_bounded ⟨2, by decide⟩ (fun iteration => reversing_perm iteration _)
    (by simp) (by norm_num)

end Simulations

end MonteCarloSimulator

end IgTradingBot
