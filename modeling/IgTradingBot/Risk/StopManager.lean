import IgTradingBot.Config.Constants
import IgTradingBot.Library.Decimals
import Mathlib.Algebra.Order.Ring.Rat

/-!
# Stop manager

Initial stops, take profits, trailing stops and the reward-to-risk check of
`src/risk/stop_manager.py`, on exact prices.
-/

namespace IgTradingBot

/-- Side of a trade in the risk components. -/
inductive TradeDirection where
  | long
  | short
  deriving DecidableEq, Repr

namespace StopManager

/-- The stop at a multiple of the average true range on the adverse side. -/
def calculateInitialStop (entryPrice : ℚ) (direction : TradeDirection) (atr : ℚ)
    (atrMultiplier : ℚ := Constants.atrMultiplierDefault) : ℚ :=
  match direction with
  | .long => entryPrice - atr * atrMultiplier
  | .short => entryPrice + atr * atrMultiplier

/-- Targets at multiples of the risk, at most five of them. -/
def calculateTakeProfits (entryPrice stopLoss : ℚ) (direction : TradeDirection)
    (ratios : List ℚ := [2, 3]) : List ℚ :=
  let riskDistance := |entryPrice - stopLoss|
  (ratios.take 5).map fun ratio =>
    match direction with
    | .long => entryPrice + riskDistance * ratio
    | .short => entryPrice - riskDistance * ratio

/-- An open position, with the stop of its opening and the stop it has now. -/
structure Position where
  entryPrice : ℚ
  direction : TradeDirection
  initialStop : ℚ
  currentStop : ℚ
  atrAtEntry : ℚ
  deriving DecidableEq, Repr

/-- The new stop that trails a price, when there is one. From a profit of one initial risk on
the stop is the entry, advanced by half an average true range for every such move of the
price beyond that profit; a stop that would not be better is not moved. -/
def updateTrailingStop (position : Position) (currentPrice atr : ℚ) : Option ℚ :=
  let entry := position.entryPrice
  let riskDistance := |entry - position.initialStop|
  if riskDistance = 0 then none
  else
    let profit :=
      match position.direction with
      | .long => currentPrice - entry
      | .short => entry - currentPrice
    if profit < riskDistance then none
    else
      let step := atr * (1 / 2)
      if step = 0 then none
      else
        let profitBeyond1r := profit - riskDistance
        let stepsBeyond := Decimals.truncate (profitBeyond1r / step)
        match position.direction with
        | .long =>
          let newStop := entry + step * stepsBeyond
          if newStop ≤ position.currentStop then none else some newStop
        | .short =>
          let newStop := entry - step * stepsBeyond
          if position.currentStop ≤ newStop then none else some newStop

/-- The stop at half an average true range from a price, unless the current one is tighter. -/
def tightenStopOnNews (position : Position) (currentPrice atr : ℚ) : ℚ :=
  let tightenedDistance := atr * (1 / 2)
  match position.direction with
  | .long =>
    let newStop := currentPrice - tightenedDistance
    if newStop < position.currentStop then position.currentStop else newStop
  | .short =>
    let newStop := currentPrice + tightenedDistance
    if position.currentStop < newStop then position.currentStop else newStop

/-- The current stop moved away from the price by a multiple of the average true range. -/
def widenStopForEvent (position : Position) (atr : ℚ) (multiplier : ℚ := 1) : ℚ :=
  let widenDistance := multiplier * atr
  match position.direction with
  | .long => position.currentStop - widenDistance
  | .short => position.currentStop + widenDistance

/-- Whether the reward is at least the required multiple of a nonzero risk. -/
def validateRiskReward (entry stop target : ℚ)
    (minRr : ℚ := Constants.minRiskRewardRatio) : Bool :=
  if |entry - stop| = 0 then false else decide (minRr ≤ |target - entry| / |entry - stop|)

/-- The initial stop lies at exactly the configured distance from the entry. -/
theorem initial_stop_distance (entryPrice atr atrMultiplier : ℚ) (direction : TradeDirection)
    (nonneg : 0 ≤ atr * atrMultiplier) :
    |entryPrice - calculateInitialStop entryPrice direction atr atrMultiplier| =
      atr * atrMultiplier := by
  cases direction with
  | long => simp [calculateInitialStop, abs_of_nonneg nonneg]
  | short => simp [calculateInitialStop, abs_of_nonneg nonneg]

/-- A valid ratio is a ratio of at least the minimum over a nonzero risk. -/
theorem validate_risk_reward_iff (entry stop target minRr : ℚ) :
    validateRiskReward entry stop target minRr = true ↔
      entry ≠ stop ∧ minRr ≤ |target - entry| / |entry - stop| := by
  by_cases same : entry = stop
  · simp [validateRiskReward, same]
  · simp [validateRiskReward, sub_eq_zero, same]

end StopManager

end IgTradingBot
