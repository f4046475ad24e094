import IgTradingBot.Risk.Approval
import IgTradingBot.Risk.TrailingStops

/-!
# Sides of an allowed signal

The reward-to-risk check compares distances, so it says nothing about the side of
the entry on which the signal's own stop and target lie. The stop and the targets
that the engine returns are computed from the average true range; they are always
on the sides that the direction asks for.
-/

namespace IgTradingBot

namespace TradeDirection

/-- A price at which a trade has lost. -/
def LosesAt : TradeDirection → ℚ → ℚ → Prop
  | .long, entry, price => price < entry
  | .short, entry, price => entry < price

/-- A price at which a trade has won. -/
def WinsAt : TradeDirection → ℚ → ℚ → Prop
  | .long, entry, price => entry < price
  | .short, entry, price => price < entry

end TradeDirection

/-- Two prices lie on the same side of an entry. -/
def SameSide (entry first second : ℚ) : Prop :=
  (first < entry ∧ second < entry) ∨ (entry < first ∧ entry < second)

/-- The stop of a signal loses and its target wins. -/
def RiskSignal.CorrectSides (signal : RiskSignal) : Prop :=
  signal.direction.LosesAt signal.entryPrice signal.stopLoss ∧
    signal.direction.WinsAt signal.entryPrice signal.takeProfit

namespace StopManager

/-- The initial stop loses, for a positive distance. -/
theorem initial_stop_loses {entryPrice atr atrMultiplier : ℚ} (direction : TradeDirection)
    (positive : 0 < atr * atrMultiplier) :
    direction.LosesAt entryPrice
      (calculateInitialStop entryPrice direction atr atrMultiplier) := by
  cases direction with
  | long => exact sub_lt_self entryPrice positive
  | short => exact lt_add_of_pos_right entryPrice positive

/-- Take profits win, for a stop away from the entry and positive ratios. -/
theorem take_profits_win {entryPrice stopLoss : ℚ} (direction : TradeDirection)
    (different : entryPrice ≠ stopLoss) {ratios : List ℚ} (positive : ∀ ratio ∈ ratios, 0 < ratio) :
    ∀ target ∈ calculateTakeProfits entryPrice stopLoss direction ratios,
      direction.WinsAt entryPrice target := by
  intro target listed
  obtain ⟨ratio, taken, rfl⟩ := List.mem_map.mp listed
  have distance : 0 < |entryPrice - stopLoss| * ratio :=
    mul_pos (abs_pos.mpr (sub_ne_zero.mpr different)) (positive ratio (List.mem_of_mem_take taken))
  cases direction with
  | long => exact lt_add_of_pos_right entryPrice distance
  | short => exact sub_lt_self entryPrice distance

end StopManager

namespace RiskEngine

open Sequential Sequential.Program

/-- A price that loses and another one lie on the same side exactly when the other one loses. -/
theorem same_side_iff {direction : TradeDirection} {entry stop other : ℚ}
    (loses : direction.LosesAt entry stop) :
    SameSide entry stop other ↔ direction.LosesAt entry other := by
  cases direction with
  | long =>
    have stopBelow : stop < entry := loses
    constructor
    · rintro (⟨_, below⟩ | ⟨above, _⟩)
      · exact below
      · exact absurd above (lt_asymm stopBelow)
    · intro below
      exact Or.inl ⟨stopBelow, below⟩
  | short =>
    have stopAbove : entry < stop := loses
    constructor
    · rintro (⟨below, _⟩ | ⟨_, above⟩)
      · exact absurd below (lt_asymm stopAbove)
      · exact above
    · intro above
      exact Or.inr ⟨stopAbove, above⟩

/-- What an allowed result returns: the initial stop at a positive distance, and the take
profits that belong to it. -/
theorem size_and_stop_prices {signal : RiskSignal} {accountEquity : ℚ}
    {reductions : List ReductionFactor}
    (allowed : (sizeAndStop signal accountEquity reductions).allowed = true) :
    0 < signal.atr ∧
      ∃ stop, stop = StopManager.calculateInitialStop signal.entryPrice signal.direction signal.atr
          Constants.atrMultiplierDefault ∧
        (sizeAndStop signal accountEquity reductions).stopLoss = some stop ∧
        (sizeAndStop signal accountEquity reductions).takeProfitLevels =
          StopManager.calculateTakeProfits signal.entryPrice stop signal.direction := by
  by_cases refused : (PositionSizer.calculateSize accountEquity (riskFraction signal) signal.atr
      Constants.atrMultiplierDefault signal.atrZscore reductions).rejected = true
  · simp [sizeAndStop, refused, rejected] at allowed
  · obtain ⟨size, result, _, _, _, _, range, _⟩ :=
      PositionSizer.calculate_size_accepted _ _ _ _ _ _ _ (Bool.eq_false_iff.mpr refused)
    refine ⟨range, _, rfl, ?_, ?_⟩
    · simp [sizeAndStop, result]
    · simp [sizeAndStop, result]

/-- Whatever the signal, the open positions and the state of the engine: an allowed signal has a
stop away from its entry and a target that is at least one and a half times as far from it. The
stop that is returned loses and the targets that are returned win. The returned stop lies on the
side of the signal's stop exactly when the signal's stop loses. -/
theorem validate_signal_sides (now : ℚ) (signal : RiskSignal) (accountEquity : ℚ)
    (currentPositions : List RiskPosition) (engine after : RiskEngine) (result : ValidationResult)
    (ended : validateSignal now signal accountEquity currentPositions engine = (.ok result, after))
    (allowed : result.allowed = true) :
    signal.entryPrice ≠ signal.stopLoss ∧
      Constants.minRiskRewardRatio * |signal.entryPrice - signal.stopLoss| ≤
        |signal.takeProfit - signal.entryPrice| ∧
      ∃ stop, result.stopLoss = some stop ∧
        signal.direction.LosesAt signal.entryPrice stop ∧
        (∀ target ∈ result.takeProfitLevels,
          signal.direction.WinsAt signal.entryPrice target) ∧
        (SameSide signal.entryPrice stop signal.stopLoss ↔
          signal.direction.LosesAt signal.entryPrice signal.stopLoss) := by
  obtain ⟨_, _, _, _, _, _, limits⟩ := validate_signal_allowed _ _ _ _ _ _ _ ended allowed
  obtain ⟨_, rfl, _⟩ := check_limits_allowed _ _ _ _ _ _ _ limits allowed
  obtain ⟨sized, different, ratio⟩ := check_risk_reward_allowed _ _ _ allowed
  rw [sized] at allowed ⊢
  obtain ⟨range, stop, placed, stopAnswer, targets⟩ := size_and_stop_prices allowed
  have distance : 0 < signal.atr * Constants.atrMultiplierDefault :=
    mul_pos range (by norm_num [Constants.atrMultiplierDefault])
  have risk : 0 < |signal.entryPrice - signal.stopLoss| :=
    abs_pos.mpr (sub_ne_zero.mpr different)
  have loses : signal.direction.LosesAt signal.entryPrice stop := by
    rw [placed]
    exact StopManager.initial_stop_loses signal.direction distance
  have away : signal.entryPrice ≠ stop := by
    rintro rfl
    cases side : signal.direction <;> simp [side, TradeDirection.LosesAt] at loses
  refine ⟨different, (le_div_iff₀ risk).mp ratio, stop, stopAnswer, loses, ?_, same_side_iff loses⟩
  rw [targets]
  refine StopManager.take_profits_win signal.direction away ?_
  intro ratio listed
  simp only [List.mem_cons, List.not_mem_nil, or_false] at listed
  rcases listed with rfl | rfl <;> norm_num

/-- The long signal is allowed, with a stop below its entry and targets above it. -/
theorem long_signal_sides :
    ∃ stop, (some stop : Option ℚ) = some (-64 / 10) ∧
      longSignal.direction.LosesAt longSignal.entryPrice stop ∧
      (SameSide longSignal.entryPrice stop longSignal.stopLoss ↔
        longSignal.direction.LosesAt longSignal.entryPrice longSignal.stopLoss) := by
  have answered : outcome (validateSignal 0 longSignal 20000 []) defaultEngine = .ok {
      allowed := true
      positionSize := some (2666 / 100)
      stopLoss := some (-64 / 10)
      takeProfitLevels := [161 / 10, 236 / 10] } := by decide +kernel
  obtain ⟨_, _, stop, stopAnswer, loses, _, sides⟩ :=
    validate_signal_sides 0 longSignal 20000 [] defaultEngine _ _ (Prod.ext answered rfl) rfl
  exact ⟨stop, stopAnswer.symm, loses, sides⟩

/-- A long signal with its stop above and its target below the entry. -/
def invertedSignal : RiskSignal :=
  { longSignal with stopLoss := 11015 / 10000, takeProfit := 1097 / 1000 }

/-- The inverted signal is allowed, and the returned stop lies below the entry. -/
theorem inverted_signal_allowed :
    ∃ result after,
      validateSignal 0 invertedSignal 20000 [] defaultEngine = (.ok result, after) ∧
        result.allowed = true ∧ result.stopLoss = some (-64 / 10) ∧
        ¬(invertedSignal.CorrectSides ∧
          ∃ stop, result.stopLoss = some stop ∧
            SameSide invertedSignal.entryPrice stop invertedSignal.stopLoss) := by
  have answered : outcome (validateSignal 0 invertedSignal 20000 []) defaultEngine = .ok {
      allowed := true
      positionSize := some (2666 / 100)
      stopLoss := some (-64 / 10)
      takeProfitLevels := [161 / 10, 236 / 10] } := by decide +kernel
  refine ⟨_, _, Prod.ext answered rfl, rfl, rfl, ?_⟩
  rintro ⟨⟨loses, _⟩, _⟩
  have below : invertedSignal.stopLoss < invertedSignal.entryPrice := loses
  norm_num [invertedSignal, longSignal] at below

end RiskEngine

end IgTradingBot
