import IgTradingBot.Risk.RiskEngine
import Mathlib.Tactic.Positivity
import Mathlib.Tactic.NormNum

/-!
# What an allowed verdict guarantees

The engine's checks run one after the other and some of them change the
engine's state, so an allowed verdict must be shown to satisfy every limit at
once, for the size and the stop that are finally returned. Each step is inverted
separately; the verdict's guarantee is assembled from the inversions.
-/

namespace IgTradingBot.RiskEngine

open Sequential Sequential.Program

/-- The limits that hold together for a signal, the positions open beside it and
a returned size and stop, in the engine's state at the answer. -/
structure WithinLimits (engine : RiskEngine) (signal : RiskSignal) (accountEquity : ℚ)
    (openPositions : List ExposurePosition) (size stop : ℚ) : Prop where
  killSwitchInactive : engine.killSwitch.isActive = false
  drawdownBelowKill :
    engine.drawdownMonitor.getDrawdown accountEquity < engine.drawdownMonitor.killSwitchPct
  dailyLossBelowLimit :
    engine.drawdownMonitor.dailyRealizedLoss < engine.drawdownMonitor.dailyLimit
  dailyLimitNotHit : engine.drawdownMonitor.dailyLossLimitHit = false
  classExposureEffective :
    ExposureManager.getClassExposure (assetClassOf signal.assetClass)
        (proposedPosition signal :: openPositions) accountEquity ≤
      engine.exposureManager.getEffectiveClassLimit signal.region
        engine.exposureManager.geoRiskScores
  classExposure :
    ExposureManager.getClassExposure (assetClassOf signal.assetClass)
        (proposedPosition signal :: openPositions) accountEquity ≤
      engine.exposureManager.maxPerClass
  totalExposure :
    ExposureManager.getTotalExposure (proposedPosition signal :: openPositions) accountEquity ≤
      engine.exposureManager.maxTotal
  nonzeroRisk : signal.entryPrice ≠ signal.stopLoss
  riskReward : Constants.minRiskRewardRatio ≤
    |signal.takeProfit - signal.entryPrice| / |signal.entryPrice - signal.stopLoss|
  sizeAtLeastLot : PositionSizer.minLotSizeDefault ≤ size
  sizeAtMostCap : size ≤ accountEquity * Constants.maxPositionSizePct
  moneyAtRisk : size * |signal.entryPrice - stop| ≤ accountEquity * riskFraction signal

/-- Reductions that only shrink a size: their product lies between zero and one. -/
def Shrinking (reductions : List ReductionFactor) : Prop :=
  ∀ reduction ∈ reductions, 0 ≤ reduction.factor ∧ reduction.factor ≤ 1

/-- The volatility factor shrinks, so prepending it keeps a list shrinking. -/
theorem applied_factors_shrinking (zscore : ℚ) (reductions : List ReductionFactor)
    (shrinking : Shrinking reductions) :
    Shrinking (PositionSizer.appliedFactors zscore reductions) := by
  intro reduction member
  rcases List.mem_append.mp member with volatile | given
  · split_ifs at volatile
    · obtain rfl := List.mem_singleton.mp volatile
      norm_num [PositionSizer.volatilityReduction, Constants.volatilitySizeReductionFactor]
    · cases volatile
  · exact shrinking reduction given

/-- An accepted size times the sizer's own stop distance stays within the risk
amount: reductions and the rounding only shrink the base size, which spends the
risk amount exactly. -/
theorem sized_risk_le (accountEquity riskPct atr atrMultiplier zscore size : ℚ)
    (reductions : List ReductionFactor) (shrinking : Shrinking reductions)
    (equityPositive : 0 < accountEquity) (riskPositive : 0 < riskPct)
    (distancePositive : 0 < atr * atrMultiplier)
    (sized : size = Decimals.quantizeDown 2
      (PositionSizer.applyFactors (accountEquity * riskPct / (atr * atrMultiplier))
        (PositionSizer.appliedFactors zscore reductions))) :
    size * (atr * atrMultiplier) ≤ accountEquity * riskPct := by
  have factors := PositionSizer.factors_product_bounds
    (PositionSizer.appliedFactors zscore reductions)
    (applied_factors_shrinking zscore reductions shrinking)
  rw [PositionSizer.apply_factors_eq] at sized
  have baseNonneg : 0 ≤ accountEquity * riskPct / (atr * atrMultiplier) := by positivity
  have shrunkNonneg := mul_nonneg baseNonneg factors.1
  have sizeBound : size ≤ accountEquity * riskPct / (atr * atrMultiplier) := calc
    size ≤ accountEquity * riskPct / (atr * atrMultiplier) *
        ((PositionSizer.appliedFactors zscore reductions).map (·.factor)).prod := by
      rw [sized]
      exact Decimals.quantize_down_le 2 shrunkNonneg
    _ ≤ accountEquity * riskPct / (atr * atrMultiplier) :=
      mul_le_of_le_one_right baseNonneg factors.2
  exact (le_div_iff₀ distancePositive).mp sizeBound

/-- An allowed result of the last two steps carries the accepted size and the
initial stop, and they satisfy the bounds on size and on money at risk. -/
theorem size_and_stop_allowed (signal : RiskSignal) (accountEquity : ℚ)
    (reductions : List ReductionFactor) (shrinking : Shrinking reductions)
    (allowed : (sizeAndStop signal accountEquity reductions).allowed = true) :
    ∃ size stop,
      (sizeAndStop signal accountEquity reductions).positionSize = some size ∧
      (sizeAndStop signal accountEquity reductions).stopLoss = some stop ∧
      PositionSizer.minLotSizeDefault ≤ size ∧
      size ≤ accountEquity * Constants.maxPositionSizePct ∧
      size * |signal.entryPrice - stop| ≤ accountEquity * riskFraction signal := by
  by_cases refused : (PositionSizer.calculateSize accountEquity (riskFraction signal) signal.atr
      Constants.atrMultiplierDefault signal.atrZscore reductions).rejected = true
  · simp [sizeAndStop, refused, rejected] at allowed
  · obtain ⟨size, result, sized, equityPositive, riskPositive, _, atrPositive, atLeastLot, atMostCap⟩ :=
      PositionSizer.calculate_size_accepted accountEquity (riskFraction signal) signal.atr
        Constants.atrMultiplierDefault signal.atrZscore PositionSizer.minLotSizeDefault reductions
        (Bool.eq_false_iff.mpr refused)
    have distancePositive : 0 < signal.atr * Constants.atrMultiplierDefault :=
      mul_pos atrPositive (by norm_num [Constants.atrMultiplierDefault])
    refine ⟨size, StopManager.calculateInitialStop signal.entryPrice signal.direction signal.atr
      Constants.atrMultiplierDefault, ?_, ?_, atLeastLot, atMostCap, ?_⟩
    · simp [sizeAndStop, result]
    · simp [sizeAndStop, result]
    · rw [StopManager.initial_stop_distance _ _ _ _ (le_of_lt distancePositive)]
      exact sized_risk_le accountEquity (riskFraction signal) signal.atr
        Constants.atrMultiplierDefault signal.atrZscore size reductions shrinking equityPositive
        riskPositive distancePositive sized

/-- An allowed result of the ratio check had a valid ratio and is the result of
the last two steps. -/
theorem check_risk_reward_allowed (signal : RiskSignal) (accountEquity : ℚ)
    (reductions : List ReductionFactor)
    (allowed : (checkRiskReward signal accountEquity reductions).allowed = true) :
    checkRiskReward signal accountEquity reductions = sizeAndStop signal accountEquity reductions ∧
      signal.entryPrice ≠ signal.stopLoss ∧ Constants.minRiskRewardRatio ≤
        |signal.takeProfit - signal.entryPrice| / |signal.entryPrice - signal.stopLoss| := by
  by_cases valid : StopManager.validateRiskReward signal.entryPrice signal.stopLoss
      signal.takeProfit = true
  · exact ⟨by simp [checkRiskReward, valid],
      (StopManager.validate_risk_reward_iff _ _ _ _).mp valid⟩
  · simp [checkRiskReward, valid, rejected] at allowed

/-- An allowed result of the exposure step leaves the engine as it is, converted
every open position, and accepted the proposed one beside them. -/
theorem check_limits_allowed (signal : RiskSignal) (accountEquity : ℚ)
    (currentPositions : List RiskPosition) (reductions : List ReductionFactor)
    (engine after : RiskEngine) (result : ValidationResult)
    (ended : checkLimits signal accountEquity currentPositions reductions engine =
      (.ok result, after))
    (allowed : result.allowed = true) :
    after = engine ∧ result = checkRiskReward signal accountEquity reductions ∧
      ∃ openPositions, convertToExposurePositions currentPositions = .ok openPositions ∧
        (engine.exposureManager.checkExposure (proposedPosition signal) openPositions
          accountEquity).allowed = true := by
  obtain ⟨openPositions, middle, converted, rest⟩ := bind_eq_ok.mp ended
  obtain ⟨conversion, rfl⟩ := Prod.mk.inj converted
  obtain ⟨exposure, state, looked, decided⟩ := bind_eq_ok.mp rest
  obtain ⟨answer, rfl⟩ := Prod.mk.inj looked
  obtain rfl := Except.ok.inj answer
  by_cases accepted : (engine.exposureManager.checkExposure (proposedPosition signal) openPositions
      accountEquity).allowed = true
  · simp only [accepted, if_true, pure_run, Prod.mk.injEq, Except.ok.injEq] at decided
    exact ⟨decided.2.symm, decided.1.symm, openPositions, conversion, accepted⟩
  · simp only [accepted, Bool.false_eq_true, if_false, pure_run, Prod.mk.injEq,
      Except.ok.injEq] at decided
    rw [← decided.1] at allowed
    simp [rejected] at allowed

/-- The reductions taken over from an accepting drawdown verdict only shrink. -/
theorem drawdown_reductions_shrinking (drawdown : DrawdownCheckResult)
    (verdict : (drawdown.decision = .allow ∧ drawdown.reductionFactor = none) ∨
      (drawdown.decision = .reduceSize ∧ ∃ reason, drawdown.reductionFactor =
        some ⟨Constants.drawdownSizeReductionFactor, reason⟩)) :
    Shrinking (drawdownReductions drawdown) := by
  rcases verdict with ⟨allow, _⟩ | ⟨reduce, reason, factor⟩
  · simp [drawdownReductions, allow, Shrinking]
  · intro reduction member
    simp only [drawdownReductions, reduce, factor, if_true, List.mem_singleton] at member
    subst member
    norm_num [Constants.drawdownSizeReductionFactor]

/-- An allowed verdict passed the kill switch and the drawdown check, which moved
the monitor only, and was then decided by the remaining steps. -/
theorem validate_signal_allowed (now : ℚ) (signal : RiskSignal) (accountEquity : ℚ)
    (currentPositions : List RiskPosition) (engine after : RiskEngine) (result : ValidationResult)
    (ended : validateSignal now signal accountEquity currentPositions engine = (.ok result, after))
    (allowed : result.allowed = true) :
    ∃ monitor drawdown,
      engine.drawdownMonitor.checkTradeAllowed now accountEquity = (monitor, drawdown) ∧
      engine.killSwitch.isActive = false ∧
      drawdown.decision ≠ .killSwitch ∧ drawdown.decision ≠ .reject ∧
      checkLimits signal accountEquity currentPositions (drawdownReductions drawdown)
        { engine with drawdownMonitor := monitor } = (.ok result, after) := by
  obtain ⟨passed, state, looked, decided⟩ := bind_eq_ok.mp ended
  obtain ⟨answer, rfl⟩ := Prod.mk.inj looked
  obtain rfl := Except.ok.inj answer
  by_cases inactive : engine.killSwitch.isActive = false
  · have passes : engine.killSwitch.isSignalAllowed signal.strategy = true :=
      (KillSwitch.is_signal_allowed_iff _ _).mpr inactive
    simp only [passes, if_true] at decided
    obtain ⟨drawdown, moved, checked, verdict⟩ := bind_eq_ok.mp decided
    obtain ⟨answer, rfl⟩ := Prod.mk.inj checked
    obtain rfl := Except.ok.inj answer
    refine ⟨_, _, rfl, inactive, ?_⟩
    split_ifs at verdict with killed limited
    · obtain ⟨_, _, _, finished⟩ := bind_eq_ok.mp verdict
      rw [← Except.ok.inj (Prod.mk.inj finished).1] at allowed
      simp [rejected] at allowed
    · rw [← Except.ok.inj (Prod.mk.inj verdict).1] at allowed
      simp [rejected] at allowed
    · exact ⟨killed, limited, verdict⟩
  · have blocked : engine.killSwitch.isSignalAllowed signal.strategy = false := by
      simpa [KillSwitch.isSignalAllowed] using inactive
    simp only [blocked, Bool.false_eq_true, if_false] at decided
    rw [← Except.ok.inj (Prod.mk.inj decided).1] at allowed
    simp [rejected] at allowed

/-- A signal that passes the kill switch and the drawdown check comes to the limits. -/
theorem validate_signal_passed {risk : RiskEngine} {now equity : ℚ} {signal : RiskSignal}
    {positions : List RiskPosition} (inactive : risk.killSwitch.isActive = false)
    (notKilled : (risk.drawdownMonitor.checkTradeAllowed now equity).2.decision ≠ .killSwitch)
    (notStopped : (risk.drawdownMonitor.checkTradeAllowed now equity).2.decision ≠ .reject) :
    validateSignal now signal equity positions risk =
      checkLimits signal equity positions
        (drawdownReductions (risk.drawdownMonitor.checkTradeAllowed now equity).2)
        { risk with drawdownMonitor := (risk.drawdownMonitor.checkTradeAllowed now equity).1 } := by
  have passes : risk.killSwitch.isSignalAllowed signal.strategy = true :=
    (KillSwitch.is_signal_allowed_iff _ _).mpr inactive
  rw [validateSignal, bind_ok (read_run _ _), if_pos passes]
  refine (bind_ok (show checkDrawdown now equity risk = (.ok _, _) from rfl)).trans ?_
  rw [if_neg notKilled, if_neg notStopped]

/-- A signal within the limits, beside no open position, is decided by its own ratio. -/
theorem check_limits_passed {risk : RiskEngine} {equity : ℚ} {signal : RiskSignal}
    {reductions : List ReductionFactor}
    (exposure : (risk.exposureManager.checkExposure (proposedPosition signal) [] equity).allowed =
      true) :
    checkLimits signal equity [] reductions risk =
      (.ok (checkRiskReward signal equity reductions), risk) := by
  rw [checkLimits, bind_ok (show (ofExcept (convertToExposurePositions [])) risk = (.ok [], risk)
    from rfl), bind_ok (read_run _ _), if_pos exposure, pure_run]

/-- Before it looks at the limits, an allowed verdict has found the kill switch off and the
monitor below both of its thresholds; the limits are checked in the state of the answer, with
reductions that only shrink. -/
theorem validate_signal_passes (now : ℚ) (signal : RiskSignal) (accountEquity : ℚ)
    (currentPositions : List RiskPosition) (engine after : RiskEngine) (result : ValidationResult)
    (ended : validateSignal now signal accountEquity currentPositions engine = (.ok result, after))
    (allowed : result.allowed = true) :
    after = { engine with drawdownMonitor :=
      (engine.drawdownMonitor.resetDailyIfNeeded now).updateEquity accountEquity } ∧
    engine.killSwitch.isActive = false ∧
    after.drawdownMonitor.getDrawdown accountEquity < after.drawdownMonitor.killSwitchPct ∧
    after.drawdownMonitor.dailyRealizedLoss < after.drawdownMonitor.dailyLimit ∧
    after.drawdownMonitor.dailyLossLimitHit = false ∧
    ∃ reductions, Shrinking reductions ∧
      checkLimits signal accountEquity currentPositions reductions after = (.ok result, after) := by
  obtain ⟨monitor, drawdown, checked, inactive, notKilled, notRejected, limits⟩ :=
    validate_signal_allowed now signal accountEquity currentPositions engine after result ended
      allowed
  obtain ⟨rolled, belowKill, belowLimit, notHit, verdict⟩ :=
    DrawdownMonitor.check_trade_allowed_cases _ _ _ _ _ checked notKilled notRejected
  obtain ⟨rfl, _, _⟩ := check_limits_allowed _ _ _ _ _ _ _ limits allowed
  exact ⟨by rw [rolled], inactive, belowKill, belowLimit, notHit, _,
    drawdown_reductions_shrinking drawdown verdict, limits⟩

/-- An allowed result of the limits carries a size and a stop within the bounds on size and on
money at risk. -/
theorem check_limits_sized (signal : RiskSignal) (accountEquity : ℚ)
    (currentPositions : List RiskPosition) (reductions : List ReductionFactor)
    (shrinking : Shrinking reductions) (engine after : RiskEngine) (result : ValidationResult)
    (ended : checkLimits signal accountEquity currentPositions reductions engine =
      (.ok result, after))
    (allowed : result.allowed = true) :
    ∃ size stop,
      result.positionSize = some size ∧ result.stopLoss = some stop ∧
      PositionSizer.minLotSizeDefault ≤ size ∧
      size ≤ accountEquity * Constants.maxPositionSizePct ∧
      size * |signal.entryPrice - stop| ≤ accountEquity * riskFraction signal := by
  obtain ⟨_, rfl, _⟩ := check_limits_allowed _ _ _ _ _ _ _ ended allowed
  obtain ⟨sized, _⟩ := check_risk_reward_allowed _ _ _ allowed
  rw [sized] at allowed ⊢
  exact size_and_stop_allowed _ _ _ shrinking allowed

/-- The verdict of the engine is sound: whatever the signal, the engine's state
and the open positions, an allowed result satisfies every limit at once, for the
size and the stop that it returns, in the state of the engine at the answer.
That state differs from the initial one in the monitor's day and peak only.

Proof: the inversions of the steps give the limits one after the other. The
class limit in force may be halved, but exposures are nonnegative, so an
accepted exposure also lies below the configured limit. -/
theorem validate_signal_sound (now : ℚ) (signal : RiskSignal) (accountEquity : ℚ)
    (currentPositions : List RiskPosition) (engine after : RiskEngine) (result : ValidationResult)
    (ended : validateSignal now signal accountEquity currentPositions engine = (.ok result, after))
    (allowed : result.allowed = true) :
    after = { engine with drawdownMonitor :=
      (engine.drawdownMonitor.resetDailyIfNeeded now).updateEquity accountEquity } ∧
    ∃ openPositions size stop,
      convertToExposurePositions currentPositions = .ok openPositions ∧
      result.positionSize = some size ∧ result.stopLoss = some stop ∧
      WithinLimits after signal accountEquity openPositions size stop := by
  obtain ⟨rolled, inactive, belowKill, belowLimit, notHit, reductions, shrinking, limits⟩ :=
    validate_signal_passes now signal accountEquity currentPositions engine after result ended
      allowed
  obtain ⟨size, stop, sizeAnswer, stopAnswer, atLeastLot, atMostCap, atRisk⟩ :=
    check_limits_sized signal accountEquity currentPositions reductions shrinking after after result
      limits allowed
  obtain ⟨_, rfl, openPositions, converted, accepted⟩ :=
    check_limits_allowed _ _ _ _ _ _ _ limits allowed
  obtain ⟨_, nonzeroRisk, ratio⟩ := check_risk_reward_allowed _ _ _ allowed
  obtain ⟨_, classBound, totalBound⟩ := ExposureManager.check_exposure_allowed _ _ _ _ _ accepted
  have exposureNonneg : 0 ≤ ExposureManager.getClassExposure (assetClassOf signal.assetClass)
      (proposedPosition signal :: openPositions) accountEquity :=
    ExposureManager.class_exposure_nonneg _ _ _
  have configured : after.exposureManager.getEffectiveClassLimit signal.region
      after.exposureManager.geoRiskScores ≤ after.exposureManager.maxPerClass :=
    ExposureManager.effective_limit_le_of_nonneg _ _ _ (exposureNonneg.trans classBound)
  have stillInactive : after.killSwitch.isActive = false := by
    rw [rolled]
    exact inactive
  exact ⟨rolled, openPositions, size, stop, converted, sizeAnswer, stopAnswer, stillInactive,
    belowKill, belowLimit, notHit, classBound, classBound.trans configured, totalBound, nonzeroRisk,
    ratio, atLeastLot, atMostCap, atRisk⟩

/-- An engine with the default limits, on the first day of its clock. -/
def defaultEngine : RiskEngine := { drawdownMonitor := DrawdownMonitor.create 20000 0 }

/-- A long signal with a stop of three and a target of six average true ranges. -/
def longSignal : RiskSignal :=
  { instrument := "CS.D.EURUSD.CFD.IP"
    direction := .long
    entryPrice := 11 / 10
    stopLoss := 10985 / 10000
    takeProfit := 1103 / 1000
    confidence := 70
    strategy := "legacy_sma_atr"
    assetClass := "forex"
    notionalValue := 11 / 10
    atr := 5
    riskPct := some (1 / 100) }

/-- The default engine allows the long signal beside one open position, and every
limit holds for the size 26.66 and the stop it returns. -/
theorem long_signal_within_limits :
    ∃ openPositions size stop,
      convertToExposurePositions [{ notionalValue := some (.number 100) }] = .ok openPositions ∧
      size = 2666 / 100 ∧
      WithinLimits
        (final (validateSignal 0 longSignal 20000 [{ notionalValue := some (.number 100) }])
          defaultEngine) longSignal 20000 openPositions size stop := by
  have answered : outcome (validateSignal 0 longSignal 20000
      [{ notionalValue := some (.number 100) }]) defaultEngine = .ok {
        allowed := true
        positionSize := some (2666 / 100)
        stopLoss := some (-64 / 10)
        takeProfitLevels := [161 / 10, 236 / 10] } := by decide +kernel
  obtain ⟨_, openPositions, size, stop, converted, sizeAnswer, _, within⟩ :=
    validate_signal_sound 0 longSignal 20000 _ defaultEngine _ _ (Prod.ext answered rfl) rfl
  exact ⟨openPositions, size, stop, converted, (Option.some.inj sizeAnswer).symm, within⟩

end IgTradingBot.RiskEngine
