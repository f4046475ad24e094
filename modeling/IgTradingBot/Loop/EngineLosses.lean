import IgTradingBot.Loop.DailyProfit
import IgTradingBot.Risk.DailyLimits

/-!
# Losses and the risk engine

The daily loss check of the drawdown monitor reads a counter that `update_on_trade_close`
feeds, and no close of the loop calls it. The monitor of a loop that built its own engine
therefore differs from a fresh one in its peak and its day only, however much the closes of
a day have lost, and its daily loss check rejects nothing as long as the limit is positive.
-/

namespace IgTradingBot

open Sequential Sequential.Program PeriodTotals

/-- The profits that the loop books, each with the day of its booking: the reply to every
full close, and every reconciled deal. -/
def bookedLedger : List LoopEvent → List (ℤ × ℚ)
  | [] => []
  | .closeAnswered _ full _ profit today _ :: earlier =>
    if full then (today, profit) :: bookedLedger earlier else bookedLedger earlier
  | .closeReconciled _ profit _ today _ :: earlier => (today, profit) :: bookedLedger earlier
  | _ :: earlier => bookedLedger earlier

/-- The loss that the closes booked on a day come to. -/
def bookedLoss (today : ℤ) (history : List LoopEvent) : ℚ := -sumOn today (bookedLedger history)

namespace DrawdownMonitor

/-- A monitor that has counted no loss: all but its peak and its day is as it was created
from an equity. -/
def Unfed (initialEquity : ℚ) (monitor : DrawdownMonitor) : Prop :=
  monitor = { peakEquity := monitor.peakEquity, dailyStartEquity := initialEquity,
              currentDay := monitor.currentDay }

/-- Rolling over leaves the peak as it is. -/
theorem reset_daily_peak (monitor : DrawdownMonitor) (now : ℚ) :
    (monitor.resetDailyIfNeeded now).peakEquity = monitor.peakEquity := by
  by_cases later : monitor.currentDay < utcDay now <;> simp [resetDailyIfNeeded, later]

/-- The peak is raised to the higher of the two equities. -/
theorem update_equity_peak (monitor : DrawdownMonitor) (equity : ℚ) :
    (monitor.updateEquity equity).peakEquity = max monitor.peakEquity equity := by
  by_cases higher : monitor.peakEquity < equity
  · simp [updateEquity, higher, max_eq_right_of_lt higher]
  · simp [updateEquity, higher, max_eq_left (not_lt.mp higher)]

variable {initialEquity : ℚ} {monitor : DrawdownMonitor}

/-- The roll-over of the day has nothing to clear. -/
theorem Unfed.rolled (unfed : Unfed initialEquity monitor) (now : ℚ) :
    Unfed initialEquity (monitor.resetDailyIfNeeded now) := by
  rw [unfed, resetDailyIfNeeded]
  split_ifs
  · rfl
  · rfl

/-- A new high changes the peak only. -/
theorem Unfed.raised (unfed : Unfed initialEquity monitor) (equity : ℚ) :
    Unfed initialEquity (monitor.updateEquity equity) := by
  rw [unfed, updateEquity]
  split_ifs
  · rfl
  · rfl

/-- The check of a trade counts no loss. -/
theorem Unfed.checked (unfed : Unfed initialEquity monitor) (now equity : ℚ) :
    Unfed initialEquity (monitor.checkTradeAllowed now equity).1 := by
  rw [check_trade_allowed_after]
  exact (unfed.rolled now).raised equity

/-- A trade at an equity that is no lower than the peak is allowed by an unfed monitor with
a positive limit. -/
theorem Unfed.allows (unfed : Unfed initialEquity monitor) (positive : 0 < initialEquity)
    (now equity : ℚ) (atPeak : monitor.peakEquity ≤ equity) :
    (monitor.checkTradeAllowed now equity).2 = ⟨.allow, none, none, 0⟩ := by
  have rolled : ((monitor.resetDailyIfNeeded now).updateEquity equity).resetDailyIfNeeded now =
      (monitor.resetDailyIfNeeded now).updateEquity equity := by
    rw [reset_after_update, reset_daily_if_needed_idem]
  have current := (unfed.rolled now).raised equity
  have noDrawdown :
      ((monitor.resetDailyIfNeeded now).updateEquity equity).getDrawdown equity = 0 := by
    have raised : ((monitor.resetDailyIfNeeded now).updateEquity equity).peakEquity ≤ equity := by
      rw [update_equity_peak, reset_daily_peak]
      exact max_le atPeak (le_refl equity)
    simp only [getDrawdown, raised, if_true, ite_self]
  have aboveLoss : 0 < initialEquity * Constants.dailyMaxLossPct :=
    mul_pos positive (by norm_num [Constants.dailyMaxLossPct])
  have notKilled : ¬ Constants.killSwitchDrawdownPct ≤ 0 := by
    norm_num [Constants.killSwitchDrawdownPct]
  have notReduced : ¬ Constants.drawdownReductionPct ≤ 0 := by
    norm_num [Constants.drawdownReductionPct]
  simp only [checkTradeAllowed, checkDailyLossLimit, rolled, noDrawdown]
  rw [current]
  simp [dailyLimit, not_le.mpr aboveLoss, notKilled, notReduced]

end DrawdownMonitor

namespace TradingLoop

/-- The risk engine that a loop builds for itself, from its equity. -/
def buildDefaultRiskEngine (clock accountEquity : ℚ) : RiskEngine :=
  { drawdownMonitor := .create accountEquity clock }

/-- A loss of a day stops the trades of that day: once the closes booked on the day of a
clock reading have lost at least the daily limit of a start-of-day equity, the engine allows
no signal at that reading. -/
def LossStopsTrades (startEquity now : ℚ) (world : World) : Prop :=
  startEquity * Constants.dailyMaxLossPct ≤ bookedLoss (utcDay now) world.history →
    ∀ signal accountEquity currentPositions result,
      outcome (RiskEngine.validateSignal now signal accountEquity currentPositions) world.engine =
        .ok result → result.allowed = false

/-- The engine of the loop was never told of a loss, and its limits are the default ones. -/
structure EngineUnfed (initialEquity : ℚ) (world : World) : Prop where
  monitor : world.engine.drawdownMonitor.Unfed initialEquity
  exposureManager : world.engine.exposureManager = {}

section Frames

variable {initialEquity : ℚ}

/-- Whatever leaves the engine in place leaves it unfed. -/
theorem EngineUnfed.of_same {world changed : World} (unfed : EngineUnfed initialEquity world)
    (same : changed.engine = world.engine) : EngineUnfed initialEquity changed :=
  ⟨same ▸ unfed.monitor, same ▸ unfed.exposureManager⟩

theorem EngineUnfed.moved {world : World} (unfed : EngineUnfed initialEquity world)
    {engine : RiskEngine} (moves : EngineMoves world.engine engine) :
    EngineUnfed initialEquity { world with engine } := by
  refine ⟨?_, moves.exposureManager.trans unfed.exposureManager⟩
  obtain same | ⟨now, equity, checked⟩ := moves.drawdownMonitor
  · exact same ▸ unfed.monitor
  · exact checked ▸ unfed.monitor.checked now equity

theorem engine_unfed_incidental : Incidental (EngineUnfed initialEquity) where
  clock _ _ _ unfed := unfed.of_same rfl
  engine _ _ moves unfed := unfed.moved moves
  desk _ _ _ unfed := unfed.of_same rfl
  noted _ _ _ unfed := unfed.of_same rfl
  closed _ unfed := unfed.of_same rfl

theorem engine_unfed_gate : GateRules (EngineUnfed initialEquity) where
  toAmbient := engine_unfed_incidental.toAmbient
  rolled _ unfed := unfed.of_same rfl
  realizedRead _ _ unfed := unfed.of_same rfl

theorem engine_unfed_entry : EntryRules (EngineUnfed initialEquity) where
  toRolls := engine_unfed_gate.toRolls
  desk := engine_unfed_incidental.desk
  noted := engine_unfed_incidental.noted
  opened _ _ unfed := unfed.of_same rfl
  counted _ _ _ unfed := unfed.of_same rfl
  submitted _ _ unfed := unfed.of_same rfl

/-- No part of a run feeds the engine: both ways of booking a close change the books only. -/
theorem engine_unfed_rules (config : LoopConfig) :
    CycleRules config (fun _ => True) (EngineUnfed initialEquity) where
  toGateRules := engine_unfed_gate
  desk := engine_unfed_incidental.desk
  noted := engine_unfed_incidental.noted
  answered _ _ _ _ _ unfed := unfed.of_same rfl
  listed _ _ unfed := unfed.of_same rfl
  reconciled _ _ _ _ unfed := unfed.of_same rfl
  entered _ input _ _ _ :=
    (engine_unfed_entry.entryContracts.keeps_gatedEntry engine_unfed_gate config input.entry
      _).enter (fun _ holds => holds.1)

end Frames

/-- A long signal whose average true range is a fixed fraction of the equity. -/
def steadySignal (accountEquity : ℚ) : RiskSignal :=
  { RiskEngine.longSignal with atr := accountEquity / 4000 }

/-- The size of the steady signal does not depend on the equity. -/
theorem steady_signal_sized {accountEquity : ℚ} (enough : 20000 ≤ accountEquity) :
    PositionSizer.calculateSize accountEquity (RiskEngine.riskFraction (steadySignal accountEquity))
      (steadySignal accountEquity).atr Constants.atrMultiplierDefault
      (steadySignal accountEquity).atrZscore [] = ⟨some (2666 / 100), false, none, []⟩ := by
  have positive : 0 < accountEquity := lt_of_lt_of_le (by norm_num) enough
  have base : accountEquity * (1 / 100) / (accountEquity / 4000 * (3 / 2)) = 80 / 3 := by
    field_simp
    norm_num
  have risk : RiskEngine.riskFraction (steadySignal accountEquity) = 1 / 100 := by
    simp [RiskEngine.riskFraction, steadySignal, RiskEngine.longSignal]
  have range : (steadySignal accountEquity).atr = accountEquity / 4000 := rfl
  have unscored : PositionSizer.appliedFactors (steadySignal accountEquity).atrZscore [] = [] := rfl
  have rounded : Decimals.quantizeDown 2 (80 / 3) = 2666 / 100 := by decide +kernel
  have underCap : ¬ accountEquity * Constants.maxPositionSizePct < 2666 / 100 := by
    simp only [Constants.maxPositionSizePct]
    linarith
  have aboveLot : ¬ (2666 / 100 : ℚ) < PositionSizer.minLotSizeDefault := by
    norm_num [PositionSizer.minLotSizeDefault]
  have riskInRange : ¬ ((1 / 100 : ℚ) ≤ 0 ∨ Constants.maxPositionSizePct < 1 / 100) := by
    norm_num [Constants.maxPositionSizePct]
  have rangePositive : ¬ accountEquity / 4000 ≤ 0 := not_le.mpr (by positivity)
  rw [PositionSizer.calculateSize, risk, range, unscored]
  simp only [not_le.mpr positive, riskInRange, rangePositive, if_false, PositionSizer.applyFactors,
    List.foldl_nil, Constants.atrMultiplierDefault, base, rounded, underCap, aboveLot]

/-- The default limits leave room for the steady signal beside no position. -/
theorem steady_signal_exposure {accountEquity : ℚ} (enough : 20000 ≤ accountEquity) :
    (ExposureManager.checkExposure {} (RiskEngine.proposedPosition (steadySignal accountEquity)) []
      accountEquity).allowed = true := by
  have positive : 0 < accountEquity := lt_of_lt_of_le (by norm_num) enough
  have share : |(11 / 10 : ℚ)| / accountEquity ≤ Constants.maxExposurePerClassPct := by
    rw [abs_of_pos (by norm_num), div_le_iff₀ positive, Constants.maxExposurePerClassPct]
    linarith
  have total : |(11 / 10 : ℚ)| / accountEquity ≤ Constants.maxTotalExposurePct :=
    share.trans (by norm_num [Constants.maxExposurePerClassPct, Constants.maxTotalExposurePct])
  have proposed : RiskEngine.proposedPosition (steadySignal accountEquity) =
      ⟨"CS.D.EURUSD.CFD.IP", .forex, 11 / 10, none⟩ := by
    change RiskEngine.proposedPosition RiskEngine.longSignal = _
    decide +kernel
  rw [proposed]
  simp [ExposureManager.checkExposure, not_le.mpr positive, ExposureManager.getClassExposure,
    ExposureManager.getTotalExposure, ExposureManager.notionalOf,
    ExposureManager.getEffectiveClassLimit, not_lt.mpr share, not_lt.mpr total]

/-- The steady signal passes the checks of exposure, ratio and size beside no position. -/
theorem steady_signal_within {accountEquity : ℚ} (enough : 20000 ≤ accountEquity)
    (engine : RiskEngine) (limits : engine.exposureManager = {}) :
    ∃ result, RiskEngine.checkLimits (steadySignal accountEquity) accountEquity [] [] engine =
      (.ok result, engine) ∧ result.allowed = true := by
  have exposure := steady_signal_exposure enough
  have ratio : StopManager.validateRiskReward (steadySignal accountEquity).entryPrice
      (steadySignal accountEquity).stopLoss (steadySignal accountEquity).takeProfit = true := by
    change StopManager.validateRiskReward RiskEngine.longSignal.entryPrice
      RiskEngine.longSignal.stopLoss RiskEngine.longSignal.takeProfit = true
    decide +kernel
  refine ⟨RiskEngine.checkRiskReward (steadySignal accountEquity) accountEquity [], ?_, ?_⟩
  · refine (bind_ok (ofExcept_run _ _)).trans ?_
    refine (bind_ok (read_run _ _)).trans ?_
    rw [limits, exposure]
    rfl
  · rw [RiskEngine.checkRiskReward, if_pos ratio, RiskEngine.sizeAndStop]
    rw [steady_signal_sized enough]
    rfl

/-- An unfed engine whose kill switch is off allows the steady signal at an equity that is no
lower than the peak. -/
theorem EngineUnfed.allows {initialEquity : ℚ} {world : World}
    (unfed : EngineUnfed initialEquity world) (positive : 0 < initialEquity)
    (inactive : world.engine.killSwitch.isActive = false) (now : ℚ) {accountEquity : ℚ}
    (atPeak : world.engine.drawdownMonitor.peakEquity ≤ accountEquity)
    (enough : 20000 ≤ accountEquity) :
    ∃ result, outcome (RiskEngine.validateSignal now (steadySignal accountEquity) accountEquity [])
      world.engine = .ok result ∧ result.allowed = true := by
  have allowance := unfed.monitor.allows positive now accountEquity atPeak
  generalize checkedBy : world.engine.drawdownMonitor.checkTradeAllowed now accountEquity =
    checked at allowance
  obtain ⟨result, within, allowed⟩ := steady_signal_within enough
    { world.engine with drawdownMonitor := checked.1 } unfed.exposureManager
  refine ⟨result, ?_, allowed⟩
  have passes : world.engine.killSwitch.isSignalAllowed (steadySignal accountEquity).strategy =
      true := (KillSwitch.is_signal_allowed_iff _ _).mpr inactive
  have drawdown : RiskEngine.checkDrawdown now accountEquity world.engine =
      (.ok ⟨.allow, none, none, 0⟩, { world.engine with drawdownMonitor := checked.1 }) := by
    rw [RiskEngine.checkDrawdown, checkedBy, allowance]
  have validated : RiskEngine.validateSignal now (steadySignal accountEquity) accountEquity []
      world.engine = (.ok result, { world.engine with drawdownMonitor := checked.1 }) := by
    refine (bind_ok (read_run _ _)).trans ?_
    simp only [passes, if_true]
    exact (bind_ok drawdown).trans within
  rw [outcome, validated]

/-- In every run of a loop with an engine of its own, a loss of a day stops the trades of that
day only where there is nothing to stop: the closes booked on the day have lost less than the
limit, or the kill switch is active, or the loop started without a positive equity. -/
theorem loss_stops_trades_iff (config : LoopConfig) (starts : List StartInput) (clock : ℚ)
    (schedule : ℕ → ℚ) (desk : Desk) (openAtBroker : ℕ) (startEquity now : ℚ) :
    LossStopsTrades startEquity now
        (final (run config starts) (constructed clock schedule
          (buildDefaultRiskEngine clock desk.accountEquity) desk openAtBroker)) ↔
      bookedLoss (utcDay now)
          (final (run config starts) (constructed clock schedule
            (buildDefaultRiskEngine clock desk.accountEquity) desk openAtBroker)).history <
        startEquity * Constants.dailyMaxLossPct ∨
      (final (run config starts) (constructed clock schedule
          (buildDefaultRiskEngine clock desk.accountEquity) desk openAtBroker)).engine.killSwitch.isActive =
        true ∨
      desk.accountEquity ≤ 0 := by
  have initial : EngineUnfed desk.accountEquity (constructed clock schedule
      (buildDefaultRiskEngine clock desk.accountEquity) desk openAtBroker) := ⟨rfl, rfl⟩
  have unfed := ((engine_unfed_rules config).contracts.keeps_run starts
    fun _ _ _ _ _ _ => trivial).final initial
  rw [← final] at unfed
  generalize final (run config starts) (constructed clock schedule
    (buildDefaultRiskEngine clock desk.accountEquity) desk openAtBroker) = world at unfed ⊢
  constructor
  · intro stops
    by_contra running
    simp only [not_or, not_lt, Bool.not_eq_true, not_le] at running
    obtain ⟨reached, inactive, positive⟩ := running
    obtain ⟨result, answered, allowed⟩ := unfed.allows positive inactive now
      (le_max_left _ 20000) (le_max_right _ _)
    have refused := stops reached _ _ _ _ answered
    rw [allowed] at refused
    cases refused
  · rintro excused reached signal accountEquity currentPositions result answered
    by_contra notRefused
    have allowed : result.allowed = true := by simpa using notRefused
    obtain ⟨moved, inactive, _, belowLimit, _⟩ := RiskEngine.validate_signal_passes now signal
      accountEquity currentPositions world.engine _ result (Prod.ext answered rfl) allowed
    obtain below | active | worthless := excused
    · exact absurd reached (not_le.mpr below)
    · exact absurd (active.symm.trans inactive) (by decide)
    · rw [moved, (unfed.monitor.rolled now).raised accountEquity] at belowLimit
      have nonpositive : desk.accountEquity * Constants.dailyMaxLossPct ≤ 0 :=
        mul_nonpos_of_nonpos_of_nonneg worthless (by norm_num [Constants.dailyMaxLossPct])
      exact absurd belowLimit (not_lt.mpr nonpositive)

/-- The first close of a new day loses seven hundred. -/
def losingRun : List StartInput :=
  flipRun { dealStatus := some "ACCEPTED", profit := some (.number (-700)) }

/-- A later start of the loop on the same day, with a signal and no position. -/
def entryRun : List StartInput :=
  [{ cycles := [demoCycle [] [demoStep "CS.D.EURUSD.CFD.IP" (demoAcceptance "DEAL-2")]] }]

/-- The day has lost more than three percent of twenty thousand, and the engine still allows
the steady signal on that day; the loop, which is started again, has a signal validated and
submits its order. -/
theorem loss_of_day_does_not_stop_trades :
    ¬ LossStopsTrades 20000 520100 (final (run demoConfig losingRun) newDayWorld) ∧
      .orderSubmitted (openingOrder { demoSignal "CS.D.EURUSD.CFD.IP" with size := some 1 }) false ∈
        (final (run demoConfig (losingRun ++ entryRun)) newDayWorld).history := by
  constructor
  · intro stops
    have reached : 20000 * Constants.dailyMaxLossPct ≤
        bookedLoss (utcDay 520100) (final (run demoConfig losingRun) newDayWorld).history := by
      decide +kernel
    have answered : outcome (RiskEngine.validateSignal 520100 (steadySignal 20000) 20000 [])
        (final (run demoConfig losingRun) newDayWorld).engine = .ok {
          allowed := true
          positionSize := some (2666 / 100)
          stopLoss := some (-64 / 10)
          takeProfitLevels := [161 / 10, 236 / 10] } := by
      decide +kernel
    cases stops reached _ _ _ _ answered
  · decide +kernel

end TradingLoop

end IgTradingBot
