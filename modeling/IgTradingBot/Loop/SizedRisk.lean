import IgTradingBot.Loop.Cycle

/-!
# Money at risk with the placed stop

The engine sizes a signal for a stop of one and a half average true ranges. The order
that is placed carries the stop distance of the signal, which no size is computed from.
The size that is traded is the engine's, at most one lot, times the factors of learning
and news; so the budget of the sizer covers the placed stop only under a condition that
relates both stops.
-/

namespace IgTradingBot

open Sequential Sequential.Program

/-- The factor that a drawdown puts on a size: the fixed reduction from the threshold on. -/
def DrawdownMonitor.sizeFactor (monitor : DrawdownMonitor) (equity : ℚ) : ℚ :=
  let current := monitor.updateEquity equity
  if current.drawdownReductionPct ≤ current.getDrawdown equity then
    Constants.drawdownSizeReductionFactor
  else 1

namespace DrawdownMonitor

/-- Neither a drawdown nor its thresholds depend on the day. -/
theorem size_factor_reset (monitor : DrawdownMonitor) (now equity : ℚ) :
    (monitor.resetDailyIfNeeded now).sizeFactor equity = monitor.sizeFactor equity := by
  by_cases later : monitor.currentDay < utcDay now
  · by_cases higher : monitor.peakEquity < equity <;>
      simp [sizeFactor, resetDailyIfNeeded, updateEquity, getDrawdown, later, higher]
  · simp [resetDailyIfNeeded, later]

/-- The drawdown factor never turns a size negative. -/
theorem size_factor_nonneg (monitor : DrawdownMonitor) (equity : ℚ) :
    0 ≤ monitor.sizeFactor equity := by
  simp only [sizeFactor]
  split_ifs
  · norm_num [Constants.drawdownSizeReductionFactor]
  · norm_num

/-- The reductions taken over from an accepting verdict multiply to that factor. -/
theorem drawdown_reductions_prod (monitor after : DrawdownMonitor) (now equity : ℚ)
    (result : DrawdownCheckResult) (checked : monitor.checkTradeAllowed now equity = (after, result))
    (notKilled : result.decision ≠ .killSwitch) (notRejected : result.decision ≠ .reject) :
    ((RiskEngine.drawdownReductions result).map (·.factor)).prod = monitor.sizeFactor equity := by
  rw [← size_factor_reset monitor now]
  simp only [checkTradeAllowed] at checked
  split_ifs at checked with killed limited reduced
  · exact absurd (congrArg (·.2.decision) checked).symm notKilled
  · exact absurd (congrArg (·.2.decision) checked).symm notRejected
  · obtain ⟨_, rfl⟩ := Prod.mk.inj checked
    simp [RiskEngine.drawdownReductions, sizeFactor, reduced]
  · obtain ⟨_, rfl⟩ := Prod.mk.inj checked
    simp [RiskEngine.drawdownReductions, sizeFactor, reduced]

end DrawdownMonitor

namespace RiskEngine

/-- The size of an allowed signal without a volatility score: the budget over the stop of
the sizer, times the drawdown factor, rounded down to hundredths. -/
theorem validate_signal_size (now : ℚ) (signal : RiskSignal) (accountEquity : ℚ)
    (currentPositions : List RiskPosition) (engine after : RiskEngine) (result : ValidationResult)
    (calm : signal.atrZscore = 0)
    (ended : validateSignal now signal accountEquity currentPositions engine = (.ok result, after))
    (allowed : result.allowed = true) :
    result.positionSize = some (Decimals.quantizeDown 2
      (accountEquity * riskFraction signal / (signal.atr * Constants.atrMultiplierDefault) *
        engine.drawdownMonitor.sizeFactor accountEquity)) ∧
      0 < accountEquity ∧ 0 < riskFraction signal ∧ 0 < signal.atr := by
  obtain ⟨monitor, drawdown, checked, _, notKilled, notRejected, limits⟩ :=
    validate_signal_allowed now signal accountEquity currentPositions engine after result ended
      allowed
  obtain ⟨_, rfl, _⟩ := check_limits_allowed _ _ _ _ _ _ _ limits allowed
  obtain ⟨sized, _⟩ := check_risk_reward_allowed _ _ _ allowed
  have factor := DrawdownMonitor.drawdown_reductions_prod _ _ _ _ _ checked notKilled notRejected
  rw [sized] at allowed ⊢
  by_cases refused : (PositionSizer.calculateSize accountEquity (riskFraction signal) signal.atr
      Constants.atrMultiplierDefault signal.atrZscore (drawdownReductions drawdown)).rejected = true
  · simp [sizeAndStop, refused, rejected] at allowed
  · obtain ⟨size, answer, sizeEq, equityPositive, riskPositive, _, atrPositive, _⟩ :=
      PositionSizer.calculate_size_accepted accountEquity (riskFraction signal) signal.atr
        Constants.atrMultiplierDefault signal.atrZscore PositionSizer.minLotSizeDefault
        (drawdownReductions drawdown) (Bool.eq_false_iff.mpr refused)
    have unreduced : PositionSizer.appliedFactors signal.atrZscore (drawdownReductions drawdown) =
        drawdownReductions drawdown := by
      simp [PositionSizer.appliedFactors, calm, Constants.atrVolatilityZscoreThreshold]
    rw [unreduced, PositionSizer.apply_factors_eq, factor] at sizeEq
    refine ⟨?_, equityPositive, riskPositive, atrPositive⟩
    simp [sizeAndStop, answer, sizeEq]

end RiskEngine

namespace TradingLoop

/-- Fraction of the equity that the sizer may risk for a signal. -/
def tradedFraction (signal : Signal) : ℚ :=
  if signal.riskPerTrade = 0 then Constants.defaultRiskPerTradePct else signal.riskPerTrade

/-- Money that the sizer may risk for a signal. -/
def riskBudget (world : World) (signal : Signal) : ℚ :=
  world.desk.accountEquity * tradedFraction signal

/-- Lots that the sizer buys with the budget at its own stop, before rounding. -/
def affordableLots (script : RiskScript) (world : World) (signal : Signal) : ℚ :=
  riskBudget world signal / (signal.atr * script.scaling * Constants.atrMultiplierDefault) *
    world.engine.drawdownMonitor.sizeFactor world.desk.accountEquity

/-- The factor of the news layer. -/
def newsFactor (config : LoopConfig) (news : Awaited NewsAction) : ℚ :=
  match config.hasNewsSafetyLayer, news.reply with
  | true, .ok .reduceSize => 1 / 2
  | _, _ => 1

/-- Money that one lot of the sizer loses at the placed stop, after the factors of learning
and news. -/
def riskPerLot (config : LoopConfig) (script : EntryScript) (signal : Signal) : ℚ :=
  (mistakePenaltiesForSignal config script.risk signal).sizeReductionFactor *
    newsFactor config script.news * (signal.stopDistance * script.risk.scaling)

/-- Interruptions change neither the equity nor the drawdown monitor. -/
theorem interrupts_keep_sizing (meanwhile : List Interference) (world : World) :
    (final (forEach meanwhile interrupt) world).desk.accountEquity = world.desk.accountEquity ∧
      (final (forEach meanwhile interrupt) world).engine.drawdownMonitor =
        world.engine.drawdownMonitor := by
  have kept : Keeps (fun other : World => other.desk.accountEquity = world.desk.accountEquity ∧
      other.engine.drawdownMonitor = world.engine.drawdownMonitor)
      (forEach meanwhile interrupt) := by
    apply keeps_forEach
    intro interference _
    apply keeps_of_final
    intro other same
    cases interference <;> exact same
  exact kept.final ⟨rfl, rfl⟩

/-- The size that the engine approves, in the terms of the signal and of the world from which
the signal was approved. -/
theorem Approval.position_size_eq {config : LoopConfig} {script : RiskScript}
    {signal validated : Signal} {positionSize : ℚ} {world after : World}
    (approval : Approval config script signal validated positionSize world after) :
    positionSize = Decimals.quantizeDown 2 (affordableLots script world signal) ∧
      0 ≤ riskBudget world signal ∧ 0 ≤ affordableLots script world signal := by
  obtain ⟨result, verdict, allowed, sized⟩ := approval.verdict
  obtain ⟨now, positions, decided, _⟩ := validate_signal_run verdict
  obtain ⟨sameEquity, sameMonitor⟩ :=
    interrupts_keep_sizing script.scalingFactor.meanwhile world
  obtain ⟨answer, equityPositive, riskPositive, atrPositive⟩ :=
    RiskEngine.validate_signal_size now _ _ positions _ _ _ rfl decided allowed
  rw [sameEquity, sameMonitor] at answer
  rw [sameEquity] at equityPositive
  have budget : 0 ≤ riskBudget world signal := (mul_pos equityPositive riskPositive).le
  have stop : 0 < signal.atr * script.scaling * Constants.atrMultiplierDefault :=
    mul_pos atrPositive (by norm_num [Constants.atrMultiplierDefault])
  exact ⟨Option.some.inj (sized.symm.trans answer), budget,
    mul_nonneg (div_nonneg budget stop.le) (DrawdownMonitor.size_factor_nonneg _ _)⟩

/-- The size of an approved signal. -/
theorem Approval.size_eq {config : LoopConfig} {script : RiskScript} {signal validated : Signal}
    {positionSize : ℚ} {world after : World}
    (approval : Approval config script signal validated positionSize world after) :
    validated.size = some (min (Decimals.quantizeDown 2 (affordableLots script world signal)) 1 *
        (mistakePenaltiesForSignal config script signal).sizeReductionFactor) ∧
      validated.stopDistance = signal.stopDistance := by
  obtain ⟨lots, _⟩ := approval.position_size_eq
  rw [approval.validated_eq, lots]
  exact ⟨rfl, rfl⟩

/-- The news layer multiplies the size by its factor and leaves the stop as it is. -/
theorem news_factor_applied {config : LoopConfig} {news : Awaited NewsAction}
    {signal approved : Signal} {world after : World}
    (passed : applyNewsSafety config news signal world = (.ok (some approved), after)) :
    (openingOrder approved).size = (openingOrder signal).size * newsFactor config news ∧
      approved.stopDistance = signal.stopDistance := by
  obtain ⟨noLayer, rfl, _⟩ | ⟨layer, action, answered, verdict, _⟩ :=
    apply_news_safety_passes passed
  · simp [newsFactor, noLayer]
  · cases action with
    | allowNormal =>
      obtain rfl := Option.some.inj verdict
      simp [newsFactor, layer, answered]
    | requireExtraConfirmation =>
      simp only [newsCheck] at verdict
      split_ifs at verdict
      obtain rfl := Option.some.inj verdict
      simp [newsFactor, layer, answered]
    | reduceSize =>
      obtain rfl := Option.some.inj verdict
      refine ⟨?_, rfl⟩
      simp only [newsFactor, layer, answered, openingOrder, Option.getD_some]
      ring
    | blockTrade => cases verdict

/-- The order of a signal that comes to its execution. -/
theorem Entering.order_eq {config : LoopConfig} {script : EntryScript} {signal approved : Signal}
    {start world : World} (entering : Entering config script signal approved start world) :
    (openingOrder approved).size * (openingOrder approved).stopDistance * script.risk.scaling =
      min (Decimals.quantizeDown 2 (affordableLots script.risk start signal)) 1 *
        riskPerLot config script signal ∧
      0 ≤ riskBudget start signal ∧ 0 ≤ affordableLots script.risk start signal := by
  obtain ⟨validated, positionSize, middle, after, approval, passed, _⟩ := entering.through
  obtain ⟨_, budget, lots⟩ := approval.position_size_eq
  obtain ⟨sized, sameStop⟩ := approval.size_eq
  obtain ⟨scaled, newsStop⟩ := news_factor_applied passed
  have size : (openingOrder validated).size =
      min (Decimals.quantizeDown 2 (affordableLots script.risk start signal)) 1 *
        (mistakePenaltiesForSignal config script.risk signal).sizeReductionFactor := by
    simp only [openingOrder, sized, Option.getD_some]
  have stop : (openingOrder approved).stopDistance = signal.stopDistance :=
    newsStop.trans sameStop
  refine ⟨?_, budget, lots⟩
  rw [scaled, size, stop, riskPerLot]
  ring

/-- Every order that an entry submits is the order of a signal that came to its execution
from the world of the entry. -/
theorem submitted_order_entering {config : LoopConfig} {script : EntryScript} {signal : Signal}
    {world : World} {order : OpeningOrder} {active : Bool} (unrecorded : world.history = [])
    (submitted : .orderSubmitted order active ∈
      (final (enterSignal config script signal) world).history) :
    ∃ approved reached, Entering config script signal approved world reached ∧
      order = openingOrder approved := by
  let ordered : World → Prop := OrdersSatisfy fun found _ => ∃ approved reached,
    Entering config script signal approved world reached ∧ found = openingOrder approved
  have unordered := orders_satisfy_openings fun _ _ => False
  have vacuous : ∀ reached, OrdersSatisfy (fun _ _ => False) reached → ordered reached :=
    fun _ empty found active member => (empty found active member).elim
  have entered : Ensures (fun start => start = world) (enterSignal config script signal)
      (fun _ => ordered) (fun _ => ordered) := by
    apply unordered.ensures_enterSignal config script signal
    · rintro start rfl found active member
      rw [unrecorded] at member
      cases member
    · exact vacuous
    · intro approved
      apply (orders_satisfy_openings _).contracts.ensures_executeSignal config _ approved
      · exact fun reached holds => vacuous reached holds.1
      · rintro _ reached ⟨empty, start, rfl, entering⟩
        exact (vacuous reached empty).submitted _ ⟨approved, reached, entering, rfl⟩
  exact entered.final rfl order active submitted

/-- For every order that an entry submits, the money at risk at the placed stop is within
the budget of the sizer exactly when one lot is, after the factors of learning and news,
or the hundredths of a lot are that the sizer buys at its own stop. -/
theorem submitted_risk_within_budget_iff (config : LoopConfig) (script : EntryScript)
    (signal : Signal) (world : World) (order : OpeningOrder) (active : Bool)
    (unrecorded : world.history = [])
    (submitted : .orderSubmitted order active ∈
      (final (enterSignal config script signal) world).history) :
    order.size * order.stopDistance * script.risk.scaling ≤ riskBudget world signal ↔
      riskPerLot config script signal ≤ riskBudget world signal ∨
        (⌊affordableLots script.risk world signal * 10 ^ 2⌋ : ℚ) * riskPerLot config script signal ≤
          riskBudget world signal * 10 ^ 2 := by
  obtain ⟨approved, reached, entering, rfl⟩ := submitted_order_entering unrecorded submitted
  obtain ⟨spent, budget, lots⟩ := entering.order_eq
  rw [spent]
  exact Decimals.min_quantize_down_mul_le_iff 2 lots budget

/-- An entry whose order is accepted. -/
def demoEntry : EntryScript :=
  { risk := { scalingFactor := { reply := .ok 10000 } }, execution := demoAcceptance "DEAL-1" }

/-- The demo world with an equity of one hundred. -/
def smallWorld : World :=
  { demoWorld with
      engine := { drawdownMonitor := .create 100 500000 }
      desk := { demoWorld.desk with accountEquity := 100 } }

/-- The order of the demo signal with a size. -/
def demoOrder (size : ℚ) : OpeningOrder :=
  openingOrder { demoSignal "CS.D.EURUSD.CFD.IP" with size := some size }

/-- With an equity of one hundred the budget is one. The sizer buys 0.13 lots at its stop
of 7.5 points, and at the placed stop of 15 points they lose 1.95. -/
theorem wide_stop_exceeds_budget :
    .orderSubmitted (demoOrder (13 / 100)) false ∈
        (final (enterSignal demoConfig demoEntry (demoSignal "CS.D.EURUSD.CFD.IP"))
          smallWorld).history ∧
      ¬ (demoOrder (13 / 100)).size * (demoOrder (13 / 100)).stopDistance * demoEntry.risk.scaling ≤
        riskBudget smallWorld (demoSignal "CS.D.EURUSD.CFD.IP") := by
  decide +kernel

/-- With an equity of twenty thousand one lot at the placed stop is within the budget. -/
theorem one_lot_within_budget :
    (demoOrder 1).size * (demoOrder 1).stopDistance * demoEntry.risk.scaling ≤
      riskBudget demoWorld (demoSignal "CS.D.EURUSD.CFD.IP") := by
  have submitted : .orderSubmitted (demoOrder 1) false ∈
      (final (enterSignal demoConfig demoEntry (demoSignal "CS.D.EURUSD.CFD.IP"))
        demoWorld).history := by decide +kernel
  apply (submitted_risk_within_budget_iff demoConfig demoEntry _ demoWorld _ false rfl submitted).mpr
  left
  decide +kernel

end TradingLoop

end IgTradingBot
