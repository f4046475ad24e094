import IgTradingBot.Research.TradeAccounts
import IgTradingBot.Strategy.EntryConditions

/-!
# Professional strategy

The decision of the professional strategy on what the market shows at a time. One gate after the other
has to be passed; the first that is not ends the decision with its reason, and what was found up to
there stays in it.

What trades has passed all gates, also in a backtest of the strategy. The strategy treats buyers and
sellers alike: on mirrored bars it takes the mirrored decision.
-/

namespace IgTradingBot

/-- The settings of the strategy, also those that the precheck of a backtest does not read. -/
structure ProfessionalICTConfig extends ProfessionalStrategyConfig where
  riskPerTrade : ℚ := 2 / 1000
  minimumBars5m : ℤ := 80
  confidence : ℤ := 75
  requireMlConfirmation : Bool := false
  executionMode : String := "DEMO"
  newsFilterMode : String := "FAIL_CLOSED"
  deriving DecidableEq, Repr

/-- Kind of the zone that a trade is entered from. -/
inductive ZoneType where
  | none
  | fvg
  | orderBlock
  deriving DecidableEq, Repr

/-- What is noted beside a decision. -/
structure DecisionDiagnostics where
  atr : Option ℚ := none
  atrPct : Option ℚ := none
  sweepReason : Option String := none
  structureReason : Option String := none
  mlReason : Option String := none
  deriving DecidableEq

/-- A decision with all that was found. -/
structure ProfessionalDecision extends StrategyDecision where
  pair : String
  direction : Option MarketBias := none
  spreadAtrRatio : Option (WithTop ℚ) := none
  newsStatus : String := ""
  trendBias : Option MarketBias := none
  trendTimeframe : String := ""
  liquiditySweep : Bool := false
  structureEvent : StructureEvent := .none
  zoneType : ZoneType := .none
  zoneLower : Option ℚ := none
  zoneUpper : Option ℚ := none
  mlProbability : Option ℚ := none
  trailingEnabled : Bool := false
  diagnostics : DecisionDiagnostics := {}
  deriving DecidableEq

/-- A model that accepts a setup or not, with the probability of rising prices and a reason. -/
abbrev ConfirmationModel : Type := List FiveMinuteBar → MarketBias → Bool × ℚ × String

/-- Require trend, sweep, structure, zone pullback, and execution filters. -/
structure ProfessionalICTStrategy where
  config : ProfessionalICTConfig
  trend : HigherTimeframeTrend
  sweeps : LiquiditySweepDetector
  marketStructure : MarketStructureDetector
  fvgs : FairValueGapDetector
  orderBlocks : OrderBlockDetector
  news : NewsFilter
  tradeManager : TradeManager
  confirmationModel : Option ConfirmationModel

/-- What the market shows at a time. -/
structure MarketView where
  pair : String
  oneMinute : List FiveMinuteBar
  fiveMinute : List FiveMinuteBar
  oneHour : List FiveMinuteBar
  fourHour : List FiveMinuteBar
  spread : ℚ
  timestamp : ℚ
  newsEvents : Option (List NewsEvent)

/-- What ends a decision early. -/
inductive Halt where
  | skipped (decision : ProfessionalDecision) (reason : String)
  | raised (failure : ResearchFailure)

namespace ProfessionalICTStrategy

/-- A strategy with the parts that stand for those that are not given. -/
def create (upper : String → String) (config : ProfessionalICTConfig)
    (confirmationModel : Option ConfirmationModel) : Except String ProfessionalICTStrategy := do
  let news ← NewsFilter.create upper 30 (.inr config.newsFilterMode) config.executionMode none
  pure {
    config
    trend := {}
    sweeps := {}
    marketStructure := {}
    fvgs := {}
    orderBlocks := {}
    news
    tradeManager := {}
    confirmationModel }

/-- The decision not to trade. -/
def skip (decision : ProfessionalDecision) (reason : String) : ProfessionalDecision :=
  { decision with action := "SKIP", reason }

/-- A gate that is passed under a condition. -/
def require (condition : Prop) [Decidable condition] (decision : ProfessionalDecision)
    (reason : String) : Except Halt Unit :=
  if condition then .ok () else .error (.skipped decision reason)

/-- The last item of a series, which is expected to have one. -/
def lastOf {α : Type} (item : Option α) : Except Halt α :=
  match item with
  | some item => .ok item
  | none => .error (.raised .indexError)

variable (self : ProfessionalICTStrategy) (view : MarketView)

/-- Enough history, a liquid session and no news. -/
def passFilters : Except Halt ProfessionalDecision := do
  let decision : ProfessionalDecision :=
    { pair := view.pair, riskPerTrade := self.config.riskPerTrade }
  require (self.config.minimumBars5m ≤ view.fiveMinute.length) decision "insufficient_5m_history"
  let session := SessionFilter.evaluate view.timestamp
  let decision := { decision with session := session.session }
  require (session.allowed = true) decision session.reason
  let news := self.news.evaluate view.pair view.timestamp view.newsEvents
  let decision := { decision with newsStatus := news.reason }
  require (news.allowed = true) decision news.reason
  pure decision

/-- A bias of the higher timeframes. -/
def passTrend (decision : ProfessionalDecision) :
    Except Halt (ProfessionalDecision × MarketBias) := do
  let bias := self.trend.detect view.fourHour view.oneHour
  let decision :=
    { decision with trendBias := some bias.direction, trendTimeframe := bias.timeframe }
  require (bias.direction ≠ .neutral) decision bias.reason
  pure ({ decision with direction := some bias.direction }, bias.direction)

/-- The average range relative to a price. -/
def atrPctOf (atr current : ℚ) : ℚ := if current = 0 then 0 else atr / current

/-- The spread in average ranges. -/
def spreadInRanges (spread atr : ℚ) : WithTop ℚ :=
  if atr = 0 then ⊤ else ((spread / atr : ℚ) : WithTop ℚ)

/-- A usual range, for which the spread is not too large. -/
def passRegime (decision : ProfessionalDecision) : Except Halt (ProfessionalDecision × ℚ) := do
  let atr ← lastOf (atrOf view.fiveMinute)
  let current ← lastOf view.fiveMinute.getLast?
  let atrPct := atrPctOf atr current.close
  let spreadAtr := spreadInRanges view.spread atr
  let decision := { decision with
    spreadAtrRatio := some spreadAtr
    diagnostics := { decision.diagnostics with atr := some atr, atrPct := some atrPct } }
  require (self.config.minAtrPct ≤ atrPct ∧ atrPct ≤ self.config.maxAtrPct) decision
    "abnormal_atr_regime"
  require (¬(self.config.maxSpreadAtrRatio : WithTop ℚ) < spreadAtr) decision
    "spread_too_large_relative_to_atr"
  require (normalVolatility view.fiveMinute atr = true) decision "abnormal_volatility_regime"
  pure (decision, atr)

/-- A sweep, and a break of the structure after it. -/
def passSetup (direction : MarketBias) (decision : ProfessionalDecision) :
    Except Halt (ProfessionalDecision × ℚ) := do
  let sweep := self.sweeps.detect view.fiveMinute direction
  let decision := { decision with
    liquiditySweep := sweep.detected
    diagnostics := { decision.diagnostics with sweepReason := some sweep.reason } }
  require (sweep.detected = true) decision sweep.reason
  match sweep.extreme with
  | none => .error (.skipped decision sweep.reason)
  | some extreme =>
    let signal := self.marketStructure.detect view.fiveMinute direction sweep.barIndex
    let decision := { decision with
      structureEvent := signal.event
      diagnostics := { decision.diagnostics with structureReason := some signal.reason } }
    require (signal.confirmed = true) decision signal.reason
    pure (decision, extreme)

/-- The zone that the market came back to: the gap, and else the order block. -/
def chooseZone (fvg : FairValueGap) (orderBlock : OrderBlock) :
    Option (ZoneType × Option ℚ × Option ℚ) :=
  if fvg.detected && fvg.retraced then some (.fvg, fvg.lower, fvg.upper)
  else if orderBlock.detected && orderBlock.retraced then
    some (.orderBlock, orderBlock.lower, orderBlock.upper)
  else none

/-- A gap or an order block that the market came back to. -/
def passZone (direction : MarketBias) (atr : ℚ) (decision : ProfessionalDecision) :
    Except Halt (ProfessionalDecision × ℚ × ℚ) :=
  let fvg := self.fvgs.detect view.fiveMinute direction
  let orderBlock := self.orderBlocks.detect view.fiveMinute direction atr
  match chooseZone fvg orderBlock with
  | none => .error (.skipped decision "no_retraced_fvg_or_order_block")
  | some (zoneType, zoneLower, zoneUpper) =>
    let decision := { decision with zoneType, zoneLower, zoneUpper }
    match zoneLower, zoneUpper with
    | some zoneLower, some zoneUpper => .ok (decision, zoneLower, zoneUpper)
    | _, _ => .error (.skipped decision "invalid_entry_zone")

/-- The frame whose last candle confirms a trade. -/
def confirmationFrame : List FiveMinuteBar :=
  if 2 ≤ view.oneMinute.length then view.oneMinute else view.fiveMinute

/-- A candle out of the zone, and a model that accepts the setup where one is required. The close of
the candle is the entry. -/
def passConfirmation (direction : MarketBias) (zoneLower zoneUpper : ℚ)
    (decision : ProfessionalDecision) : Except Halt (ProfessionalDecision × ℚ) := do
  let current ← lastOf (confirmationFrame view).getLast?
  require (confirmationCandle current direction zoneLower zoneUpper = true) decision
    "missing_confirmation_candle_from_zone"
  if self.config.requireMlConfirmation then
    match self.confirmationModel with
    | none => .error (.skipped decision "approved_ml_confirmation_unavailable")
    | some confirm =>
      let (accepted, probability, reason) := confirm view.fiveMinute direction
      let decision := { decision with
        mlProbability := some probability
        diagnostics := { decision.diagnostics with mlReason := some reason } }
      require (accepted = true) decision reason
      pure (decision, current.close)
  else pure (decision, current.close)

/-- The trade that is decided on when all gates are passed. -/
def enter (setup : EntrySetup) (decision : ProfessionalDecision) :
    Except Halt ProfessionalDecision := do
  let plan := plan self.tradeManager view.fiveMinute setup
  require (0 < plan.riskDistance) decision "invalid_stop_distance"
  pure { decision with
    action := if setup.direction = .bullish then "BUY" else "SELL"
    reason := "all_professional_strategy_gates_passed"
    entryPrice := some setup.entry
    stopPrice := some plan.stopPrice
    tp1Price := some plan.tp1Price
    targetPrice := some plan.finalTarget
    riskDistance := some plan.riskDistance
    partialCloseFraction := plan.partialCloseFraction
    trailingEnabled := plan.trailingEnabled }

/-- All gates, one after the other. -/
def passGates : Except Halt ProfessionalDecision := do
  let decision ← self.passFilters view
  let (decision, direction) ← self.passTrend view decision
  let (decision, atr) ← self.passRegime view decision
  let (decision, sweepExtreme) ← self.passSetup view direction decision
  let (decision, zoneLower, zoneUpper) ← self.passZone view direction atr decision
  let (decision, entry) ← self.passConfirmation view direction zoneLower zoneUpper decision
  self.enter view { direction, entry, atr, sweepExtreme, zoneLower, zoneUpper } decision

/-- The decision on a view. A gate that is not passed ends it with the reason; it fails where there are
no bars and none are asked for. -/
def evaluate : Except ResearchFailure ProfessionalDecision :=
  match self.passGates view with
  | .ok decision => .ok decision
  | .error (.skipped decision reason) => .ok (skip decision reason)
  | .error (.raised failure) => .error failure

end ProfessionalICTStrategy

/-! ## Finds of the detectors -/

/-- What a detector of sweeps says: a sweep with its level, its extreme and its bar, or a reason why
there is none. -/
theorem LiquiditySweepDetector.detect_cases (self : LiquiditySweepDetector)
    (frame : List FiveMinuteBar) (direction : MarketBias) :
    (∃ index level extreme, self.detect frame direction =
        ⟨true, direction, some level, some extreme, some index, sweepReason direction⟩ ∧
      index < frame.length ∧ self.sweepAt frame direction index = some (level, extreme)) ∨
    ∃ reason, (reason = "insufficient_data" ∨ reason = "no_recent_liquidity_sweep") ∧
      self.detect frame direction = ⟨false, direction, none, none, none, reason⟩ := by
  simp only [LiquiditySweepDetector.detect]
  split_ifs with short
  · exact .inr ⟨_, .inl rfl, rfl⟩
  · split
    · next index level extreme found =>
      obtain ⟨place, member, swept⟩ := List.exists_of_findSome?_eq_some found
      obtain ⟨sweep, swept, same⟩ := Option.map_eq_some_iff.mp swept
      cases same
      have inside := (List.mem_range'_1.mp member).2
      exact .inl ⟨_, _, _, rfl, by omega, swept⟩
    · exact .inr ⟨_, .inr rfl, rfl⟩

/-- What a detector of structure says after a sweep: a break of a later bar, or a reason why there is
none. -/
theorem MarketStructureDetector.detect_cases (self : MarketStructureDetector)
    (frame : List FiveMinuteBar) (direction : MarketBias) (afterIndex : ℕ) :
    (∃ index level event, self.detect frame direction (some afterIndex) =
        ⟨true, direction, event, some level, breakReason direction⟩ ∧ afterIndex < index ∧
      self.lookback ≤ index ∧ index < frame.length ∧
      self.breakAt frame direction index = some (level, event)) ∨
    ∃ reason,
      (reason = "missing_sweep_context" ∨ reason = "no_structure_break_after_sweep") ∧
        self.detect frame direction (some afterIndex) =
          ⟨false, direction, .none, none, reason⟩ := by
  simp only [MarketStructureDetector.detect]
  split_ifs with short
  · exact .inr ⟨_, .inl rfl, rfl⟩
  · split
    · next level event found =>
      obtain ⟨index, member, broken⟩ := List.exists_of_findSome?_eq_some found
      obtain ⟨started, inside⟩ := List.mem_range'_1.mp member
      exact .inl ⟨index, _, _, rfl, by omega, by omega, by omega, broken⟩
    · exact .inr ⟨_, .inr rfl, rfl⟩

/-! ## Trades -/

/-- What holds of a view and of the setup that a strategy enters there. -/
structure Admits (strategy : ProfessionalICTStrategy) (view : MarketView) (setup : EntrySetup) :
    Prop where
  session : (SessionFilter.evaluate view.timestamp).allowed = true
  news : (strategy.news.evaluate view.pair view.timestamp view.newsEvents).allowed = true
  trend : setup.direction = (strategy.trend.detect view.fourHour view.oneHour).direction
  decided : setup.direction ≠ .neutral
  usual : ∃ current ∈ view.fiveMinute.getLast?,
    strategy.config.minAtrPct ≤ ProfessionalICTStrategy.atrPctOf setup.atr current.close
  spread : ProfessionalICTStrategy.spreadInRanges view.spread setup.atr ≤
    (strategy.config.maxSpreadAtrRatio : WithTop ℚ)
  swept : ∃ sweptAt level brokenAt broken event, sweptAt < brokenAt ∧
    brokenAt < view.fiveMinute.length ∧
    strategy.sweeps.sweepAt view.fiveMinute setup.direction sweptAt =
      some (level, setup.sweepExtreme) ∧
    strategy.marketStructure.breakAt view.fiveMinute setup.direction brokenAt =
      some (broken, event)
  zone : ∃ recent, DetectedZone view.fiveMinute ⟨setup.zoneLower, setup.zoneUpper, recent, true⟩
  candle : ∃ current ∈ (ProfessionalICTStrategy.confirmationFrame view).getLast?,
    setup.entry = current.close ∧ ProfessionalICTStrategy.confirmationCandle current setup.direction
      setup.zoneLower setup.zoneUpper = true
  risky : 0 < (ProfessionalICTStrategy.plan strategy.tradeManager view.fiveMinute setup).riskDistance

/-- A decision is the trade of a setup. -/
structure Enters (strategy : ProfessionalICTStrategy) (view : MarketView) (setup : EntrySetup)
    (decision : ProfessionalDecision) : Prop where
  action : decision.action = if setup.direction = .bullish then "BUY" else "SELL"
  entry : decision.entryPrice = some setup.entry
  stop : decision.stopPrice =
    some (ProfessionalICTStrategy.plan strategy.tradeManager view.fiveMinute setup).stopPrice
  first : decision.tp1Price =
    some (ProfessionalICTStrategy.plan strategy.tradeManager view.fiveMinute setup).tp1Price
  final : decision.targetPrice =
    some (ProfessionalICTStrategy.plan strategy.tradeManager view.fiveMinute setup).finalTarget
  risk : decision.riskDistance =
    some (ProfessionalICTStrategy.plan strategy.tradeManager view.fiveMinute setup).riskDistance
  zone : decision.zoneLower = some setup.zoneLower ∧ decision.zoneUpper = some setup.zoneUpper

namespace ProfessionalICTStrategy

variable {self : ProfessionalICTStrategy} {view : MarketView} {decision after : ProfessionalDecision}

/-- A gate is passed exactly under its condition. -/
theorem require_eq_ok {condition : Prop} [Decidable condition] {reason : String} {passed : Unit} :
    require condition decision reason = .ok passed ↔ condition := by
  by_cases holds : condition <;> simp [require, holds]

/-- A last item is there where it is found. -/
theorem last_eq_ok {α : Type} {item : Option α} {value : α} :
    lastOf item = .ok value ↔ item = some value := by
  cases item <;> simp [lastOf]

/-- The filters let a liquid session without news pass. -/
theorem pass_filters_eq_ok (passed : self.passFilters view = .ok after) :
    (SessionFilter.evaluate view.timestamp).allowed = true ∧
      (self.news.evaluate view.pair view.timestamp view.newsEvents).allowed = true := by
  simp only [passFilters, Loops.bind_eq_ok, require_eq_ok] at passed
  obtain ⟨-, -, -, session, -, news, -⟩ := passed
  exact ⟨session, news⟩

/-- The gate of the trend lets a bias pass. -/
theorem pass_trend_eq_ok {direction : MarketBias}
    (passed : self.passTrend view decision = .ok (after, direction)) :
    direction = (self.trend.detect view.fourHour view.oneHour).direction ∧
      direction ≠ .neutral := by
  simp only [passTrend, Loops.bind_eq_ok, require_eq_ok] at passed
  obtain ⟨-, decided, found⟩ := passed
  cases found
  exact ⟨rfl, decided⟩

/-- The gate of the regime lets a usual range pass that the spread is small for. -/
theorem pass_regime_eq_ok {atr : ℚ} (passed : self.passRegime view decision = .ok (after, atr)) :
    (∃ current ∈ view.fiveMinute.getLast?,
        self.config.minAtrPct ≤ atrPctOf atr current.close) ∧
      spreadInRanges view.spread atr ≤ (self.config.maxSpreadAtrRatio : WithTop ℚ) := by
  simp only [passRegime, Loops.bind_eq_ok, require_eq_ok, last_eq_ok] at passed
  obtain ⟨atr, -, current, last, -, usual, -, spread, -, -, found⟩ := passed
  cases found
  exact ⟨⟨current, last, usual.1⟩, not_lt.mp spread⟩

/-- The gate of the setup lets a sweep pass that a break comes after. -/
theorem pass_setup_eq_ok {direction : MarketBias} {extreme : ℚ}
    (passed : self.passSetup view direction decision = .ok (after, extreme)) :
    ∃ sweptAt level brokenAt broken event, sweptAt < brokenAt ∧ brokenAt < view.fiveMinute.length ∧
      self.sweeps.sweepAt view.fiveMinute direction sweptAt = some (level, extreme) ∧
      self.marketStructure.breakAt view.fiveMinute direction brokenAt = some (broken, event) := by
  simp only [passSetup, Loops.bind_eq_ok, require_eq_ok] at passed
  obtain ⟨-, detected, passed⟩ := passed
  obtain ⟨sweptAt, level, found, sweep, -, swept⟩ | ⟨reason, -, sweep⟩ :=
    self.sweeps.detect_cases view.fiveMinute direction
  · simp only [sweep, Loops.bind_eq_ok, require_eq_ok] at passed
    obtain ⟨-, confirmed, same⟩ := passed
    cases same
    obtain ⟨brokenAt, broken, event, -, later, -, inside, isBreak⟩ | ⟨reason, -, signal⟩ :=
      self.marketStructure.detect_cases view.fiveMinute direction sweptAt
    · exact ⟨sweptAt, level, brokenAt, broken, event, later, inside, swept, isBreak⟩
    · rw [signal] at confirmed
      cases confirmed
  · rw [sweep] at detected
    cases detected

/-- A gap or an order block that is chosen is a zone of the frame that is marked as retraced. -/
theorem choose_zone_detected {frame : List FiveMinuteBar} {direction : MarketBias} {atr : ℚ}
    {zoneType : ZoneType} {lower upper : ℚ}
    (chosen : chooseZone (self.fvgs.detect frame direction)
      (self.orderBlocks.detect frame direction atr) = some (zoneType, some lower, some upper)) :
    ∃ recent, DetectedZone frame ⟨lower, upper, recent, true⟩ := by
  rw [chooseZone] at chosen
  split_ifs at chosen with gap block
  · obtain ⟨_, _, index, _, found⟩ | none := self.fvgs.detect_cases frame direction
    · simp only [found, Bool.true_and] at gap chosen
      cases chosen
      cases gap
      exact ⟨_, .gap found⟩
    · simp [none] at gap
  · obtain ⟨_, _, index, _, found⟩ | none := self.orderBlocks.detect_cases frame direction atr
    · simp only [found, Bool.true_and] at block chosen
      cases chosen
      cases block
      exact ⟨_, .block found⟩
    · simp [none] at block

/-- The gate of the zone lets a zone pass that the market came back to. -/
theorem pass_zone_eq_ok {direction : MarketBias} {atr lower upper : ℚ}
    (passed : self.passZone view direction atr decision = .ok (after, lower, upper)) :
    (∃ recent, DetectedZone view.fiveMinute ⟨lower, upper, recent, true⟩) ∧
      after.zoneLower = some lower ∧ after.zoneUpper = some upper := by
  simp only [passZone] at passed
  split at passed
  · cases passed
  · next zoneType chosenLower chosenUpper chosen =>
    split at passed
    · cases passed
      exact ⟨choose_zone_detected chosen, rfl, rfl⟩
    · cases passed

/-- The gate of the confirmation lets a candle pass that confirms the trade. The zone stays noted. -/
theorem pass_confirmation_eq_ok {direction : MarketBias} {lower upper entry : ℚ}
    (passed : self.passConfirmation view direction lower upper decision = .ok (after, entry)) :
    (∃ current ∈ (confirmationFrame view).getLast?,
        entry = current.close ∧ confirmationCandle current direction lower upper = true) ∧
      after.zoneLower = decision.zoneLower ∧ after.zoneUpper = decision.zoneUpper := by
  simp only [passConfirmation, Loops.bind_eq_ok, require_eq_ok, last_eq_ok] at passed
  obtain ⟨current, last, -, confirms, passed⟩ := passed
  split_ifs at passed with required
  · cases given : self.confirmationModel with
    | none => simp [given] at passed
    | some confirm =>
      simp only [given, Loops.bind_eq_ok, require_eq_ok] at passed
      obtain ⟨-, -, same⟩ := passed
      cases same
      exact ⟨⟨current, last, rfl, confirms⟩, rfl, rfl⟩
  · cases passed
    exact ⟨⟨current, last, rfl, confirms⟩, rfl, rfl⟩

/-- A decision that trades enters a setup that is admitted. -/
theorem evaluate_trades (evaluated : self.evaluate view = .ok decision)
    (trades : decision.shouldTrade = true) :
    ∃ setup, Admits self view setup ∧ Enters self view setup decision := by
  rw [evaluate] at evaluated
  split at evaluated
  case h_3 => cases evaluated
  case h_2 halted reason skipped =>
    cases evaluated
    cases trades
  case h_1 entered passed =>
    cases evaluated
    simp only [passGates, Loops.bind_eq_ok, Prod.exists] at passed
    obtain ⟨filtered, filters, biased, direction, trend, ranged, atr, regime, swept, extreme, setup,
      zoned, lower, upper, zone, confirmed, entry, confirmation, enters⟩ := passed
    obtain ⟨session, news⟩ := pass_filters_eq_ok filters
    obtain ⟨isTrend, decided⟩ := pass_trend_eq_ok trend
    obtain ⟨usual, spread⟩ := pass_regime_eq_ok regime
    obtain ⟨isZone, notedLower, notedUpper⟩ := pass_zone_eq_ok zone
    obtain ⟨candle, keptLower, keptUpper⟩ := pass_confirmation_eq_ok confirmation
    simp only [enter, Loops.bind_eq_ok, require_eq_ok] at enters
    obtain ⟨-, risky, same⟩ := enters
    cases same
    exact ⟨⟨direction, entry, atr, extreme, lower, upper⟩,
      ⟨session, news, isTrend, decided, usual, spread, pass_setup_eq_ok setup, isZone, candle, risky⟩,
      ⟨rfl, rfl, rfl, rfl, rfl, rfl, keptLower.trans notedLower, keptUpper.trans notedUpper⟩⟩

end ProfessionalICTStrategy

/-- Settings with positive ranges, stops and targets. -/
structure ProfessionalICTStrategy.Sensible (strategy : ProfessionalICTStrategy) : Prop where
  range : 0 < strategy.config.minAtrPct
  spread : 0 ≤ strategy.config.maxSpreadAtrRatio
  stop : 0 < strategy.tradeManager.minimumAtrStop
  target : 0 < strategy.tradeManager.finalTargetR

/-- The levels of a trade. The stop is as far behind the entry as the first target is ahead, and
behind the extreme of the sweep; the final target is ahead, at most at its multiple of the risk. In
units of the spread the risk is at least what the least stop and the largest spread make of it. -/
structure LevelsInOrder (strategy : ProfessionalICTStrategy) (spread : ℚ) (direction : MarketBias)
    (entry stop first final risk extreme : ℚ) : Prop where
  stop_behind : direction.ahead entry stop = -risk
  first_ahead : direction.ahead entry first = risk
  final_ahead : 0 < direction.ahead entry final
  final_within : direction.ahead entry final ≤ risk * strategy.tradeManager.finalTargetR
  beyond_sweep : direction.ahead entry stop < direction.ahead entry extreme
  risky : 0 < risk
  spread_small : strategy.tradeManager.minimumAtrStop * spread ≤
    strategy.config.maxSpreadAtrRatio * risk

/-- A sweep at a bar and a break at another, in terms of the bars before them. -/
structure SweptThenBroken (strategy : ProfessionalICTStrategy) (frame : List FiveMinuteBar)
    (direction : MarketBias) (sweptAt brokenAt : ℕ) (sweptBar brokenBar : FiveMinuteBar) :
    Prop where
  later : sweptAt < brokenAt
  isSwept : frame[sweptAt]? = some sweptBar
  isBroken : frame[brokenAt]? = some brokenBar
  taken : ∀ earlier ∈ barsBefore strategy.sweeps.liquidityLookback sweptAt frame,
    direction.ahead (direction.stopSide earlier) (direction.stopSide sweptBar) < 0
  back : ∃ earlier ∈ barsBefore strategy.sweeps.liquidityLookback sweptAt frame,
    0 < direction.ahead (direction.stopSide earlier) sweptBar.close
  broken : ∀ earlier ∈ barsBefore strategy.marketStructure.lookback brokenAt frame,
    0 < direction.ahead (direction.targetSide earlier) brokenBar.close

/-- A trade leaves a zone that is marked as retraced: the last candle touches it and closes at the
entry in the direction of the trade, and the stop is behind the edge. -/
structure LeavesZone (view : MarketView) (direction : MarketBias) (entry stop lower upper : ℚ) :
    Prop where
  zone : ∃ recent, DetectedZone view.fiveMinute ⟨lower, upper, recent, true⟩
  candle : ∃ current ∈ (ProfessionalICTStrategy.confirmationFrame view).getLast?,
    entry = current.close ∧ current.low ≤ upper ∧ lower ≤ current.high ∧
      0 < direction.ahead current.openPrice current.close
  beyond_zone : direction.ahead entry stop <
    direction.ahead entry (if direction = .bullish then lower else upper)

/-- What all gates together say of a decision that trades. -/
structure GatesPassed (strategy : ProfessionalICTStrategy) (view : MarketView)
    (decision : ProfessionalDecision) : Prop where
  session : ProfessionalBacktester.weekday view.timestamp < 5 ∧
    7 ≤ ProfessionalBacktester.hour view.timestamp ∧
    ProfessionalBacktester.hour view.timestamp < 20
  calendar : strategy.news.executionMode = "LIVE" → view.newsEvents ≠ none
  quiet : ∀ calendar ∈ view.newsEvents, ∀ event ∈ calendar,
    ¬strategy.news.Blocks view.pair view.timestamp event
  trade : ∃ direction entry stop first final risk lower upper sweptAt brokenAt sweptBar brokenBar,
    direction = (strategy.trend.detect view.fourHour view.oneHour).direction ∧
    direction ≠ .neutral ∧
    decision.action = (if direction = .bullish then "BUY" else "SELL") ∧
    decision.entryPrice = some entry ∧ decision.stopPrice = some stop ∧
    decision.tp1Price = some first ∧ decision.targetPrice = some final ∧
    decision.riskDistance = some risk ∧
    decision.zoneLower = some lower ∧ decision.zoneUpper = some upper ∧
    LeavesZone view direction entry stop lower upper ∧
    SweptThenBroken strategy view.fiveMinute direction sweptAt brokenAt sweptBar brokenBar ∧
    LevelsInOrder strategy view.spread direction entry stop first final risk
      (direction.stopSide sweptBar)

namespace ProfessionalICTStrategy

variable {self : ProfessionalICTStrategy} {view : MarketView} {setup : EntrySetup}
  {decision : ProfessionalDecision}

/-- Where prices are positive, the range of a setup that is admitted is. -/
theorem admitted_range_pos (sensible : self.Sensible) (admits : Admits self view setup)
    (prices : ∀ bar ∈ view.fiveMinute, 0 < bar.close) : 0 < setup.atr := by
  obtain ⟨current, last, usual⟩ := admits.usual
  have price : 0 < current.close := prices current (List.mem_of_getLast? last)
  rw [atrPctOf, if_neg price.ne'] at usual
  exact (div_pos_iff_of_pos_right price).mp (sensible.range.trans_le usual)

/-- In a setup that is admitted the spread is small in units of the risk. -/
theorem admitted_spread_small (sensible : self.Sensible) (admits : Admits self view setup)
    (range : 0 < setup.atr) :
    self.tradeManager.minimumAtrStop * view.spread ≤ self.config.maxSpreadAtrRatio *
      (plan self.tradeManager view.fiveMinute setup).riskDistance := by
  have ratio := admits.spread
  rw [spreadInRanges, if_neg range.ne', WithTop.coe_le_coe, div_le_iff₀ range] at ratio
  have wide := (plan_planned self.tradeManager view.fiveMinute setup).risk_wide
  calc self.tradeManager.minimumAtrStop * view.spread
      ≤ self.tradeManager.minimumAtrStop * (self.config.maxSpreadAtrRatio * setup.atr) :=
        mul_le_mul_of_nonneg_left ratio sensible.stop.le
    _ = self.config.maxSpreadAtrRatio * (setup.atr * self.tradeManager.minimumAtrStop) := by ring
    _ ≤ _ := mul_le_mul_of_nonneg_left wide sensible.spread

/-- The levels of a setup that is admitted are in order. -/
theorem admitted_levels (sensible : self.Sensible) (admits : Admits self view setup)
    (prices : ∀ bar ∈ view.fiveMinute, 0 < bar.close) :
    let plan := plan self.tradeManager view.fiveMinute setup
    LevelsInOrder self view.spread setup.direction setup.entry plan.stopPrice plan.tp1Price
      plan.finalTarget plan.riskDistance setup.sweepExtreme := by
  have range := admitted_range_pos sensible admits prices
  have planned := plan_planned self.tradeManager view.fiveMinute setup
  have buffered : 0 < setup.atr * (1 / 10) := by positivity
  have sweepSide := min_le_left (setup.direction.ahead setup.entry setup.sweepExtreme)
    (setup.direction.ahead setup.entry (zoneEdge setup))
  exact {
    stop_behind := planned.stop
    first_ahead := planned.first
    final_ahead := planned.final_ahead (mul_pos admits.risky sensible.target)
    final_within := planned.final_within
    beyond_sweep := by linarith [planned.stop_beyond]
    risky := admits.risky
    spread_small := admitted_spread_small sensible admits range }

/-- In a setup that is admitted a sweep is followed by a break. -/
theorem admitted_sweep (admits : Admits self view setup) :
    ∃ sweptAt brokenAt sweptBar brokenBar,
      SweptThenBroken self view.fiveMinute setup.direction sweptAt brokenAt sweptBar brokenBar ∧
        setup.sweepExtreme = setup.direction.stopSide sweptBar := by
  obtain ⟨sweptAt, level, brokenAt, _, event, later, -, swept, isBreak⟩ := admits.swept
  obtain ⟨sweptBar, isSwept, extreme, taken, back⟩ :=
    LiquiditySweepDetector.sweep_at_eq_some swept
  obtain ⟨brokenBar, isBroken, broken⟩ := MarketStructureDetector.break_at_eq_some isBreak
  rw [extreme] at taken
  exact ⟨sweptAt, brokenAt, sweptBar, brokenBar,
    ⟨later, isSwept, isBroken, taken, back, broken⟩, extreme⟩

/-- A setup that is admitted leaves its zone. -/
theorem admitted_zone (sensible : self.Sensible) (admits : Admits self view setup)
    (prices : ∀ bar ∈ view.fiveMinute, 0 < bar.close) :
    LeavesZone view setup.direction setup.entry
      (plan self.tradeManager view.fiveMinute setup).stopPrice setup.zoneLower setup.zoneUpper := by
  have range := admitted_range_pos sensible admits prices
  have buffered : 0 < setup.atr * (1 / 10) := by positivity
  have behind := (plan_planned self.tradeManager view.fiveMinute setup).stop_beyond
  have zoneSide := min_le_right (setup.direction.ahead setup.entry setup.sweepExtreme)
    (setup.direction.ahead setup.entry (zoneEdge setup))
  have edge : zoneEdge setup =
      if setup.direction = .bullish then setup.zoneLower else setup.zoneUpper := by
    rw [zoneEdge]
    cases setup.direction <;> rfl
  obtain ⟨current, last, entry, confirms⟩ := admits.candle
  refine ⟨admits.zone, ⟨current, last, entry, confirmation_candle_facts confirms⟩, ?_⟩
  rw [← edge]
  linarith

end ProfessionalICTStrategy

section Samples

/-- The strategy by default, in live trading. -/
def liveStrategy : ProfessionalICTStrategy where
  config := { executionMode := "LIVE" }
  trend := {}
  sweeps := {}
  marketStructure := {}
  fvgs := {}
  orderBlocks := {}
  news :=
    { window := 1800
      mode := .failClosed
      executionMode := "LIVE"
      upper := id
      live := fun _ => rfl
      research := nofun
      demo := nofun }
  tradeManager := {}
  confirmationModel := none

/-- The bars of a Monday whose ranges are all one: a quiet market, a sweep below it, a break above it,
the way back into the last bar against the break, and two bars more. -/
def sweptBars : List FiveMinuteBar :=
  (List.range 78).map (fun place =>
    ⟨962400 + 300 * place, 10005 / 10, 1001, 1000, 10005 / 10⟩) ++
  [⟨985800, 20009 / 20, 10005 / 10, 9995 / 10, 10004 / 10⟩,
    ⟨986100, 10004 / 10, 10014 / 10, 10004 / 10, 10014 / 10⟩,
    ⟨986400, 10005 / 10, 10014 / 10, 10004 / 10, 10006 / 10⟩,
    ⟨986700, 10006 / 10, 10014 / 10, 10004 / 10, 10006 / 10⟩,
    ⟨987000, 10006 / 10, 10014 / 10, 10004 / 10, 10006 / 10⟩]

/-- The four-hour bars of a market that rises. -/
def risingBars : List FiveMinuteBar :=
  (List.range 53).map fun place =>
    ⟨14400 * place, 1000 + place, 1001 + place, 1000 + place, 1000 + place⟩

/-- The view of the bar that confirms the trade. -/
def sweptView : MarketView where
  pair := "EURUSD"
  oneMinute := []
  fiveMinute := sweptBars.take 81
  oneHour := []
  fourHour := risingBars
  spread := 1 / 10
  timestamp := 986400
  newsEvents := some []

/-- The default settings are sensible. -/
theorem live_strategy_sensible : liveStrategy.Sensible := by
  constructor <;> decide +kernel

end Samples

namespace ProfessionalICTStrategy

variable {self : ProfessionalICTStrategy} {view : MarketView} {setup : EntrySetup}
  {decision : ProfessionalDecision}

/-- The decision on a setup that is admitted passed all gates. -/
theorem admitted_passes_gates (sensible : self.Sensible) (admits : Admits self view setup)
    (enters : Enters self view setup decision) (prices : ∀ bar ∈ view.fiveMinute, 0 < bar.close) :
    GatesPassed self view decision := by
  obtain ⟨calendar, quiet⟩ := (self.news.allowed_iff _ _ _).mp admits.news
  obtain ⟨sweptAt, brokenAt, sweptBar, brokenBar, swept, extreme⟩ := admitted_sweep admits
  have levels := admitted_levels sensible admits prices
  rw [extreme] at levels
  exact {
    session := (session_allowed_iff _).mp admits.session
    calendar := fun live missing => calendar missing (self.news.live live)
    quiet
    trade := ⟨setup.direction, setup.entry, _, _, _, _, _, _, sweptAt, brokenAt, sweptBar, brokenBar,
      admits.trend, admits.decided, enters.action, enters.entry, enters.stop, enters.first,
      enters.final, enters.risk, enters.zone.1, enters.zone.2,
      admitted_zone sensible admits prices, swept, levels⟩ }

/-- A decision that trades passed all gates: it is taken in a liquid session and away from the news, in
live trading with a calendar at hand. It follows the bias of the higher timeframes, a sweep and a break
after it, and leaves a zone that the market came back to. Its levels are in order: the stop is behind
the extreme of the sweep and the edge of the zone. -/
theorem trades_pass_all_gates (self : ProfessionalICTStrategy) (sensible : self.Sensible)
    (view : MarketView) (prices : ∀ bar ∈ view.fiveMinute, 0 < bar.close)
    (decision : ProfessionalDecision) (evaluated : self.evaluate view = .ok decision)
    (trades : decision.shouldTrade = true) : GatesPassed self view decision := by
  obtain ⟨setup, admits, enters⟩ := evaluate_trades evaluated trades
  exact admitted_passes_gates sensible admits enters prices

/-- The default strategy buys in the view of the sample, and passed all gates. -/
theorem live_trade_passes_all_gates : ∃ decision, liveStrategy.evaluate sweptView = .ok decision ∧
    decision.action = "BUY" ∧ GatesPassed liveStrategy sweptView decision := by
  have computed : (liveStrategy.evaluate sweptView).toOption.any
      (fun decision => decision.action = "BUY") = true := by decide +kernel
  cases evaluated : liveStrategy.evaluate sweptView with
  | error failure =>
    rw [evaluated] at computed
    cases computed
  | ok decision =>
    rw [evaluated] at computed
    have buys : decision.action = "BUY" := of_decide_eq_true computed
    refine ⟨decision, rfl, buys, ?_⟩
    apply trades_pass_all_gates liveStrategy live_strategy_sensible sweptView (by decide +kernel)
      decision evaluated
    rw [StrategyDecision.shouldTrade, buys]
    rfl

end ProfessionalICTStrategy

/-! ## Backtests -/

/-- The bars of a backtest, with the events of its calendar. -/
structure BacktestFeed where
  pair : String
  oneMinute : List FiveMinuteBar
  five : List FiveMinuteBar
  oneHour : List FiveMinuteBar
  fourHour : List FiveMinuteBar
  newsEvents : Option (List NewsEvent)

/-- The last rows of a frame. -/
def tailRows (rows : ℕ) (frame : List FiveMinuteBar) : List FiveMinuteBar :=
  frame.drop (frame.length - rows)

/-- The rows of a frame up to a time. -/
def rowsUntil (timestamp : ℚ) (frame : List FiveMinuteBar) : List FiveMinuteBar :=
  frame.filter fun bar => decide (bar.timestamp ≤ timestamp)

/-- The last rows of a frame are rows of it. -/
theorem mem_of_tail_rows {rows : ℕ} {frame : List FiveMinuteBar} {bar : FiveMinuteBar}
    (member : bar ∈ tailRows rows frame) : bar ∈ frame :=
  List.mem_of_mem_drop member

namespace BacktestFeed

variable (feed : BacktestFeed)

/-- What the strategy is shown at the bar of an index: the last rows that are known then. -/
def viewAt (spread : ℚ) (index : ℕ) : MarketView :=
  let timestamp := (feed.five[index]?.map FiveMinuteBar.timestamp).getD 0
  { pair := feed.pair
    oneMinute := tailRows 5000 (rowsUntil timestamp feed.oneMinute)
    fiveMinute := tailRows 500 (feed.five.take (index + 1))
    oneHour := tailRows 250 (rowsUntil timestamp feed.oneHour)
    fourHour := tailRows 250 (rowsUntil timestamp feed.fourHour)
    spread
    timestamp
    newsEvents := feed.newsEvents }

/-- What the strategy decides at the bar of an index. It does not fail at the bars of the feed. -/
def decideAt (strategy : ProfessionalICTStrategy) (spread : ℚ) (index : ℕ) : StrategyDecision :=
  match strategy.evaluate (feed.viewAt spread index) with
  | .ok decision => decision.toStrategyDecision
  | .error _ => {}

/-- The five-minute bars that are shown are bars of the feed. -/
theorem shown_of_feed {feed : BacktestFeed} {spread : ℚ} {index : ℕ} {bar : FiveMinuteBar}
    (member : bar ∈ (feed.viewAt spread index).fiveMinute) : bar ∈ feed.five := by
  simp only [viewAt] at member
  exact List.mem_of_mem_take (mem_of_tail_rows member)

end BacktestFeed

namespace ProfessionalICTStrategy

variable {self : ProfessionalICTStrategy} {view : MarketView} {decision : ProfessionalDecision}

/-- A computation does not fail. It may end early all the same. -/
def NeverRaises {α : Type} (computation : Except Halt α) : Prop :=
  ∀ failure, computation ≠ .error (.raised failure)

/-- A gate does not fail. -/
theorem require_never_raises {condition : Prop} [Decidable condition] {reason : String} :
    NeverRaises (require condition decision reason) := by
  intro failure
  by_cases holds : condition <;> simp [require, holds]

/-- What ends early with a reason or returns does not fail. -/
theorem pure_never_raises {α : Type} {value : α} : NeverRaises (pure value) := nofun

/-- A first part that does not fail does not, with what follows it and does not fail either. -/
theorem NeverRaises.bind {α β : Type} {first : Except Halt α} {next : α → Except Halt β}
    (never : NeverRaises first) (follow : ∀ value, NeverRaises (next value)) :
    NeverRaises (first >>= next) := by
  intro failure failed
  obtain failed | ⟨value, -, failed⟩ := Loops.bind_eq_error.mp failed
  · exact never failure failed
  · exact follow value failure failed

/-- The last item of a frame that has bars is there. -/
theorem last_never_raises {α : Type} {item : Option α} (some : item.isSome = true) :
    NeverRaises (lastOf item) := by
  obtain ⟨value, rfl⟩ := Option.isSome_iff_exists.mp some
  exact nofun

/-- A frame that has bars has an average range. -/
theorem atr_of_some {frame : List FiveMinuteBar} (bars : frame ≠ []) :
    (atrOf frame).isSome = true := by
  rw [atrOf, List.getLast?_isSome]
  intro none
  have length : (averageRanges frame).length = frame.length := by
    cases frame with
    | nil => exact absurd rfl bars
    | cons first rest =>
      simp [averageRanges, WeightedMeans.length_smoothed, trueRanges]
  rw [none] at length
  exact bars (List.length_eq_zero_iff.mp length.symm)

/-- Where there are five-minute bars, no gate fails. -/
theorem pass_gates_never_raise (self : ProfessionalICTStrategy) (bars : view.fiveMinute ≠ []) :
    NeverRaises (self.passGates view) := by
  have last : NeverRaises (lastOf view.fiveMinute.getLast?) :=
    last_never_raises (List.getLast?_isSome.mpr bars)
  refine NeverRaises.bind ?filters fun decision => NeverRaises.bind ?trend fun biased =>
    NeverRaises.bind ?regime fun ranged => NeverRaises.bind ?setup fun swept =>
      NeverRaises.bind ?zone fun zoned => NeverRaises.bind ?confirmation fun confirmed => ?enter
  case filters =>
    exact require_never_raises.bind fun _ => require_never_raises.bind fun _ =>
      require_never_raises.bind fun _ => pure_never_raises
  case trend => exact require_never_raises.bind fun _ => pure_never_raises
  case regime =>
    exact (last_never_raises (atr_of_some bars)).bind fun _ => last.bind fun _ =>
      require_never_raises.bind fun _ => require_never_raises.bind fun _ =>
        require_never_raises.bind fun _ => pure_never_raises
  case setup =>
    refine require_never_raises.bind fun _ => ?_
    split
    · exact nofun
    · exact require_never_raises.bind fun _ => pure_never_raises
  case zone =>
    simp only [passZone]
    split
    · exact nofun
    · split <;> exact nofun
  case confirmation =>
    have candle : (confirmationFrame view).getLast?.isSome = true := by
      rw [List.getLast?_isSome, confirmationFrame]
      split_ifs with enough
      · exact List.ne_nil_of_length_pos (by omega)
      · exact bars
    refine (last_never_raises candle).bind fun _ => require_never_raises.bind fun _ => ?_
    split_ifs
    · split
      · exact nofun
      · exact require_never_raises.bind fun _ => pure_never_raises
    · exact pure_never_raises
  case enter => exact require_never_raises.bind fun _ => pure_never_raises

/-- Where there are five-minute bars, the strategy decides. -/
theorem evaluate_returns (self : ProfessionalICTStrategy) (bars : view.fiveMinute ≠ []) :
    ∃ decision, self.evaluate view = .ok decision := by
  rw [evaluate]
  split
  · exact ⟨_, rfl⟩
  · exact ⟨_, rfl⟩
  · next failed => exact absurd failed (pass_gates_never_raise self bars _)

end ProfessionalICTStrategy

namespace ProfessionalBacktester

variable {backtester : ProfessionalBacktester} {pair : String} {five : List FiveMinuteBar}
  {eligibility : ℕ → Eligibility} {evaluate : ℕ → StrategyDecision}
  {state next : ProfessionalSimulation}

/-- A position is opened on a decision that trades, at a bar of the feed. -/
theorem consider_opens {position : SimulatedPosition}
    (opened : backtester.consider pair five eligibility evaluate state = .ok (.inr position)) :
    state.cursor < five.length ∧ (evaluate state.cursor).shouldTrade = true ∧
      backtester.openPosition pair five state (evaluate state.cursor) = .ok position := by
  rw [consider] at opened
  obtain ⟨bar, isBar, considered⟩ := Loops.bind_eq_ok.mp opened
  have inside : state.cursor < five.length := by
    by_contra outside
    rw [barAt, List.getElem?_eq_none (not_lt.mp outside)] at isBar
    cases isBar
  dsimp only at considered
  split at considered
  · cases considered
  · split at considered
    · cases considered
    · split at considered
      · cases considered
      · split at considered
        · next wanted =>
          obtain ⟨found, isFound, same⟩ := Loops.bind_eq_ok.mp considered
          cases same
          exact ⟨inside, wanted, isFound⟩
        · cases considered

/-- A position that is opened has its levels from the decision, around its own entry. -/
theorem open_position_levels {decision : StrategyDecision} {position : SimulatedPosition}
    (opened : backtester.openPosition pair five state decision = .ok position) :
    ∃ entryPrice targetPrice risk, decision.entryPrice = some entryPrice ∧
      decision.targetPrice = some targetPrice ∧ decision.riskDistance = some risk ∧
      position.direction = (if decision.action = "BUY" then .long else .short) ∧
      position.tp1 = position.entry + position.direction.sign * risk ∧
      position.target = position.entry + position.direction.sign * |targetPrice - entryPrice| := by
  rw [openPosition] at opened
  split at opened
  · next entryPrice _ _ targetPrice risk isEntry _ _ isTarget isRisk =>
    simp only [Loops.bind_eq_ok] at opened
    obtain ⟨bar, -, riskUnits, -, maxUnits, -, isPosition⟩ := opened
    cases isPosition
    exact ⟨entryPrice, targetPrice, risk, isEntry, isTarget, isRisk, rfl, rfl, rfl⟩
  · cases opened

end ProfessionalBacktester

/-- The side of a trade in a direction. -/
def MarketBias.side : MarketBias → ModelDirection
  | .bullish => .long
  | _ => .short

/-- A level that is behind is away from the entry by as much. -/
theorem MarketBias.abs_sub_of_behind {direction : MarketBias} {entry level risk : ℚ}
    (behind : direction.ahead entry level = -risk) (risky : 0 < risk) : |entry - level| = risk := by
  have away : |direction.ahead entry level| = risk := by
    rw [behind, abs_neg, abs_of_pos risky]
  cases direction with
  | bullish => exact (abs_sub_comm entry level).trans away
  | bearish | neutral => exact away

/-- A level that is ahead is away from the entry by as much. -/
theorem MarketBias.abs_sub_of_ahead {direction : MarketBias} {entry level : ℚ}
    (ahead : 0 < direction.ahead entry level) : |level - entry| = direction.ahead entry level := by
  cases direction with
  | bullish => exact abs_of_pos ahead
  | bearish | neutral => exact (abs_sub_comm level entry).trans (abs_of_pos ahead)

/-- Either sign is its own inverse. -/
theorem ModelDirection.sign_mul_sign (direction : ModelDirection) :
    direction.sign * direction.sign = 1 := by
  cases direction <;> norm_num [sign]

/-- A trade that was signalled at the bar before its entry: in a liquid session, away from the news,
in the direction of the higher timeframes, and with targets that are far from the entry in units of the
spread. -/
structure Signalled (backtester : ProfessionalBacktester) (strategy : ProfessionalICTStrategy)
    (feed : BacktestFeed) (trade : ProfessionalTrade) (signal : ℕ) (view : MarketView) : Prop where
  before : trade.entryIndex = signal + 1
  isView : view = feed.viewAt (backtester.spread feed.pair) signal
  weekday : ProfessionalBacktester.weekday view.timestamp < 5
  session : 7 ≤ ProfessionalBacktester.hour view.timestamp ∧
    ProfessionalBacktester.hour view.timestamp < 20
  quiet : ∀ calendar ∈ feed.newsEvents, ∀ event ∈ calendar,
    ¬strategy.news.Blocks feed.pair view.timestamp event
  trend : (strategy.trend.detect view.fourHour view.oneHour).direction ≠ .neutral ∧
    trade.side = (strategy.trend.detect view.fourHour view.oneHour).direction.side
  first_ahead : 0 < trade.side.sign * (trade.tp1Price - trade.entryPrice)
  spread_small : strategy.tradeManager.minimumAtrStop * backtester.spread feed.pair ≤
    strategy.config.maxSpreadAtrRatio * (trade.side.sign * (trade.tp1Price - trade.entryPrice))
  final_ahead : 0 < trade.side.sign * (trade.targetPrice - trade.entryPrice)
  final_within : trade.side.sign * (trade.targetPrice - trade.entryPrice) ≤
    trade.side.sign * (trade.tp1Price - trade.entryPrice) * strategy.tradeManager.finalTargetR

/-- Every trade of a state was signalled. -/
def AllSignalled (backtester : ProfessionalBacktester) (strategy : ProfessionalICTStrategy)
    (feed : BacktestFeed) (state : ProfessionalSimulation) : Prop :=
  ∀ trade ∈ state.trades, ∃ signal view, Signalled backtester strategy feed trade signal view

namespace ProfessionalICTStrategy

variable {backtester : ProfessionalBacktester} {strategy : ProfessionalICTStrategy}
  {feed : BacktestFeed} {eligibility : ℕ → Eligibility} {state next : ProfessionalSimulation}

/-- At a bar of the feed the strategy decides. -/
theorem decide_at_evaluates (strategy : ProfessionalICTStrategy) (feed : BacktestFeed) (spread : ℚ)
    {index : ℕ} (inside : index < feed.five.length) :
    ∃ decision, strategy.evaluate (feed.viewAt spread index) = .ok decision ∧
      feed.decideAt strategy spread index = decision.toStrategyDecision := by
  have bars : (feed.viewAt spread index).fiveMinute ≠ [] := by
    apply List.ne_nil_of_length_pos
    simp only [BacktestFeed.viewAt, tailRows, List.length_drop, List.length_take]
    omega
  obtain ⟨decision, evaluated⟩ := strategy.evaluate_returns bars
  refine ⟨decision, evaluated, ?_⟩
  rw [BacktestFeed.decideAt, evaluated]

/-- A position that the strategy opens is signalled at its bar, whatever is made of it later. -/
theorem opened_signalled (sensible : strategy.Sensible) (prices : ∀ bar ∈ feed.five, 0 < bar.close)
    {position : SimulatedPosition}
    (opened : backtester.consider feed.pair feed.five eligibility
      (feed.decideAt strategy (backtester.spread feed.pair)) state = .ok (.inr position))
    (entered : position.entryIndex = state.cursor + 1) (ended : PositionEnd) (exitTime : ℚ) :
    Signalled backtester strategy feed (backtester.recordedTrade position ended exitTime)
      state.cursor (feed.viewAt (backtester.spread feed.pair) state.cursor) := by
  obtain ⟨inside, wanted, isOpened⟩ := ProfessionalBacktester.consider_opens opened
  obtain ⟨decision, evaluated, decided⟩ :=
    decide_at_evaluates strategy feed (backtester.spread feed.pair) inside
  rw [decided] at wanted isOpened
  obtain ⟨setup, admits, enters⟩ := evaluate_trades evaluated wanted
  have levels := admitted_levels sensible admits fun bar member =>
    prices bar (BacktestFeed.shown_of_feed member)
  obtain ⟨entryPrice, targetPrice, risk, isEntry, isTarget, isRisk, direction, first, final⟩ :=
    ProfessionalBacktester.open_position_levels isOpened
  rw [enters.entry] at isEntry
  rw [enters.final] at isTarget
  rw [enters.risk] at isRisk
  cases isEntry
  cases isTarget
  cases isRisk
  have side : position.direction = setup.direction.side := by
    rw [direction, enters.action]
    cases setup.direction <;> rfl
  generalize plan strategy.tradeManager
    (feed.viewAt (backtester.spread feed.pair) state.cursor).fiveMinute setup = planned
    at levels first final
  have firstAhead : position.direction.sign * (position.tp1 - position.entry) =
      planned.riskDistance := by
    rw [first, add_sub_cancel_left, ← mul_assoc, ModelDirection.sign_mul_sign, one_mul]
  have finalAhead : position.direction.sign * (position.target - position.entry) =
      setup.direction.ahead setup.entry planned.finalTarget := by
    rw [final, add_sub_cancel_left, ← mul_assoc, ModelDirection.sign_mul_sign, one_mul,
      MarketBias.abs_sub_of_ahead levels.final_ahead]
  obtain ⟨weekday, session⟩ := (session_allowed_iff _).mp admits.session
  exact {
    before := entered
    isView := rfl
    weekday
    session
    quiet := ((strategy.news.allowed_iff _ _ _).mp admits.news).2
    trend := ⟨admits.trend ▸ admits.decided, side.trans (congrArg MarketBias.side admits.trend)⟩
    first_ahead := levels.risky.trans_eq firstAhead.symm
    spread_small := levels.spread_small.trans_eq (congrArg _ firstAhead.symm)
    final_ahead := levels.final_ahead.trans_eq finalAhead.symm
    final_within := by
      refine finalAhead.le.trans (levels.final_within.trans_eq ?_)
      rw [← firstAhead]
      rfl }

/-- A pass of the loop keeps that all trades were signalled. -/
theorem AllSignalled.pass (sensible : strategy.Sensible)
    (prices : ∀ bar ∈ feed.five, 0 < bar.close)
    (signalled : AllSignalled backtester strategy feed state)
    (passed : backtester.pass feed.pair feed.five eligibility
      (feed.decideAt strategy (backtester.spread feed.pair)) state = .ok next) :
    AllSignalled backtester strategy feed next := by
  obtain ⟨reason, -, rfl⟩ | ⟨position, exitTime, opened, entered, trades, -⟩ :=
    ProfessionalBacktester.pass_cases passed
  · exact signalled
  · intro trade member
    rw [trades] at member
    obtain earlier | last := List.mem_append.mp member
    · exact signalled trade earlier
    · rw [List.mem_singleton.mp last]
      exact ⟨_, _, opened_signalled sensible prices opened entered _ exitTime⟩

/-- Every trade that a backtest of the strategy records was signalled at the bar before its entry, by
what was known then: in a liquid session, away from the news, with the bias of the higher timeframes,
and with a risk that the spread is small for. -/
theorem backtest_trades_signalled (backtester : ProfessionalBacktester)
    (strategy : ProfessionalICTStrategy) (sensible : strategy.Sensible) (feed : BacktestFeed)
    (prices : ∀ bar ∈ feed.five, 0 < bar.close) (eligibility : ℕ → Eligibility)
    (startFraction endFraction : ℚ) (final : ProfessionalSimulation)
    (returned : backtester.run feed.pair feed.five eligibility
      (feed.decideAt strategy (backtester.spread feed.pair)) startFraction endFraction = .ok final) :
    AllSignalled backtester strategy feed final := by
  have none : AllSignalled backtester strategy feed
      (backtester.start feed.five startFraction) := by
    simp [AllSignalled, ProfessionalBacktester.start]
  exact Loops.run_while_keeps
    (fun _ _ signalled _ passed => AllSignalled.pass sensible prices signalled passed) none returned

/-- The feed of the sample. -/
def sweptMonday : BacktestFeed where
  pair := "EURUSD"
  oneMinute := []
  five := sweptBars
  oneHour := []
  fourHour := risingBars
  newsEvents := some []

/-- The backtest of the default strategy records a trade on the bars of the sample, and it was
signalled. -/
theorem swept_monday_signalled : ∃ final,
    ProfessionalBacktester.run {} "EURUSD" sweptBars ProfessionalBacktester.alwaysEligible
        (sweptMonday.decideAt liveStrategy (ProfessionalBacktester.spread {} "EURUSD")) 0 1 =
      .ok final ∧ final.trades.length = 1 ∧ AllSignalled {} liveStrategy sweptMonday final := by
  have computed : (ProfessionalBacktester.run {} "EURUSD" sweptBars
      ProfessionalBacktester.alwaysEligible (sweptMonday.decideAt liveStrategy
        (ProfessionalBacktester.spread {} "EURUSD")) 0 1).toOption.any
      (fun final => final.trades.length = 1) = true := by decide +kernel
  cases returned : ProfessionalBacktester.run {} "EURUSD" sweptBars
      ProfessionalBacktester.alwaysEligible (sweptMonday.decideAt liveStrategy
        (ProfessionalBacktester.spread {} "EURUSD")) 0 1 with
  | error reason =>
    rw [returned] at computed
    cases computed
  | ok final =>
    rw [returned] at computed
    exact ⟨final, rfl, of_decide_eq_true computed,
      backtest_trades_signalled {} liveStrategy live_strategy_sensible sweptMonday
        (by decide +kernel) _ 0 1 final returned⟩

end ProfessionalICTStrategy

/-! ## Mirrored decisions -/

/-- The action of the other side. -/
def oppositeAction (action : String) : String :=
  if action = "BUY" then "SELL" else if action = "SELL" then "BUY" else action

/-- The reason for the other side. -/
def oppositeReason (reason : String) : String :=
  if reason = "sell_side_sweep_reclaimed" then "buy_side_sweep_rejected"
  else if reason = "buy_side_sweep_rejected" then "sell_side_sweep_reclaimed"
  else if reason = "bullish_structure_break" then "bearish_structure_break"
  else if reason = "bearish_structure_break" then "bullish_structure_break"
  else reason

/-- A decision on the other side. What is found of the session, of news, ranges and spread is the
same, and the reason to trade or not. -/
def ProfessionalDecision.mirror (total : ℚ) (decision : ProfessionalDecision) :
    ProfessionalDecision :=
  { decision with
    action := oppositeAction decision.action
    entryPrice := decision.entryPrice.map fun price => total - price
    stopPrice := decision.stopPrice.map fun price => total - price
    tp1Price := decision.tp1Price.map fun price => total - price
    targetPrice := decision.targetPrice.map fun price => total - price
    direction := decision.direction.map MarketBias.opposite
    trendBias := decision.trendBias.map MarketBias.opposite
    zoneLower := decision.zoneUpper.map fun price => total - price
    zoneUpper := decision.zoneLower.map fun price => total - price
    mlProbability := decision.mlProbability.map fun probability => 1 - probability
    diagnostics := { decision.diagnostics with
      sweepReason := decision.diagnostics.sweepReason.map oppositeReason
      structureReason := decision.diagnostics.structureReason.map oppositeReason } }

/-- What ends a decision on the other side. -/
def Halt.mirror (total : ℚ) : Halt → Halt
  | .skipped decision reason => .skipped (decision.mirror total) reason
  | .raised failure => .raised failure

/-- A view of mirrored bars. -/
def MarketView.mirror (total : ℚ) (view : MarketView) : MarketView :=
  { view with
    oneMinute := view.oneMinute.map (FiveMinuteBar.mirror total)
    fiveMinute := view.fiveMinute.map (FiveMinuteBar.mirror total)
    oneHour := view.oneHour.map (FiveMinuteBar.mirror total)
    fourHour := view.fourHour.map (FiveMinuteBar.mirror total) }

namespace ProfessionalICTStrategy

open Loops

/-- A total by which a view can be mirrored: twice the last close, and no five-minute extreme is zero
on one of the sides. Where a model is required, it sees both sides alike. -/
structure MirrorsAt (strategy : ProfessionalICTStrategy) (view : MarketView) (total : ℚ) : Prop where
  center : ∀ bar ∈ view.fiveMinute.getLast?, total = 2 * bar.close
  nonzero : ∀ bar ∈ view.fiveMinute, ∀ level, level = bar.high ∨ level = bar.low →
    level ≠ 0 ∧ level ≠ total
  model : strategy.config.requireMlConfirmation = true → ∀ confirm ∈ strategy.confirmationModel,
    ∀ direction, confirm (view.fiveMinute.map (FiveMinuteBar.mirror total)) direction.opposite =
      ((confirm view.fiveMinute direction).1, 1 - (confirm view.fiveMinute direction).2.1,
        (confirm view.fiveMinute direction).2.2)

/-- A computation and its mirror end alike. -/
abbrev Mirrored {α β : Type} (total : ℚ) (values : α → β → Prop) :
    Except Halt α → Except Halt β → Prop :=
  EndAlike (fun halt other => other = halt.mirror total) values

variable {self : ProfessionalICTStrategy} {view : MarketView} {total : ℚ}
  {decision : ProfessionalDecision}

/-- The decision not to trade is the same on the other side. -/
theorem mirror_skip (total : ℚ) (decision : ProfessionalDecision) (reason : String) :
    skip (decision.mirror total) reason = (skip decision reason).mirror total := by
  simp [skip, ProfessionalDecision.mirror, oppositeAction]

/-- A gate is passed on both sides or on none. -/
theorem mirror_require {condition other : Prop} [Decidable condition] [Decidable other]
    (same : condition ↔ other) (reason : String) {opposite : ProfessionalDecision}
    (isMirror : opposite = decision.mirror total) :
    Mirrored total (fun _ _ => condition) (require condition decision reason)
      (require other opposite reason) := by
  by_cases holds : condition
  · rw [require, require, if_pos holds, if_pos (same.mp holds)]
    exact holds
  · rw [require, require, if_neg holds, if_neg (mt same.mpr holds), isMirror]
    rfl

/-- The reason of a sweep from the other side. -/
theorem opposite_sweep_reason {direction : MarketBias} (decided : direction ≠ .neutral) :
    LiquiditySweepDetector.sweepReason direction.opposite =
      oppositeReason (LiquiditySweepDetector.sweepReason direction) := by
  cases direction with
  | neutral => exact absurd rfl decided
  | bullish | bearish => decide

/-- The reason of a break to the other side. -/
theorem opposite_break_reason {direction : MarketBias} (decided : direction ≠ .neutral) :
    MarketStructureDetector.breakReason direction.opposite =
      oppositeReason (MarketStructureDetector.breakReason direction) := by
  cases direction with
  | neutral => exact absurd rfl decided
  | bullish | bearish => decide

/-- The last item is changed, or there is none on either side. -/
theorem mirror_last {α : Type} (total : ℚ) (change : α → α) (item : Option α) :
    Mirrored total (fun value other => value ∈ item ∧ other = change value) (lastOf item)
      (lastOf (item.map change)) := by
  cases item with
  | none => rfl
  | some value => exact ⟨rfl, rfl⟩

/-- The filters do not look at prices. -/
theorem mirror_filters (self : ProfessionalICTStrategy) (view : MarketView) (total : ℚ) :
    Mirrored total (fun decision other => other = decision.mirror total) (self.passFilters view)
      (self.passFilters (view.mirror total)) := by
  have length : (view.mirror total).fiveMinute.length = view.fiveMinute.length :=
    List.length_map _
  refine (mirror_require (by rw [length]) _ rfl).bind fun _ _ _ => ?_
  refine (mirror_require Iff.rfl _ rfl).bind fun _ _ _ => ?_
  refine (mirror_require Iff.rfl _ rfl).bind fun _ _ _ => ?_
  rfl

/-- The bias is the opposite. -/
theorem mirror_pass_trend (self : ProfessionalICTStrategy) (view : MarketView) (total : ℚ)
    (decision : ProfessionalDecision) :
    Mirrored total
      (fun found other => other = (found.1.mirror total, found.2.opposite) ∧ found.2 ≠ .neutral)
      (self.passTrend view decision) (self.passTrend (view.mirror total) (decision.mirror total)) := by
  obtain ⟨direction, timeframe, reason⟩ :=
    mirror_trend total self.trend view.fourHour view.oneHour
  have decided : (self.trend.detect view.fourHour view.oneHour).direction ≠ .neutral ↔
      (self.trend.detect view.fourHour view.oneHour).direction.opposite ≠ .neutral := by
    cases (self.trend.detect view.fourHour view.oneHour).direction <;> decide
  simp only [passTrend, MarketView.mirror, direction, timeframe, reason]
  refine (mirror_require decided _ rfl).bind fun _ _ biased => ?_
  exact ⟨rfl, biased⟩

/-- The range and the spread are the same. -/
theorem mirror_regime (mirrors : self.MirrorsAt view total) (decision : ProfessionalDecision) :
    Mirrored total (fun found other => other = (found.1.mirror total, found.2))
      (self.passRegime view decision)
      (self.passRegime (view.mirror total) (decision.mirror total)) := by
  have ranges : averageRanges (view.mirror total).fiveMinute = averageRanges view.fiveMinute :=
    mirror_average_ranges total view.fiveMinute
  have atr : atrOf (view.mirror total).fiveMinute = (atrOf view.fiveMinute).map id := by
    rw [atrOf, atrOf, ranges, Option.map_id_apply]
  have usual (atr : ℚ) :
      normalVolatility (view.mirror total).fiveMinute atr =
        normalVolatility view.fiveMinute atr := by
    rw [normalVolatility, normalVolatility, ranges]
  have last : (view.mirror total).fiveMinute.getLast? =
      view.fiveMinute.getLast?.map (FiveMinuteBar.mirror total) := List.getLast?_map
  simp only [passRegime, atr, usual, last]
  refine (mirror_last total id _).bind fun atr _ known => ?_
  obtain ⟨-, rfl⟩ := known
  refine (mirror_last total _ _).bind fun current _ known => ?_
  obtain ⟨known, rfl⟩ := known
  have center : (current.mirror total).close = current.close := by
    rw [FiveMinuteBar.mirror, mirrors.center current known]
    ring
  simp only [center]
  refine (mirror_require Iff.rfl _ rfl).bind fun _ _ _ => ?_
  refine (mirror_require Iff.rfl _ rfl).bind fun _ _ _ => ?_
  refine (mirror_require Iff.rfl _ rfl).bind fun _ _ _ => ?_
  rfl

/-- The sweep is from the other side, and so is the break after it. -/
theorem mirror_setup {direction : MarketBias} (decided : direction ≠ .neutral)
    (decision : ProfessionalDecision) :
    Mirrored total (fun found other => other = (found.1.mirror total, total - found.2))
      (self.passSetup view direction decision)
      (self.passSetup (view.mirror total) direction.opposite (decision.mirror total)) := by
  have sweeps : self.sweeps.detect (view.mirror total).fiveMinute direction.opposite =
      (self.sweeps.detect view.fiveMinute direction).mirror total :=
    mirror_sweep total view.fiveMinute direction self.sweeps
  have signals (afterIndex : Option ℕ) :
      self.marketStructure.detect (view.mirror total).fiveMinute direction.opposite afterIndex =
        (self.marketStructure.detect view.fiveMinute direction afterIndex).mirror total :=
    mirror_structure total view.fiveMinute direction self.marketStructure afterIndex
  simp only [passSetup, sweeps, signals]
  obtain ⟨index, level, extreme, found, -, -⟩ | ⟨reason, known, found⟩ :=
    self.sweeps.detect_cases view.fiveMinute direction
  · simp only [found, DetectedSweep.mirror, if_true, opposite_sweep_reason decided]
    refine (mirror_require Iff.rfl _ rfl).bind fun _ _ _ => ?_
    obtain ⟨_, level, event, broken, -⟩ | ⟨reason, known, broken⟩ :=
      self.marketStructure.detect_cases view.fiveMinute direction index
    · simp only [broken, StructureSignal.mirror, if_true, opposite_break_reason decided]
      refine (mirror_require Iff.rfl _ rfl).bind fun _ _ _ => ?_
      rfl
    · have kept : reason = oppositeReason reason := by
        obtain rfl | rfl := known <;> decide
      simp only [broken, StructureSignal.mirror]
      refine (mirror_require Iff.rfl _ ?_).bind fun _ _ confirmed => absurd confirmed (by decide)
      simp only [ProfessionalDecision.mirror, Option.map_some, ← kept]
      rfl
  · have kept : reason = oppositeReason reason := by
      obtain rfl | rfl := known <;> decide
    simp only [found, DetectedSweep.mirror]
    refine (mirror_require Iff.rfl _ ?_).bind fun _ _ swept => absurd swept (by decide)
    simp only [ProfessionalDecision.mirror, Option.map_some, ← kept]
    rfl

/-- The choice between a gap and an order block is that between their mirrors. -/
theorem mirror_choice (total : ℚ) (gap : FairValueGap) (block : OrderBlock) :
    chooseZone (gap.mirror total) (block.mirror total) = (chooseZone gap block).map fun zone =>
      (zone.1, zone.2.2.map fun level => total - level, zone.2.1.map fun level => total - level) := by
  rw [chooseZone, chooseZone]
  by_cases back : (gap.detected && gap.retraced) = true
  · rw [if_pos back]
    exact if_pos back
  · rw [if_neg back]
    refine (if_neg back).trans ?_
    by_cases back : (block.detected && block.retraced) = true
    · rw [if_pos back]
      exact if_pos back
    · rw [if_neg back]
      exact if_neg back

/-- The zone is mirrored. -/
theorem mirror_zone (self : ProfessionalICTStrategy) (view : MarketView) (total : ℚ)
    (direction : MarketBias) (atr : ℚ) (decision : ProfessionalDecision) :
    Mirrored total
      (fun found other => other =
        (found.1.mirror total, total - found.2.2, total - found.2.1))
      (self.passZone view direction atr decision)
      (self.passZone (view.mirror total) direction.opposite atr (decision.mirror total)) := by
  have gap : self.fvgs.detect (view.mirror total).fiveMinute direction.opposite =
      (self.fvgs.detect view.fiveMinute direction).mirror total :=
    mirror_gap total view.fiveMinute direction self.fvgs
  have block : self.orderBlocks.detect (view.mirror total).fiveMinute direction.opposite atr =
      (self.orderBlocks.detect view.fiveMinute direction atr).mirror total :=
    mirror_block total view.fiveMinute direction self.orderBlocks atr
  simp only [passZone, gap, block, mirror_choice]
  cases chooseZone (self.fvgs.detect view.fiveMinute direction)
      (self.orderBlocks.detect view.fiveMinute direction atr) with
  | none => rfl
  | some zone =>
    obtain ⟨zoneType, lower, upper⟩ := zone
    cases lower <;> cases upper <;> rfl

/-- The candle and the model confirm both sides or none. -/
theorem mirror_confirmation (mirrors : self.MirrorsAt view total) {direction : MarketBias}
    (decided : direction ≠ .neutral) (lower upper : ℚ) (decision : ProfessionalDecision) :
    Mirrored total (fun found other => other = (found.1.mirror total, total - found.2))
      (self.passConfirmation view direction lower upper decision)
      (self.passConfirmation (view.mirror total) direction.opposite (total - upper) (total - lower)
        (decision.mirror total)) := by
  have frame : confirmationFrame (view.mirror total) =
      (confirmationFrame view).map (FiveMinuteBar.mirror total) := by
    simp only [confirmationFrame, MarketView.mirror, List.length_map]
    split_ifs <;> rfl
  simp only [passConfirmation, frame, List.getLast?_map]
  refine (mirror_last total _ _).bind fun current _ known => ?_
  obtain ⟨-, rfl⟩ := known
  refine (mirror_require (by rw [mirror_candle total decided]) _ rfl).bind fun _ _ _ => ?_
  split_ifs with required
  · cases given : self.confirmationModel with
    | none => rfl
    | some confirm =>
      have alike := mirrors.model required confirm given direction
      simp only [MarketView.mirror, alike]
      refine (mirror_require Iff.rfl _ rfl).bind fun _ _ _ => ?_
      rfl
  · rfl

/-- What is candidate for the level of liquidity is an extreme of a bar. -/
theorem candidate_extreme {frame : List FiveMinuteBar} {direction : MarketBias} {entry level : ℚ}
    (member : level ∈ candidates frame direction entry) :
    ∃ bar ∈ frame, level = bar.high ∨ level = bar.low := by
  cases direction with
  | bullish =>
    obtain ⟨bar, recent, rfl⟩ := List.mem_map.mp (List.mem_filter.mp member).1
    exact ⟨bar, List.mem_of_mem_drop recent, .inl rfl⟩
  | bearish | neutral =>
    obtain ⟨bar, recent, rfl⟩ := List.mem_map.mp (List.mem_filter.mp member).1
    exact ⟨bar, List.mem_of_mem_drop recent, .inr rfl⟩

/-- The trade is mirrored. -/
theorem mirror_enter (mirrors : self.MirrorsAt view total) (setup : EntrySetup)
    (decided : setup.direction ≠ .neutral) (decision : ProfessionalDecision) :
    Mirrored total (fun decision other => other = decision.mirror total)
      (self.enter view setup decision)
      (self.enter (view.mirror total) (setup.mirror total) (decision.mirror total)) := by
  have planned : plan self.tradeManager (view.mirror total).fiveMinute (setup.mirror total) =
      (plan self.tradeManager view.fiveMinute setup).mirror total := by
    refine mirror_plan self.tradeManager view.fiveMinute decided fun level next => ?_
    obtain ⟨bar, member, extreme⟩ := candidate_extreme (next_liquidity_farthest next).1
    exact mirrors.nonzero bar member level extreme
  simp only [enter, planned]
  refine (mirror_require Iff.rfl _ rfl).bind fun _ _ _ => ?_
  cases direction : setup.direction with
  | neutral => exact absurd direction decided
  | bullish | bearish =>
    simp only [EntrySetup.mirror, direction]
    rfl

/-- All gates are passed on both sides or on none. -/
theorem mirror_gates (mirrors : self.MirrorsAt view total) :
    Mirrored total (fun decision other => other = decision.mirror total) (self.passGates view)
      (self.passGates (view.mirror total)) := by
  refine (mirror_filters self view total).bind fun decision _ same => ?_
  subst same
  refine (mirror_pass_trend self view total decision).bind fun found _ same => ?_
  obtain ⟨rfl, decided⟩ := same
  refine (mirror_regime mirrors found.1).bind fun ranged _ same => ?_
  subst same
  refine (mirror_setup decided ranged.1).bind fun swept _ same => ?_
  subst same
  refine (mirror_zone self view total found.2 ranged.2 swept.1).bind fun zoned _ same => ?_
  subst same
  refine (mirror_confirmation mirrors decided zoned.2.1 zoned.2.2 zoned.1).bind
    fun confirmed _ same => ?_
  subst same
  exact mirror_enter mirrors
    ⟨found.2, confirmed.2, ranged.2, swept.2, zoned.2.1, zoned.2.2⟩ decided confirmed.1

/-- The strategy treats buyers and sellers alike: on bars that are mirrored at twice the last close it
takes the mirrored decision, for the same reason and at the mirrored levels. -/
theorem mirrored_decision (self : ProfessionalICTStrategy) (view : MarketView) (total : ℚ)
    (mirrors : self.MirrorsAt view total) :
    self.evaluate (view.mirror total) =
      (self.evaluate view).map (ProfessionalDecision.mirror total) := by
  have alike := mirror_gates mirrors
  rw [evaluate, evaluate]
  cases here : self.passGates view with
  | error halt =>
    cases there : self.passGates (view.mirror total) with
    | ok decision => rw [here, there] at alike; exact alike.elim
    | error other =>
      rw [here, there] at alike
      obtain rfl : other = halt.mirror total := alike
      cases halt with
      | skipped decision reason => exact congrArg Except.ok (mirror_skip total decision reason)
      | raised failure => rfl
  | ok decision =>
    cases there : self.passGates (view.mirror total) with
    | error halt => rw [here, there] at alike; exact alike.elim
    | ok other =>
      rw [here, there] at alike
      obtain rfl : other = decision.mirror total := alike
      rfl

/-- On the mirrored view of the sample the default strategy takes the mirrored decision. -/
theorem mirrored_swept_view :
    liveStrategy.evaluate (sweptView.mirror (10006 / 5)) =
      (liveStrategy.evaluate sweptView).map (ProfessionalDecision.mirror (10006 / 5)) :=
  mirrored_decision liveStrategy sweptView (10006 / 5) {
    center := by decide +kernel
    nonzero := by
      have inside : ∀ bar ∈ sweptView.fiveMinute,
          (bar.high ≠ 0 ∧ bar.high ≠ 10006 / 5) ∧ bar.low ≠ 0 ∧ bar.low ≠ 10006 / 5 := by
        decide +kernel
      rintro bar member level (rfl | rfl)
      · exact (inside bar member).1
      · exact (inside bar member).2
    model := nofun }

end ProfessionalICTStrategy

end IgTradingBot
