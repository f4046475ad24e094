import IgTradingBot.Library.Grouping
import IgTradingBot.Loop.Cycle
import IgTradingBot.Strategy.ProfessionalStrategy
import IgTradingBot.Strategy.SweepBatches

/-!
# From the market to the orders

`_analyze_instrument` with the analyses of the three strategies, and what stands behind an order
that the loop submits. The frames of the professional strategy are made from the closed candles of
a minute; a longer bar has the time at which its period ends, and the last one may be unfinished.

Between an analysis and its order are the gate, the risk controls, the news layer and the other
tasks. None of them changes what the analysis decided on but the size, so an order that is
submitted goes back to an analysis of its own instrument.
-/

namespace IgTradingBot

open Sequential Sequential.Program

/-- What an analysis of an instrument reads: the closed candles, the last snapshot, what is
remembered of the sweep, the time, and what the calendar answers. -/
structure AnalysisReading where
  candles : List Candle
  snapshot : Option Snapshot
  sweepState : LiquiditySweepState := {}
  timestamp : ℚ
  newsEvents : Except Failure (Option (List NewsEvent)) := .ok none

namespace TradingLoop

/-- The candles as bars. -/
def candlesToFrame (candles : List Candle) : List FiveMinuteBar :=
  candles.map fun candle =>
    ⟨candle.time, candle.openPrice, candle.high, candle.low, candle.close⟩

/-- The time at which the period of a bar ends; periods are closed on the right. -/
def periodEnd (seconds : ℚ) (bar : FiveMinuteBar) : ℚ := ⌈bar.timestamp / seconds⌉ * seconds

/-- The bar of a period. -/
def periodBar (endsAt : ℚ) (bars : List FiveMinuteBar) : Option FiveMinuteBar := do
  let first ← bars.head?
  let high ← (bars.map (·.high)).max?
  let low ← (bars.map (·.low)).min?
  let last ← bars.getLast?
  pure ⟨endsAt, first.openPrice, high, low, last.close⟩

/-- The bars of longer periods; a period without bars has none. -/
def resampleCandles (frame : List FiveMinuteBar) (seconds : ℚ) : List FiveMinuteBar :=
  (Grouping.groups (periodEnd seconds) frame).filterMap fun period => periodBar period.1 period.2

/-- What the professional strategy sees. -/
def professionalView (epic : String) (reading : AnalysisReading) (snapshot : Snapshot)
    (newsEvents : Option (List NewsEvent)) : MarketView :=
  let oneMinute := candlesToFrame reading.candles
  { pair := (currencyPairForEpic epic).getD epic
    oneMinute
    fiveMinute := resampleCandles oneMinute 300
    oneHour := resampleCandles oneMinute 3600
    fourHour := resampleCandles oneMinute 14400
    spread := |snapshot.offer - snapshot.bid|
    timestamp := reading.timestamp
    newsEvents }

/-- The first target of a decision, where it is a price. -/
def firstTargetOf (decision : ProfessionalDecision) (entry : ℚ) : ℚ :=
  match decision.tp1Price with
  | some first => if first = 0 then entry else first
  | none => entry

/-- The signal of a decision that trades. Its levels and its range are expected to be there. -/
def professionalSignal (strategy : ProfessionalICTStrategy) (epic : String)
    (decision : ProfessionalDecision) : Except Failure (Option Signal) :=
  if decision.shouldTrade then
    match decision.entryPrice, decision.stopPrice, decision.targetPrice, decision.riskDistance,
      decision.diagnostics.atr with
    | some entry, some stop, some target, some risk, some atr =>
      if risk = 0 then .error (.other "division by zero")
      else
        .ok (some {
          epic
          direction := decision.action
          currentPrice := entry
          stopDistance := |entry - stop|
          limitDistance := |target - entry|
          atr
          confidence := strategy.config.confidence
          riskPerTrade := decision.riskPerTrade
          strategyName := "professional_ict"
          tp1Distance := some |firstTargetOf decision entry - entry|
          partialCloseFraction := decision.partialCloseFraction
          trailingEnabled := decision.trailingEnabled })
    | _, _, _, _, _ => .error (.other "missing level")
  else .ok none

/-- The professional strategy on the closed candles. Without a snapshot there is no signal. -/
def analyzeProfessional (strategy : ProfessionalICTStrategy) (epic : String)
    (reading : AnalysisReading) : Except Failure (Option Signal) :=
  if reading.candles = [] then .ok none
  else
    match reading.snapshot with
    | none => .ok none
    | some snapshot => do
      let newsEvents ← reading.newsEvents
      match strategy.evaluate (professionalView epic reading snapshot newsEvents) with
      | .ok decision => professionalSignal strategy epic decision
      | .error _ => .error (.other "professional strategy")

/-- The average of the last closes. -/
def averageClose (period : ℕ) (candles : List Candle) : ℚ :=
  let closes := (candles.map (·.close)).drop (candles.length - period)
  closes.sum / closes.length

/-- The crossing of two averages, where the trend is strong, in the hours of trading. -/
def analyzeLegacySma (epic : String) (reading : AnalysisReading) : Option Signal :=
  let hour := ProfessionalBacktester.hour reading.timestamp
  if reading.candles.length < 25 then none
  else if ¬(8 ≤ hour ∧ hour < 18) then none
  else
    match reading.candles.getLast? with
    | none => none
    | some latest =>
      let fast := averageClose 10 reading.candles
      let slow := averageClose 25 reading.candles
      let atr := LiquiditySweep.calculateAtr reading.candles (latest.close * (5 / 10000))
      let strength := if 0 < atr then |fast - slow| / atr else 0
      if strength < 3 / 10 then none
      else if fast = slow then none
      else
        some {
          epic
          direction := if slow < fast then "BUY" else "SELL"
          currentPrice := latest.close
          stopDistance := Decimals.quantizeHalfEven 6 (atr * 3)
          limitDistance := Decimals.quantizeHalfEven 6 (atr * 6)
          atr
          confidence := min 95 ⌊50 + strength * 20⌋ }

/-- The signal of the sweep as the loop goes on with it. -/
def sweptSignal (signal : SweepSignal) : Signal where
  epic := signal.epic
  direction := signal.direction
  currentPrice := signal.currentPrice
  stopDistance := signal.stopDistance
  limitDistance := signal.limitDistance
  atr := signal.atr
  confidence := signal.confidence
  riskPerTrade := signal.riskPerTrade
  strategyName := signal.strategyName

/-- The analysis of an instrument by the strategy of the mode, where it is authorised. -/
def analyzeInstrument (config : LoopConfig) (strategy : ProfessionalICTStrategy) (epic : String)
    (reading : AnalysisReading) : Except Failure (Option Signal) :=
  if config.strategyMode = "LEGACY_SMA" then
    if config.accountType = "LIVE" then .ok none else .ok (analyzeLegacySma epic reading)
  else if config.strategyMode = "LIQUIDITY_SWEEP_1M" then
    .ok ((LiquiditySweep.analyze epic reading.candles reading.snapshot reading.sweepState).signal.map
      sweptSignal)
  else if ¬(config.strategyMode = "PROFESSIONAL" ∨ config.strategyMode = "GUARDED_AUTO") then
    .ok none
  else if config.accountType = "LIVE" ∧ ¬config.professionalLiveApproved then .ok none
  else if config.accountType = "DEMO" ∧ ¬config.professionalDemoForwardApproved then .ok none
  else analyzeProfessional strategy epic reading

/-- The professional strategy that the loop constructs. -/
def professionalStrategy (upper : String → String) (config : LoopConfig)
    (newsFilterMode : String) : Except String ProfessionalICTStrategy :=
  ProfessionalICTStrategy.create upper { executionMode := config.accountType, newsFilterMode } none

/-! ## What an analysis says -/

/-- An order has what a signal decided on. -/
structure Carries (order : OpeningOrder) (signal : Signal) : Prop where
  direction : order.direction = signal.direction
  stop : order.stopDistance = signal.stopDistance
  limit : order.limitDistance = signal.limitDistance

/-- A decision of the professional strategy stands behind an order: it passed all gates, and the
order has its direction, its risk as the stop and a target within the multiple of it. -/
structure DecidedOrder (strategy : ProfessionalICTStrategy) (view : MarketView)
    (decision : ProfessionalDecision) (order : OpeningOrder) : Prop where
  evaluated : strategy.evaluate view = .ok decision
  gates : GatesPassed strategy view decision
  direction : order.direction = decision.action
  stop : decision.riskDistance = some order.stopDistance
  risky : 0 < order.stopDistance
  limit : 0 < order.limitDistance
  limit_within : order.limitDistance ≤ order.stopDistance * strategy.tradeManager.finalTargetR
  spread_small : strategy.tradeManager.minimumAtrStop * view.spread ≤
    strategy.config.maxSpreadAtrRatio * order.stopDistance

/-- What stands behind an order: the execution is authorised, and the analysis of what was read of
its instrument, by a strategy that is known, asked for it. -/
structure JustifiedOrder (config : LoopConfig) (strategy : ProfessionalICTStrategy)
    (reading : AnalysisReading) (order : OpeningOrder) : Prop where
  authorized : executionBlocked config = none
  known : config.strategyMode ∈
    ["LEGACY_SMA", "LIQUIDITY_SWEEP_1M", "PROFESSIONAL", "GUARDED_AUTO"]
  analysed : ∃ signal, analyzeInstrument config strategy order.epic reading = .ok (some signal) ∧
    Carries order signal
  sided : order.direction = "BUY" ∨ order.direction = "SELL"
  decided : config.strategyMode = "PROFESSIONAL" ∨ config.strategyMode = "GUARDED_AUTO" →
    ∃ snapshot newsEvents decision, reading.snapshot = some snapshot ∧
      reading.newsEvents = .ok newsEvents ∧
      DecidedOrder strategy (professionalView order.epic reading snapshot newsEvents) decision order

section Analyses

variable {config : LoopConfig} {strategy : ProfessionalICTStrategy} {epic : String}
  {reading : AnalysisReading} {found : Signal} {order : OpeningOrder}

/-- The close of a longer bar is that of a bar in it. -/
theorem resampled_close {frame : List FiveMinuteBar} {seconds : ℚ} {bar : FiveMinuteBar}
    (resampled : bar ∈ resampleCandles frame seconds) : ∃ other ∈ frame, other.close = bar.close := by
  obtain ⟨period, among, isBar⟩ := List.mem_filterMap.mp resampled
  simp only [periodBar, Option.bind_eq_bind, Option.bind_eq_some_iff] at isBar
  obtain ⟨first, -, high, -, low, -, last, isLast, same⟩ := isBar
  cases same
  exact ⟨last, (Grouping.mem_of_group among (List.mem_of_getLast? isLast)).1, rfl⟩

/-- Where the closes of the candles are positive, those of the longer bars are. -/
theorem view_closes_positive (prices : ∀ candle ∈ reading.candles, 0 < candle.close)
    (snapshot : Snapshot) (newsEvents : Option (List NewsEvent)) :
    ∀ bar ∈ (professionalView epic reading snapshot newsEvents).fiveMinute, 0 < bar.close := by
  intro bar resampled
  obtain ⟨other, inFrame, same⟩ := resampled_close resampled
  obtain ⟨candle, isCandle, rfl⟩ := List.mem_map.mp inFrame
  exact (prices candle isCandle).trans_eq same

/-- A signal of the professional strategy is that of a decision that trades. -/
theorem analyze_professional_cases
    (analysed : analyzeProfessional strategy epic reading = .ok (some found)) :
    ∃ snapshot newsEvents decision, reading.snapshot = some snapshot ∧
      reading.newsEvents = .ok newsEvents ∧
      strategy.evaluate (professionalView epic reading snapshot newsEvents) = .ok decision ∧
      decision.shouldTrade = true ∧ found.direction = decision.action ∧
      ∃ entry ∈ decision.entryPrice, ∃ stop ∈ decision.stopPrice,
        ∃ target ∈ decision.targetPrice,
          found.stopDistance = |entry - stop| ∧ found.limitDistance = |target - entry| := by
  rw [analyzeProfessional] at analysed
  split at analysed
  case isTrue => cases analysed
  cases shown : reading.snapshot with
  | none =>
    rw [shown] at analysed
    cases analysed
  | some snapshot =>
    simp only [shown, Loops.bind_eq_ok] at analysed
    obtain ⟨newsEvents, calendar, analysed⟩ := analysed
    split at analysed
    case h_2 => cases analysed
    case h_1 decision evaluated =>
      rw [professionalSignal] at analysed
      split at analysed
      case isFalse => cases analysed
      case isTrue trades =>
        split at analysed
        case h_2 => cases analysed
        case h_1 entry stop target risk atr isEntry isStop isTarget isRisk isAtr =>
          split at analysed
          case isTrue => cases analysed
          case isFalse =>
            cases analysed
            exact ⟨snapshot, newsEvents, decision, rfl, calendar, evaluated, trades, rfl, entry,
              isEntry, stop, isStop, target, isTarget, rfl, rfl⟩

/-- The decision behind a signal of the professional strategy stands behind its order. -/
theorem professional_order_decided (sensible : strategy.Sensible)
    (prices : ∀ candle ∈ reading.candles, 0 < candle.close)
    (analysed : analyzeProfessional strategy order.epic reading = .ok (some found))
    (carries : Carries order found) :
    ∃ snapshot newsEvents decision, reading.snapshot = some snapshot ∧
      reading.newsEvents = .ok newsEvents ∧
      DecidedOrder strategy (professionalView order.epic reading snapshot newsEvents) decision
        order := by
  obtain ⟨snapshot, newsEvents, decision, shown, calendar, evaluated, trades, side, entry, isEntry,
    stop, isStop, target, isTarget, stopDistance, limitDistance⟩ :=
    analyze_professional_cases analysed
  obtain ⟨setup, admits, enters⟩ := ProfessionalICTStrategy.evaluate_trades evaluated trades
  have positive : ∀ bar ∈ (professionalView order.epic reading snapshot newsEvents).fiveMinute,
      0 < bar.close := view_closes_positive prices snapshot newsEvents
  have levels := ProfessionalICTStrategy.admitted_levels sensible admits positive
  obtain rfl : entry = setup.entry := Option.some.inj (isEntry.symm.trans enters.entry)
  obtain rfl := Option.some.inj (isStop.symm.trans enters.stop)
  obtain rfl := Option.some.inj (isTarget.symm.trans enters.final)
  have stopBehind : order.stopDistance = _ := carries.stop.trans stopDistance
  have risk := MarketBias.abs_sub_of_behind levels.stop_behind levels.risky
  rw [risk] at stopBehind
  have limitAhead : order.limitDistance = _ := (carries.limit.trans limitDistance).trans
    (MarketBias.abs_sub_of_ahead levels.final_ahead)
  refine ⟨snapshot, newsEvents, decision, shown, calendar, ?_⟩
  exact {
    evaluated
    gates := ProfessionalICTStrategy.admitted_passes_gates sensible admits enters positive
    direction := carries.direction.trans side
    stop := stopBehind ▸ enters.risk
    risky := stopBehind ▸ levels.risky
    limit := limitAhead ▸ levels.final_ahead
    limit_within := by
      rw [limitAhead, stopBehind]
      exact levels.final_within
    spread_small := by
      rw [stopBehind]
      exact levels.spread_small }

/-- An order that a decision stands behind has a side. -/
theorem DecidedOrder.sided {view : MarketView} {decision : ProfessionalDecision}
    (decided : DecidedOrder strategy view decision order) :
    order.direction = "BUY" ∨ order.direction = "SELL" := by
  obtain ⟨direction, -, -, -, -, -, -, -, -, -, -, -, -, -, action, -⟩ := decided.gates.trade
  rw [decided.direction, action]
  exact ite_eq_or_eq _ _ _

/-- A signal of the crossing averages has a side. -/
theorem legacy_signal_sided (analysed : analyzeLegacySma epic reading = some found) :
    found.direction = "BUY" ∨ found.direction = "SELL" := by
  simp only [analyzeLegacySma, Option.ite_none_left_eq_some] at analysed
  obtain ⟨-, -, analysed⟩ := analysed
  cases ended : reading.candles.getLast? with
  | none =>
    rw [ended] at analysed
    cases analysed
  | some latest =>
    simp only [ended, Option.ite_none_left_eq_some] at analysed
    obtain ⟨-, -, same⟩ := analysed
    cases same
    exact ite_eq_or_eq _ _ _

/-- A crossing is one of the two that are armed. -/
theorem crossing_sided {range : DailyRange} {state after : LiquiditySweepState} {candle : Candle}
    {crossing : SweepCrossing}
    (crossed : LiquiditySweep.processCandle range state candle = (after, some crossing)) :
    crossing.direction = "BUY" ∨ crossing.direction = "SELL" := by
  have bought : ∀ other, ∀ crossing ∈ (LiquiditySweep.fireBuy other candle).2,
      crossing.direction = "BUY" := by
    intro other crossing fired
    simp only [LiquiditySweep.fireBuy] at fired
    split_ifs at fired <;> cases fired
    rfl
  have sold : ∀ other, ∀ crossing ∈ (LiquiditySweep.fireSell other candle).2,
      crossing.direction = "SELL" := by
    intro other crossing fired
    simp only [LiquiditySweep.fireSell] at fired
    split_ifs at fired <;> cases fired
    rfl
  obtain ⟨-, fired⟩ := Prod.mk.inj crossed
  obtain isSold | ⟨-, isBought⟩ := Option.or_eq_some_iff.mp fired
  · exact .inr (sold _ crossing isSold)
  · exact .inl (bought _ crossing isBought)

/-- A signal of a crossing has its direction. -/
theorem built_direction {crossing : SweepCrossing} {price : ℚ} {candles : List Candle}
    {range : DailyRange} {signal : SweepSignal}
    (built : (LiquiditySweep.buildSignal epic crossing price candles range).1 = some signal) :
    signal.direction = crossing.direction := by
  simp only [LiquiditySweep.buildSignal] at built
  split at built
  case h_2 => cases built
  case h_1 =>
    split_ifs at built <;> cases built <;> rfl

/-- A signal of the sweep has a side, since every candle keeps it so. -/
theorem swept_signal_sided {snapshot : Option Snapshot} {candles : List Candle}
    {state : LiquiditySweepState} {signal : SweepSignal}
    (swept : (LiquiditySweep.analyze epic candles snapshot state).signal = some signal) :
    signal.direction = "BUY" ∨ signal.direction = "SELL" := by
  have run : ∀ (shown : Snapshot) (latest : Candle) (range : DailyRange) (items : List Candle)
      (progress : SweepOutcome), progress.signal = none →
      ∀ signal ∈ (items.foldl (LiquiditySweep.sweepCandle epic candles shown latest range)
        progress).signal, signal.direction = "BUY" ∨ signal.direction = "SELL" := by
    intro shown latest range items progress fresh
    -- a candle leaves the signal as it was, or makes one of its own crossing
    refine List.foldlRecOn (motive := fun (progress : SweepOutcome) => ∀ signal ∈ progress.signal,
      signal.direction = "BUY" ∨ signal.direction = "SELL") items _ (by simp [fresh]) ?_
    intro progress sided candle _ signal made
    rw [LiquiditySweep.sweepCandle] at made
    split at made
    case h_2 => exact sided signal made
    case h_1 after crossing crossed =>
      split_ifs at made
      · exact built_direction made ▸ crossing_sided crossed
      · exact sided signal made
  obtain ⟨latest, range, examines⟩ | ⟨-, nothing⟩ :=
    LiquiditySweep.analyze_cases epic candles snapshot state
  · obtain ⟨shown, -, ran⟩ := examines.run epic state
    rw [ran] at swept
    exact run shown latest range _ _ rfl signal swept
  · rw [nothing] at swept
    cases swept

/-- A signal of an analysis justifies its order where the execution is authorised. -/
theorem analyzed_order_justified (sensible : strategy.Sensible)
    (prices : ∀ candle ∈ reading.candles, 0 < candle.close)
    (authorized : executionBlocked config = none)
    (analysed : analyzeInstrument config strategy order.epic reading = .ok (some found))
    (carries : Carries order found) : JustifiedOrder config strategy reading order := by
  have asked := analysed
  rw [analyzeInstrument] at analysed
  split at analysed
  case isTrue legacy =>
    split at analysed
    case isTrue => cases analysed
    case isFalse =>
      have crossed : analyzeLegacySma order.epic reading = some found := Except.ok.inj analysed
      exact {
        authorized
        known := by simp [legacy]
        analysed := ⟨found, asked, carries⟩
        sided := carries.direction ▸ legacy_signal_sided crossed
        decided := by simp [legacy] }
  split at analysed
  case isTrue sweep =>
    obtain ⟨signal, swept, rfl⟩ := Option.map_eq_some_iff.mp (Except.ok.inj analysed)
    exact {
      authorized
      known := by simp [sweep]
      analysed := ⟨_, asked, carries⟩
      sided := carries.direction ▸ swept_signal_sided swept
      decided := by simp [sweep] }
  split at analysed
  case isTrue => cases analysed
  case isFalse professional =>
    split at analysed
    case isTrue => cases analysed
    split at analysed
    case isTrue => cases analysed
    obtain ⟨snapshot, newsEvents, decision, shown, calendar, decided⟩ :=
      professional_order_decided sensible prices analysed carries
    exact {
      authorized
      known := by
        obtain mode | mode := not_not.mp professional <;> simp [mode]
      analysed := ⟨found, asked, carries⟩
      sided := decided.sided
      decided := fun _ => ⟨snapshot, newsEvents, decision, shown, calendar, decided⟩ }

end Analyses

/-! ## Runs -/

/-- The news layer leaves what a signal decided on. -/
theorem news_check_carries {action : NewsAction} {signal checked : Signal}
    (passed : newsCheck action signal = some checked) :
    checked.direction = signal.direction ∧ checked.stopDistance = signal.stopDistance ∧
      checked.limitDistance = signal.limitDistance := by
  cases action with
  | allowNormal =>
    obtain rfl := Option.some.inj passed
    exact ⟨rfl, rfl, rfl⟩
  | requireExtraConfirmation =>
    simp only [newsCheck] at passed
    split_ifs at passed
    obtain rfl := Option.some.inj passed
    exact ⟨rfl, rfl, rfl⟩
  | reduceSize =>
    obtain rfl := Option.some.inj passed
    exact ⟨rfl, rfl, rfl⟩
  | blockTrade => cases passed

/-- On its way to the execution a signal keeps what it decided on. -/
theorem Entering.carries {config : LoopConfig} {script : EntryScript} {signal approved : Signal}
    {start world : World} (entering : Entering config script signal approved start world) :
    Carries (openingOrder approved) signal := by
  obtain ⟨validated, _, _, _, approval, passed, _⟩ := entering.through
  have validatedEq := approval.validated_eq
  obtain ⟨_, rfl, _⟩ | ⟨_, action, _, verdict, _⟩ := apply_news_safety_passes passed
  · rw [validatedEq]
    exact ⟨rfl, rfl, rfl⟩
  · obtain ⟨direction, stop, limit⟩ := news_check_carries verdict
    rw [validatedEq] at direction stop limit
    exact ⟨direction, stop, limit⟩

/-- The step of an instrument meets an analysis of what is read of it. -/
def Analysed (config : LoopConfig) (strategy : ProfessionalICTStrategy)
    (reads : String → AnalysisReading → Prop) (epic : String) (input : EpicInput) : Prop :=
  ∃ reading, reads epic reading ∧
    input.analysis.reply = analyzeInstrument config strategy epic reading

section Runs

variable {config : LoopConfig} {strategy : ProfessionalICTStrategy}
  {reads : String → AnalysisReading → Prop}

/-- The orders go back to what is read of their instruments. -/
def OrdersJustified (config : LoopConfig) (strategy : ProfessionalICTStrategy)
    (reads : String → AnalysisReading → Prop) : World → Prop :=
  OrdersSatisfy fun order _ => ∃ reading, reads order.epic reading ∧
    JustifiedOrder config strategy reading order

theorem orders_justified_gate : GateRules (OrdersJustified config strategy reads) where
  toRolls := (orders_satisfy_openings _).toRolls
  realizedRead _ _ justified := justified.record _ rfl (by simp)

/-- Every part of a run keeps the orders justified: what is submitted comes from the analysis of
the step, through the gate, the risk controls and the news layer. -/
theorem orders_justified_contracts (sensible : strategy.Sensible)
    (prices : ∀ epic reading, reads epic reading → ∀ candle ∈ reading.candles, 0 < candle.close) :
    StepContracts config (Analysed config strategy reads)
      (OrdersJustified config strategy reads) := by
  -- all that does not submit an order keeps them in any case
  have rules : CycleRules config (fun _ => False) (OrdersJustified config strategy reads) := {
    toGateRules := orders_justified_gate
    desk := fun _ _ _ justified => justified
    noted := (orders_satisfy_openings _).noted
    answered := fun _ _ _ _ _ justified => justified.record _ rfl (by simp)
    listed := fun _ _ justified => justified
    reconciled := fun _ _ _ _ justified => justified.record _ rfl (by simp)
    entered := fun _ _ _ never => never.elim }
  refine { rules.contracts.byStep with entered := ?_ }
  rintro epic input found ⟨reading, isRead, reply⟩ answered
  have openings := orders_satisfy_openings fun order _ => ∃ reading, reads order.epic reading ∧
    JustifiedOrder config strategy reading order
  have gate : GateRules (OrdersJustified config strategy reads) := orders_justified_gate
  have gated := gate.keeps_gate { found with epic }
  apply ensures_bind (gated.enter (fun _ holds => holds.1))
  intro rejection
  cases rejection with
  | some reason => exact openings.keeps_rejectTrade
  | none =>
    apply openings.ensures_enterSignal config input.entry _ (fun _ justified => justified)
      fun _ justified => justified
    intro approved
    apply openings.contracts.ensures_executeSignal config _ approved fun _ holds => holds.1
    -- here the order is submitted: what was analysed before the gate is still what it carries
    rintro authorized world ⟨justified, start, _, entering⟩
    have same : (openingOrder approved).epic = epic := entering.epic_eq
    have carries := entering.carries
    have analysed : analyzeInstrument config strategy (openingOrder approved).epic reading =
        .ok (some found) := by
      rw [same, ← reply, answered]
    refine justified.submitted _ ⟨reading, same ▸ isRead, ?_⟩
    exact analyzed_order_justified sensible (prices epic reading isRead) authorized analysed
      ⟨carries.direction, carries.stop, carries.limit⟩

/-- The default settings of the strategy are sensible. -/
theorem professional_strategy_sensible {upper : String → String} {newsFilterMode : String}
    (constructs : professionalStrategy upper config newsFilterMode = .ok strategy) :
    strategy.Sensible := by
  simp only [professionalStrategy, ProfessionalICTStrategy.create, Loops.bind_eq_ok] at constructs
  obtain ⟨news, -, same⟩ := constructs
  cases same
  constructor <;> norm_num

/-- In every run, whatever interrupts its awaits, an order that is submitted is authorised and goes
back to an analysis of what was read of its own instrument, of which it has the direction and both
distances. Where the professional strategy trades, a decision that passed all gates stands behind
it: the stop is the risk of the decision and wide against the spread, and the target is ahead. -/
theorem submitted_orders_justified (upper : String → String) (config : LoopConfig)
    (newsFilterMode : String) (strategy : ProfessionalICTStrategy)
    (constructs : professionalStrategy upper config newsFilterMode = .ok strategy)
    (reads : String → AnalysisReading → Prop)
    (prices : ∀ epic reading, reads epic reading → ∀ candle ∈ reading.candles, 0 < candle.close)
    (starts : List StartInput) (analysed : EachEpicStep (Analysed config strategy reads) starts)
    (clock : ℚ) (schedule : ℕ → ℚ) (engine : RiskEngine) (desk : Desk) (openAtBroker : ℕ)
    (order : OpeningOrder) (active : Bool)
    (submitted : .orderSubmitted order active ∈
      (final (run config starts) (constructed clock schedule engine desk openAtBroker)).history) :
    ∃ reading, reads order.epic reading ∧ JustifiedOrder config strategy reading order := by
  have contracts : StepContracts config (Analysed config strategy reads)
      (OrdersJustified config strategy reads) :=
    orders_justified_contracts (professional_strategy_sensible constructs) prices
  have initial : OrdersJustified config strategy reads
      (constructed clock schedule engine desk openAtBroker) := by
    intro order active member
    cases member
  exact (contracts.keeps_run starts analysed).final initial order active submitted

/-- The closed candles of a market that rises, has a peak, and is swept and broken on a Monday. -/
def sweptCandles : List Candle :=
  (List.range 53).map (fun place =>
    let low : ℚ := 974 + place / 2
    ⟨14400 * place, low + 1 / 2, low + 1, low, low + 1 / 2, 1⟩) ++
  (List.range 24).map (fun place =>
    ⟨978600 + 300 * place, 10005 / 10, if place = 0 then 1004 else 1001, 1000, 10005 / 10, 1⟩) ++
  [⟨985800, 20009 / 20, 10005 / 10, 9995 / 10, 10004 / 10, 1⟩,
    ⟨986100, 10004 / 10, 10016 / 10, 10004 / 10, 10016 / 10, 1⟩,
    ⟨986400, 10005 / 10, 10014 / 10, 10004 / 10, 10006 / 10, 1⟩]

/-- What is read at the last of them, with an empty calendar. -/
def sweptReading : AnalysisReading where
  candles := sweptCandles
  snapshot := some ⟨1000, 10000001 / 10000⟩
  timestamp := 986400
  newsEvents := .ok (some [])

/-- A run of one cycle that analyses them and whose order is accepted. -/
def sweptRun (strategy : ProfessionalICTStrategy) : List StartInput :=
  [{ cycles := [demoCycle [] [("CS.D.EURUSD.CFD.IP",
      { analysis :=
          { reply := analyzeInstrument demoConfig strategy "CS.D.EURUSD.CFD.IP" sweptReading }
        entry :=
          { risk := { scalingFactor := { reply := .ok 1 } }
            execution := demoAcceptance "DEAL-1" } })]] }]

/-- The world of that run. -/
def sweptWorld : World :=
  constructed 500000 (fun reading => 500000 + reading) { drawdownMonitor := .create 20000 500000 }
    { lastSnapshots := AList.singleton "CS.D.EURUSD.CFD.IP" ⟨1000, 10000001 / 10000⟩ } 0

/-- The event is the submission of an order to buy. -/
def isBuy : LoopEvent → Bool
  | .orderSubmitted order _ => order.direction = "BUY"
  | _ => false

/-- The run submits an order to buy, and a decision of the strategy stands behind it. -/
theorem swept_market_order_justified : ∃ strategy order active,
    professionalStrategy id demoConfig "FAIL_CLOSED" = .ok strategy ∧
    .orderSubmitted order active ∈ (final (run demoConfig (sweptRun strategy)) sweptWorld).history ∧
    order.direction = "BUY" ∧ JustifiedOrder demoConfig strategy sweptReading order := by
  have computed : (professionalStrategy id demoConfig "FAIL_CLOSED").toOption.any (fun strategy =>
      (final (run demoConfig (sweptRun strategy)) sweptWorld).history.any isBuy) = true := by
    decide +kernel
  cases constructs : professionalStrategy id demoConfig "FAIL_CLOSED" with
  | error reason =>
    rw [constructs] at computed
    cases computed
  | ok strategy =>
    rw [constructs] at computed
    obtain ⟨event, happened, buys⟩ := List.any_eq_true.mp computed
    cases event with
    | orderSubmitted order active =>
      refine ⟨strategy, order, active, rfl, happened, of_decide_eq_true buys, ?_⟩
      have prices : ∀ epic reading, epic = "CS.D.EURUSD.CFD.IP" ∧ reading = sweptReading →
          ∀ candle ∈ reading.candles, 0 < candle.close := by
        rintro epic reading ⟨-, rfl⟩
        decide +kernel
      have analysed : EachEpicStep (Analysed demoConfig strategy fun epic reading =>
          epic = "CS.D.EURUSD.CFD.IP" ∧ reading = sweptReading) (sweptRun strategy) := by
        intro start isStart cycle isCycle step isStep
        obtain rfl := List.mem_singleton.mp isStart
        obtain rfl := List.mem_singleton.mp isCycle
        obtain rfl := List.mem_singleton.mp isStep
        exact ⟨sweptReading, ⟨rfl, rfl⟩, rfl⟩
      obtain ⟨reading, ⟨-, rfl⟩, justified⟩ := submitted_orders_justified id demoConfig
        "FAIL_CLOSED" strategy constructs _ prices (sweptRun strategy) analysed _ _ _ _ _ order
        active happened
      exact justified
    | _ => cases buys

end Runs

end TradingLoop

end IgTradingBot
