import IgTradingBot.Learning.MistakeAnalyzer
import IgTradingBot.Library.Machines
import IgTradingBot.Loop.Execution

/-!
# Learning in the trading loop

The way of a signal through learning in `src/trading/trading_loop.py`: what is persisted of it
when its trade is opened, what is fed to the analyzer when the trade is closed, and what the
analyzer is asked for a new signal. The machine takes closed trades and restarts one after the
other; a failure of the database ends the feeding where it happens and is only reported.
-/

namespace IgTradingBot

open Sequential Sequential.Program

/-- A signal with the fields that only learning reads. -/
structure AnalyzedSignal extends Signal where
  regime : Option String := none
  smaFast : Option ℚ := none
  smaSlow : Option ℚ := none
  trendStrength : Option ℚ := none
  rrRatio : Option ℚ := none
  spreadAtrRatio : Option ℚ := none
  deriving DecidableEq, Repr

/-- Row of the context of a trade. -/
structure TradeContext where
  indicators : Indicators
  regime : String
  confidence : ℤ

/-- The rows of a trade that learning reads: the trade with its regime, and its context if there
is one. -/
structure TradeRows where
  trade : TradeRow
  regime : String
  context : Option TradeContext

/-- A persisted trade and its close. -/
structure Outcome where
  signal : AnalyzedSignal
  tradeId : String
  entryPrice : ℚ
  openedAt : ℚ
  dealId : String
  dealReference : Option String := none
  pnl : ℚ
  exitPrice : ℚ
  reason : Option String := none
  exitReason : Option String := none
  now : ℚ
  stored : Bool := true
  detection : DetectScript
  saved : Bool := true

/-- What happens to the analyzer: a trade is closed and fed to it, or the program is started
again. -/
inductive LearningEvent where
  | closed (outcome : Outcome)
  | restarted (loaded : Bool)

namespace TradingLoop

/-- Numeric features of a signal that are used for matching. -/
def learningIndicators (signal : AnalyzedSignal) : Indicators
  | .atr => some signal.atr
  | .smaFast => signal.smaFast
  | .smaSlow => signal.smaSlow
  | .trendStrength => signal.trendStrength
  | .rrRatio => signal.rrRatio
  | .stopDistance => some signal.stopDistance
  | .limitDistance => some signal.limitDistance
  | .tp1Distance => signal.tp1Distance
  | .spreadAtrRatio => signal.spreadAtrRatio
  | .expectedVolatility =>
    if signal.currentPrice ≠ 0 ∧ signal.atr ≠ 0 then some |signal.atr / signal.currentPrice|
    else none

/-- Regime of a signal. -/
def regimeOf (signal : AnalyzedSignal) : String := signal.regime.getD "unknown"

/-- The rows that an accepted order leaves. The regime of the trade is not the one of the signal,
which is kept in the context. -/
def openTradeRows (signal : AnalyzedSignal) (tradeId : String) (entryPrice : ℚ) (dealId : String)
    (dealReference : Option String) (openedAt : ℚ) : TradeRows where
  trade :=
    { id := tradeId
      instrument := signal.epic
      direction := if signal.direction = "BUY" then "LONG" else "SHORT"
      size := signal.size.getD limits.tradeSize
      entryPrice
      igDealId := if dealId = "" then none else some dealId
      igDealReference := dealReference
      strategy := signal.strategyName
      openedAt
      confidenceScore := signal.confidence }
  regime := "unknown"
  context :=
    some
      { indicators := learningIndicators signal
        regime := regimeOf signal
        confidence := signal.confidence }

/-- The trade is the row that the execution of the signal inserts. -/
theorem insert_open_trade_row (script : PersistOpenScript) (signal : AnalyzedSignal)
    (entryPrice : ℚ) (dealId : String) (dealReference : Option String)
    (stopLoss takeProfit openedAt : ℚ) (database : Database) :
    (insertOpenTrade script signal.toSignal entryPrice dealId dealReference stopLoss takeProfit
        openedAt database).2.trades =
      (openTradeRows signal script.tradeId entryPrice dealId dealReference openedAt).trade ::
        database.trades := rfl

/-- A closed trade as it is fed to the analyzer. -/
def closedTrade (rows : TradeRows) (pnl exitPrice : ℚ) (reason exitReason : Option String) :
    ClosedTrade where
  tradeId := rows.trade.id
  regime :=
    (orText (orText (some rows.regime) (rows.context.map (·.regime))) (some "unknown")).getD ""
  strategy := rows.trade.strategy
  indicators := match rows.context with
    | some context => context.indicators
    | none => fun _ => none
  confidenceAtEntry :=
    if rows.trade.confidenceScore ≠ 0 then rows.trade.confidenceScore
    else (rows.context.map (·.confidence)).getD 0
  exitReason := (orText (orText reason exitReason) (some "broker_close")).getD ""
  pnl := pnl
  entryConditions :=
    { direction := if rows.trade.direction ∈ ["LONG", "BUY"] then "up" else "down"
      instrument := rows.trade.instrument
      entryPrice := rows.trade.entryPrice
      exitPrice
      size := rows.trade.size }

/-- What the loop takes for the outcome at the market of a losing trade. -/
def lossOutcome (trade : ClosedTrade) : MarketOutcome where
  actualDirection := if trade.entryConditions.direction = "up" then "down" else "up"
  volatilityRealized :=
    if trade.entryConditions.entryPrice ≠ 0 then
      |trade.entryConditions.exitPrice - trade.entryConditions.entryPrice| /
        |trade.entryConditions.entryPrice|
    else 0
  regimeActual := trade.regime
  breakoutConfirmed := true
  timingOptimal := false

/-- The closed trade of an outcome. -/
def closedTradeOf (outcome : Outcome) : ClosedTrade :=
  closedTrade
    (openTradeRows outcome.signal outcome.tradeId outcome.entryPrice outcome.dealId
      outcome.dealReference outcome.openedAt)
    outcome.pnl outcome.exitPrice outcome.reason outcome.exitReason

/-- The record of an outcome, if it is a loss. -/
def mistakeOf (outcome : Outcome) : MistakeRecord :=
  let trade := closedTradeOf outcome
  MistakeAnalyzer.recordMistake trade (MistakeAnalyzer.classifyMistake trade (lossOutcome trade))
    outcome.now

/-- Feed a closed trade to mistake learning and to pattern resolution. -/
def recordLearningOutcome (outcome : Outcome) : LearningProgram Unit :=
  if outcome.pnl < 0 then do
    MistakeAnalyzer.storeRecord outcome.stored (mistakeOf outcome)
    MistakeAnalyzer.detectPatterns outcome.detection
  else MistakeAnalyzer.updateResolutionProgress outcome.saved (closedTradeOf outcome)

/-- A prospective signal as it is compared with patterns. -/
def learningSignal (signal : AnalyzedSignal) : TradeSignal :=
  ⟨regimeOf signal, signal.strategyName, learningIndicators signal⟩

/-- What the analyzer answers for a prospective signal. -/
def analyzerPenalties (memory : MistakeMemory) (signal : AnalyzedSignal) : ℤ × ℚ :=
  (MistakeAnalyzer.getConfidencePenalty memory (learningSignal signal),
    MistakeAnalyzer.getSizeReductionFactor memory (learningSignal signal))

/-- One event. -/
def learn (memory : MistakeMemory) : LearningEvent → MistakeMemory
  | .closed outcome => (recordLearningOutcome outcome memory).2
  | .restarted loaded => MistakeAnalyzer.loadPatternsOnStartup loaded memory

end TradingLoop

end IgTradingBot
