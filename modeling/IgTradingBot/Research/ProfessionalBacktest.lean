import IgTradingBot.Research.ModelBacktest
import Mathlib.Algebra.Order.Floor.Ring

/-!
# Professional backtest

The simulator of `src/research/professional_backtest.py` on five-minute bars. What the strategy decides
at a bar is a function of the bar's place, and so are the series that make a bar eligible: the loop
asks for each at most once. A number of a series may be missing. A position is closed in parts, and
every part that is booked is noted with its fraction and its price.
-/

namespace IgTradingBot

/-- What the strategy decides at a bar. -/
structure StrategyDecision where
  action : String := "SKIP"
  reason : String := ""
  session : String := ""
  entryPrice : Option ℚ := none
  stopPrice : Option ℚ := none
  tp1Price : Option ℚ := none
  targetPrice : Option ℚ := none
  riskDistance : Option ℚ := none
  riskPerTrade : ℚ := 0
  partialCloseFraction : ℚ := 1 / 2
  deriving DecidableEq, Repr

/-- A five-minute bar. -/
structure FiveMinuteBar where
  timestamp : ℚ
  openPrice : ℚ
  high : ℚ
  low : ℚ
  close : ℚ
  deriving DecidableEq, Repr

/-- What the precomputed series say of a bar. -/
structure Eligibility where
  atr : Option ℚ
  lowerAtr : Option ℚ
  upperAtr : Option ℚ
  bias : String
  recentBullishSweep : Bool
  recentBearishSweep : Bool
  close : Option ℚ
  deriving DecidableEq, Repr

/-- The settings of the strategy that the precheck reads. -/
structure ProfessionalStrategyConfig where
  maxSpreadAtrRatio : ℚ := 2 / 10
  minAtrPct : ℚ := 2 / 10000
  maxAtrPct : ℚ := 3 / 1000
  deriving DecidableEq, Repr

/-- Event-driven backtest on five-minute bars. -/
structure ProfessionalBacktester where
  config : ProfessionalStrategyConfig := {}
  initialEquity : ℚ := 20000
  spreadPips : ℚ := 1
  slippagePips : ℚ := 3 / 10
  commissionPerLot : ℚ := 0
  maxDailyTrades : ℤ := 3
  maxDailyLoss : ℚ := 1 / 100
  maxLeverage : ℚ := 20
  deriving DecidableEq, Repr

/-- A part of a position that was closed. -/
structure BookedExit where
  fraction : ℚ
  price : ℚ
  deriving DecidableEq, Repr

/-- A recorded trade, with the places of its bars, its units and the parts that were closed. -/
structure ProfessionalTrade where
  entryIndex : ℕ
  exitIndex : ℕ
  units : ℚ
  exits : List BookedExit
  side : ModelDirection
  session : String
  direction : String
  entryTime : ℚ
  exitTime : ℚ
  entryPrice : ℚ
  stopPrice : ℚ
  tp1Price : ℚ
  targetPrice : ℚ
  exitPrice : ℚ
  pnl : ℚ
  rMultiple : ℚ
  partialTaken : Bool
  exitReason : String
  deriving DecidableEq, Repr

/-- A position that is opened. -/
structure SimulatedPosition where
  decision : StrategyDecision
  direction : ModelDirection
  entryIndex : ℕ
  entryTime : ℚ
  entry : ℚ
  stop : ℚ
  tp1 : ℚ
  target : ℚ
  riskCash : ℚ
  units : ℚ
  exitCost : ℚ
  deriving DecidableEq, Repr

/-- What is left of a position, and what was realized. -/
structure Holding where
  remaining : ℚ := 1
  realized : ℚ := 0
  partialTaken : Bool := false
  stop : ℚ
  exits : List BookedExit := []
  deriving DecidableEq, Repr

/-- How a position ended. -/
structure PositionEnd where
  holding : Holding
  exitPrice : ℚ
  exitReason : String
  exitIndex : ℕ
  deriving DecidableEq, Repr

/-- State of the simulation. -/
structure ProfessionalSimulation where
  equity : ℚ
  curve : List ℚ
  rejected : AList (fun _ : String => ℕ) := ∅
  trades : List ProfessionalTrade := []
  cursor : ℕ
  dailyPnl : AList (fun _ : ℤ => ℚ) := ∅
  dailyTrades : AList (fun _ : ℤ => ℕ) := ∅

namespace StrategyDecision

/-- The strategy wants to trade. -/
def shouldTrade (decision : StrategyDecision) : Bool :=
  decision.action = "BUY" || decision.action = "SELL"

end StrategyDecision

namespace SimulatedPosition

variable (position : SimulatedPosition)

/-- A stop is reached in a bar. -/
def stopHit (stop : ℚ) (bar : FiveMinuteBar) : Bool :=
  match position.direction with
  | .long => bar.low ≤ stop
  | .short => stop ≤ bar.high

/-- A level of profit is reached in a bar. -/
def profitHit (level : ℚ) (bar : FiveMinuteBar) : Bool :=
  match position.direction with
  | .long => level ≤ bar.high
  | .short => bar.low ≤ level

/-- The price at which a level is left. -/
def exitAt (level : ℚ) : ℚ := level - position.direction.sign * position.exitCost

/-- A part of the position is closed at a price. -/
def book (holding : Holding) (price fraction : ℚ) : Holding :=
  { holding with
    realized := holding.realized +
      position.direction.sign * (price - position.entry) * position.units * fraction
    exits := holding.exits ++ [⟨fraction, price⟩] }

/-- The first target closes a part, once, and moves the stop to the entry. -/
def takePartial (holding : Holding) (bar : FiveMinuteBar) : Holding :=
  if position.profitHit position.tp1 bar && !holding.partialTaken then
    { position.book holding (position.exitAt position.tp1) position.decision.partialCloseFraction with
      remaining := holding.remaining - position.decision.partialCloseFraction
      partialTaken := true
      stop := position.entry }
  else holding

/-- The position is held from bar to bar until its stop or its target is reached, or the data ends. -/
def hold (holding : Holding) (future : ℕ) : List FiveMinuteBar → PositionEnd
  | [] => ⟨holding, position.entry, "data_end", position.entryIndex⟩
  | bar :: rest =>
    if position.stopHit holding.stop bar then
      let price := position.exitAt holding.stop
      ⟨position.book holding price holding.remaining, price,
        if holding.partialTaken then "breakeven" else "stop", future⟩
    else
      let kept := position.takePartial holding bar
      if position.profitHit position.target bar then
        let price := position.exitAt position.target
        ⟨position.book kept price kept.remaining, price, "target", future⟩
      else hold kept (future + 1) rest

/-- How the position ends on the bars from its entry on. -/
def result (five : List FiveMinuteBar) : PositionEnd :=
  position.hold { stop := position.stop } position.entryIndex (five.drop position.entryIndex)

end SimulatedPosition

namespace ProfessionalBacktester

variable (backtester : ProfessionalBacktester)

/-- Size of a pip of a pair. -/
def pipOf (pair : String) : ℚ := if pair.endsWith "JPY" then 1 / 100 else 1 / 10000

/-- The bar at a place. -/
def barAt (five : List FiveMinuteBar) (index : ℕ) : Except ResearchFailure FiveMinuteBar :=
  match five[index]? with
  | some bar => .ok bar
  | none => .error .indexError

/-- The day of a time, from the epoch. -/
def dayOf (timestamp : ℚ) : ℤ := ⌊timestamp / 86400⌋

/-- The day of the week of a time, from Monday on. The epoch is on a Thursday. -/
def weekday (timestamp : ℚ) : ℤ := (dayOf timestamp + 3) % 7

/-- The hour of a time. -/
def hour (timestamp : ℚ) : ℤ := ⌊timestamp / 3600⌋ % 24

/-- The true range relative to the close. -/
def atrPct (eligible : Eligibility) : Option ℚ :=
  match eligible.close with
  | some close => if close = 0 then some 0 else eligible.atr.map (· / close)
  | none => none

/-- Why a bar is not eligible. A missing number is never within bounds. -/
def precheckReason (timestamp spread : ℚ) (eligible : Eligibility) : Option String :=
  if 5 ≤ weekday timestamp then some "weekend"
  else if ¬(7 ≤ hour timestamp ∧ hour timestamp < 20) then some "outside_approved_fx_sessions"
  else if ¬(atrPct eligible).any fun pct =>
      backtester.config.minAtrPct ≤ pct && pct ≤ backtester.config.maxAtrPct then
    some "abnormal_atr_regime"
  else if ¬eligible.atr.any fun atr =>
      0 < atr && spread / atr ≤ backtester.config.maxSpreadAtrRatio then
    some "spread_too_large_relative_to_atr"
  else if ¬eligible.atr.any fun atr => eligible.lowerAtr.any fun lower =>
      eligible.upperAtr.any fun upper => lower ≤ atr && atr ≤ upper then
    some "abnormal_volatility_regime"
  else if eligible.bias = "NEUTRAL" then some "neutral_higher_timeframe_bias"
  else if ¬(if eligible.bias = "BULLISH" then eligible.recentBullishSweep
      else eligible.recentBearishSweep) then
    some "no_recent_liquidity_sweep"
  else none

section Run

variable (pair : String) (five : List FiveMinuteBar) (eligibility : ℕ → Eligibility)
  (evaluate : ℕ → StrategyDecision)

/-- The spread of a pair. -/
def spread : ℚ := backtester.spreadPips * pipOf pair

/-- Half the spread and the slippage, which every fill pays. -/
def fillCost : ℚ := backtester.spread pair / 2 + backtester.slippagePips * pipOf pair

/-- The position that a decision opens at the next bar. -/
def openPosition (state : ProfessionalSimulation) (decision : StrategyDecision) :
    Except ResearchFailure SimulatedPosition :=
  match decision.entryPrice, decision.stopPrice, decision.tp1Price, decision.targetPrice,
      decision.riskDistance with
  | some entryPrice, some _, some _, some targetPrice, some stopOffset => do
    let direction : ModelDirection := if decision.action = "BUY" then .long else .short
    let bar ← barAt five (state.cursor + 1)
    let cost := backtester.fillCost pair
    let entry := bar.openPrice + direction.sign * cost
    let riskCash := state.equity * decision.riskPerTrade
    let riskUnits ← ModelBacktest.divide riskCash stopOffset
    let maxUnits ← ModelBacktest.divide (state.equity * backtester.maxLeverage) entry
    pure {
      decision
      direction
      entryIndex := state.cursor + 1
      entryTime := bar.timestamp
      entry
      stop := entry - direction.sign * stopOffset
      tp1 := entry + direction.sign * stopOffset
      target := entry + direction.sign * |targetPrice - entryPrice|
      riskCash
      units := min riskUnits maxUnits
      exitCost := cost }
  | _, _, _, _, _ => .error .assertionError

/-- What the loop does at a bar: it names the reason to pass the bar over, or opens a position. -/
def consider (state : ProfessionalSimulation) :
    Except ResearchFailure (String ⊕ SimulatedPosition) := do
  let bar ← barAt five state.cursor
  let day := dayOf bar.timestamp
  if backtester.maxDailyTrades ≤ (state.dailyTrades.lookup day).getD 0 then
    pure (.inl "daily_trade_cap")
  else if (state.dailyPnl.lookup day).getD 0 ≤ -state.equity * backtester.maxDailyLoss then
    pure (.inl "daily_loss_cap")
  else
    match backtester.precheckReason bar.timestamp (backtester.spread pair)
        (eligibility state.cursor) with
    | some reason => pure (.inl reason)
    | none =>
      let decision := evaluate state.cursor
      if decision.shouldTrade then do
        let position ← backtester.openPosition pair five state decision
        pure (.inr position)
      else pure (.inl decision.reason)

/-- A bar is passed over, and its reason counted. -/
def reject (state : ProfessionalSimulation) (reason : String) : ProfessionalSimulation :=
  { state with
    rejected := state.rejected.insert reason ((state.rejected.lookup reason).getD 0 + 1)
    cursor := state.cursor + 1 }

/-- The trade that is recorded of a position. -/
def recordedTrade (position : SimulatedPosition) (ended : PositionEnd) (exitTime : ℚ) :
    ProfessionalTrade :=
  let pnl := ended.holding.realized - backtester.commissionPerLot * (position.units / 100000)
  { entryIndex := position.entryIndex
    exitIndex := ended.exitIndex
    units := position.units
    exits := ended.holding.exits
    side := position.direction
    session := position.decision.session
    direction := position.decision.action
    entryTime := position.entryTime
    exitTime
    entryPrice := position.entry
    stopPrice := ended.holding.stop
    tp1Price := position.tp1
    targetPrice := position.target
    exitPrice := ended.exitPrice
    pnl
    rMultiple := if position.riskCash = 0 then 0 else pnl / position.riskCash
    partialTaken := ended.holding.partialTaken
    exitReason := ended.exitReason }

/-- The position is held until it ends, and recorded on the day of its signal. -/
def recordTrade (state : ProfessionalSimulation) (position : SimulatedPosition) :
    Except ResearchFailure ProfessionalSimulation := do
  let bar ← barAt five state.cursor
  let day := dayOf bar.timestamp
  let ended := position.result five
  let exitBar ← barAt five ended.exitIndex
  let trade := backtester.recordedTrade position ended exitBar.timestamp
  let equity := state.equity + ended.holding.realized -
    backtester.commissionPerLot * (position.units / 100000)
  pure { state with
    equity
    curve := state.curve ++ [equity]
    dailyPnl := state.dailyPnl.insert day ((state.dailyPnl.lookup day).getD 0 + trade.pnl)
    dailyTrades := state.dailyTrades.insert day ((state.dailyTrades.lookup day).getD 0 + 1)
    trades := state.trades ++ [trade]
    cursor := max (state.cursor + 1) (ended.exitIndex + 1) }

/-- One pass of the loop. -/
def pass (state : ProfessionalSimulation) : Except ResearchFailure ProfessionalSimulation := do
  match ← backtester.consider pair five eligibility evaluate state with
  | .inl reason => pure (reject state reason)
  | .inr position => backtester.recordTrade five state position

/-- Where the loop ends. -/
def finalCursor (endFraction : ℚ) : ℤ := min (five.length - 2) ⌊five.length * endFraction⌋₊

/-- The state before the first bar. -/
def start (startFraction : ℚ) : ProfessionalSimulation where
  equity := backtester.initialEquity
  curve := [backtester.initialEquity]
  cursor := max 80 ⌊five.length * startFraction⌋₊

/-- The loop goes on before its last bar. -/
def hasNext (endFraction : ℚ) (state : ProfessionalSimulation) : Bool :=
  (state.cursor : ℤ) < finalCursor five endFraction

/-- Simulate the trades of a pair. Every pass goes on to a later bar, so that there are at most as many
as bars. -/
def run (startFraction endFraction : ℚ) : Except ResearchFailure ProfessionalSimulation :=
  Loops.runWhile (hasNext five endFraction) (backtester.pass pair five eligibility evaluate)
    (five.length + 1) (backtester.start five startFraction)

end Run

end ProfessionalBacktester

end IgTradingBot
