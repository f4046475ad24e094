import IgTradingBot.Library.Decimals
import IgTradingBot.Loop.World
import IgTradingBot.Strategy.CandleBuffer

/-!
# Liquidity sweep

`_analyze_liquidity_sweep_1m` of the trading loop. A close outside the range of the previous
day is awaited, then a candle against the break, then a candle that goes beyond that one.
The state machine remembers the time of the candle it has processed last, and every call
processes the closed candles of the current day behind it. Only the latest closed candle
can make a signal.
-/

namespace IgTradingBot

/-- States of the detection. -/
inductive SweepPhase where
  | waitBreak
  | waitBuySignal
  | waitSellSignal
  | buyReady
  | sellReady
  deriving DecidableEq, Repr

/-- What is remembered of an instrument; a day is a number of days since the epoch. -/
structure LiquiditySweepState where
  phase : SweepPhase := .waitBreak
  day : Option ℤ := none
  lastCandleTime : Option ℚ := none
  signalHigh : Option ℚ := none
  signalLow : Option ℚ := none
  slLevel : Option ℚ := none
  tpLevel : Option ℚ := none
  deriving DecidableEq, Repr

/-- High and low of a day. -/
structure DailyRange where
  high : ℚ
  low : ℚ
  deriving DecidableEq, Repr

/-- A candle went beyond the signal candle: direction and levels of the entry. -/
structure SweepCrossing where
  direction : String
  slLevel : Option ℚ
  tpLevel : Option ℚ
  deriving DecidableEq, Repr

/-- The signal of the strategy. -/
structure SweepSignal where
  epic : String
  direction : String
  currentPrice : ℚ
  stopDistance : ℚ
  limitDistance : ℚ
  atr : ℚ
  confidence : ℤ := 65
  rrRatio : ℚ
  riskPerTrade : ℚ := 2 / 1000
  strategyName : String := "liquidity_sweep_1m"
  previousDailyHigh : ℚ
  previousDailyLow : ℚ
  slLevel : ℚ
  tpLevel : ℚ
  deriving DecidableEq, Repr

/-- The decisions that are recorded, with the reasons of the source. -/
inductive SweepDecision where
  /-- "insufficient_1m_data" -/
  | insufficientData
  /-- "no_recent_spread_snapshot" -/
  | noSnapshot
  /-- "missing_previous_daily_range" -/
  | missingRange
  /-- "invalid_sl_tp_distance" -/
  | invalidDistance (currentPrice slLevel tpLevel : ℚ)
  /-- the phase in lower case -/
  | waiting (phase : SweepPhase) (range : DailyRange)
  /-- "entry_triggered" -/
  | entryTriggered (direction : String) (range : DailyRange)
  deriving DecidableEq, Repr

/-- What one call leaves: the state, the signal with the candle that triggered it, and the
recorded decisions, in their order. -/
structure SweepOutcome where
  state : LiquiditySweepState
  signal : Option SweepSignal := none
  trigger : Option Candle := none
  decisions : List SweepDecision := []
  deriving DecidableEq, Repr

namespace LiquiditySweep

/-- UTC day of a candle. -/
def dayOf (candle : Candle) : ℤ := utcDay candle.time

/-- Range of the last day before a day. -/
def previousDailyRange (candles : List Candle) (day : ℤ) : Option DailyRange := do
  let previous ← ((candles.map dayOf).filter (· < day)).max?
  let ofPrevious := candles.filter (dayOf · = previous)
  let high ← (ofPrevious.map (·.high)).max?
  let low ← (ofPrevious.map (·.low)).min?
  pure ⟨high, low⟩

/-- A close outside the range. -/
def awaitBreak (range : DailyRange) (state : LiquiditySweepState) (candle : Candle) :
    LiquiditySweepState :=
  if state.phase = .waitBreak then
    if candle.close < range.low then { state with phase := .waitBuySignal }
    else if range.high < candle.close then { state with phase := .waitSellSignal }
    else state
  else state

/-- A green candle after a break to the low side. -/
def armBuy (range : DailyRange) (state : LiquiditySweepState) (candle : Candle) :
    LiquiditySweepState :=
  if state.phase = .waitBuySignal ∧ candle.openPrice < candle.close then
    { state with
        phase := .buyReady
        signalHigh := some candle.high
        slLevel := some candle.low
        tpLevel := some range.high }
  else state

/-- A red candle after a break to the high side. -/
def armSell (range : DailyRange) (state : LiquiditySweepState) (candle : Candle) :
    LiquiditySweepState :=
  if state.phase = .waitSellSignal ∧ candle.close < candle.openPrice then
    { state with
        phase := .sellReady
        signalLow := some candle.low
        slLevel := some candle.high
        tpLevel := some range.low }
  else state

/-- A candle above the signal candle completes a buy; a red one that is not takes back the
readiness. -/
def fireBuy (state : LiquiditySweepState) (candle : Candle) :
    LiquiditySweepState × Option SweepCrossing :=
  if state.phase = .buyReady then
    if ∃ signalHigh ∈ state.signalHigh, signalHigh < candle.high then
      ({ state with phase := .waitBreak, signalHigh := none, slLevel := none, tpLevel := none },
        some ⟨"BUY", state.slLevel, state.tpLevel⟩)
    else if candle.close < candle.openPrice then ({ state with phase := .waitBuySignal }, none)
    else (state, none)
  else (state, none)

/-- A candle below the signal candle completes a sell; a green one that is not takes back the
readiness. -/
def fireSell (state : LiquiditySweepState) (candle : Candle) :
    LiquiditySweepState × Option SweepCrossing :=
  if state.phase = .sellReady then
    if ∃ signalLow ∈ state.signalLow, candle.low < signalLow then
      ({ state with phase := .waitBreak, signalLow := none, slLevel := none, tpLevel := none },
        some ⟨"SELL", state.slLevel, state.tpLevel⟩)
    else if candle.openPrice < candle.close then ({ state with phase := .waitSellSignal }, none)
    else (state, none)
  else (state, none)

/-- One candle, through the checks in the order of the source. -/
def processCandle (range : DailyRange) (state : LiquiditySweepState) (candle : Candle) :
    LiquiditySweepState × Option SweepCrossing :=
  let broken := awaitBreak range state candle
  let armed := armSell range (armBuy range broken candle) candle
  let bought := fireBuy armed candle
  let sold := fireSell bought.1 candle
  ({ sold.1 with lastCandleTime := some candle.time }, sold.2.or bought.2)

/-- True range of a candle after another one. -/
def trueRange (previous candle : Candle) : ℚ :=
  max (candle.high - candle.low)
    (max |candle.high - previous.close| |candle.low - previous.close|)

/-- Average true range of the last fourteen candles, at least the fallback. -/
def calculateAtr (candles : List Candle) (fallback : ℚ) : ℚ :=
  let trueRanges := List.zipWith trueRange candles candles.tail
  let sample := trueRanges.drop (trueRanges.length - 14)
  if sample = [] then fallback else max (sample.sum / sample.length) fallback

/-- The signal of a crossing, when its levels lie on the right sides of the price. -/
def buildSignal (epic : String) (crossing : SweepCrossing) (currentPrice : ℚ)
    (candles : List Candle) (range : DailyRange) : Option SweepSignal × List SweepDecision :=
  match crossing.slLevel, crossing.tpLevel with
  | some slLevel, some tpLevel =>
    if currentPrice ≤ 0 then (none, [])
    else
      let buys := crossing.direction = "BUY"
      let stopDistance := if buys then currentPrice - slLevel else slLevel - currentPrice
      let limitDistance := if buys then tpLevel - currentPrice else currentPrice - tpLevel
      if stopDistance ≤ 0 ∨ limitDistance ≤ 0 then
        (none, [.invalidDistance currentPrice slLevel tpLevel])
      else
        (some
          { epic
            direction := crossing.direction
            currentPrice
            stopDistance := Decimals.quantizeHalfEven 6 stopDistance
            limitDistance := Decimals.quantizeHalfEven 6 limitDistance
            atr := calculateAtr candles (currentPrice * (5 / 10000))
            rrRatio := Decimals.quantizeHalfEven 2 (limitDistance / stopDistance)
            previousDailyHigh := range.high
            previousDailyLow := range.low
            slLevel
            tpLevel }, [])
  | _, _ => (none, [])

/-- One candle of a call. A crossing by the latest closed candle makes the signal. -/
def sweepCandle (epic : String) (candles : List Candle) (snapshot : Snapshot) (latest : Candle)
    (range : DailyRange) (progress : SweepOutcome) (candle : Candle) : SweepOutcome :=
  match processCandle range progress.state candle with
  | (state, some crossing) =>
    if candle.time = latest.time then
      let built := buildSignal epic crossing ((snapshot.bid + snapshot.offer) / 2) candles range
      { state, signal := built.1, trigger := some candle, decisions := progress.decisions ++ built.2 }
    else { progress with state }
  | (state, none) => { progress with state }

/-- The state with which a call on a day begins: a new day starts afresh. -/
def resumedState (day : ℤ) (state : LiquiditySweepState) : LiquiditySweepState :=
  if state.day = some day then state else { day := some day }

/-- Candles of a day behind the last processed one. -/
def pendingCandles (day : ℤ) (state : LiquiditySweepState) (candles : List Candle) : List Candle :=
  Cursors.behind (·.time) state.lastCandleTime (candles.filter (dayOf · = day))

/-- The record of the decision at the end of a call. -/
def decided (range : DailyRange) (progress : SweepOutcome) : SweepOutcome :=
  { progress with
      decisions := progress.decisions ++
        match progress.signal with
        | none => [.waiting progress.state.phase range]
        | some signal => [.entryTriggered signal.direction range] }

/-- Analyze the closed candles of an instrument. -/
def analyze (epic : String) (candles : List Candle) (snapshot : Option Snapshot)
    (state : LiquiditySweepState) : SweepOutcome :=
  if candles.length < CandleBuffer.minCandlesForStrategy then
    { state, decisions := [.insufficientData] }
  else
    match snapshot, candles.getLast? with
    | some snapshot, some latest =>
      match previousDailyRange candles (dayOf latest) with
      | none => { state, decisions := [.missingRange] }
      | some range =>
        let resumed := resumedState (dayOf latest) state
        decided range
          ((pendingCandles (dayOf latest) resumed candles).foldl
            (sweepCandle epic candles snapshot latest range) { state := resumed })
    | _, _ => { state, decisions := [.noSnapshot] }

end LiquiditySweep

end IgTradingBot
