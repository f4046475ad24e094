import IgTradingBot.Library.Percentiles
import IgTradingBot.Library.WeightedMeans
import IgTradingBot.Strategy.FinalTargets

/-!
# Entry conditions

What the professional strategy asks for before it trades: an hour at which the market is liquid, no
event of high impact nearby, a bias of the higher timeframes, a sweep of liquidity that was reclaimed,
a break of the structure after it, a usual range, and a last candle that leaves the zone.

A filter of news lets trades pass without a calendar only in the execution mode that its own mode is
for, so that it never does in live trading. No other filter can be built.

Every detector that is asked for the opposite direction on mirrored bars answers with the mirrored
find: highs and lows change places, and so do buyers and sellers.
-/

namespace IgTradingBot

open WeightedMeans Percentiles

/-! ## Sessions -/

/-- What is said of the session of a time. -/
structure SessionDecision where
  allowed : Bool
  session : String
  reason : String
  deriving DecidableEq, Repr

/-- The session of a time, if it is one of the liquid ones. -/
def SessionFilter.evaluate (timestamp : ℚ) : SessionDecision :=
  if 5 ≤ ProfessionalBacktester.weekday timestamp then ⟨false, "CLOSED", "weekend"⟩
  else
    let hour := ProfessionalBacktester.hour timestamp
    if 7 ≤ hour ∧ hour < 12 then ⟨true, "LONDON", "liquid_session"⟩
    else if 12 ≤ hour ∧ hour < 17 then ⟨true, "OVERLAP", "london_new_york_overlap"⟩
    else if 17 ≤ hour ∧ hour < 20 then ⟨true, "NEW_YORK", "liquid_session"⟩
    else ⟨false, "OFF_HOURS", "outside_approved_fx_sessions"⟩

/-! ## News -/

/-- What a filter of news does without a calendar. -/
inductive NewsFilterMode where
  | failClosed
  | researchAllowWithWarning
  | demoAllowWithWarning
  deriving DecidableEq, Repr

/-- An event of the calendar. -/
structure NewsEvent where
  timestamp : ℚ
  currencies : List String
  impact : String
  title : String := ""
  deriving DecidableEq, Repr

/-- What is said of the news around a time. -/
structure NewsDecision where
  allowed : Bool
  available : Bool
  reason : String
  blockingEvent : Option String := none
  deriving DecidableEq, Repr

/-- High-impact event proximity filter, with how a text is written in capital letters. Only live
trading, research and the demo mode have modes of their own. -/
structure NewsFilter where
  window : ℚ
  mode : NewsFilterMode
  executionMode : String
  upper : String → String
  live : executionMode = "LIVE" → mode = .failClosed
  research : mode = .researchAllowWithWarning →
    executionMode = "BACKTEST" ∨ executionMode = "RESEARCH"
  demo : mode = .demoAllowWithWarning → executionMode = "DEMO"

/-- The mode of a name. -/
def NewsFilterMode.ofName (name : String) : Except String NewsFilterMode :=
  if name = "FAIL_CLOSED" then .ok .failClosed
  else if name = "RESEARCH_ALLOW_WITH_WARNING" then .ok .researchAllowWithWarning
  else if name = "DEMO_ALLOW_WITH_WARNING" then .ok .demoAllowWithWarning
  else .error s!"'{name}' is not a valid NewsFilterMode"

namespace NewsFilter

/-- The mode that is asked for: by an older switch, if it is given, and else by name or as it is. -/
def chosenMode (mode : NewsFilterMode ⊕ String) :
    Option Bool → Except String NewsFilterMode
  | some true => .ok .failClosed
  | some false => .ok .researchAllowWithWarning
  | none => match mode with
    | .inl mode => .ok mode
    | .inr name => NewsFilterMode.ofName name

/-- A filter is built where its mode is one of the execution mode. -/
def create (upper : String → String) (windowMinutes : ℤ) (mode : NewsFilterMode ⊕ String)
    (executionMode : String) (failClosed : Option Bool) : Except String NewsFilter := do
  let mode ← chosenMode mode failClosed
  if live : upper executionMode = "LIVE" ∧ mode ≠ .failClosed then
    .error "Live trading must use FAIL_CLOSED news filtering"
  else if research : mode = .researchAllowWithWarning ∧
      ¬(upper executionMode = "BACKTEST" ∨ upper executionMode = "RESEARCH") then
    .error "RESEARCH_ALLOW_WITH_WARNING is restricted to backtest/research mode"
  else if demo : mode = .demoAllowWithWarning ∧ upper executionMode ≠ "DEMO" then
    .error "DEMO_ALLOW_WITH_WARNING is restricted to demo mode"
  else
    .ok {
      window := windowMinutes * 60
      mode
      executionMode := upper executionMode
      upper
      live := fun trading => not_not.mp fun other => live ⟨trading, other⟩
      research := fun chosen => not_not.mp fun other => research ⟨chosen, other⟩
      demo := fun chosen => not_not.mp fun other => demo ⟨chosen, other⟩ }

variable (self : NewsFilter)

/-- The two currencies of a pair. -/
def currenciesOf (pair : String) : List String :=
  [String.ofList (pair.toList.take 3), String.ofList ((pair.toList.drop 3).take 3)]

/-- An event of high impact for a currency of the pair is nearby. -/
def Blocks (pair : String) (timestamp : ℚ) (event : NewsEvent) : Prop :=
  self.upper event.impact = "HIGH" ∧ (∃ currency ∈ currenciesOf pair, currency ∈ event.currencies) ∧
    |event.timestamp - timestamp| ≤ self.window

instance (pair : String) (timestamp : ℚ) : DecidablePred (self.Blocks pair timestamp) :=
  fun _ => inferInstanceAs (Decidable (_ ∧ _ ∧ _))

/-- The decision on the news around a time, with the calendar if there is one. -/
def evaluate (pair : String) (timestamp : ℚ) : Option (List NewsEvent) → NewsDecision
  | none => match self.mode with
    | .failClosed => { allowed := false, available := false, reason := "news_calendar_unavailable" }
    | .researchAllowWithWarning =>
      { allowed := true
        available := false
        reason := "news filter unavailable; research-only override active" }
    | .demoAllowWithWarning =>
      { allowed := true
        available := false
        reason := "news filter unavailable; demo-only override active" }
  | some events => match events.find? fun event => decide (self.Blocks pair timestamp event) with
    | some event => ⟨false, true, "high_impact_news_window", some event.title⟩
    | none => { allowed := true, available := true, reason := "no_nearby_high_impact_news" }

end NewsFilter

/-! ## Trend -/

/-- Bias of the higher timeframes. -/
structure TrendBias where
  direction : MarketBias
  timeframe : String
  fastEma : ℚ
  slowEma : ℚ
  strength : ℚ
  reason : String
  deriving DecidableEq, Repr

/-- Determine bias from 4H first, then 1H when 4H is unavailable. The span of an average is at least
one. -/
structure HigherTimeframeTrend where
  fastPeriod : ℕ := 20
  slowPeriod : ℕ := 50
  spans : 0 < fastPeriod ∧ 0 < slowPeriod := by decide

/-- An item of a series, counted from the end. -/
def fromEnd (series : List ℚ) (place : ℕ) : ℚ := series.reverse[place]?.getD 0

/-- Exponential averages of a span. -/
def emaOf (span : ℕ) (values : List ℚ) : List ℚ := smoothed (2 / ((span : ℚ) + 1)) values

namespace HigherTimeframeTrend

variable (self : HigherTimeframeTrend)

/-- The bias of a timeframe. -/
def biasOf (timeframe : String) (frame : List FiveMinuteBar) : TrendBias :=
  let close := frame.map FiveMinuteBar.close
  let fast := emaOf self.fastPeriod close
  let slow := emaOf self.slowPeriod close
  let currentFast := fromEnd fast 0
  let currentSlow := fromEnd slow 0
  let slope := currentSlow - fromEnd slow 2
  { direction :=
      if currentSlow < currentFast ∧ 0 < slope then .bullish
      else if currentFast < currentSlow ∧ slope < 0 then .bearish
      else .neutral
    timeframe
    fastEma := currentFast
    slowEma := currentSlow
    strength := |currentFast - currentSlow| / max |currentSlow| (1 / 10 ^ 12)
    reason := s!"{timeframe} EMA{self.fastPeriod}/EMA{self.slowPeriod} with slope" }

/-- The bias of the first timeframe with enough bars. -/
def detect (fourHour oneHour : List FiveMinuteBar) : TrendBias :=
  if self.slowPeriod + 3 ≤ fourHour.length then self.biasOf "4H" fourHour
  else if self.slowPeriod + 3 ≤ oneHour.length then self.biasOf "1H" oneHour
  else ⟨.neutral, "NONE", 0, 0, 0, "insufficient_higher_timeframe_data"⟩

end HigherTimeframeTrend

/-! ## Sweep and structure -/

/-- The bars before an index, as many as are asked for. -/
def barsBefore (count index : ℕ) (frame : List FiveMinuteBar) : List FiveMinuteBar :=
  (frame.drop (index - count)).take count

/-- A sweep of liquidity. -/
structure DetectedSweep where
  detected : Bool
  direction : MarketBias
  level : Option ℚ
  extreme : Option ℚ
  barIndex : Option ℕ
  reason : String
  deriving DecidableEq, Repr

/-- Liquidity sweep detection. -/
structure LiquiditySweepDetector where
  liquidityLookback : ℕ := 20
  searchBars : ℕ := 8
  deriving DecidableEq, Repr

namespace LiquiditySweepDetector

variable (self : LiquiditySweepDetector)

/-- The level that the bar of an index takes and gives back, with the extreme of the bar. -/
def sweepAt (frame : List FiveMinuteBar) (direction : MarketBias) (index : ℕ) :
    Option (ℚ × ℚ) := do
  let history := barsBefore self.liquidityLookback index frame
  let bar ← frame[index]?
  match direction with
  | .bullish =>
    let level ← (history.map FiveMinuteBar.low).min?
    if bar.low < level ∧ level < bar.close then some (level, bar.low) else none
  | .bearish =>
    let level ← (history.map FiveMinuteBar.high).max?
    if level < bar.high ∧ bar.close < level then some (level, bar.high) else none
  | .neutral => none

/-- Why a sweep is one. -/
def sweepReason : MarketBias → String
  | .bullish => "sell_side_sweep_reclaimed"
  | _ => "buy_side_sweep_rejected"

/-- The first sweep among the last bars. -/
def detect (frame : List FiveMinuteBar) (direction : MarketBias) : DetectedSweep :=
  if frame.length < self.liquidityLookback + self.searchBars then
    ⟨false, direction, none, none, none, "insufficient_data"⟩
  else
    let start := frame.length - self.searchBars
    let found := (List.range' start self.searchBars).findSome? fun index =>
      (self.sweepAt frame direction index).map fun sweep => (index, sweep)
    match found with
    | some (index, level, extreme) =>
      ⟨true, direction, some level, some extreme, some index, sweepReason direction⟩
    | none => ⟨false, direction, none, none, none, "no_recent_liquidity_sweep"⟩

end LiquiditySweepDetector

/-- How a structure was broken. -/
inductive StructureEvent where
  | none
  | bos
  | choch
  deriving DecidableEq, Repr

/-- What is said of the structure of a frame. -/
structure StructureSignal where
  confirmed : Bool
  direction : MarketBias
  event : StructureEvent
  brokenLevel : Option ℚ
  reason : String
  deriving DecidableEq, Repr

/-- Causal BOS and CHoCH confirmation, by at least one bar before. -/
structure MarketStructureDetector where
  lookback : ℕ := 10
  positive : 0 < lookback := by decide

namespace MarketStructureDetector

variable (self : MarketStructureDetector)

/-- The level that the bar of an index closes beyond, with the kind of the break. -/
def breakAt (frame : List FiveMinuteBar) (direction : MarketBias) (index : ℕ) :
    Option (ℚ × StructureEvent) := do
  let history := barsBefore self.lookback index frame
  let bar ← frame[index]?
  let first ← history.head?
  let last ← history.getLast?
  let previousTrend := last.close - first.close
  match direction with
  | .bullish =>
    let level ← (history.map FiveMinuteBar.high).max?
    if level < bar.close then some (level, if previousTrend < 0 then .choch else .bos) else none
  | .bearish =>
    let level ← (history.map FiveMinuteBar.low).min?
    if bar.close < level then some (level, if 0 < previousTrend then .choch else .bos) else none
  | .neutral => none

/-- Why a break is one. -/
def breakReason : MarketBias → String
  | .bullish => "bullish_structure_break"
  | _ => "bearish_structure_break"

/-- The first break after a sweep. -/
def detect (frame : List FiveMinuteBar) (direction : MarketBias) (afterIndex : Option ℕ) :
    StructureSignal :=
  match afterIndex with
  | none => ⟨false, direction, .none, none, "missing_sweep_context"⟩
  | some afterIndex =>
    if frame.length < self.lookback + 2 then
      ⟨false, direction, .none, none, "missing_sweep_context"⟩
    else
      let start := max (afterIndex + 1) self.lookback
      match (List.range' start (frame.length - start)).findSome? (self.breakAt frame direction) with
      | some (level, event) => ⟨true, direction, event, some level, breakReason direction⟩
      | none => ⟨false, direction, .none, none, "no_structure_break_after_sweep"⟩

end MarketStructureDetector

/-! ## Ranges and candles -/

namespace ProfessionalICTStrategy

/-- True range of a bar after another. -/
def trueRangeAfter (previous bar : FiveMinuteBar) : ℚ :=
  max (max (bar.high - bar.low) |bar.high - previous.close|) |bar.low - previous.close|

/-- True ranges of a frame. The first bar has no close before it. -/
def trueRanges : List FiveMinuteBar → List ℚ
  | [] => []
  | first :: rest => (first.high - first.low) :: List.zipWith trueRangeAfter (first :: rest) rest

/-- Averages of the true ranges. -/
def averageRanges (frame : List FiveMinuteBar) : List ℚ := smoothed (1 / 14) (trueRanges frame)

/-- Average true range at the last bar. -/
def atrOf (frame : List FiveMinuteBar) : Option ℚ := (averageRanges frame).getLast?

/-- The average range is not among the tenth that is least nor the tenth that is greatest. -/
def normalVolatility (frame : List FiveMinuteBar) (atr : ℚ) : Bool :=
  let ranges := averageRanges frame
  let history := ranges.drop (ranges.length - 100)
  if history.length < 30 then false
  else decide (quantile (1 / 10) history ≤ atr ∧ atr ≤ quantile (9 / 10) history)

/-- A candle touches the zone and closes in the direction of the trade. -/
def confirmationCandle (current : FiveMinuteBar) (direction : MarketBias) (zoneLower zoneUpper : ℚ) :
    Bool :=
  let touched := decide (current.low ≤ zoneUpper ∧ zoneLower ≤ current.high)
  match direction with
  | .bullish => touched && decide (current.openPrice < current.close)
  | _ => touched && decide (current.close < current.openPrice)

end ProfessionalICTStrategy

/-! ## What the answers say -/

/-- The extreme of a bar on the side of the stops. -/
def MarketBias.stopSide (direction : MarketBias) (bar : FiveMinuteBar) : ℚ :=
  match direction with
  | .bullish => bar.low
  | _ => bar.high

/-- The extreme of a bar on the side of the targets. -/
def MarketBias.targetSide (direction : MarketBias) (bar : FiveMinuteBar) : ℚ :=
  match direction with
  | .bullish => bar.high
  | _ => bar.low

/-- The liquid sessions are those from seven to twenty on the days of the week. -/
theorem session_allowed_iff (timestamp : ℚ) : (SessionFilter.evaluate timestamp).allowed = true ↔
    ProfessionalBacktester.weekday timestamp < 5 ∧
      7 ≤ ProfessionalBacktester.hour timestamp ∧ ProfessionalBacktester.hour timestamp < 20 := by
  simp only [SessionFilter.evaluate]
  split_ifs with weekend london overlap newYork
  · exact iff_of_false (by decide) fun inside => absurd weekend inside.1.not_ge
  · exact iff_of_true rfl ⟨not_le.mp weekend, by omega, by omega⟩
  · exact iff_of_true rfl ⟨not_le.mp weekend, by omega, by omega⟩
  · exact iff_of_true rfl ⟨not_le.mp weekend, by omega, by omega⟩
  · refine iff_of_false (by decide) ?_
    rintro ⟨-, early, late⟩
    omega

/-- News are allowed where no event blocks, and without a calendar only by a mode for it. -/
theorem NewsFilter.allowed_iff (self : NewsFilter) (pair : String) (timestamp : ℚ)
    (events : Option (List NewsEvent)) : (self.evaluate pair timestamp events).allowed = true ↔
      (events = none → self.mode ≠ .failClosed) ∧
        ∀ calendar ∈ events, ∀ event ∈ calendar, ¬self.Blocks pair timestamp event := by
  cases events with
  | none => cases known : self.mode <;> simp [NewsFilter.evaluate, known]
  | some calendar =>
    simp only [NewsFilter.evaluate, reduceCtorEq, false_implies, true_and, Option.mem_some_iff,
      forall_eq']
    cases found : calendar.find? fun event => decide (self.Blocks pair timestamp event) with
    | none =>
      refine iff_of_true rfl fun event member => ?_
      simpa using List.find?_eq_none.mp found event member
    | some event =>
      have blocks : self.Blocks pair timestamp event := by simpa using List.find?_some found
      exact iff_of_false Bool.false_ne_true fun quiet =>
        quiet event (List.mem_of_find?_eq_some found) blocks

/-- A candle that confirms a trade touches the zone, and its close is ahead of its open. -/
theorem confirmation_candle_facts {current : FiveMinuteBar} {direction : MarketBias} {lower upper : ℚ}
    (confirms : ProfessionalICTStrategy.confirmationCandle current direction lower upper = true) :
    current.low ≤ upper ∧ lower ≤ current.high ∧
      0 < direction.ahead current.openPrice current.close := by
  cases direction <;>
    simpa [ProfessionalICTStrategy.confirmationCandle, MarketBias.ahead, and_assoc] using confirms

/-- What a detector of gaps says: a gap with its edges and its bar, or none. -/
theorem FairValueGapDetector.detect_cases (self : FairValueGapDetector) (frame : List FiveMinuteBar)
    (direction : MarketBias) :
    (∃ lower upper index retraced, self.detect frame direction =
      ⟨true, direction, some lower, some upper, some index, retraced⟩) ∨
    self.detect frame direction = ⟨false, direction, none, none, none, false⟩ := by
  simp only [FairValueGapDetector.detect]
  split
  · exact .inl ⟨_, _, _, _, rfl⟩
  · exact .inr rfl

/-- What a detector of order blocks says: a block with its edges and its bar, or none. -/
theorem OrderBlockDetector.detect_cases (self : OrderBlockDetector) (frame : List FiveMinuteBar)
    (direction : MarketBias) (atr : ℚ) :
    (∃ lower upper index retraced, self.detect frame direction atr =
      ⟨true, direction, some lower, some upper, some index, retraced⟩) ∨
    self.detect frame direction atr = ⟨false, direction, none, none, none, false⟩ := by
  simp only [OrderBlockDetector.detect]
  split
  · exact .inl ⟨_, _, _, _, rfl⟩
  · exact .inr rfl

/-- A sweep goes beyond the bars before it, and its close comes back ahead of one of them. -/
theorem LiquiditySweepDetector.sweep_at_eq_some {self : LiquiditySweepDetector}
    {frame : List FiveMinuteBar} {direction : MarketBias} {index : ℕ} {level extreme : ℚ}
    (swept : self.sweepAt frame direction index = some (level, extreme)) :
    ∃ bar, frame[index]? = some bar ∧ extreme = direction.stopSide bar ∧
      (∀ earlier ∈ barsBefore self.liquidityLookback index frame,
        direction.ahead (direction.stopSide earlier) extreme < 0) ∧
      ∃ earlier ∈ barsBefore self.liquidityLookback index frame,
        0 < direction.ahead (direction.stopSide earlier) bar.close := by
  simp only [LiquiditySweepDetector.sweepAt, Option.bind_eq_bind, Option.bind_eq_some_iff] at swept
  obtain ⟨bar, isBar, swept⟩ := swept
  cases direction with
  | neutral => cases swept
  | bullish =>
    obtain ⟨level, least, taken⟩ := Option.bind_eq_some_iff.mp swept
    obtain ⟨⟨below, back⟩, same⟩ := Option.ite_none_right_eq_some.mp taken
    cases same
    obtain ⟨member, least⟩ := List.min?_eq_some_iff.mp least
    obtain ⟨earlier, known, rfl⟩ := List.mem_map.mp member
    refine ⟨bar, isBar, rfl, fun other before => ?_, earlier, known, sub_pos.mpr back⟩
    exact sub_neg.mpr (below.trans_le (least _ (List.mem_map_of_mem before)))
  | bearish =>
    obtain ⟨level, greatest, taken⟩ := Option.bind_eq_some_iff.mp swept
    obtain ⟨⟨above, back⟩, same⟩ := Option.ite_none_right_eq_some.mp taken
    cases same
    obtain ⟨member, greatest⟩ := List.max?_eq_some_iff.mp greatest
    obtain ⟨earlier, known, rfl⟩ := List.mem_map.mp member
    refine ⟨bar, isBar, rfl, fun other before => ?_, earlier, known, sub_pos.mpr back⟩
    exact sub_neg.mpr ((greatest _ (List.mem_map_of_mem before)).trans_lt above)

/-- A break closes ahead of all bars before it. -/
theorem MarketStructureDetector.break_at_eq_some {self : MarketStructureDetector}
    {frame : List FiveMinuteBar} {direction : MarketBias} {index : ℕ} {level : ℚ}
    {event : StructureEvent} (broken : self.breakAt frame direction index = some (level, event)) :
    ∃ bar, frame[index]? = some bar ∧ ∀ earlier ∈ barsBefore self.lookback index frame,
      0 < direction.ahead (direction.targetSide earlier) bar.close := by
  simp only [MarketStructureDetector.breakAt, Option.bind_eq_bind, Option.bind_eq_some_iff] at broken
  obtain ⟨bar, isBar, first, -, last, -, broken⟩ := broken
  refine ⟨bar, isBar, fun earlier before => ?_⟩
  cases direction with
  | neutral => cases broken
  | bullish =>
    obtain ⟨level, greatest, closed⟩ := Option.bind_eq_some_iff.mp broken
    obtain ⟨beyond, -⟩ := Option.ite_none_right_eq_some.mp closed
    obtain ⟨-, greatest⟩ := List.max?_eq_some_iff.mp greatest
    exact sub_pos.mpr ((greatest _ (List.mem_map_of_mem before)).trans_lt beyond)
  | bearish =>
    obtain ⟨level, least, closed⟩ := Option.bind_eq_some_iff.mp broken
    obtain ⟨beyond, -⟩ := Option.ite_none_right_eq_some.mp closed
    obtain ⟨-, least⟩ := List.min?_eq_some_iff.mp least
    exact sub_pos.mpr (beyond.trans_le (least _ (List.mem_map_of_mem before)))

/-! ## Mirrored bars -/

/-- The bias of the other side. -/
def MarketBias.opposite : MarketBias → MarketBias
  | .bullish => .bearish
  | .bearish => .bullish
  | .neutral => .neutral

/-- A bar whose prices are taken from a total. -/
def FiveMinuteBar.mirror (total : ℚ) (bar : FiveMinuteBar) : FiveMinuteBar where
  timestamp := bar.timestamp
  openPrice := total - bar.openPrice
  high := total - bar.low
  low := total - bar.high
  close := total - bar.close

/-- The bias of the mirrored bars. -/
def TrendBias.MirrorOf (first second : TrendBias) : Prop :=
  first.direction = second.direction.opposite ∧ first.timeframe = second.timeframe ∧
    first.reason = second.reason

/-- A sweep from the other side. -/
def DetectedSweep.mirror (total : ℚ) (sweep : DetectedSweep) : DetectedSweep where
  detected := sweep.detected
  direction := sweep.direction.opposite
  level := sweep.level.map fun level => total - level
  extreme := sweep.extreme.map fun extreme => total - extreme
  barIndex := sweep.barIndex
  reason := if sweep.detected then LiquiditySweepDetector.sweepReason sweep.direction.opposite
    else sweep.reason

/-- A break of the structure to the other side. -/
def StructureSignal.mirror (total : ℚ) (signal : StructureSignal) : StructureSignal where
  confirmed := signal.confirmed
  direction := signal.direction.opposite
  event := signal.event
  brokenLevel := signal.brokenLevel.map fun level => total - level
  reason := if signal.confirmed then MarketStructureDetector.breakReason signal.direction.opposite
    else signal.reason

/-- A gap of the mirrored bars. -/
def FairValueGap.mirror (total : ℚ) (gap : FairValueGap) : FairValueGap where
  detected := gap.detected
  direction := gap.direction.opposite
  lower := gap.upper.map fun level => total - level
  upper := gap.lower.map fun level => total - level
  createdIndex := gap.createdIndex
  retraced := gap.retraced

/-- An order block of the mirrored bars. -/
def OrderBlock.mirror (total : ℚ) (block : OrderBlock) : OrderBlock where
  detected := block.detected
  direction := block.direction.opposite
  lower := block.upper.map fun level => total - level
  upper := block.lower.map fun level => total - level
  createdIndex := block.createdIndex
  retraced := block.retraced

section Mirrored

variable (total : ℚ) (frame : List FiveMinuteBar) (direction : MarketBias)

/-- To take from a total turns the order around. -/
theorem sub_antitone : Antitone fun level : ℚ => total - level :=
  fun _ _ less => sub_le_sub_left less total

/-- The lows of mirrored bars mirror the highs. -/
theorem mirror_lows : (frame.map (FiveMinuteBar.mirror total)).map FiveMinuteBar.low =
    (frame.map FiveMinuteBar.high).map fun level => total - level := by
  rw [List.map_map, List.map_map]
  rfl

/-- The highs of mirrored bars mirror the lows. -/
theorem mirror_highs : (frame.map (FiveMinuteBar.mirror total)).map FiveMinuteBar.high =
    (frame.map FiveMinuteBar.low).map fun level => total - level := by
  rw [List.map_map, List.map_map]
  rfl

/-- The least low of mirrored bars mirrors the greatest high. -/
theorem mirror_low_min : ((frame.map (FiveMinuteBar.mirror total)).map FiveMinuteBar.low).min? =
    (frame.map FiveMinuteBar.high).max?.map fun level => total - level := by
  rw [mirror_lows, Extremes.min?_map_of_antitone (sub_antitone total)]

/-- The greatest high of mirrored bars mirrors the least low. -/
theorem mirror_high_max : ((frame.map (FiveMinuteBar.mirror total)).map FiveMinuteBar.high).max? =
    (frame.map FiveMinuteBar.low).min?.map fun level => total - level := by
  rw [mirror_highs, Extremes.max?_map_of_antitone (sub_antitone total)]

/-- The bars before an index of mirrored bars. -/
theorem mirror_bars_before (count index : ℕ) :
    barsBefore count index (frame.map (FiveMinuteBar.mirror total)) =
      (barsBefore count index frame).map (FiveMinuteBar.mirror total) := by
  rw [barsBefore, barsBefore, List.map_take, List.map_drop]

/-- The sweep of a mirrored bar. -/
theorem mirror_sweep_at (self : LiquiditySweepDetector) (index : ℕ) :
    self.sweepAt (frame.map (FiveMinuteBar.mirror total)) direction.opposite index =
      (self.sweepAt frame direction index).map fun sweep => (total - sweep.1, total - sweep.2) := by
  simp only [LiquiditySweepDetector.sweepAt, mirror_bars_before, List.getElem?_map]
  cases frame[index]? with
  | none => rfl
  | some bar =>
    cases direction with
    | neutral => rfl
    | bullish =>
      simp only [MarketBias.opposite, mirror_high_max]
      cases ((barsBefore self.liquidityLookback index frame).map FiveMinuteBar.low).min? with
      | none => rfl
      | some level =>
        simp [FiveMinuteBar.mirror, apply_ite]
    | bearish =>
      simp only [MarketBias.opposite, mirror_low_min]
      cases ((barsBefore self.liquidityLookback index frame).map FiveMinuteBar.high).max? with
      | none => rfl
      | some level =>
        simp [FiveMinuteBar.mirror, apply_ite]

/-- The sweep of mirrored bars. -/
theorem mirror_sweep (self : LiquiditySweepDetector) :
    self.detect (frame.map (FiveMinuteBar.mirror total)) direction.opposite =
      (self.detect frame direction).mirror total := by
  have found (index : ℕ) :
      ((self.sweepAt (frame.map (FiveMinuteBar.mirror total)) direction.opposite index).map
          fun sweep => (index, sweep)) =
        ((self.sweepAt frame direction index).map fun sweep => (index, sweep)).map
          fun sweep => (sweep.1, total - sweep.2.1, total - sweep.2.2) := by
    rw [mirror_sweep_at, Option.map_map, Option.map_map]
    rfl
  simp only [LiquiditySweepDetector.detect, List.length_map, found]
  split_ifs with short
  · rfl
  · rw [← Function.comp_def, ← List.map_findSome?]
    cases (List.range' (frame.length - self.searchBars) self.searchBars).findSome? fun index =>
      (self.sweepAt frame direction index).map fun sweep => (index, sweep) <;> rfl

/-- The break of a mirrored bar. -/
theorem mirror_break_at (self : MarketStructureDetector) (index : ℕ) :
    self.breakAt (frame.map (FiveMinuteBar.mirror total)) direction.opposite index =
      (self.breakAt frame direction index).map fun broken => (total - broken.1, broken.2) := by
  simp only [MarketStructureDetector.breakAt, mirror_bars_before, List.getElem?_map,
    List.head?_map, List.getLast?_map]
  cases frame[index]? with
  | none => rfl
  | some bar =>
    cases (barsBefore self.lookback index frame).head? with
    | none => rfl
    | some first =>
      cases (barsBefore self.lookback index frame).getLast? with
      | none => rfl
      | some last =>
        cases direction with
        | neutral => rfl
        | bullish =>
          simp only [MarketBias.opposite, mirror_low_min]
          cases ((barsBefore self.lookback index frame).map FiveMinuteBar.high).max? with
          | none => rfl
          | some level =>
            simp only [FiveMinuteBar.mirror, Option.bind_eq_bind, Option.bind_some, Option.map_some,
              sub_lt_sub_iff_left, sub_pos, sub_neg]
            split_ifs <;> rfl
        | bearish =>
          simp only [MarketBias.opposite, mirror_high_max]
          cases ((barsBefore self.lookback index frame).map FiveMinuteBar.low).min? with
          | none => rfl
          | some level =>
            simp only [FiveMinuteBar.mirror, Option.bind_eq_bind, Option.bind_some, Option.map_some,
              sub_lt_sub_iff_left, sub_pos, sub_neg]
            split_ifs <;> rfl

/-- The structure of mirrored bars. -/
theorem mirror_structure (self : MarketStructureDetector) (afterIndex : Option ℕ) :
    self.detect (frame.map (FiveMinuteBar.mirror total)) direction.opposite afterIndex =
      (self.detect frame direction afterIndex).mirror total := by
  cases afterIndex with
  | none => rfl
  | some afterIndex =>
    have found : self.breakAt (frame.map (FiveMinuteBar.mirror total)) direction.opposite =
        Option.map (fun broken => (total - broken.1, broken.2)) ∘ self.breakAt frame direction :=
      funext (mirror_break_at total frame direction self)
    simp only [MarketStructureDetector.detect, List.length_map, found]
    split_ifs with short
    · rfl
    · rw [← List.map_findSome?]
      cases (List.range' (max (afterIndex + 1) self.lookback)
        (frame.length - max (afterIndex + 1) self.lookback)).findSome?
          (self.breakAt frame direction) <;> rfl

/-- Mirrored bars came back to a mirrored zone when the bars came back to the zone. -/
theorem mirror_retraced (lower upper : ℚ) :
    retracedBy (frame.map (FiveMinuteBar.mirror total)) (total - upper) (total - lower) =
      retracedBy frame lower upper := by
  rw [Bool.eq_iff_iff, retraced_by_iff, retraced_by_iff, and_comm]
  simp only [List.mem_map, exists_exists_and_eq_and, FiveMinuteBar.mirror, sub_le_sub_iff_left]

/-- The gap at a mirrored bar. -/
theorem mirror_gap_at (index : ℕ) :
    FairValueGapDetector.gapAt (frame.map (FiveMinuteBar.mirror total)) direction.opposite index =
      (FairValueGapDetector.gapAt frame direction index).map
        fun zone => (total - zone.2, total - zone.1) := by
  simp only [FairValueGapDetector.gapAt, List.getElem?_map]
  cases frame[index]? with
  | none => rfl
  | some bar =>
    cases frame[index - 2]? with
    | none => rfl
    | some before =>
      cases direction <;> simp [MarketBias.opposite, FiveMinuteBar.mirror, apply_ite]

/-- The gap of mirrored bars. -/
theorem mirror_gap (self : FairValueGapDetector) :
    self.detect (frame.map (FiveMinuteBar.mirror total)) direction.opposite =
      (self.detect frame direction).mirror total := by
  have found (index : ℕ) :
      ((FairValueGapDetector.gapAt (frame.map (FiveMinuteBar.mirror total)) direction.opposite
          index).map fun zone => (index, zone)) =
        ((FairValueGapDetector.gapAt frame direction index).map fun zone => (index, zone)).map
          fun zone => (zone.1, total - zone.2.2, total - zone.2.1) := by
    rw [mirror_gap_at, Option.map_map, Option.map_map]
    rfl
  simp only [FairValueGapDetector.detect, List.length_map, found]
  rw [← Function.comp_def, ← List.map_findSome?]
  cases (List.range' (max 2 ((frame.length : ℤ) - self.searchBars)).toNat
      (frame.length - (max 2 ((frame.length : ℤ) - self.searchBars)).toNat)).reverse.findSome?
        fun index => (FairValueGapDetector.gapAt frame direction index).map
          fun zone => (index, zone) with
  | none => rfl
  | some zone =>
    simp only [Option.map_some, FairValueGap.mirror, ← List.map_drop, mirror_retraced]

/-- The order block at a mirrored bar. -/
theorem mirror_block_at (self : OrderBlockDetector) (atr : ℚ) (index : ℕ) :
    self.blockAt (frame.map (FiveMinuteBar.mirror total)) direction.opposite atr index =
      (self.blockAt frame direction atr index).map fun zone => (total - zone.2, total - zone.1) := by
  simp only [OrderBlockDetector.blockAt, List.getElem?_map]
  cases frame[index]? with
  | none => rfl
  | some candle =>
    cases frame[index + 1]? with
    | none => rfl
    | some nextCandle =>
      have body : |total - nextCandle.close - (total - nextCandle.openPrice)| =
          |nextCandle.close - nextCandle.openPrice| := by
        rw [sub_sub_sub_cancel_left, abs_sub_comm]
      simp only [Option.bind_eq_bind, Option.bind_some, Option.map_some, FiveMinuteBar.mirror, body,
        sub_lt_sub_iff_left]
      cases direction <;> simp only [MarketBias.opposite, reduceCtorEq, false_and, true_and,
        not_false_eq_true, and_true] <;> split_ifs <;> rfl

/-- The order block of mirrored bars. -/
theorem mirror_block (self : OrderBlockDetector) (atr : ℚ) :
    self.detect (frame.map (FiveMinuteBar.mirror total)) direction.opposite atr =
      (self.detect frame direction atr).mirror total := by
  have found (index : ℕ) :
      ((self.blockAt (frame.map (FiveMinuteBar.mirror total)) direction.opposite atr index).map
          fun zone => (index, zone)) =
        ((self.blockAt frame direction atr index).map fun zone => (index, zone)).map
          fun zone => (zone.1, total - zone.2.2, total - zone.2.1) := by
    rw [mirror_block_at, Option.map_map, Option.map_map]
    rfl
  simp only [OrderBlockDetector.detect, List.length_map, found]
  rw [← Function.comp_def, ← List.map_findSome?]
  cases (List.range' (max 1 ((frame.length : ℤ) - self.searchBars)).toNat
      (frame.length - 1 - (max 1 ((frame.length : ℤ) - self.searchBars)).toNat)).reverse.findSome?
        fun index => (self.blockAt frame direction atr index).map fun zone => (index, zone) with
  | none => rfl
  | some zone => simp only [Option.map_some, OrderBlock.mirror, ← List.map_drop, mirror_retraced]

/-- An item of a mirrored series. -/
theorem mirror_from_end {series : List ℚ} {place : ℕ} (inside : place < series.length) :
    fromEnd (series.map fun value => total - value) place = total - fromEnd series place := by
  have found : place < series.reverse.length := by simpa using inside
  rw [fromEnd, fromEnd, ← List.map_reverse, List.getElem?_map, List.getElem?_eq_getElem found]
  rfl

/-- The averages of mirrored closes. -/
theorem mirror_ema (span : ℕ) :
    emaOf span ((frame.map (FiveMinuteBar.mirror total)).map FiveMinuteBar.close) =
      (emaOf span (frame.map FiveMinuteBar.close)).map fun average => total - average := by
  rw [emaOf, emaOf, ← smoothed_map_sub, List.map_map, List.map_map]
  rfl

/-- The bias of a mirrored timeframe. -/
theorem mirror_bias_of (self : HigherTimeframeTrend) (timeframe : String)
    (enough : 3 ≤ frame.length) :
    (self.biasOf timeframe (frame.map (FiveMinuteBar.mirror total))).MirrorOf
      (self.biasOf timeframe frame) := by
  have inside (span place : ℕ) (early : place < 3) :
      place < (emaOf span (frame.map FiveMinuteBar.close)).length := by
    rw [emaOf, length_smoothed, List.length_map]
    omega
  have item (span place : ℕ) (early : place < 3) :=
    mirror_from_end total (inside span place early)
  refine ⟨?_, rfl, rfl⟩
  simp only [HigherTimeframeTrend.biasOf, mirror_ema, item _ 0 (by decide), item _ 2 (by decide),
    sub_lt_sub_iff_left, sub_sub_sub_cancel_left, sub_pos, sub_neg]
  split_ifs with rising falling
  · exact absurd rising.1 falling.1.not_gt
  · rfl
  · rfl
  · rfl

/-- The bias of mirrored timeframes. -/
theorem mirror_trend (self : HigherTimeframeTrend) (fourHour oneHour : List FiveMinuteBar) :
    (self.detect (fourHour.map (FiveMinuteBar.mirror total))
      (oneHour.map (FiveMinuteBar.mirror total))).MirrorOf (self.detect fourHour oneHour) := by
  simp only [HigherTimeframeTrend.detect, List.length_map]
  split_ifs with longFour longOne
  · exact mirror_bias_of total fourHour self "4H" (by omega)
  · exact mirror_bias_of total oneHour self "1H" (by omega)
  · exact ⟨rfl, rfl, rfl⟩

open ProfessionalICTStrategy

/-- The true range of a mirrored bar after another is that of the bar. -/
theorem mirror_true_range (previous bar : FiveMinuteBar) :
    trueRangeAfter (previous.mirror total) (bar.mirror total) = trueRangeAfter previous bar := by
  simp only [trueRangeAfter, FiveMinuteBar.mirror, sub_sub_sub_cancel_left]
  rw [max_right_comm, abs_sub_comm bar.high, abs_sub_comm bar.low]

/-- The true ranges of mirrored bars are those of the bars. -/
theorem mirror_true_ranges :
    trueRanges (frame.map (FiveMinuteBar.mirror total)) = trueRanges frame := by
  cases frame with
  | nil => rfl
  | cons first rest =>
    simp only [trueRanges, List.map_cons]
    rw [← List.map_cons, List.zipWith_map]
    simp only [mirror_true_range]
    rw [FiveMinuteBar.mirror, sub_sub_sub_cancel_left]

/-- The average ranges of mirrored bars are those of the bars. -/
theorem mirror_average_ranges :
    averageRanges (frame.map (FiveMinuteBar.mirror total)) = averageRanges frame := by
  rw [averageRanges, averageRanges, mirror_true_ranges]

/-- A candle confirms a trade when its mirror confirms the opposite one. -/
theorem mirror_candle {direction : MarketBias} (decided : direction ≠ .neutral)
    (current : FiveMinuteBar) (lower upper : ℚ) :
    confirmationCandle (current.mirror total) direction.opposite (total - upper) (total - lower) =
      confirmationCandle current direction lower upper := by
  cases direction with
  | neutral => exact absurd rfl decided
  | bullish | bearish =>
    simp only [confirmationCandle, MarketBias.opposite, FiveMinuteBar.mirror, sub_lt_sub_iff_left,
      sub_le_sub_iff_left, and_comm]

/-- The levels ahead of a mirrored entry. -/
theorem mirror_candidates {direction : MarketBias} (decided : direction ≠ .neutral) (entry : ℚ) :
    candidates (frame.map (FiveMinuteBar.mirror total)) direction.opposite (total - entry) =
      (candidates frame direction entry).map fun level => total - level := by
  have recent : (frame.map (FiveMinuteBar.mirror total)).drop
      ((frame.map (FiveMinuteBar.mirror total)).length - 50) =
        (frame.drop (frame.length - 50)).map (FiveMinuteBar.mirror total) := by
    simp only [List.length_map, List.map_drop]
  unfold candidates
  simp only [recent]
  generalize frame.drop (frame.length - 50) = bars
  cases direction with
  | neutral => exact absurd rfl decided
  | bullish =>
    simp only [MarketBias.opposite, mirror_lows, List.filter_map, Function.comp_def,
      sub_lt_sub_iff_left]
  | bearish =>
    simp only [MarketBias.opposite, mirror_highs, List.filter_map, Function.comp_def,
      sub_lt_sub_iff_left]

/-- The level that is handed over for a mirrored entry. -/
theorem mirror_next_liquidity {direction : MarketBias} (decided : direction ≠ .neutral)
    (entry : ℚ) :
    nextLiquidity (frame.map (FiveMinuteBar.mirror total)) direction.opposite (total - entry) =
      (nextLiquidity frame direction entry).map fun level => total - level := by
  have levels := mirror_candidates total frame decided entry
  cases direction with
  | neutral => exact absurd rfl decided
  | bullish =>
    simp only [nextLiquidity, MarketBias.opposite] at levels ⊢
    rw [levels, Extremes.min?_map_of_antitone (sub_antitone total)]
  | bearish =>
    simp only [nextLiquidity, MarketBias.opposite] at levels ⊢
    rw [levels, Extremes.max?_map_of_antitone (sub_antitone total)]

end Mirrored

/-- A setup of the other side. -/
def EntrySetup.mirror (total : ℚ) (setup : EntrySetup) : EntrySetup where
  direction := setup.direction.opposite
  entry := total - setup.entry
  atr := setup.atr
  sweepExtreme := total - setup.sweepExtreme
  zoneLower := total - setup.zoneUpper
  zoneUpper := total - setup.zoneLower

/-- A plan of the other side. -/
def TradeManagementPlan.mirror (total : ℚ) (plan : TradeManagementPlan) : TradeManagementPlan :=
  { plan with
    stopPrice := total - plan.stopPrice
    tp1Price := total - plan.tp1Price
    finalTarget := total - plan.finalTarget }

section MirroredPlans

open ProfessionalICTStrategy

variable {manager : TradeManager} {direction : MarketBias} {entry atr sweepExtreme zoneEdge : ℚ}
  {nextLiquidity : Option ℚ} {plan other : TradeManagementPlan}

/-- A mirrored level is as far ahead of a mirrored entry, in the opposite direction. -/
theorem mirror_ahead (decided : direction ≠ .neutral) (total entry level : ℚ) :
    direction.opposite.ahead (total - entry) (total - level) = direction.ahead entry level := by
  cases direction with
  | neutral => exact absurd rfl decided
  | bullish | bearish => exact sub_sub_sub_cancel_left ..

/-- A liquidity that is not zero on either side is usable on both or on none. -/
theorem mirror_usable (decided : direction ≠ .neutral) {total : ℚ}
    (nonzero : ∀ level ∈ nextLiquidity, level ≠ 0 ∧ level ≠ total) :
    usableLiquidity direction.opposite (total - entry)
        (nextLiquidity.map fun level => total - level) =
      (usableLiquidity direction entry nextLiquidity).map fun level => total - level := by
  cases nextLiquidity with
  | none => rfl
  | some level =>
    obtain ⟨here, there⟩ := nonzero level rfl
    by_cases ahead : 0 < direction.ahead entry level
    · rw [usable_liquidity_some ⟨here, ahead⟩, Option.map_some]
      apply usable_liquidity_some
      exact ⟨sub_ne_zero.mpr there.symm, by rwa [mirror_ahead decided]⟩
    · rw [usable_liquidity_none (mt And.right ahead), Option.map_some, Option.map_none]
      apply usable_liquidity_none
      rw [mirror_ahead decided]
      exact mt And.right ahead

/-- What a plan makes of a trade, its mirror makes of the mirrored trade. -/
theorem PlannedBy.mirror (decided : direction ≠ .neutral) {total : ℚ}
    (nonzero : ∀ level ∈ nextLiquidity, level ≠ 0 ∧ level ≠ total)
    (planned : PlannedBy manager direction entry atr sweepExtreme zoneEdge nextLiquidity plan) :
    PlannedBy manager direction.opposite (total - entry) atr (total - sweepExtreme)
      (total - zoneEdge) (nextLiquidity.map fun level => total - level) (plan.mirror total) where
  risk := by
    rw [mirror_ahead decided, mirror_ahead decided]
    exact planned.risk
  stop := (mirror_ahead decided ..).trans planned.stop
  first := (mirror_ahead decided ..).trans planned.first
  final := by
    rw [mirror_usable decided nonzero, Option.map_map]
    simp only [Function.comp_def, mirror_ahead decided]
    exact (mirror_ahead decided ..).trans planned.final

/-- Two plans of one trade have the same levels. -/
theorem PlannedBy.same_levels
    (planned : PlannedBy manager direction entry atr sweepExtreme zoneEdge nextLiquidity plan)
    (again : PlannedBy manager direction entry atr sweepExtreme zoneEdge nextLiquidity other) :
    plan.riskDistance = other.riskDistance ∧ plan.stopPrice = other.stopPrice ∧
      plan.tp1Price = other.tp1Price ∧ plan.finalTarget = other.finalTarget := by
  have risk : plan.riskDistance = other.riskDistance := planned.risk.trans again.risk.symm
  refine ⟨risk, ?_, ?_, ?_⟩
  · apply MarketBias.ahead_inj.mp
    rw [planned.stop, again.stop, risk]
  · apply MarketBias.ahead_inj.mp
    rw [planned.first, again.first, risk]
  · apply MarketBias.ahead_inj.mp
    rw [planned.final, again.final, risk]

/-- What a plan does not compute comes from the manager. -/
theorem plan_settings (manager : TradeManager) (frame : List FiveMinuteBar) (setup : EntrySetup) :
    (ProfessionalICTStrategy.plan manager frame setup).partialCloseFraction =
        manager.partialCloseFraction ∧
      (ProfessionalICTStrategy.plan manager frame setup).moveToBreakevenAtR = 1 ∧
      (ProfessionalICTStrategy.plan manager frame setup).trailingEnabled =
        manager.trailingEnabled := by
  rw [ProfessionalICTStrategy.plan]
  cases setup.direction <;> exact ⟨rfl, rfl, rfl⟩

/-- The plan of a mirrored setup is the mirrored plan, unless the level of liquidity is zero on one
of the sides. -/
theorem mirror_plan (manager : TradeManager) (frame : List FiveMinuteBar) {setup : EntrySetup}
    (decided : setup.direction ≠ .neutral) {total : ℚ}
    (nonzero : ∀ level ∈ ProfessionalICTStrategy.nextLiquidity frame setup.direction setup.entry,
      level ≠ 0 ∧ level ≠ total) :
    ProfessionalICTStrategy.plan manager (frame.map (FiveMinuteBar.mirror total))
        (setup.mirror total) =
      (ProfessionalICTStrategy.plan manager frame setup).mirror total := by
  have edge : ProfessionalICTStrategy.zoneEdge (setup.mirror total) =
      total - ProfessionalICTStrategy.zoneEdge setup := by
    cases known : setup.direction with
    | neutral => exact absurd known decided
    | bullish | bearish =>
      simp only [ProfessionalICTStrategy.zoneEdge, EntrySetup.mirror, known, MarketBias.opposite]
  have planned := (plan_planned manager frame setup).mirror decided nonzero
  have again := plan_planned manager (frame.map (FiveMinuteBar.mirror total)) (setup.mirror total)
  rw [edge] at again
  simp only [EntrySetup.mirror, mirror_next_liquidity total frame decided] at again
  obtain ⟨risk, stop, first, final⟩ := again.same_levels planned
  obtain ⟨fraction, breakeven, trailing⟩ := plan_settings manager frame setup
  obtain ⟨fraction', breakeven', trailing'⟩ :=
    plan_settings manager (frame.map (FiveMinuteBar.mirror total)) (setup.mirror total)
  rw [TradeManagementPlan.mirror, TradeManagementPlan.mk.injEq]
  exact ⟨stop, first, final, risk, fraction'.trans fraction.symm, breakeven'.trans breakeven.symm,
    trailing'.trans trailing.symm⟩

end MirroredPlans

end IgTradingBot
