import IgTradingBot.Research.RiskRules
import IgTradingBot.Research.TradeAccounts

/-!
# Ranges of the bars that exits are booked on

Both research simulators leave a position at the level of its stop or of a target once a bar reaches
the level, and the model backtest leaves it at the close of the horizon. A bar that reaches a level
need not contain it: it may lie wholly beyond the level, as a bar behind a gap does, and the exit is
booked at the level all the same.
-/

namespace IgTradingBot

/-- An exit at a level, before costs, and the bar that it is booked on. -/
structure ExitFill where
  direction : ModelDirection
  reason : ResearchExit
  level : ℚ
  high : ℚ
  low : ℚ
  close : ℚ
  deriving DecidableEq, Repr

namespace ExitFill

/-- The level lies within the range of the bar. -/
def InRange (fill : ExitFill) : Prop := fill.low ≤ fill.level ∧ fill.level ≤ fill.high

/-- The bar reaches the level, or closes at it at the horizon. -/
def Reached (fill : ExitFill) : Prop :=
  match fill.reason, fill.direction with
  | .stop, .long | .target, .short => fill.low ≤ fill.level
  | .stop, .short | .target, .long => fill.level ≤ fill.high
  | .horizon, _ => fill.level = fill.close

/-- The bar lies wholly beyond the level, or closes outside of its own range at the horizon. -/
def PassedOver (fill : ExitFill) : Prop :=
  match fill.reason, fill.direction with
  | .stop, .long | .target, .short => fill.high < fill.level
  | .stop, .short | .target, .long => fill.level < fill.low
  | .horizon, _ => fill.close < fill.low ∨ fill.high < fill.close

instance (fill : ExitFill) : Decidable fill.InRange := inferInstanceAs (Decidable (_ ∧ _))

/-- A level that is reached lies within the range of the bar unless the bar lies wholly beyond it. -/
theorem Reached.in_range_iff {fill : ExitFill} (reached : fill.Reached) :
    fill.InRange ↔ ¬fill.PassedOver := by
  unfold Reached at reached
  unfold InRange PassedOver
  split at reached
  · rw [and_iff_right reached, not_lt]
  · rw [and_iff_right reached, not_lt]
  · rw [and_iff_left reached, not_lt]
  · rw [and_iff_left reached, not_lt]
  · rw [reached, not_or, not_lt, not_lt]

end ExitFill

namespace ModelBacktest

variable {ρ : Type}

/-- The exit at a level on a bar. -/
def fillOn (direction : ModelDirection) (reason : ResearchExit) (level : ℚ) (bar : ResearchBar ρ) :
    ExitFill where
  direction := direction
  reason := reason
  level := level
  high := bar.high
  low := bar.low
  close := bar.close

/-- The exit of a trade on the bar that it is booked on: its price without the costs of its fill. -/
def exitFill (config : ResearchConfig) (test : List (ScoredBar ρ)) (trade : ResearchTrade) :
    Option ExitFill := do
  let entryRow ← test[trade.entryIndex]?
  let exitRow ← test[trade.exitIndex]?
  return fillOn trade.direction trade.exitReason
    (trade.exitPrice + trade.direction.sign * fillCost config entryRow.bar) exitRow.bar

section Trades

variable {config : ResearchConfig} {test : List (ScoredBar ρ)} {state next : ModelSimulation}
  {trade : ResearchTrade}

/-- A bar that is read is the one at its place. -/
theorem get_of_bar_at {index : ℕ} {row : ScoredBar ρ} (isRow : barAt test index = .ok row) :
    test[index]? = some row := by
  unfold barAt at isRow
  cases found : test[index]? with
  | none =>
    rw [found] at isRow
    cases isRow
  | some other =>
    rw [found] at isRow
    exact congrArg some (Except.ok.inj isRow)

/-- The search for an exit finds a bar that reaches the level. The induction is on the places. -/
theorem find_exit_reached {direction : ModelDirection} {stop target level : ℚ} {cursors : List ℕ}
    {place : ℕ} {reason : ResearchExit}
    (searched : findExit test direction stop target cursors = .ok (some (level, place, reason))) :
    ∃ row, test[place]? = some row ∧ (fillOn direction reason level row.bar).Reached := by
  induction cursors with
  | nil => cases searched
  | cons cursor rest inductionHypothesis =>
    obtain ⟨row, isRow, found⟩ := Loops.bind_eq_ok.mp searched
    split_ifs at found with stopped reached
    · cases found
      refine ⟨row, get_of_bar_at isRow, ?_⟩
      cases direction <;> simpa [stopHit, fillOn, ExitFill.Reached] using stopped
    · cases found
      refine ⟨row, get_of_bar_at isRow, ?_⟩
      cases direction <;> simpa [targetHit, fillOn, ExitFill.Reached] using reached
    · exact inductionHypothesis found

/-- The exit of a trade, which is the one that the search found or the close at the horizon, is on a bar
that reaches its level. -/
theorem exit_reached {direction : ModelDirection} {stop target : ℚ} {cursors : List ℕ}
    {found : Option (ℚ × ℕ × ResearchExit)} {lastIndex : ℕ} {last exitRow : ScoredBar ρ}
    (searched : findExit test direction stop target cursors = .ok found)
    (isLast : test[lastIndex]? = some last)
    (left : test[(found.getD (last.bar.close, lastIndex, .horizon)).2.1]? = some exitRow) :
    (fillOn direction (found.getD (last.bar.close, lastIndex, .horizon)).2.2
      (found.getD (last.bar.close, lastIndex, .horizon)).1 exitRow.bar).Reached := by
  cases found with
  | none =>
    obtain rfl : last = exitRow := Option.some.inj (isLast.symm.trans left)
    rfl
  | some exit =>
    obtain ⟨level, place, reason⟩ := exit
    obtain ⟨row, isRow, reached⟩ := find_exit_reached searched
    obtain rfl : row = exitRow := Option.some.inj (isRow.symm.trans left)
    exact reached

/-- The trade of a signal is left on a bar that reaches the level of its exit. -/
theorem simulated_trade_reached {row : ScoredBar ρ} {direction : ModelDirection}
    (simulated : simulateTrade config test state row direction = .ok trade) :
    ∃ fill, exitFill config test trade = some fill ∧ fill.Reached := by
  simp only [simulateTrade, Loops.bind_eq_ok] at simulated
  obtain ⟨entryRow, isEntry, riskUnits, -, maxUnits, -, last, isLast, found, searched, exitRow, isExit,
    isTrade⟩ := simulated
  cases isTrade
  have reached := exit_reached searched (get_of_bar_at isLast) (get_of_bar_at isExit)
  refine ⟨_, ?_, reached⟩
  simp only [exitFill, get_of_bar_at isEntry, get_of_bar_at isExit, Option.bind_eq_bind,
    Option.bind_some, sub_add_cancel]
  rfl

/-- What a pass does to the trades: nothing, or it adds the trade of a signal. -/
theorem pass_trades (passed : pass config test state = .ok next) :
    next.trades = state.trades ∨
      ∃ started row direction trade, simulateTrade config test started row direction = .ok trade ∧
        next.trades = state.trades ++ [trade] := by
  have kept : ∀ day, (startDay state day).trades = state.trades := by
    intro day
    unfold startDay
    split <;> rfl
  obtain ⟨row, -, rest⟩ := Loops.bind_eq_ok.mp passed
  dsimp only at rest
  split_ifs at rest
  · cases rest
    exact .inl (kept _)
  · cases signalled : signalDirection config row.probabilityUp with
    | none =>
      rw [signalled] at rest
      cases rest
      exact .inl (kept _)
    | some direction =>
      rw [signalled] at rest
      obtain ⟨trade, simulated, booked⟩ := Loops.bind_eq_ok.mp rest
      cases booked
      exact .inr ⟨_, row, direction, trade, simulated, congrArg (· ++ [trade]) (kept _)⟩

/-- In every simulation every trade is left on a bar that reaches the level of its exit. -/
theorem exits_reached {frame : List (ResearchBar ρ)} {probabilities : List ℚ}
    {final : ModelSimulation} (isTest : testBars config frame probabilities = .ok test)
    (ran : runModelBacktest config frame probabilities = .ok final) :
    ∀ trade ∈ final.trades, ∃ fill, exitFill config test trade = some fill ∧ fill.Reached := by
  obtain ⟨bars, isBars, rest⟩ := Loops.bind_eq_ok.mp ran
  obtain ⟨first, -, looped⟩ := Loops.bind_eq_ok.mp rest
  obtain rfl : test = bars := Except.ok.inj (isTest.symm.trans isBars)
  have kept : ∀ state next : ModelSimulation,
      (∀ trade ∈ state.trades, ∃ fill, exitFill config test trade = some fill ∧ fill.Reached) →
      hasNext config test state = true → pass config test state = .ok next →
      ∀ trade ∈ next.trades, ∃ fill, exitFill config test trade = some fill ∧ fill.Reached := by
    intro state next reached _ passed trade member
    obtain same | ⟨started, row, direction, added, simulated, trades⟩ := pass_trades passed
    · exact reached trade (same ▸ member)
    · rw [trades] at member
      obtain earlier | last := List.mem_append.mp member
      · exact reached trade earlier
      · rw [List.mem_singleton.mp last]
        exact simulated_trade_reached simulated
  exact Loops.run_while_keeps kept (by simp [initial]) looped

end Trades

end ModelBacktest

namespace SimulatedPosition

/-- The exit at a level on a bar. -/
def fillOn (position : SimulatedPosition) (reason : ResearchExit) (level : ℚ) (bar : FiveMinuteBar) :
    ExitFill where
  direction := position.direction
  reason := reason
  level := level
  high := bar.high
  low := bar.low
  close := bar.close

/-- The exit at the first target, which is made once, with its fraction. -/
def firstFills (position : SimulatedPosition) (holding : Holding) (bar : FiveMinuteBar) :
    List (ExitFill × ℚ) :=
  if position.profitHit position.tp1 bar && !holding.partialTaken then
    [(position.fillOn .target position.tp1 bar, position.decision.partialCloseFraction)]
  else []

/-- The exits of a position on the bars that they are booked on, with their fractions, while it is
held from bar to bar. -/
def fills (position : SimulatedPosition) (holding : Holding) :
    List FiveMinuteBar → List (ExitFill × ℚ)
  | [] => []
  | bar :: rest =>
    if position.stopHit holding.stop bar then
      [(position.fillOn .stop holding.stop bar, holding.remaining)]
    else
      let kept := position.takePartial holding bar
      if position.profitHit position.target bar then
        position.firstFills holding bar ++
          [(position.fillOn .target position.target bar, kept.remaining)]
      else position.firstFills holding bar ++ position.fills kept rest

/-- The exits of a position on the bars from its entry on. -/
def exitFills (position : SimulatedPosition) (five : List FiveMinuteBar) : List (ExitFill × ℚ) :=
  position.fills { stop := position.stop } (five.drop position.entryIndex)

section Fills

variable {position : SimulatedPosition} {bar : FiveMinuteBar}

/-- A stop that is hit is an exit on a bar that reaches it. -/
theorem stop_reached {stop : ℚ} (hit : position.stopHit stop bar = true) :
    (position.fillOn .stop stop bar).Reached := by
  unfold stopHit at hit
  unfold ExitFill.Reached fillOn
  cases direction : position.direction <;> simpa [direction] using hit

/-- A profit that is hit is an exit on a bar that reaches it. -/
theorem profit_reached {level : ℚ} (hit : position.profitHit level bar = true) :
    (position.fillOn .target level bar).Reached := by
  unfold profitHit at hit
  unfold ExitFill.Reached fillOn
  cases direction : position.direction <;> simpa [direction] using hit

/-- The exit at the first target is on a bar that reaches it. -/
theorem first_fills_reached (holding : Holding) :
    ∀ fill ∈ position.firstFills holding bar, fill.1.Reached := by
  intro fill member
  unfold firstFills at member
  split_ifs at member with taken
  · rw [List.mem_singleton.mp member]
    exact profit_reached (Bool.and_eq_true_iff.mp taken).1
  · exact absurd member List.not_mem_nil

/-- The part that is booked at the first target is its exit, less the costs. -/
theorem take_partial_exits (holding : Holding) :
    (position.takePartial holding bar).exits = holding.exits ++
      (position.firstFills holding bar).map fun fill =>
        ⟨fill.2, position.exitAt fill.1.level⟩ := by
  unfold takePartial firstFills
  split_ifs
  · rfl
  · exact (List.append_nil _).symm

/-- The exits of a position are on bars that reach their levels. The induction is on the bars. -/
theorem fills_reached (holding : Holding) (bars : List FiveMinuteBar) :
    ∀ fill ∈ position.fills holding bars, fill.1.Reached := by
  induction bars generalizing holding with
  | nil => simp [fills]
  | cons bar rest inductionHypothesis =>
    intro fill member
    simp only [fills] at member
    split_ifs at member with stopped reached
    · rw [List.mem_singleton.mp member]
      exact stop_reached stopped
    · obtain earlier | last := List.mem_append.mp member
      · exact first_fills_reached holding fill earlier
      · rw [List.mem_singleton.mp last]
        exact profit_reached reached
    · obtain earlier | later := List.mem_append.mp member
      · exact first_fills_reached holding fill earlier
      · exact inductionHypothesis _ fill later

/-- The parts that are booked while a position is held are its exits, less the costs. The induction is
on the bars. -/
theorem hold_exits (holding : Holding) (future : ℕ) (bars : List FiveMinuteBar) :
    (position.hold holding future bars).holding.exits =
      holding.exits ++ (position.fills holding bars).map fun fill =>
        ⟨fill.2, position.exitAt fill.1.level⟩ := by
  induction bars generalizing holding future with
  | nil => simp [SimulatedPosition.hold, fills]
  | cons bar rest inductionHypothesis =>
    have first := @take_partial_exits position bar holding
    simp only [SimulatedPosition.hold, fills]
    cases position.stopHit holding.stop bar with
    | true => rfl
    | false =>
      cases position.profitHit position.target bar with
      | true =>
        simp only [Bool.false_eq_true, if_false, if_true]
        rw [List.map_append, ← List.append_assoc, ← first]
        rfl
      | false =>
        simp only [Bool.false_eq_true, if_false]
        rw [List.map_append, ← List.append_assoc, ← first]
        exact inductionHypothesis _ _

end Fills

end SimulatedPosition

namespace ProfessionalBacktester

/-- In every simulation every trade is that of a position, and its exits are on bars that reach their
levels. -/
theorem trades_are_exits {backtester : ProfessionalBacktester} {pair : String}
    {five : List FiveMinuteBar} {eligibility : ℕ → Eligibility} {evaluate : ℕ → StrategyDecision}
    {startFraction endFraction : ℚ} {final : ProfessionalSimulation}
    (ran : backtester.run pair five eligibility evaluate startFraction endFraction = .ok final) :
    ∀ trade ∈ final.trades, ∃ position exitTime,
      trade = backtester.recordedTrade position (position.result five) exitTime := by
  have kept : ∀ state next : ProfessionalSimulation,
      (∀ trade ∈ state.trades, ∃ position exitTime,
        trade = backtester.recordedTrade position (position.result five) exitTime) →
      hasNext five endFraction state = true →
      backtester.pass pair five eligibility evaluate state = .ok next →
      ∀ trade ∈ next.trades, ∃ position exitTime,
        trade = backtester.recordedTrade position (position.result five) exitTime := by
    intro state next recorded _ passed trade member
    obtain ⟨reason, -, rfl⟩ | ⟨position, exitTime, -, -, trades, -⟩ := pass_cases passed
    · exact recorded trade member
    · rw [trades] at member
      obtain earlier | last := List.mem_append.mp member
      · exact recorded trade earlier
      · exact ⟨position, exitTime, List.mem_singleton.mp last⟩
  exact Loops.run_while_keeps kept (by simp [start]) ran

end ProfessionalBacktester

open ModelBacktest ProfessionalBacktester in
/-- For every configuration, all bars and whatever the model and the strategy say, in the two research
simulators: every exit that is booked lies, before costs, within the range of the bar that it is
booked on exactly when this bar does not lie wholly beyond the level of the exit, or at the horizon
when it closes within its range. -/
theorem exit_in_range_iff :
    (∀ {ρ : Type} (config : ResearchConfig) (frame : List (ResearchBar ρ)) (probabilities : List ℚ)
        (test : List (ScoredBar ρ)) (final : ModelSimulation),
        testBars config frame probabilities = .ok test →
        runModelBacktest config frame probabilities = .ok final →
        ∀ trade ∈ final.trades, ∃ fill, exitFill config test trade = some fill ∧
          (fill.InRange ↔ ¬fill.PassedOver)) ∧
      ∀ (backtester : ProfessionalBacktester) (pair : String) (five : List FiveMinuteBar)
        (eligibility : ℕ → Eligibility) (evaluate : ℕ → StrategyDecision)
        (startFraction endFraction : ℚ) (final : ProfessionalSimulation),
        backtester.run pair five eligibility evaluate startFraction endFraction = .ok final →
        ∀ trade ∈ final.trades, ∃ position exitTime,
          trade = backtester.recordedTrade position (position.result five) exitTime ∧
          trade.exits = (position.exitFills five).map
            (fun fill => ⟨fill.2, position.exitAt fill.1.level⟩) ∧
          ∀ fill ∈ position.exitFills five, (fill.1.InRange ↔ ¬fill.1.PassedOver) := by
  constructor
  · intro ρ config frame probabilities test final isTest ran trade member
    obtain ⟨fill, isFill, reached⟩ := exits_reached isTest ran trade member
    exact ⟨fill, isFill, reached.in_range_iff⟩
  · intro backtester pair five eligibility evaluate startFraction endFraction final ran trade member
    obtain ⟨position, exitTime, rfl⟩ := trades_are_exits ran trade member
    refine ⟨position, exitTime, rfl, ?_, ?_⟩
    · exact position.hold_exits _ _ _
    · exact fun fill isFill => (position.fills_reached _ _ fill isFill).in_range_iff

section Samples

open ModelBacktest

/-- Twelve bars that rise for eight minutes, and then lie far below. -/
def fallingFrame : List (ResearchBar Unit) :=
  (List.range 12).map fun minute =>
    if minute < 8 then risingBar minute
    else { risingBar minute with openPrice := 50, high := 52, low := 49, close := 51 }

/-- The exits of a model that always expects a rise on such bars. -/
def fallingFills : Option (List (Option ExitFill)) := do
  let test ← (testBars sampleConfig fallingFrame (List.replicate 12 (9 / 10))).toOption
  let final ← (runModelBacktest sampleConfig fallingFrame (List.replicate 12 (9 / 10))).toOption
  return final.trades.map (exitFill sampleConfig test)

/-- A purchase is left by its stop above 105, on a bar between 49 and 52. -/
def fallenFill : ExitFill where
  direction := .long
  reason := .stop
  level := 1318751 / 12500
  high := 52
  low := 49
  close := 51

/-- The simulation returns with two trades, of which the first one is left by its stop. -/
theorem exists_falling_run : ∃ test final,
    testBars sampleConfig fallingFrame (List.replicate 12 (9 / 10)) = .ok test ∧
      runModelBacktest sampleConfig fallingFrame (List.replicate 12 (9 / 10)) = .ok final ∧
      final.trades.map (exitFill sampleConfig test) =
        [some fallenFill, some ⟨.long, .horizon, 51, 52, 49, 51⟩] := by
  have computed : fallingFills = some [some fallenFill, some ⟨.long, .horizon, 51, 52, 49, 51⟩] := by
    decide +kernel
  unfold fallingFills at computed
  cases isTest : testBars sampleConfig fallingFrame (List.replicate 12 (9 / 10)) with
  | error reason =>
    rw [isTest] at computed
    cases computed
  | ok test =>
    cases ran : runModelBacktest sampleConfig fallingFrame (List.replicate 12 (9 / 10)) with
    | error reason =>
      rw [isTest, ran] at computed
      cases computed
    | ok final =>
      rw [isTest, ran] at computed
      exact ⟨test, final, rfl, rfl, Option.some.inj computed⟩

/-- Both exits of the simulation lie within the ranges of their bars exactly when these do not lie
wholly beyond them. -/
theorem falling_exits_in_range_iff : ∃ test final,
    testBars sampleConfig fallingFrame (List.replicate 12 (9 / 10)) = .ok test ∧
      runModelBacktest sampleConfig fallingFrame (List.replicate 12 (9 / 10)) = .ok final ∧
      final.trades.length = 2 ∧
      ∀ trade ∈ final.trades, ∃ fill, exitFill sampleConfig test trade = some fill ∧
        (fill.InRange ↔ ¬fill.PassedOver) := by
  obtain ⟨test, final, isTest, ran, fills⟩ := exists_falling_run
  have two := congrArg List.length fills
  rw [List.length_map] at two
  exact ⟨test, final, isTest, ran, two,
    exit_in_range_iff.1 sampleConfig fallingFrame _ test final isTest ran⟩

/-- A stop is booked at its level on a bar that lies far below it. -/
theorem exit_out_of_range :
    ¬∀ {ρ : Type} (config : ResearchConfig) (frame : List (ResearchBar ρ)) (probabilities : List ℚ)
      (test : List (ScoredBar ρ)) (final : ModelSimulation),
      testBars config frame probabilities = .ok test →
      runModelBacktest config frame probabilities = .ok final →
      ∀ trade ∈ final.trades, ∃ fill, exitFill config test trade = some fill ∧ fill.InRange := by
  intro claim
  obtain ⟨test, final, isTest, ran, fills⟩ := exists_falling_run
  have booked : some fallenFill ∈ final.trades.map (exitFill sampleConfig test) := by
    rw [fills]
    exact List.mem_cons_self
  obtain ⟨trade, member, isFallen⟩ := List.mem_map.mp booked
  obtain ⟨fill, isFill, inRange⟩ := claim sampleConfig fallingFrame _ test final isTest ran trade
    member
  obtain rfl : fallenFill = fill := Option.some.inj (isFallen.symm.trans isFill)
  exact absurd inRange (by decide +kernel)

end Samples

end IgTradingBot
