import IgTradingBot.Library.Loops
import IgTradingBot.Research.Training
import Mathlib.Data.List.AList

/-!
# Model backtest

The simulator of `src/research/backtest.py`: one position at a time, entered at the bar after a signal
and left at a barrier or at the horizon. The probabilities of the model are a list, one for each bar
that has an average true range. Days are counted from the epoch.
-/

namespace IgTradingBot

/-- Why a research backtest ends without a result. -/
inductive ResearchFailure where
  | valueError (message : String)
  | indexError
  | zeroDivision
  | assertionError
  deriving DecidableEq, Repr

/-- A bar of the backtest, with its average true range and the probability of the model. -/
structure ScoredBar (ρ : Type) where
  bar : ResearchBar ρ
  atr14 : ℚ
  probabilityUp : ℚ
  deriving DecidableEq, Repr

/-- The side of a research trade. -/
inductive ModelDirection where
  | long
  | short
  deriving DecidableEq, Repr

/-- Why a research trade was left. -/
inductive ResearchExit where
  | horizon
  | stop
  | target
  deriving DecidableEq, Repr

/-- A trade, with the places of its bars, the day of its signal, and what it was sized with. -/
structure ResearchTrade where
  signalIndex : ℕ
  entryIndex : ℕ
  exitIndex : ℕ
  day : ℤ
  equityBefore : ℚ
  stopDistance : ℚ
  entryTime : ℚ
  exitTime : ℚ
  direction : ModelDirection
  probabilityUp : ℚ
  entryPrice : ℚ
  stopLoss : ℚ
  takeProfit : ℚ
  exitPrice : ℚ
  exitReason : ResearchExit
  units : ℚ
  pnl : ℚ
  rMultiple : ℚ
  equity : ℚ
  deriving DecidableEq, Repr

/-- State of the simulation. -/
structure ModelSimulation where
  equity : ℚ
  peak : ℚ
  trades : List ResearchTrade := []
  equityPoints : List (ℚ × ℚ)
  dailyPnl : AList (fun _ : ℤ => ℚ) := ∅
  dailyTrades : AList (fun _ : ℤ => ℕ) := ∅
  consecutiveLosses : ℕ := 0
  worstLossStreak : ℕ := 0
  lossStreakDay : Option ℤ := none
  index : ℕ := 0

/-- The sign of the profit that a rising price makes. -/
def ModelDirection.sign : ModelDirection → ℚ
  | long => 1
  | short => -1

namespace ModelBacktest

variable {ρ : Type}

/-- Size of a pip of a pair. -/
def pipSize (pair : String) : ℚ := if pair.toUpper.endsWith "JPY" then 1 / 100 else 1 / 10000

/-- The day of a bar. -/
def dayOf (bar : ResearchBar ρ) : ℤ := ⌊bar.timestamp / 86400⌋

/-- The bars with an average true range. -/
def valid (frame : List (ResearchBar ρ)) : List (ResearchBar ρ × ℚ) :=
  frame.filterMap fun bar => bar.atr14.map fun atr => (bar, atr)

/-- The bars of the out-of-sample part, with their probabilities. -/
def testBars (config : ResearchConfig) (frame : List (ResearchBar ρ)) (probabilities : List ℚ) :
    Except ResearchFailure (List (ScoredBar ρ)) :=
  let rows := valid frame
  if probabilities.length = rows.length then
    .ok ((rows.zipWith (fun row probability => ⟨row.1, row.2, probability⟩) probabilities).drop
      (Training.validationEnd config rows.length))
  else .error (.valueError "Length of values does not match length of index")

/-- The bar at a place. -/
def barAt (test : List (ScoredBar ρ)) (index : ℕ) : Except ResearchFailure (ScoredBar ρ) :=
  match test[index]? with
  | some row => .ok row
  | none => .error .indexError

/-- A quotient of numbers. -/
def divide (dividend divisor : ℚ) : Except ResearchFailure ℚ :=
  if divisor = 0 then .error .zeroDivision else .ok (dividend / divisor)

/-- The direction of a signal, if the probability is decisive. -/
def signalDirection (config : ResearchConfig) (probability : ℚ) : Option ModelDirection :=
  if config.model.minProbability ≤ probability then some .long
  else if probability ≤ 1 - config.model.minProbability then some .short
  else none

/-- The spread at an entry: the observed one, if it is there and positive, or the fixed one. -/
def entrySpread (config : ResearchConfig) (bar : ResearchBar ρ) : ℚ :=
  match bar.spreadEstimate with
  | some observed =>
    if 0 < observed then observed else config.costs.spreadPips * pipSize config.pair
  | none => config.costs.spreadPips * pipSize config.pair

/-- Half the spread and the slippage, which every fill pays. -/
def fillCost (config : ResearchConfig) (bar : ResearchBar ρ) : ℚ :=
  entrySpread config bar / 2 + config.costs.slippagePips * pipSize config.pair

/-- The stop is reached in a bar. -/
def stopHit (direction : ModelDirection) (stop : ℚ) (bar : ResearchBar ρ) : Bool :=
  match direction with
  | .long => bar.low ≤ stop
  | .short => stop ≤ bar.high

/-- The target is reached in a bar. -/
def targetHit (direction : ModelDirection) (target : ℚ) (bar : ResearchBar ρ) : Bool :=
  match direction with
  | .long => target ≤ bar.high
  | .short => bar.low ≤ target

/-- The first barrier that is reached at one of some places, with its price and its place. -/
def findExit (test : List (ScoredBar ρ)) (direction : ModelDirection) (stop target : ℚ) :
    List ℕ → Except ResearchFailure (Option (ℚ × ℕ × ResearchExit))
  | [] => .ok none
  | cursor :: rest => do
    let row ← barAt test cursor
    if stopHit direction stop row.bar then pure (some (stop, cursor, .stop))
    else if targetHit direction target row.bar then pure (some (target, cursor, .target))
    else findExit test direction stop target rest

/-- A new day starts without losses in a row. -/
def startDay (state : ModelSimulation) (day : ℤ) : ModelSimulation :=
  if state.lossStreakDay = some day then state
  else { state with consecutiveLosses := 0, lossStreakDay := some day }

/-- The limits of a day allow no further signal. -/
def dayIsClosed (config : ResearchConfig) (state : ModelSimulation) (day : ℤ) : Bool :=
  (state.dailyPnl.lookup day).getD 0 ≤ -config.risk.initialEquity * config.risk.maxDailyLoss ||
    config.risk.maxTradesPerDay ≤ (state.dailyTrades.lookup day).getD 0 ||
    config.risk.maxConsecutiveLosses ≤ state.consecutiveLosses

/-- What a trade brings: the state is booked with it, and goes on behind its exit. -/
def bookTrade (state : ModelSimulation) (trade : ResearchTrade) : ModelSimulation :=
  let losses := if trade.pnl < 0 then state.consecutiveLosses + 1 else 0
  { state with
    equity := trade.equity
    peak := max state.peak trade.equity
    trades := state.trades ++ [trade]
    equityPoints := state.equityPoints ++ [(trade.exitTime, trade.equity)]
    dailyPnl := state.dailyPnl.insert trade.day ((state.dailyPnl.lookup trade.day).getD 0 + trade.pnl)
    dailyTrades := state.dailyTrades.insert trade.day ((state.dailyTrades.lookup trade.day).getD 0 + 1)
    consecutiveLosses := losses
    worstLossStreak := max state.worstLossStreak losses
    index := trade.exitIndex + 1 }

/-- The trade that a signal leads to: entered at the next bar, and left at the first barrier that is
reached up to the horizon, or at its close. -/
def simulateTrade (config : ResearchConfig) (test : List (ScoredBar ρ)) (state : ModelSimulation)
    (row : ScoredBar ρ) (direction : ModelDirection) : Except ResearchFailure ResearchTrade := do
  let entryIndex := state.index + 1
  let entryRow ← barAt test entryIndex
  let cost := fillCost config entryRow.bar
  let entry := entryRow.bar.openPrice + direction.sign * cost
  let stopDistance := row.atr14 * config.model.stopAtr
  let targetDistance := row.atr14 * config.model.targetAtr
  let stop := entry - direction.sign * stopDistance
  let target := entry + direction.sign * targetDistance
  let riskCash := state.equity * config.risk.riskPerTrade
  let riskUnits ← divide riskCash stopDistance
  let maxUnits ← divide (state.equity * config.risk.leverage) entry
  let units := min riskUnits maxUnits
  let lastIndex := entryIndex + config.model.horizonBars
  let last ← barAt test lastIndex
  let found ← findExit test direction stop target
    (List.range' entryIndex (min test.length (lastIndex + 1) - entryIndex))
  let (level, exitIndex, exitReason) := found.getD (last.bar.close, lastIndex, .horizon)
  let exitPrice := level - direction.sign * cost
  let pnl := direction.sign * (exitPrice - entry) * units -
    config.costs.commissionPerLot * (units / 100000)
  let exitRow ← barAt test exitIndex
  pure {
    signalIndex := state.index
    entryIndex
    exitIndex
    day := dayOf row.bar
    equityBefore := state.equity
    stopDistance
    entryTime := entryRow.bar.timestamp
    exitTime := exitRow.bar.timestamp
    direction
    probabilityUp := row.probabilityUp
    entryPrice := entry
    stopLoss := stop
    takeProfit := target
    exitPrice
    exitReason
    units
    pnl
    rMultiple := if riskCash = 0 then 0 else pnl / riskCash
    equity := state.equity + pnl }

/-- One pass of the loop. -/
def pass (config : ResearchConfig) (test : List (ScoredBar ρ)) (state : ModelSimulation) :
    Except ResearchFailure ModelSimulation := do
  let row ← barAt test state.index
  let day := dayOf row.bar
  let started := startDay state day
  if dayIsClosed config started day then pure { started with index := started.index + 1 }
  else
    match signalDirection config row.probabilityUp with
    | none => pure { started with index := started.index + 1 }
    | some direction =>
      let trade ← simulateTrade config test started row direction
      pure (bookTrade started trade)

/-- The loop goes on while a position can be held up to the horizon. -/
def hasNext (config : ResearchConfig) (test : List (ScoredBar ρ)) (state : ModelSimulation) : Bool :=
  (state.index : ℤ) < (test.length : ℤ) - config.model.horizonBars - 1

/-- The state before the first bar. -/
def initial (config : ResearchConfig) (first : ScoredBar ρ) : ModelSimulation where
  equity := config.risk.initialEquity
  peak := config.risk.initialEquity
  equityPoints := [(first.bar.timestamp, config.risk.initialEquity)]

/-- Simulate one position at a time using next-bar entries and intrabar barriers. Every pass goes on
to a later bar, so that there are at most as many as bars. -/
def runModelBacktest (config : ResearchConfig) (frame : List (ResearchBar ρ))
    (probabilities : List ℚ) : Except ResearchFailure ModelSimulation := do
  let test ← testBars config frame probabilities
  let first ← barAt test 0
  Loops.runWhile (hasNext config test) (pass config test) (test.length + 1) (initial config first)

section Frames

variable {frame : List (ResearchBar ρ)} {probabilities : List ℚ}

/-- The bars with an average true range are among those of the frame, with it. -/
theorem mem_valid {row : ResearchBar ρ × ℚ} (member : row ∈ valid frame) :
    row.1 ∈ frame ∧ row.1.atr14 = some row.2 := by
  obtain ⟨bar, isBar, isRow⟩ := List.mem_filterMap.mp member
  obtain ⟨atr, isAtr, rfl⟩ := Option.map_eq_some_iff.mp isRow
  exact ⟨isBar, isAtr⟩

/-- The bars with an average true range, in the order of the frame. -/
theorem valid_map_fst (frame : List (ResearchBar ρ)) :
    (valid frame).map Prod.fst = frame.filter fun bar => bar.atr14.isSome := by
  induction frame with
  | nil => rfl
  | cons bar rest inductionHypothesis =>
    rw [valid] at inductionHypothesis
    cases isAtr : bar.atr14 <;> simp [valid, isAtr, inductionHypothesis]

/-- Probabilities are set beside the bars as they are. -/
theorem scored_map_bar {rows : List (ResearchBar ρ × ℚ)} (lengths : probabilities.length = rows.length) :
    (rows.zipWith (fun row probability => ScoredBar.mk row.1 row.2 probability) probabilities).map
      (fun row => (row.bar, row.atr14)) = rows := by
  induction rows generalizing probabilities with
  | nil => simp
  | cons row rest inductionHypothesis =>
    cases probabilities with
    | nil => simp at lengths
    | cons probability others =>
      rw [List.zipWith_cons_cons, List.map_cons, inductionHypothesis (Nat.succ.inj lengths)]

/-- The bars of the backtest are the last ones that have an average true range. -/
theorem test_bars_eq_ok (config : ResearchConfig)
    (lengths : probabilities.length = (valid frame).length) :
    ∃ test, testBars config frame probabilities = .ok test ∧
      test.map (fun row => (row.bar, row.atr14)) =
        (valid frame).drop (Training.validationEnd config (valid frame).length) := by
  refine ⟨_, if_pos lengths, ?_⟩
  rw [List.map_drop, scored_map_bar lengths]

end Frames

end ModelBacktest

end IgTradingBot
