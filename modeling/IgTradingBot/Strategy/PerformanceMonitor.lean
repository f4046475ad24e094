import IgTradingBot.Config.Constants
import IgTradingBot.Core.Values
import IgTradingBot.Library.Machines
import Mathlib.Data.Rat.Floor

/-!
# Performance monitor

The life of a monitored strategy, after `src/strategy/performance_monitor.py`: it is disabled
after two evaluations in a row with a low Sharpe ratio, comes back when a backtest is good, and
is suspended when it is disabled again too soon. What the callbacks of an operation answer and
what its readings of the clock give are inputs.
-/

namespace IgTradingBot

/-- Status of a monitored strategy. -/
inductive StrategyStatus where
  | active
  | disabled
  | suspended
  deriving DecidableEq, Repr

/-- Metrics of the last thirty days. Without a loss the profit factor is infinite. -/
structure PerformanceMetrics where
  sharpeRatio : ℚ
  winRate : ℚ
  profitFactor : Option ℚ
  tradeCount : ℕ := 0
  calculatedAt : ℚ
  deriving DecidableEq, Repr

/-- State of a monitored strategy. -/
structure StrategyState where
  strategyName : String
  status : StrategyStatus := .active
  metricsHistory : List PerformanceMetrics := []
  disabledAt : Option ℚ := none
  reEnabledAt : Option ℚ := none
  consecutiveLowSharpe : ℕ := 0
  lastEvaluationAt : Option ℚ := none
  deriving DecidableEq, Repr

/-- A closed trade. -/
structure PerformanceMonitor.TradeRecord where
  strategyName : String
  pnl : ℚ
  closedAt : ℚ
  isWinner : Bool
  deriving DecidableEq, Repr

/-- Thresholds, strategies in the order of their registration, and closed trades. The square root
is that of the floating-point numbers, `variance ** 0.5`. -/
structure PerformanceMonitor where
  squareRoot : ℚ → ℚ
  disableSharpeThreshold : ℚ := Constants.strategyDisableSharpeThreshold
  enableSharpeThreshold : ℚ := Constants.strategyEnableSharpeThreshold
  suspensionDays : ℤ := Constants.strategySuspensionDays
  strategies : List StrategyState := []
  tradeHistory : List PerformanceMonitor.TradeRecord := []

namespace PerformanceMonitor

/-- Messages to the notification callback. -/
inductive Notice where
  | strategyDisabled (strategyName : String) (sharpeRatio winRate : ℚ) (profitFactor : Option ℚ)
      (timestamp : ℚ)
  | forcedLiquidationEscalation (strategyName : String) (timestamp : ℚ)
  | strategyReEnabled (strategyName : String) (oosSharpe timestamp : ℚ)
  | strategySuspended (strategyName : String) (daysSinceReEnable : ℤ) (timestamp : ℚ)

/-- How the callback that closes the positions of a strategy ends. -/
inductive Closing where
  | closed
  | notClosed
  | timedOut
  | failed (failure : Failure)

/-- What an operation meets: the clock when it starts, when it disables a strategy and when it
escalates, and what its callbacks answer. A callback that is not configured is `none`. -/
structure Surroundings where
  utcnow : ℚ
  disabledNow : ℚ
  escalatedNow : ℚ
  notifyCallback : Option (Notice → Except Failure Unit) := none
  closePositionsCallback : Option (String → Closing) := none
  forceLiquidationCallback : Option (String → Except Failure Unit) := none
  backtestCallback : Option (String → Except Failure (Option ℚ)) := none

namespace Surroundings

/-- Send a message, where there is somebody to send it to. -/
def notify (surroundings : Surroundings) (notice : Notice) : Except Failure Unit :=
  match surroundings.notifyCallback with
  | none => .ok ()
  | some callback => callback notice

/-- Force the liquidation of positions that could not be closed. -/
def escalateForcedLiquidation (surroundings : Surroundings) (strategyName : String) :
    Except Failure Unit := do
  match surroundings.forceLiquidationCallback with
  | none => pure ()
  | some callback => callback strategyName
  surroundings.notify (.forcedLiquidationEscalation strategyName surroundings.escalatedNow)

/-- Close the positions of a strategy that was disabled. -/
def closeStrategyPositions (surroundings : Surroundings) (strategyName : String) :
    Except Failure Unit :=
  match surroundings.closePositionsCallback with
  | none => .ok ()
  | some callback =>
    match callback strategyName with
    | .closed => .ok ()
    | .notClosed => surroundings.escalateForcedLiquidation strategyName
    | .timedOut => surroundings.escalateForcedLiquidation strategyName
    | .failed failure => .error failure

/-- The backtest of a strategy on data that it was not fitted to. -/
def runOosBacktest (surroundings : Surroundings) (strategyName : String) :
    Except Failure (Option ℚ) :=
  match surroundings.backtestCallback with
  | none => .ok none
  | some callback => callback strategyName

end Surroundings

/-- Whole days from one time to another. -/
def wholeDays (later earlier : ℚ) : ℤ := ⌊(later - earlier) / 86400⌋

/-- The metrics of a strategy over the thirty days before a time, if it has trades there. -/
def calculateMetrics (monitor : PerformanceMonitor) (strategyName : String) (asOf : ℚ) :
    Option PerformanceMetrics :=
  let windowStart := asOf - 30 * 86400
  let trades := monitor.tradeHistory.filter fun trade =>
    trade.strategyName = strategyName ∧ windowStart ≤ trade.closedAt ∧ trade.closedAt ≤ asOf
  if trades = [] then none
  else
    let returns := trades.map (·.pnl)
    let grossProfit := (returns.filter fun pnl => 0 < pnl).sum
    let grossLoss := |(returns.filter fun pnl => pnl < 0).sum|
    let meanReturn := returns.sum / returns.length
    let stdReturn := monitor.squareRoot
      ((returns.map fun return' => (return' - meanReturn) ^ 2).sum / (returns.length - 1))
    some
      { sharpeRatio :=
          if 1 < returns.length then if 0 < stdReturn then meanReturn / stdReturn else 0 else 0
        winRate := (trades.filter (·.isWinner)).length / trades.length
        profitFactor := if 0 < grossLoss then some (grossProfit / grossLoss) else none
        tradeCount := trades.length
        calculatedAt := asOf }

/-- Disable a strategy, tell it, and close its positions. -/
def disableStrategy (state : StrategyState) (metrics : PerformanceMetrics)
    (surroundings : Surroundings) : StrategyState × Except Failure Unit :=
  ({ state with
      status := .disabled
      disabledAt := some surroundings.disabledNow
      consecutiveLowSharpe := 0 },
    do
      surroundings.notify (.strategyDisabled state.strategyName metrics.sharpeRatio
        metrics.winRate metrics.profitFactor surroundings.disabledNow)
      surroundings.closeStrategyPositions state.strategyName)

/-- Evaluate a strategy. The second low ratio in a row disables an active one, and nothing here
asks when it came back. -/
def evaluateState (monitor : PerformanceMonitor) (state : StrategyState) (asOf : Option ℚ)
    (surroundings : Surroundings) : StrategyState × Except Failure (Option PerformanceMetrics) :=
  if state.status = .suspended then (state, .ok none)
  else
    match monitor.calculateMetrics state.strategyName (asOf.getD surroundings.utcnow) with
    | none =>
      ({ state with lastEvaluationAt := some (asOf.getD surroundings.utcnow) }, .ok none)
    | some metrics =>
      let evaluated :=
        { state with
          metricsHistory := state.metricsHistory ++ [metrics]
          lastEvaluationAt := some metrics.calculatedAt }
      if state.status = .active then
        let counted :=
          { evaluated with
            consecutiveLowSharpe :=
              if metrics.sharpeRatio < monitor.disableSharpeThreshold then
                state.consecutiveLowSharpe + 1
              else 0 }
        if 2 ≤ counted.consecutiveLowSharpe then
          let disabled := disableStrategy counted metrics surroundings
          (disabled.1, disabled.2.map fun _ => some metrics)
        else (counted, .ok (some metrics))
      else (evaluated, .ok (some metrics))

/-- Suspend a strategy that came back too short a time ago. -/
def checkSuspension (monitor : PerformanceMonitor) (state : StrategyState) (currentTime : ℚ)
    (surroundings : Surroundings) : StrategyState × Except Failure Bool :=
  match state.reEnabledAt with
  | none => (state, .ok false)
  | some reEnabledAt =>
    let daysSinceReEnable := wholeDays currentTime reEnabledAt
    if daysSinceReEnable ≤ monitor.suspensionDays then
      ({ state with status := .suspended },
        (surroundings.notify (.strategySuspended state.strategyName daysSinceReEnable
          currentTime)).map fun _ => true)
    else (state, .ok false)

/-- Disable a strategy, then ask whether it is to be suspended. -/
def disableWithSuspensionCheck (monitor : PerformanceMonitor) (state : StrategyState)
    (metrics : PerformanceMetrics) (surroundings : Surroundings) :
    StrategyState × Except Failure Unit :=
  let disabled := disableStrategy state metrics surroundings
  match disabled.2 with
  | .error failure => (disabled.1, .error failure)
  | .ok () =>
    let checked := monitor.checkSuspension disabled.1 surroundings.disabledNow surroundings
    (checked.1, checked.2.map fun _ => ())

/-- Bring back the disabled strategies with a good backtest, one after the other. A callback that
raises an exception ends the loop. -/
def reEvaluateEach (monitor : PerformanceMonitor) (currentTime : ℚ)
    (surroundings : Surroundings) :
    List StrategyState → List StrategyState × Except Failure (List String)
  | [] => ([], .ok [])
  | state :: rest =>
    let later := monitor.reEvaluateEach currentTime surroundings rest
    if state.status ≠ .disabled then (state :: later.1, later.2)
    else
      match surroundings.runOosBacktest state.strategyName with
      | .error failure => (state :: rest, .error failure)
      | .ok none => (state :: later.1, later.2)
      | .ok (some oosSharpe) =>
        if monitor.enableSharpeThreshold < oosSharpe then
          let reEnabled :=
            { state with
              status := .active
              reEnabledAt := some currentTime
              consecutiveLowSharpe := 0 }
          match surroundings.notify (.strategyReEnabled state.strategyName oosSharpe
            currentTime) with
          | .error failure => (reEnabled :: rest, .error failure)
          | .ok () => (reEnabled :: later.1, later.2.map (state.strategyName :: ·))
        else (state :: later.1, later.2)

/-- The state of a registered strategy. -/
def lookup (monitor : PerformanceMonitor) (strategyName : String) : Option StrategyState :=
  monitor.strategies.find? fun state => state.strategyName = strategyName

/-- Change the state of a strategy. -/
def modify (monitor : PerformanceMonitor) (strategyName : String)
    (change : StrategyState → StrategyState) : PerformanceMonitor :=
  { monitor with
    strategies := monitor.strategies.map fun state =>
      if state.strategyName = strategyName then change state else state }

/-- The operations. An evaluation of all strategies evaluates one after the other, until one
raises an exception. -/
inductive Operation where
  | registerStrategy (strategyName : String)
  | recordTrade (trade : TradeRecord)
  | evaluateStrategy (strategyName : String) (asOf : Option ℚ) (surroundings : Surroundings)
  | weeklyReEvaluate (currentTime : Option ℚ) (surroundings : Surroundings)
  | checkSuspension (strategyName : String) (currentTime : Option ℚ)
      (surroundings : Surroundings)
  | disableStrategyWithSuspensionCheck (strategyName : String) (metrics : PerformanceMetrics)
      (surroundings : Surroundings)

/-- The monitor after an operation, also after one that raises an exception. -/
def step (monitor : PerformanceMonitor) : Operation → PerformanceMonitor
  | .registerStrategy strategyName =>
    if (monitor.lookup strategyName).isSome then monitor
    else
      { monitor with strategies := monitor.strategies ++ [{ strategyName := strategyName }] }
  | .recordTrade trade => { monitor with tradeHistory := monitor.tradeHistory ++ [trade] }
  | .evaluateStrategy strategyName asOf surroundings =>
    monitor.modify strategyName fun state =>
      (monitor.evaluateState state asOf surroundings).1
  | .weeklyReEvaluate currentTime surroundings =>
    { monitor with
      strategies := (monitor.reEvaluateEach (currentTime.getD surroundings.utcnow) surroundings
        monitor.strategies).1 }
  | .checkSuspension strategyName currentTime surroundings =>
    monitor.modify strategyName fun state =>
      (monitor.checkSuspension state (currentTime.getD surroundings.utcnow) surroundings).1
  | .disableStrategyWithSuspensionCheck strategyName metrics surroundings =>
    monitor.modify strategyName fun state =>
      (monitor.disableWithSuspensionCheck state metrics surroundings).1

end PerformanceMonitor

end IgTradingBot
