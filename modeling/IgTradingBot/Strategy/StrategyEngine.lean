import IgTradingBot.Strategy.OvertradingGuard

/-!
# Strategy engine

The pipeline of `src/strategy/strategy_engine.py`: a change of the market's regime gives the strategies
new weights, the strategies with a weight generate signals, and a signal is validated when it has
enough confidence and the guard against overtrading allows its trade. Strategies, detector and scorer
are given to the engine, so a regime is of any type, and every one of them may answer anything. The
guard is the one of the repository.
-/

namespace IgTradingBot

/-- A signal of a strategy. -/
structure StrategyEngine.TradeSignal where
  instrument : String
  direction : String
  entryPrice : ℚ
  stopLoss : ℚ
  takeProfit : ℚ
  confidence : ℤ
  strategyName : String
  timestamp : Moment
  deriving DecidableEq, Repr

/-- A snapshot of the market. -/
structure StrategyEngine.MarketData where
  instrument : String
  bid : ℚ
  ask : ℚ
  timestamp : Moment
  adx : ℚ := 0
  bbWidth : ℚ := 0
  atrPercentile : ℚ := 0
  deriving DecidableEq, Repr

/-- State of the account. -/
structure StrategyEngine.AccountState where
  equity : ℚ
  dailyPnl : ℚ := 0
  deriving DecidableEq, Repr

/-- A strategy, whose methods may raise. -/
structure StrategyEngine.BaseStrategy (Regime : Type) where
  name : String
  generateSignal : StrategyEngine.MarketData → StrategyEngine.AccountState →
    Except Failure (Option StrategyEngine.TradeSignal)
  getBacktestSharpe : Regime → Except Failure ℚ

/-- The engine. A strategy without a weight has the weight zero. -/
structure StrategyEngine (Regime : Type) where
  strategies : List (StrategyEngine.BaseStrategy Regime)
  classify : ℚ → ℚ → ℚ → Regime
  shouldReject : ℤ → Bool
  overtradingGuard : OvertradingGuard
  strategyWeights : String → ℚ
  currentRegime : Regime
  reweightingInProgress : Bool := false

namespace StrategyEngine

variable {Regime : Type} [DecidableEq Regime]

/-- The same weight for every strategy. -/
def equalWeights (strategies : List (BaseStrategy Regime)) (name : String) : ℚ :=
  if name ∈ strategies.map (·.name) then 1 / strategies.length else 0

/-- An engine at its start, in the regime in which it begins. -/
def create (strategies : List (BaseStrategy Regime)) (classify : ℚ → ℚ → ℚ → Regime)
    (shouldReject : ℤ → Bool) (overtradingGuard : OvertradingGuard) (ranging : Regime) :
    StrategyEngine Regime :=
  { strategies, classify, shouldReject, overtradingGuard
    strategyWeights := equalWeights strategies
    currentRegime := ranging }

/-- Weights before they are normalized, none below a hundredth. -/
def rawWeights (regime : Regime) (performanceData : String → Option ℚ) :
    List (BaseStrategy Regime) → AList (fun _ : String => ℚ) →
      Except Failure (AList fun _ : String => ℚ)
  | [], raw => .ok raw
  | strategy :: rest, raw =>
    match (performanceData strategy.name).elim (strategy.getBacktestSharpe regime) .ok with
    | .error failure => .error failure
    | .ok sharpe =>
      rawWeights regime performanceData rest (raw.insert strategy.name (max sharpe (1 / 100)))

/-- Reweight the strategies by their performance in a regime. -/
def reweightStrategies (engine : StrategyEngine Regime) (regime : Regime)
    (performanceData : String → Option ℚ) : StrategyEngine Regime × Except Failure Unit :=
  match rawWeights regime performanceData engine.strategies ∅ with
  | .error failure => ({ engine with reweightingInProgress := false }, .error failure)
  | .ok raw =>
    let totalWeight := (raw.entries.map fun entry => entry.2).sum
    let weights :=
      if 0 < totalWeight then fun name => (raw.lookup name).getD 0 / totalWeight
      else if engine.strategies ≠ [] then equalWeights engine.strategies
      else engine.strategyWeights
    ({ engine with strategyWeights := weights, reweightingInProgress := false }, .ok ())

/-- Classify the regime, and reweight the strategies when it has changed. -/
def updateRegime (engine : StrategyEngine Regime) (marketData : MarketData) :
    StrategyEngine Regime × Except Failure Unit :=
  let newRegime := engine.classify marketData.adx marketData.bbWidth marketData.atrPercentile
  if newRegime = engine.currentRegime then (engine, .ok ())
  else { engine with currentRegime := newRegime }.reweightStrategies newRegime fun _ => none

/-- The signals of the strategies with a weight; the first strategy that raises ends the pass. -/
def generateSignals (engine : StrategyEngine Regime) (marketData : MarketData)
    (accountState : AccountState) :
    List (BaseStrategy Regime) → Except Failure (List TradeSignal)
  | [] => .ok []
  | strategy :: rest =>
    if engine.strategyWeights strategy.name ≤ 0 then
      generateSignals engine marketData accountState rest
    else
      match strategy.generateSignal marketData accountState with
      | .error failure => .error failure
      | .ok signal =>
        (generateSignals engine marketData accountState rest).map (signal.toList ++ ·)

/-- The win rate with which the guard is asked. -/
def defaultWinRate : ℚ := 1 / 2

/-- Ask the guard about a signal. -/
def askGuard (overtradingGuard : OvertradingGuard) (signal : TradeSignal) :
    OvertradingGuard × Except Failure OvertradingGuard.TradeDecision :=
  overtradingGuard.canTrade signal.strategyName signal.instrument signal.timestamp defaultWinRate
    false

/-- Filter signals by their confidence and by the guard. -/
def validateSignals (shouldReject : ℤ → Bool) :
    List TradeSignal → OvertradingGuard → OvertradingGuard × Except Failure (List TradeSignal)
  | [], overtradingGuard => (overtradingGuard, .ok [])
  | signal :: rest, overtradingGuard =>
    if shouldReject signal.confidence then validateSignals shouldReject rest overtradingGuard
    else
      match askGuard overtradingGuard signal with
      | (asked, .error failure) => (asked, .error failure)
      | (asked, .ok decision) =>
        let validated := validateSignals shouldReject rest asked
        (validated.1,
          validated.2.map fun signals => if decision.allowed then signal :: signals else signals)

/-- The signals that the strategies generate for a snapshot. -/
def signalsFor (engine : StrategyEngine Regime) (marketData : MarketData)
    (accountState : AccountState) : StrategyEngine Regime × Except Failure (List TradeSignal) :=
  match engine.updateRegime marketData with
  | (updated, .error failure) => (updated, .error failure)
  | (updated, .ok ()) =>
    if updated.reweightingInProgress then (updated, .ok [])
    else (updated, updated.generateSignals marketData accountState updated.strategies)

/-- Process a snapshot of the market through the whole pipeline. -/
def processMarketData (engine : StrategyEngine Regime) (marketData : MarketData)
    (accountState : AccountState) : StrategyEngine Regime × Except Failure (List TradeSignal) :=
  match engine.signalsFor marketData accountState with
  | (updated, .error failure) => (updated, .error failure)
  | (updated, .ok signals) =>
    let validated := validateSignals updated.shouldReject signals updated.overtradingGuard
    ({ updated with overtradingGuard := validated.1 }, validated.2)

/-- A change of the regime leaves the guard and the scorer alone. -/
theorem update_regime_frame (engine : StrategyEngine Regime) (marketData : MarketData) :
    (engine.updateRegime marketData).1.overtradingGuard = engine.overtradingGuard ∧
      (engine.updateRegime marketData).1.shouldReject = engine.shouldReject := by
  unfold updateRegime reweightStrategies
  dsimp only
  split
  · exact ⟨rfl, rfl⟩
  · split <;> exact ⟨rfl, rfl⟩

/-- Generating signals leaves the guard and the scorer alone. -/
theorem signals_for_frame (engine : StrategyEngine Regime) (marketData : MarketData)
    (accountState : AccountState) :
    (engine.signalsFor marketData accountState).1.overtradingGuard = engine.overtradingGuard ∧
      (engine.signalsFor marketData accountState).1.shouldReject = engine.shouldReject := by
  have frame := engine.update_regime_frame marketData
  unfold signalsFor
  rcases changed : engine.updateRegime marketData with ⟨updated, failure | _⟩
  · rw [changed] at frame
    exact frame
  · rw [changed] at frame
    dsimp only
    split <;> exact frame

end StrategyEngine

end IgTradingBot
