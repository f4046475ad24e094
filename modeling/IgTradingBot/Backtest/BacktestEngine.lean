import IgTradingBot.Config.Constants
import Mathlib.Algebra.Order.Field.Rat
import Mathlib.Data.List.Infix
import Mathlib.Data.Option.NAry

/-!
# Backtest engine

The simulation of `src/backtesting/backtest_engine.py`. The engine goes through the bars of a data
frame, asks a strategy for a signal while it is flat, and closes what it opened after ten bars or a
large move. A price, and what is computed from one, may be missing: it is then the number that is
not a number. Prices are exact up to the roundings that the decimal context and floats make.
-/

namespace IgTradingBot

/-- Market regime classifications. -/
inductive MarketRegime where
  | trending
  | ranging
  | volatile
  | crisis
  deriving DecidableEq, Repr

/-- A label of the index of a data frame: a timestamp, or a label of another kind, such as a number
or a period. -/
inductive IndexLabel (τ κ : Type) where
  | timestamp (moment : τ)
  | other (key : κ)
  deriving DecidableEq, Repr

/-- A row of the data, with its closing price and its other columns. -/
structure Bar (τ κ ρ : Type) where
  label : IndexLabel τ κ
  close : Option ℚ
  columns : ρ
  deriving DecidableEq, Repr

/-- A data frame whose index has no label twice. -/
structure HistoricalData (τ κ ρ : Type) where
  bars : List (Bar τ κ ρ)
  unique : (bars.map Bar.label).Nodup

/-- What the engine asks of an index and of the column of timestamps. -/
structure Pandas (τ κ ρ : Type) where
  /-- The position of a timestamp, if it is in the index. -/
  getLoc : List (IndexLabel τ κ) → τ → Option ℕ
  /-- The days between the first and the last label, if labels can be subtracted. -/
  indexDays : List (IndexLabel τ κ) → Option ℤ
  /-- The days that the column of timestamps spans, if there is such a column. -/
  timestampDays : List ρ → Except String (Option ℤ)

/-- How numbers are rounded: by the decimal context, to a float, and to what a float prints as. -/
structure Rounding where
  decimal : ℚ → ℚ
  float : ℚ → ℚ
  str : ℚ → ℚ

/-- A strategy answers the direction of its signal, if it has one, and may remember what it saw. -/
structure BaseStrategy (σ β : Type) where
  generateSignal : σ → List β → MarketRegime → Except String (Option String × σ)

/-- A completed trade. -/
structure Trade (τ : Type) where
  entryTime : τ
  exitTime : τ
  entryPrice : Option ℚ
  exitPrice : Option ℚ
  direction : String
  size : ℚ
  pnl : Option ℚ
  costs : ℚ
  deriving DecidableEq, Repr

/-- Why a backtest ends without a result. -/
inductive BacktestFailure where
  | insufficientData (message : String)
  | zeroDivision
  | raised (error : String)
  deriving DecidableEq, Repr

/-- The position that is open. -/
structure BacktestPosition (τ : Type) where
  entryPrice : Option ℚ
  entryTime : τ
  direction : String
  size : ℚ
  deriving DecidableEq, Repr

/-- State of a simulation, with what the strategy remembers. -/
structure Simulation (σ τ : Type) where
  memory : σ
  equity : Option ℚ
  position : Option (BacktestPosition τ) := none
  trades : List (Trade τ) := []

/-- Costs that an engine applies to a trade. -/
structure BacktestEngine where
  spreadPips : ℚ := 1
  slippagePips : ℚ := Constants.backtestDefaultSlippagePips
  commissionPerLot : ℚ := 7
  deriving DecidableEq, Repr

variable {σ τ κ ρ : Type}

namespace HistoricalData

/-- The index of the data. -/
def index (data : HistoricalData τ κ ρ) : List (IndexLabel τ κ) := data.bars.map Bar.label

/-- The first bars of the data. -/
def head (data : HistoricalData τ κ ρ) (count : ℕ) : HistoricalData τ κ ρ where
  bars := data.bars.take count
  unique := data.unique.sublist ((List.take_sublist count data.bars).map Bar.label)

/-- The bars that a strategy sees at a bar: that bar and the 200 before it. -/
def window (data : HistoricalData τ κ ρ) (i : ℕ) : List (Bar τ κ ρ) :=
  (data.bars.take (i + 1)).drop (i - 200)

end HistoricalData

namespace BacktestEngine

/-- Data must not be empty and must have enough rows and days. -/
def validateData (pandas : Pandas τ κ ρ) (data : HistoricalData τ κ ρ) :
    Except BacktestFailure Unit :=
  if data.bars.isEmpty then .error (.insufficientData "Historical data is empty")
  else if data.bars.length < Constants.backtestMinTrades then
    .error (.insufficientData (s!"Insufficient data: {data.bars.length} rows, " ++
      s!"minimum {Constants.backtestMinTrades} required"))
  else
    match pandas.indexDays data.index with
    | some days => enoughDays days
    | none =>
      -- an index that is not one of dates: the column of timestamps, if there is one
      match pandas.timestampDays (data.bars.map Bar.columns) with
      | .ok (some days) => enoughDays days
      | .ok none => .ok ()
      | .error error => .error (.raised error)
where
  enoughDays (days : ℤ) : Except BacktestFailure Unit :=
    if days < Constants.backtestMinDays then
      .error (.insufficientData (s!"Insufficient data span: {days} days, " ++
        s!"minimum {Constants.backtestMinDays} days required"))
    else .ok ()

/-- Spread, slippage and commission of a trade. -/
def calculateTradeCosts (engine : BacktestEngine) (rounding : Rounding) (size pipValue : ℚ) : ℚ :=
  let spreadCost :=
    rounding.decimal (rounding.decimal (rounding.str engine.spreadPips * pipValue) * size)
  let slippageCost :=
    rounding.decimal (rounding.decimal (rounding.str engine.slippagePips * pipValue) * size)
  let commission := rounding.decimal (rounding.str engine.commissionPerLot * size)
  rounding.decimal (rounding.decimal (spreadCost + slippageCost) + commission)

/-- The bars before the first one at which a signal is asked for. -/
def minWindow (data : HistoricalData τ κ ρ) : ℕ := min 50 (data.bars.length / 2)

/-- The time of a bar: its timestamp, or else what the clock shows. -/
def barTime (now : τ) (bar : Bar τ κ ρ) : τ :=
  match bar.label with
  | .timestamp moment => moment
  | .other _ => now

/-- Size from a fraction of the equity. An equity that is not a number is not above the least size. -/
def entrySize (rounding : Rounding) (equity : Option ℚ) : ℚ :=
  let least := rounding.float (1 / 100)
  match equity with
  | some amount =>
    let wanted := rounding.float
      (rounding.float (rounding.float amount * rounding.float (1 / 100)) / 100)
    rounding.str (max least wanted)
  | none => rounding.str least

/-- Bars since the entry. An entry time that the index does not have counts as ten bars ago. -/
def barsHeld (pandas : Pandas τ κ ρ) (data : HistoricalData τ κ ρ) (i : ℕ) (entryTime : τ) : ℤ :=
  match pandas.getLoc data.index entryTime with
  | some position => (i : ℤ) - position
  | none => (i : ℤ) - ((i : ℤ) - 10)

/-- Relative move of the price since the entry. -/
def priceChange (rounding : Rounding) (currentPrice entryPrice : Option ℚ) :
    Except BacktestFailure (Option ℚ) :=
  match entryPrice with
  | none => .ok none
  | some entry =>
    if rounding.float entry = 0 then .error .zeroDivision
    else .ok (currentPrice.map fun current =>
      rounding.float (|rounding.float (rounding.decimal (current - entry))| / rounding.float entry))

/-- Profit of a position before costs. -/
def rawPnl (rounding : Rounding) (position : BacktestPosition τ) (exitPrice : Option ℚ)
    (pipValue : ℚ) : Option ℚ :=
  let profit := fun higher lower : ℚ =>
    rounding.decimal (rounding.decimal (rounding.decimal (higher - lower) * position.size) * pipValue)
  if position.direction = "LONG" then Option.map₂ profit exitPrice position.entryPrice
  else Option.map₂ profit position.entryPrice exitPrice

section Run

variable (engine : BacktestEngine) (pandas : Pandas τ κ ρ) (rounding : Rounding)
  (strategy : BaseStrategy σ (Bar τ κ ρ)) (pipValue : ℚ) (clock : ℕ → τ)
  (data : HistoricalData τ κ ρ)

/-- While flat: ask the strategy for a signal and open what it answers. -/
def tryEntry (state : Simulation σ τ) (i : ℕ) (bar : Bar τ κ ρ) :
    Except BacktestFailure (Simulation σ τ) :=
  match strategy.generateSignal state.memory (data.window i) .trending with
  | .error error => .error (.raised error)
  | .ok (none, memory) => .ok { state with memory }
  | .ok (some direction, memory) =>
    .ok { state with
      memory
      position := some {
        entryPrice := bar.close.map rounding.str
        entryTime := barTime (clock i) bar
        direction
        size := entrySize rounding state.equity } }

/-- The trade that closes a position at a bar. -/
def closedTrade (position : BacktestPosition τ) (i : ℕ) (bar : Bar τ κ ρ) : Trade τ :=
  let exitPrice := bar.close.map rounding.str
  let costs := engine.calculateTradeCosts rounding position.size pipValue
  { entryTime := position.entryTime
    exitTime := barTime (clock i) bar
    entryPrice := position.entryPrice
    exitPrice
    direction := position.direction
    size := position.size
    pnl := (rawPnl rounding position exitPrice pipValue).map fun raw => rounding.decimal (raw - costs)
    costs }

/-- While a position is open: close it after ten bars or when the price moved by more than 2%. -/
def tryExit (state : Simulation σ τ) (position : BacktestPosition τ) (i : ℕ) (bar : Bar τ κ ρ) :
    Except BacktestFailure (Simulation σ τ) := do
  let held := barsHeld pandas data i position.entryTime
  let change ← priceChange rounding (bar.close.map rounding.str) position.entryPrice
  let shouldExit := 10 ≤ held ∨ change.any (fun moved => rounding.float (2 / 100) < moved)
  if shouldExit then
    let trade := closedTrade engine rounding pipValue clock position i bar
    pure { state with
      trades := state.trades ++ [trade]
      equity := Option.map₂ (fun equity pnl => rounding.decimal (equity + pnl)) state.equity trade.pnl
      position := none }
  else pure state

/-- One pass of the loop over the bars. -/
def simulateBar (state : Simulation σ τ) (i : ℕ) : Except BacktestFailure (Simulation σ τ) :=
  match data.bars[i]? with
  | none => .error (.raised "single positional indexer is out-of-bounds")
  | some bar =>
    match state.position with
    | none => tryEntry rounding strategy clock data state i bar
    | some position => tryExit engine pandas rounding pipValue clock data state position i bar

/-- The passes of the loop at the bars before `stop`. -/
def simulateBefore (stop : ℕ) (start : Simulation σ τ) :
    Except BacktestFailure (Simulation σ τ) :=
  (List.range' (minWindow data) (stop - minWindow data)).foldlM
    (simulateBar engine pandas rounding strategy pipValue clock data) start

/-- The trades whose metrics are the result of the run. -/
def run (memory : σ) (initialEquity : ℚ) : Except BacktestFailure (List (Trade τ)) := do
  validateData pandas data
  let final ← simulateBefore engine pandas rounding strategy pipValue clock data data.bars.length
    { memory, equity := some initialEquity }
  pure final.trades

end Run

end BacktestEngine

end IgTradingBot
