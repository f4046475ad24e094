import IgTradingBot.Core.Values
import IgTradingBot.Library.Programs
import Mathlib.Data.List.AList

/-!
# Trades and positions in the database

The queries and updates of `src/db/repositories/trade_repo.py` that the trading
loop uses. Both tables are kept newest first, which is the order of the queries
by opening or creation time. A session commits when its block has returned; any
exception rolls it back.
-/

namespace IgTradingBot

open Sequential Sequential.Program

/-- A row of the trade table. -/
structure TradeRow where
  id : String
  instrument : String
  direction : String
  size : ℚ
  entryPrice : ℚ
  igDealId : Option String
  igDealReference : Option String := none
  strategy : String
  openedAt : ℚ
  confidenceScore : ℤ
  isOpen : Bool := true
  exitPrice : Option ℚ := none
  pnl : Option ℚ := none
  closedAt : Option ℚ := none
  deriving DecidableEq, Repr

/-- A row of the position table. -/
structure PositionRow where
  id : String
  tradeId : String
  instrument : String
  direction : String
  size : ℚ
  entryPrice : ℚ
  igDealId : Option String
  stopLoss : Option ℚ := none
  takeProfit : Option ℚ := none
  isOpen : Bool := true
  deriving DecidableEq, Repr

/-- The two tables, newest rows first. -/
structure Database where
  trades : List TradeRow := []
  positions : List PositionRow := []
  deriving DecidableEq, Repr

namespace Database

/-- Programs inside a session. -/
abbrev Query := Program Failure Database

/-- `scalar_one_or_none()`: more than one row raises. -/
def scalarOneOrNone {α : Type} : List α → Except Failure (Option α)
  | [] => .ok none
  | [row] => .ok (some row)
  | _ => .error .database

/-- Trade with an identifier. -/
def getTrade (id : String) : Query (Option TradeRow) := do
  let rows ← read fun database => database.trades.filter (·.id = id)
  ofExcept (scalarOneOrNone rows)

/-- Trade of a broker deal, open or closed. -/
def getTradeByIgDealId (dealId : String) : Query (Option TradeRow) := do
  let rows ← read fun database => database.trades.filter (·.igDealId = some dealId)
  ofExcept (scalarOneOrNone rows)

/-- Open trades of an instrument, newest first. -/
def getOpenTrades (instrument : String) : Query (List TradeRow) :=
  read fun database => database.trades.filter fun row => row.isOpen && row.instrument = instrument

/-- Position with an identifier. -/
def getPosition (id : String) : Query (Option PositionRow) := do
  let rows ← read fun database => database.positions.filter (·.id = id)
  ofExcept (scalarOneOrNone rows)

/-- Position of a broker deal, open or closed. -/
def getPositionByIgDealId (dealId : String) : Query (Option PositionRow) := do
  let rows ← read fun database => database.positions.filter (·.igDealId = some dealId)
  ofExcept (scalarOneOrNone rows)

/-- Open positions, newest first. -/
def getOpenPositions : Query (List PositionRow) :=
  read fun database => database.positions.filter (·.isOpen)

/-- Insert a trade. -/
def createTrade (row : TradeRow) : Query Unit :=
  modify fun database => { database with trades := row :: database.trades }

/-- Insert a position. -/
def createPosition (row : PositionRow) : Query Unit :=
  modify fun database => { database with positions := row :: database.positions }

/-- Close a trade with its exit price and profit. -/
def closeTrade (id : String) (exitPrice pnl closedAt : ℚ) : Query Unit :=
  modify fun database =>
    { database with
        trades := database.trades.map fun row =>
          if row.id = id then
            { row with
                isOpen := false
                exitPrice := some exitPrice
                pnl := some pnl
                closedAt := some closedAt }
          else row }

/-- Mark a position as closed. -/
def closePosition (id : String) : Query Unit :=
  modify fun database =>
    { database with
        positions := database.positions.map fun row =>
          if row.id = id then { row with isOpen := false } else row }

end Database

/-- How a session ends at the database: its changes are committed, or it fails,
and a failure of the commit may be reported although the changes are kept. -/
inductive SessionEnd where
  | committed
  | failed (kept : Bool)
  deriving DecidableEq, Repr

/-- The changes of a session stay in the database. -/
def SessionEnd.keepsChanges : SessionEnd → Bool
  | .committed => true
  | .failed kept => kept

end IgTradingBot
