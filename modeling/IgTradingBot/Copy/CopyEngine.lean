import IgTradingBot.Config.Constants
import IgTradingBot.Core.Values
import IgTradingBot.Library.Decimals
import Mathlib.Data.List.MinMax
import Mathlib.Logic.Function.Basic

/-!
# Copy engine

Replication of the trades of other traders, from `src/copy_trading/copy_engine.py`. A replication
is suspended where it waits for the risk validation, so it has a part before and a part after it.
All other calls go through without suspension. Money is exact.
-/

namespace IgTradingBot

/-- Status of a copied trade. -/
inductive CopyStatus where
  | pending
  | executed
  | closed
  | cancelled
  | timedOut
  | riskRejected
  deriving DecidableEq, Repr

/-- A trade of a source trader that is to be replicated. -/
structure SourceTrade where
  tradeId : String
  traderId : String
  instrument : String
  direction : String
  entryPrice : ℚ
  stopLoss : ℚ
  takeProfit : ℚ
  size : ℚ

/-- A trade that was replicated from a source trader. -/
structure CopiedTrade where
  dealId : String
  sourceTradeId : String
  traderId : String
  instrument : String
  direction : String
  entryPrice : ℚ
  stopLoss : ℚ
  takeProfit : ℚ
  size : ℚ
  status : CopyStatus := .pending
  deriving DecidableEq, Repr

/-- Allocation of a copied trader. -/
structure TraderAllocation where
  traderId : String
  allocatedEquity : ℚ
  currentPnl : ℚ := 0
  openPositions : List String := []
  pnlHistory : List (ℚ × ℚ) := []

/-- How the risk validation of a replication ends, which may also raise. -/
inductive CopyValidation where
  | validated (allowed : Bool)
  | timedOut
  | raised (failure : Failure)
  deriving DecidableEq

/-- State of the engine. Active copies are listed in the order in which they were executed. -/
structure CopyEngine where
  hasRiskEngine : Bool := false
  executionTimeout : ℚ := Constants.copyExecutionTimeoutSeconds
  drawdownStopPct : ℚ := Constants.copyDrawdownStopPct
  activeCopies : List CopiedTrade := []
  traderAllocations : String → Option TraderAllocation := fun _ => none
  dealCounter : ℕ := 0

/-- The identifier of a deal has at least six digits. -/
def copyDealId (counter : ℕ) : String :=
  "COPY-" ++ String.ofList (List.leftpad 6 '0' (Nat.toDigits 10 counter))

example : copyDealId 12 = "COPY-000012" := by decide +kernel

/-- The copy of a source trade under an identifier. -/
def SourceTrade.copied (sourceTrade : SourceTrade) (dealId : String) (size : ℚ) : CopiedTrade where
  dealId := dealId
  sourceTradeId := sourceTrade.tradeId
  traderId := sourceTrade.traderId
  instrument := sourceTrade.instrument
  direction := sourceTrade.direction
  entryPrice := sourceTrade.entryPrice
  stopLoss := sourceTrade.stopLoss
  takeProfit := sourceTrade.takeProfit
  size := size

namespace CopyEngine

/-- Register a trader for copying. -/
def registerTrader (traderId : String) (allocatedEquity : ℚ) (engine : CopyEngine) : CopyEngine :=
  { engine with
      traderAllocations := Function.update engine.traderAllocations traderId
        (some { traderId, allocatedEquity }) }

/-- Size proportional to the allocation, at least a hundredth. -/
def adjustedSize (sourceTrade : SourceTrade) (traderAllocation copierEquity : ℚ) : ℚ :=
  let adjusted := Decimals.quantizeHalfEven 2
    (sourceTrade.size * (traderAllocation / copierEquity))
  if adjusted < 1 / 100 then 1 / 100 else adjusted

/-- Change the allocation of a trader, if there is one. -/
def updateAllocation (traderId : String) (change : TraderAllocation → TraderAllocation)
    (engine : CopyEngine) : CopyEngine :=
  { engine with
      traderAllocations := Function.update engine.traderAllocations traderId
        ((engine.traderAllocations traderId).map change) }

/-- Execute a copied trade that is allowed. Its identifier is new, so it is listed last. -/
def execute (copiedTrade : CopiedTrade) (elapsed : ℚ) (engine : CopyEngine) :
    CopiedTrade × CopyEngine :=
  if engine.executionTimeout < elapsed then ({ copiedTrade with status := .timedOut }, engine)
  else
    let executed := { copiedTrade with status := .executed }
    (executed,
      { engine with activeCopies := engine.activeCopies ++ [executed] }.updateAllocation
        copiedTrade.traderId fun allocation =>
          { allocation with openPositions := allocation.openPositions ++ [copiedTrade.dealId] })

/-- The part of a replication before its suspension, with two readings of the clock. It ends with a
copied trade that is returned, or with one whose validation is awaited. -/
def replicateTrade (sourceTrade : SourceTrade) (traderAllocation copierEquity : ℚ)
    (elapsed elapsedAtExecution : ℚ) (engine : CopyEngine) :
    (CopiedTrade ⊕ CopiedTrade) × CopyEngine :=
  let counted := { engine with dealCounter := engine.dealCounter + 1 }
  let dealId := copyDealId counted.dealCounter
  if copierEquity ≤ 0 then
    (.inl { sourceTrade.copied dealId 0 with status := .cancelled }, counted)
  else
    let copiedTrade := sourceTrade.copied dealId
      (adjustedSize sourceTrade traderAllocation copierEquity)
    if engine.executionTimeout < elapsed then
      (.inl { copiedTrade with status := .timedOut }, counted)
    else if engine.hasRiskEngine then (.inr copiedTrade, counted)
    else
      let (executed, next) := counted.execute copiedTrade elapsedAtExecution
      (.inl executed, next)

/-- The part of a replication after its suspension. -/
def resumeReplication (copiedTrade : CopiedTrade) (validation : CopyValidation) (elapsed : ℚ)
    (engine : CopyEngine) : Except Failure CopiedTrade × CopyEngine :=
  match validation with
  | .raised failure => (.error failure, engine)
  | .timedOut => (.ok { copiedTrade with status := .timedOut }, engine)
  | .validated false => (.ok { copiedTrade with status := .riskRejected }, engine)
  | .validated true =>
    let (executed, next) := engine.execute copiedTrade elapsed
    (.ok executed, next)

/-- Close a copied position. -/
def closeCopiedPosition (dealId : String) (engine : CopyEngine) :
    Option CopiedTrade × CopyEngine :=
  match engine.activeCopies.find? fun copiedTrade => copiedTrade.dealId = dealId with
  | none => (none, engine)
  | some copiedTrade =>
    (some { copiedTrade with status := .closed },
      { engine with
          activeCopies := engine.activeCopies.filter (·.dealId ≠ dealId) }.updateAllocation
        copiedTrade.traderId fun allocation =>
          { allocation with openPositions := allocation.openPositions.erase dealId })

/-- Close some positions one after the other, with the trades that were closed. -/
def closePositions : List String → CopyEngine → List CopiedTrade × CopyEngine
  | [], engine => ([], engine)
  | dealId :: rest, engine =>
    let (result, next) := engine.closeCopiedPosition dealId
    let (closed, last) := closePositions rest next
    (result.toList ++ closed, last)

/-- Stop copying a trader and close all its positions. -/
def stopCopyingTrader (traderId : String) (engine : CopyEngine) : List CopiedTrade × CopyEngine :=
  let positionsToClose :=
    (engine.activeCopies.filter (·.traderId = traderId)).map (·.dealId)
  let (closed, next) := closePositions positionsToClose engine
  (closed,
    { next with traderAllocations := Function.update next.traderAllocations traderId none })

/-- Seconds in the window of the drawdown. -/
def drawdownWindow : ℚ := 7 * 86400

/-- The share of an allocation that a report of a drawdown states; decimals raise without one. -/
def drawdownShare (drawdown allocatedEquity : ℚ) : Except Failure ℚ :=
  if allocatedEquity ≠ 0 then .ok (drawdown / allocatedEquity)
  else if drawdown ≠ 0 then .error (.other "DivisionByZero")
  else .error .notANumber

/-- Record the profit of a trader and check its drawdown in the window. -/
def checkDrawdownStop (traderId : String) (currentPnl now : ℚ) (engine : CopyEngine) :
    Except Failure Bool × CopyEngine :=
  match engine.traderAllocations traderId with
  | none => (.ok false, engine)
  | some allocation =>
    let recent := (allocation.pnlHistory ++ [(now, currentPnl)]).filter fun entry =>
      now - drawdownWindow ≤ entry.1
    let next := engine.updateAllocation traderId fun allocation =>
      { allocation with pnlHistory := recent, currentPnl }
    match (recent.map Prod.snd).max? with
    | none => (.ok false, next)
    | some peak =>
      if allocation.allocatedEquity * engine.drawdownStopPct ≤ peak - currentPnl then
        ((drawdownShare (peak - currentPnl) allocation.allocatedEquity).map fun _ => true, next)
      else (.ok false, next)

end CopyEngine

end IgTradingBot
