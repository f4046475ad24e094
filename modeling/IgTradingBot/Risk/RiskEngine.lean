import IgTradingBot.Core.Values
import IgTradingBot.Library.Programs
import IgTradingBot.Risk.DrawdownMonitor
import IgTradingBot.Risk.ExposureManager
import IgTradingBot.Risk.KillSwitch
import IgTradingBot.Risk.PositionSizer
import IgTradingBot.Risk.StopManager

/-!
# Risk engine

The orchestration of `src/risk/risk_engine.py`: kill switch, drawdown, exposure,
reward to risk, sizing and stop, in that order, each of which may reject the
signal. The verdict is a program on the engine's components, because the
drawdown check moves the peak and the day, and a fatal drawdown activates the
kill switch.

Events are published on a bus that no check reads, and only on rejections, so
an accepted signal is validated without giving up control between the first
check and the answer.
-/

namespace IgTradingBot

open Sequential Sequential.Program

/-- A signal to be validated. Prices, average true range and notional value are
exact; an absent risk fraction selects the system default. -/
structure RiskSignal where
  instrument : String
  direction : TradeDirection
  entryPrice : ℚ
  stopLoss : ℚ
  takeProfit : ℚ
  confidence : ℤ
  strategy : String
  assetClass : String
  notionalValue : ℚ
  region : Option String := none
  isHft : Bool := false
  atr : ℚ := 0
  atrZscore : ℚ := 0
  riskPct : Option ℚ := none
  deriving DecidableEq, Repr

/-- One entry of the list of open positions, a dictionary in the source. -/
structure RiskPosition where
  instrument : Option String := none
  assetClass : Option String := none
  notionalValue : Option Numeral := none
  region : Option String := none
  deriving DecidableEq, Repr

/-- Reasons of a rejection; each component contributes its own. An absent
reason of a component stands for the engine's default text. -/
inductive RejectionReason where
  /-- "Kill switch is active — all signals rejected" -/
  | killSwitchActive
  | drawdown (reason : Option DrawdownReason)
  | exposure (reason : Option ExposureRejection)
  /-- "Risk-reward ratio … below minimum 1.5" -/
  | riskReward (ratio : ℚ)
  | sizing (reason : Option String)
  deriving DecidableEq, Repr

/-- The answer of the engine. -/
structure ValidationResult where
  allowed : Bool
  rejectionReasons : List RejectionReason := []
  positionSize : Option ℚ := none
  stopLoss : Option ℚ := none
  takeProfitLevels : List ℚ := []
  appliedReductions : List ReductionFactor := []
  triggerKillSwitch : Bool := false
  deriving DecidableEq, Repr

/-- The components with a state. Sizer and stop manager have none. -/
structure RiskEngine where
  drawdownMonitor : DrawdownMonitor
  exposureManager : ExposureManager := {}
  killSwitch : KillSwitch := {}

namespace RiskEngine

/-- Value of an asset-class field, with the fallback to forex. -/
def assetClassOf (value : String) : AssetClass :=
  (AssetClass.ofValue? value.toLower).getD .forex

/-- Convert one dictionary; a notional value that is no number raises. -/
def convertToExposurePosition (position : RiskPosition) : Except Failure ExposurePosition :=
  match position.notionalValue with
  | some numeral => numeral.parse.map fun notional =>
      ⟨position.instrument.getD "UNKNOWN", assetClassOf (position.assetClass.getD "forex"),
        notional, position.region⟩
  | none => .ok ⟨position.instrument.getD "UNKNOWN",
      assetClassOf (position.assetClass.getD "forex"), 0, position.region⟩

/-- Convert the list of open positions in order. -/
def convertToExposurePositions : List RiskPosition → Except Failure (List ExposurePosition)
  | [] => .ok []
  | position :: rest =>
    match convertToExposurePosition position with
    | .error e => .error e
    | .ok converted => (convertToExposurePositions rest).map (converted :: ·)

/-- The proposed position of a signal. -/
def proposedPosition (signal : RiskSignal) : ExposurePosition :=
  ⟨signal.instrument, assetClassOf signal.assetClass, signal.notionalValue, signal.region⟩

/-- The risk fraction passed to the sizer: absent and zero select the default. -/
def riskFraction (signal : RiskSignal) : ℚ :=
  match signal.riskPct with
  | none => Constants.defaultRiskPerTradePct
  | some fraction => if fraction = 0 then Constants.defaultRiskPerTradePct else fraction

/-- The reduction taken over from a drawdown verdict. -/
def drawdownReductions (drawdown : DrawdownCheckResult) : List ReductionFactor :=
  if drawdown.decision = .reduceSize then
    match drawdown.reductionFactor with
    | some reduction => [⟨"drawdown", reduction.factor, reduction.reason⟩]
    | none => []
  else []

/-- Collect the sizer's reductions behind those already tracked; a drawdown
reduction is not tracked twice. -/
def collectReductions (tracked sized : List ReductionFactor) : List ReductionFactor :=
  sized.foldl (fun collected reduction =>
    if reduction.source ≠ "drawdown" ∨ ¬ collected.any (·.source = "drawdown") then
      collected ++ [reduction]
    else collected) tracked

/-- A rejection with one reason. -/
def rejected (reason : RejectionReason) (applied : List ReductionFactor) : ValidationResult :=
  { allowed := false, rejectionReasons := [reason], appliedReductions := applied }

/-- Step 2 on the monitor: the verdict, with the moved peak and day kept. -/
def checkDrawdown (now accountEquity : ℚ) : Program Failure RiskEngine DrawdownCheckResult :=
  fun engine =>
    let checked := engine.drawdownMonitor.checkTradeAllowed now accountEquity
    (.ok checked.2, { engine with drawdownMonitor := checked.1 })

/-- The kill switch is activated for a fatal drawdown. -/
def activateForDrawdown (now : ℚ) (reason : Option DrawdownReason) :
    Program Failure RiskEngine Unit :=
  modify fun engine =>
    let text := match reason with
      | some (.killSwitch drawdownPct threshold) =>
          DrawdownMonitor.killSwitchText drawdownPct threshold
      | _ => "Drawdown exceeded kill switch threshold"
    { engine with killSwitch := (engine.killSwitch.activate now text "drawdown").1 }

/-- Steps 5 and 6: size the position and place the stop, both from the average
true range of the signal. -/
def sizeAndStop (signal : RiskSignal) (accountEquity : ℚ) (reductions : List ReductionFactor) :
    ValidationResult :=
  let sized := PositionSizer.calculateSize accountEquity (riskFraction signal) signal.atr
    Constants.atrMultiplierDefault signal.atrZscore reductions
  if sized.rejected then rejected (.sizing sized.rejectionReason) reductions
  else
    let stop := StopManager.calculateInitialStop signal.entryPrice signal.direction signal.atr
      Constants.atrMultiplierDefault
    { allowed := true
      positionSize := sized.size
      stopLoss := some stop
      takeProfitLevels := StopManager.calculateTakeProfits signal.entryPrice stop signal.direction
      appliedReductions := collectReductions reductions sized.appliedReductions }

/-- Step 4 and the rest: the signal's own stop and target decide the ratio. -/
def checkRiskReward (signal : RiskSignal) (accountEquity : ℚ)
    (reductions : List ReductionFactor) : ValidationResult :=
  if StopManager.validateRiskReward signal.entryPrice signal.stopLoss signal.takeProfit then
    sizeAndStop signal accountEquity reductions
  else
    let risk := |signal.entryPrice - signal.stopLoss|
    let reward := |signal.takeProfit - signal.entryPrice|
    rejected (.riskReward (if 0 < risk then reward / risk else 0)) reductions

/-- Step 3 and the rest: the open positions are converted, then the proposed one
is checked against both exposure limits. -/
def checkLimits (signal : RiskSignal) (accountEquity : ℚ) (currentPositions : List RiskPosition)
    (reductions : List ReductionFactor) : Program Failure RiskEngine ValidationResult := do
  let positions ← ofExcept (convertToExposurePositions currentPositions)
  let exposure ← read fun engine =>
    engine.exposureManager.checkExposure (proposedPosition signal) positions accountEquity
  if exposure.allowed then pure (checkRiskReward signal accountEquity reductions)
  else pure (rejected (.exposure exposure.rejectionReason) reductions)

/-- Validate a signal through all checks in sequence; the first check that
rejects it decides. -/
def validateSignal (now : ℚ) (signal : RiskSignal) (accountEquity : ℚ)
    (currentPositions : List RiskPosition) : Program Failure RiskEngine ValidationResult := do
  let allowed ← read fun engine => engine.killSwitch.isSignalAllowed signal.strategy
  if allowed then do
    let drawdown ← checkDrawdown now accountEquity
    if drawdown.decision = .killSwitch then do
      activateForDrawdown now drawdown.reason
      pure { rejected (.drawdown drawdown.reason) [] with triggerKillSwitch := true }
    else if drawdown.decision = .reject then
      pure (rejected (.drawdown drawdown.reason) [])
    else
      checkLimits signal accountEquity currentPositions (drawdownReductions drawdown)
  else
    pure (rejected .killSwitchActive [])

end RiskEngine

end IgTradingBot
