import IgTradingBot.Copy.CopyEngine
import IgTradingBot.Risk.Approval

/-!
# Validated copies

A replication whose risk validation is the risk engine's own, as `_validate_with_risk_engine` asks
for it. The signal it builds has no average true range, so that the default of zero is taken. The
sizing of the engine refuses to work without one, and so no copy is ever executed, whatever limits
it keeps to: a trade that keeps to all of them is refused for missing volatility data.
-/

namespace IgTradingBot

open Sequential Sequential.Program

/-- A copy engine with a risk engine. -/
structure ValidatedCopying where
  copies : CopyEngine
  validates : copies.hasRiskEngine = true
  risk : RiskEngine

/-- A call to replicate a trade, with the readings of the clocks. A validation that takes too long
leaves the risk engine in the state in which it is given up. -/
structure CopyCall where
  sourceTrade : SourceTrade
  assetClass : String
  traderAllocation : ℚ
  copierEquity : ℚ
  now : ℚ
  elapsed : ℚ
  givenUp : Option RiskEngine := none
  elapsedAtExecution : ℚ

namespace CopyCall

/-- The signal that is validated for a copy. What is not "LONG" is a short. -/
def signal (call : CopyCall) (adjustedSize : ℚ) : RiskSignal where
  instrument := call.sourceTrade.instrument
  direction := if call.sourceTrade.direction = "LONG" then .long else .short
  entryPrice := call.sourceTrade.entryPrice
  stopLoss := call.sourceTrade.stopLoss
  takeProfit := call.sourceTrade.takeProfit
  confidence := 100
  strategy := "copy_trading"
  assetClass := call.assetClass
  notionalValue := adjustedSize * call.sourceTrade.entryPrice

/-- Validate a copied trade through the risk engine. -/
def validateWithRiskEngine (call : CopyCall) (adjustedSize : ℚ) :
    Program Failure RiskEngine ValidationResult :=
  RiskEngine.validateSignal call.now (call.signal adjustedSize) call.copierEquity []

/-- The size that is validated. -/
def size (call : CopyCall) : ℚ :=
  CopyEngine.adjustedSize call.sourceTrade call.traderAllocation call.copierEquity

end CopyCall

namespace ValidatedCopying

/-- How the validation of a copy ends, with the state in which it leaves the risk engine. -/
def validation (call : CopyCall) (copiedTrade : CopiedTrade) (risk : RiskEngine) :
    CopyValidation × RiskEngine :=
  match call.givenUp with
  | some left => (.timedOut, left)
  | none =>
    match call.validateWithRiskEngine copiedTrade.size risk with
    | (.ok result, left) => (.validated result.allowed, left)
    | (.error failure, left) => (.raised failure, left)

/-- Replicate a trade, through its suspension. -/
def replicateTrade (call : CopyCall) (copying : ValidatedCopying) :
    Except Failure CopiedTrade × CopyEngine × RiskEngine :=
  match copying.copies.replicateTrade call.sourceTrade call.traderAllocation call.copierEquity
      call.elapsed call.elapsedAtExecution with
  | (.inl answered, next) => (.ok answered, next, copying.risk)
  | (.inr copiedTrade, next) =>
    let (outcome, risk) := validation call copiedTrade copying.risk
    let (answer, last) := next.resumeReplication copiedTrade outcome call.elapsedAtExecution
    (answer, last, risk)

/-- A call keeps to the rules of copying and to all limits of the risk engine. -/
structure KeepsRules (call : CopyCall) (copying : ValidatedCopying) : Prop where
  equity : 0 < call.copierEquity
  prompt : call.elapsed ≤ copying.copies.executionTimeout
  validatedInTime : call.givenUp = none
  executedInTime : call.elapsedAtExecution ≤ copying.copies.executionTimeout
  killSwitch : copying.risk.killSwitch.isActive = false
  notKilled : (copying.risk.drawdownMonitor.checkTradeAllowed call.now
    call.copierEquity).2.decision ≠ .killSwitch
  notStopped : (copying.risk.drawdownMonitor.checkTradeAllowed call.now
    call.copierEquity).2.decision ≠ .reject
  exposure : (copying.risk.exposureManager.checkExposure
    (RiskEngine.proposedPosition (call.signal call.size)) [] call.copierEquity).allowed = true
  riskReward : StopManager.validateRiskReward call.sourceTrade.entryPrice call.sourceTrade.stopLoss
    call.sourceTrade.takeProfit = true

/-- A call ends with an executed copy. -/
def Executes (call : CopyCall) (copying : ValidatedCopying) : Prop :=
  ∃ copiedTrade, (replicateTrade call copying).1 = .ok copiedTrade ∧ copiedTrade.status = .executed

end ValidatedCopying

open RiskEngine ValidatedCopying

section Refusals

variable {call : CopyCall} {copying : ValidatedCopying} {risk after : RiskEngine}
  {result : ValidationResult} {adjustedSize : ℚ} {reductions : List ReductionFactor}

/-- The sizing of a copy is refused, for it has no average true range. -/
theorem copy_size_refused : (PositionSizer.calculateSize call.copierEquity
    (riskFraction (call.signal adjustedSize)) (call.signal adjustedSize).atr
    Constants.atrMultiplierDefault (call.signal adjustedSize).atrZscore reductions).rejected =
      true := by
  by_contra accepted
  obtain ⟨_, _, _, _, _, _, range, _⟩ :=
    PositionSizer.calculate_size_accepted _ _ _ _ _ _ _ (Bool.eq_false_iff.mpr accepted)
  exact lt_irrefl 0 range

/-- Once only the sizing is left, a copy is refused. -/
theorem copy_not_sized : (sizeAndStop (call.signal adjustedSize) call.copierEquity
    reductions).allowed = false := by
  simp only [sizeAndStop, copy_size_refused, if_true, rejected]

/-- With a positive equity the reason is the range that is missing. -/
theorem copy_sizing_reason (equity : 0 < call.copierEquity) :
    sizeAndStop (call.signal adjustedSize) call.copierEquity reductions =
      rejected (.sizing (some "insufficient volatility data")) reductions := by
  have fraction : ¬(riskFraction (call.signal adjustedSize) ≤ 0 ∨
      Constants.maxPositionSizePct < riskFraction (call.signal adjustedSize)) := by
    change ¬(Constants.defaultRiskPerTradePct ≤ 0 ∨
      Constants.maxPositionSizePct < Constants.defaultRiskPerTradePct)
    norm_num [Constants.defaultRiskPerTradePct, Constants.maxPositionSizePct]
  have noRange : (call.signal adjustedSize).atr ≤ 0 := le_refl 0
  simp only [sizeAndStop, PositionSizer.calculateSize, if_neg equity.not_ge, if_neg fraction,
    if_pos noRange, PositionSizer.rejection, if_true]

/-- No copy is validated. -/
theorem copy_not_validated
    (ended : call.validateWithRiskEngine adjustedSize risk = (.ok result, after)) :
    result.allowed = false := by
  by_contra validated
  have allowed : result.allowed = true := by simpa using validated
  obtain ⟨_, _, _, _, _, _, limits⟩ := validate_signal_allowed _ _ _ _ _ _ _ ended allowed
  obtain ⟨-, rfl, -⟩ := check_limits_allowed _ _ _ _ _ _ _ limits allowed
  obtain ⟨sized, -⟩ := check_risk_reward_allowed _ _ _ allowed
  rw [sized, copy_not_sized] at allowed
  exact Bool.noConfusion allowed

/-- A validation that is not given up answers what the engine does. -/
theorem validation_answered (copiedTrade : CopiedTrade) (inTime : call.givenUp = none)
    (ended : call.validateWithRiskEngine copiedTrade.size risk = (.ok result, after)) :
    validation call copiedTrade risk = (.validated result.allowed, after) := by
  simp only [validation, inTime, ended]

/-- A validation does not allow a copy. -/
theorem validation_refuses (copiedTrade : CopiedTrade) :
    (validation call copiedTrade risk).1 ≠ .validated true := by
  unfold validation
  cases call.givenUp with
  | some left => simp
  | none =>
    rcases ended : call.validateWithRiskEngine copiedTrade.size risk with ⟨answer, after⟩
    cases answer with
    | error failure => simp
    | ok result => simp [copy_not_validated ended]

/-- Resuming without an allowed validation does not execute. -/
theorem resume_refused (engine : CopyEngine) (copiedTrade answered : CopiedTrade)
    (outcome : CopyValidation) (elapsed : ℚ) (refused : outcome ≠ .validated true)
    (answer : (engine.resumeReplication copiedTrade outcome elapsed).1 = .ok answered) :
    answered.status ≠ .executed := by
  cases outcome with
  | raised failure => simp [CopyEngine.resumeReplication] at answer
  | timedOut =>
    obtain rfl := Except.ok.inj answer
    simp
  | validated allowed =>
    cases allowed with
    | true => exact absurd rfl refused
    | false =>
      obtain rfl := Except.ok.inj answer
      simp

/-- Before its suspension, a replication that is to be validated does not execute. -/
theorem unvalidated_not_executed {answered : CopiedTrade} {next : CopyEngine}
    (ended : copying.copies.replicateTrade call.sourceTrade call.traderAllocation call.copierEquity
      call.elapsed call.elapsedAtExecution = (.inl answered, next)) :
    answered.status ≠ .executed := by
  unfold CopyEngine.replicateTrade at ended
  simp only [copying.validates, if_true] at ended
  split_ifs at ended
  · obtain ⟨rfl, -⟩ := by simpa using ended
    simp
  · obtain ⟨rfl, -⟩ := by simpa using ended
    simp
  · simp at ended

/-- No call executes a copy. -/
theorem copy_not_executed : ¬Executes call copying := by
  rintro ⟨answered, answer, executed⟩
  unfold ValidatedCopying.replicateTrade at answer
  split at answer
  · rename_i ended
    obtain rfl := Except.ok.inj answer
    exact unvalidated_not_executed ended executed
  · exact resume_refused _ _ _ _ _ (validation_refuses _) answer executed

/-- A call that keeps to all rules is suspended with a copy of the size that is validated. -/
theorem kept_suspends (kept : KeepsRules call copying) : ∃ copiedTrade next,
    copying.copies.replicateTrade call.sourceTrade call.traderAllocation call.copierEquity
      call.elapsed call.elapsedAtExecution = (.inr copiedTrade, next) ∧
    copiedTrade.size = call.size := by
  simp only [CopyEngine.replicateTrade, if_neg kept.equity.not_ge, if_neg kept.prompt.not_gt,
    copying.validates, if_true]
  exact ⟨_, _, rfl, rfl⟩

/-- A call that keeps to all limits comes to the sizing, which refuses it. -/
theorem kept_validation (kept : KeepsRules call copying) : ∃ reductions after,
    call.validateWithRiskEngine call.size copying.risk =
      (.ok (rejected (.sizing (some "insufficient volatility data")) reductions), after) := by
  have ratio : StopManager.validateRiskReward (call.signal call.size).entryPrice
    (call.signal call.size).stopLoss (call.signal call.size).takeProfit = true := kept.riskReward
  have decided : call.validateWithRiskEngine call.size copying.risk = (.ok _, _) :=
    (validate_signal_passed kept.killSwitch kept.notKilled kept.notStopped).trans
      (check_limits_passed kept.exposure)
  rw [checkRiskReward, if_pos ratio, copy_sizing_reason kept.equity] at decided
  exact ⟨_, _, decided⟩

/-- A call that keeps to all rules is answered with a copy that was rejected. -/
theorem kept_rejected (kept : KeepsRules call copying) : ∃ copiedTrade,
    (ValidatedCopying.replicateTrade call copying).1 = .ok copiedTrade ∧
      copiedTrade.status = .riskRejected := by
  obtain ⟨copiedTrade, next, suspended, size⟩ := kept_suspends kept
  obtain ⟨reductions, after, ended⟩ := kept_validation kept
  rw [← size] at ended
  have answered := validation_answered copiedTrade kept.validatedInTime ended
  refine ⟨{ copiedTrade with status := .riskRejected }, ?_, rfl⟩
  simp only [ValidatedCopying.replicateTrade, suspended, answered, rejected,
    CopyEngine.resumeReplication]

end Refusals

/-- With the risk engine no copy is ever executed, and one that keeps to the rules of copying and to
all limits is rejected for the range that its signal lacks. -/
theorem copies_never_executed (call : CopyCall) (copying : ValidatedCopying) :
    ¬Executes call copying ∧
      (KeepsRules call copying →
        (∃ reductions after, call.validateWithRiskEngine call.size copying.risk =
          (.ok (rejected (.sizing (some "insufficient volatility data")) reductions), after)) ∧
        ∃ copiedTrade, (ValidatedCopying.replicateTrade call copying).1 = .ok copiedTrade ∧
          copiedTrade.status = .riskRejected) :=
  ⟨copy_not_executed, fun kept => ⟨kept_validation kept, kept_rejected kept⟩⟩

/-- A copy engine with the default limits and an equity of ten thousand. -/
def defaultCopying : ValidatedCopying where
  copies := { hasRiskEngine := true }
  validates := rfl
  risk := { drawdownMonitor := .create 10000 0 }

/-- A trade whose reward is three times its risk, copied with a tenth of the equity. -/
def moderateCall : CopyCall where
  sourceTrade := ⟨"T1", "alice", "EUR/USD", "LONG", 11 / 10, 109 / 100, 113 / 100, 1⟩
  assetClass := "forex"
  traderAllocation := 1000
  copierEquity := 10000
  now := 0
  elapsed := 0
  elapsedAtExecution := 0

/-- The call keeps to all rules. -/
theorem moderate_call_keeps : KeepsRules moderateCall defaultCopying := by
  constructor <;> decide +kernel

/-- It is rejected all the same, and for its sizing alone. -/
theorem moderate_copy_refused :
    ∃ reductions after, moderateCall.validateWithRiskEngine moderateCall.size defaultCopying.risk =
      (.ok (rejected (.sizing (some "insufficient volatility data")) reductions), after) :=
  ((copies_never_executed moderateCall defaultCopying).2 moderate_call_keeps).1

/-- A trade that keeps to all rules is rejected and not executed. -/
theorem moderate_call_rejected :
    KeepsRules moderateCall defaultCopying ∧ ¬Executes moderateCall defaultCopying ∧
      ∃ copiedTrade, (ValidatedCopying.replicateTrade moderateCall defaultCopying).1 =
        .ok copiedTrade ∧ copiedTrade.status = .riskRejected :=
  ⟨moderate_call_keeps, copy_not_executed, kept_rejected moderate_call_keeps⟩

end IgTradingBot
