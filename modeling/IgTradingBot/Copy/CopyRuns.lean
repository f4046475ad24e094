import IgTradingBot.Copy.CopyEngine
import IgTradingBot.Library.Machines
import Mathlib.Data.List.Perm.Basic

/-!
# Runs of the copy engine

Calls of the engine in any order, with replications that are suspended at their validation and go
on later. An identifier is given out once, so the suspended and the active copies all have
different ones.
-/

namespace IgTradingBot

/-- What can happen: a call, or a suspended replication goes on. -/
inductive CopyMove where
  | registerTrader (traderId : String) (allocatedEquity : ℚ)
  | replicateTrade (sourceTrade : SourceTrade)
      (traderAllocation copierEquity elapsed elapsedAtExecution : ℚ)
  | resumeReplication (place : ℕ) (validation : CopyValidation) (elapsed : ℚ)
  | closeCopiedPosition (dealId : String)
  | stopCopyingTrader (traderId : String)
  | checkDrawdownStop (traderId : String) (currentPnl now : ℚ)

/-- The engine, and the copied trades whose validation is awaited. -/
structure CopyRun where
  engine : CopyEngine
  suspended : List CopiedTrade := []

/-- The number of a deal can be read from its identifier. -/
theorem copy_deal_id_injective : copyDealId.Injective := by
  intro first second same
  have characters := congrArg String.toList same
  unfold copyDealId at characters
  rw [String.toList_append, String.toList_append] at characters
  have padded := List.append_cancel_left characters
  have numbers := congrArg (fun text => Nat.ofDigitChars 10 text 0) padded
  simpa [List.leftpad, Nat.ofDigitChars_append] using numbers

namespace CopyEngine

/-- The engine with a copied trade that was executed. -/
def opened (copiedTrade : CopiedTrade) (engine : CopyEngine) : CopyEngine :=
  { engine with
      activeCopies := engine.activeCopies ++
        [{ copiedTrade with status := .executed }] }.updateAllocation copiedTrade.traderId
    fun allocation =>
      { allocation with openPositions := allocation.openPositions ++ [copiedTrade.dealId] }

/-- The engine that has given out another identifier. -/
def counted (engine : CopyEngine) : CopyEngine :=
  { engine with dealCounter := engine.dealCounter + 1 }

/-- A replication goes through without a suspension and is executed. -/
def ReplicatesAtOnce (engine : CopyEngine) (copierEquity elapsed elapsedAtExecution : ℚ) : Prop :=
  0 < copierEquity ∧ elapsed ≤ engine.executionTimeout ∧ engine.hasRiskEngine = false ∧
    elapsedAtExecution ≤ engine.executionTimeout

instance (engine : CopyEngine) (copierEquity elapsed elapsedAtExecution : ℚ) :
    Decidable (engine.ReplicatesAtOnce copierEquity elapsed elapsedAtExecution) :=
  inferInstanceAs (Decidable (_ ∧ _ ∧ _ ∧ _))

/-- A suspended replication is allowed in time. -/
def Allows (engine : CopyEngine) (validation : CopyValidation) (elapsed : ℚ) : Prop :=
  validation = .validated true ∧ elapsed ≤ engine.executionTimeout

instance (engine : CopyEngine) (validation : CopyValidation) (elapsed : ℚ) :
    Decidable (engine.Allows validation elapsed) :=
  inferInstanceAs (Decidable (_ ∧ _))

section Calls

variable {engine : CopyEngine}

/-- An execution in time opens the copied trade. -/
theorem execute_final (copiedTrade : CopiedTrade) (elapsed : ℚ) (engine : CopyEngine) :
    (engine.execute copiedTrade elapsed).2 =
      if elapsed ≤ engine.executionTimeout then engine.opened copiedTrade else engine := by
  unfold execute
  by_cases inTime : elapsed ≤ engine.executionTimeout
  · rw [if_neg (not_lt.mpr inTime), if_pos inTime]
    rfl
  · rw [if_pos (not_le.mp inTime), if_neg inTime]

/-- A suspended replication that is allowed in time opens its copied trade. -/
theorem resume_replication_final (copiedTrade : CopiedTrade) (validation : CopyValidation)
    (elapsed : ℚ) (engine : CopyEngine) :
    (engine.resumeReplication copiedTrade validation elapsed).2 =
      if engine.Allows validation elapsed then engine.opened copiedTrade else engine := by
  have refused : validation ≠ .validated true → ¬engine.Allows validation elapsed :=
    fun different allows => different allows.1
  cases validation with
  | raised failure => rw [if_neg (refused fun same => by cases same)]; rfl
  | timedOut => rw [if_neg (refused (by decide))]; rfl
  | validated allowed =>
    cases allowed with
    | false => rw [if_neg (refused (by decide))]; rfl
    | true =>
      refine (execute_final copiedTrade elapsed engine).trans ?_
      by_cases inTime : elapsed ≤ engine.executionTimeout
      · rw [if_pos inTime, if_pos ⟨rfl, inTime⟩]
      · rw [if_neg inTime, if_neg fun allows => inTime allows.2]

/-- A replication is executed at once, or it opens nothing and is suspended or over. -/
theorem replicate_trade_cases (sourceTrade : SourceTrade)
    (traderAllocation copierEquity elapsed elapsedAtExecution : ℚ) (engine : CopyEngine) :
    let copiedTrade := sourceTrade.copied (copyDealId (engine.dealCounter + 1))
      (adjustedSize sourceTrade traderAllocation copierEquity)
    let answer := engine.replicateTrade sourceTrade traderAllocation copierEquity elapsed
      elapsedAtExecution
    engine.ReplicatesAtOnce copierEquity elapsed elapsedAtExecution ∧
        (∃ returned, answer = (.inl returned, engine.counted.opened copiedTrade)) ∨
      ¬engine.ReplicatesAtOnce copierEquity elapsed elapsedAtExecution ∧
        ((∃ returned, answer = (.inl returned, engine.counted)) ∨
          answer = (.inr copiedTrade, engine.counted)) := by
  intro copiedTrade answer
  unfold answer replicateTrade ReplicatesAtOnce
  dsimp only
  by_cases equity : copierEquity ≤ 0
  · rw [if_pos equity]
    exact .inr ⟨fun atOnce => not_lt.mpr equity atOnce.1, .inl ⟨_, rfl⟩⟩
  · rw [if_neg equity]
    by_cases late : engine.executionTimeout < elapsed
    · rw [if_pos late]
      exact .inr ⟨fun atOnce => not_lt.mpr atOnce.2.1 late, .inl ⟨_, rfl⟩⟩
    · rw [if_neg late]
      by_cases risk : engine.hasRiskEngine = true
      · rw [if_pos risk]
        exact .inr ⟨fun atOnce => absurd (risk.symm.trans atOnce.2.2.1) (by decide), .inr rfl⟩
      · rw [if_neg risk]
        have executed := execute_final copiedTrade elapsedAtExecution engine.counted
        have free : engine.hasRiskEngine = false := Bool.eq_false_iff.mpr risk
        by_cases inTime : elapsedAtExecution ≤ engine.executionTimeout
        · rw [if_pos (show elapsedAtExecution ≤ engine.counted.executionTimeout from inTime)]
            at executed
          refine .inl ⟨⟨not_le.mp equity, not_lt.mp late, free, inTime⟩, ?_⟩
          exact ⟨_, Prod.ext rfl executed⟩
        · rw [if_neg (show ¬elapsedAtExecution ≤ engine.counted.executionTimeout from inTime)]
            at executed
          exact .inr ⟨fun atOnce => inTime atOnce.2.2.2, .inl ⟨_, Prod.ext rfl executed⟩⟩

/-- A check of the drawdown opens and closes nothing. -/
theorem check_drawdown_stop_final (traderId : String) (currentPnl now : ℚ) (engine : CopyEngine) :
    ∃ pnlHistory, (engine.checkDrawdownStop traderId currentPnl now).2 =
      engine.updateAllocation traderId fun allocation =>
        { allocation with pnlHistory, currentPnl } := by
  unfold checkDrawdownStop
  cases registered : engine.traderAllocations traderId with
  | none =>
    refine ⟨[], ?_⟩
    unfold updateAllocation
    rw [registered]
    dsimp only [Option.map_none]
    rw [← registered, Function.update_eq_self]
  | some allocation =>
    refine ⟨(allocation.pnlHistory ++ [(now, currentPnl)]).filter fun entry =>
      now - drawdownWindow ≤ entry.1, ?_⟩
    dsimp only
    split
    · rfl
    · split_ifs <;> rfl

end Calls

end CopyEngine

namespace CopyRun

open CopyEngine

/-- The run after a move. -/
def step (run : CopyRun) : CopyMove → CopyRun
  | .registerTrader traderId allocatedEquity =>
    { run with engine := run.engine.registerTrader traderId allocatedEquity }
  | .replicateTrade sourceTrade traderAllocation copierEquity elapsed elapsedAtExecution =>
    match run.engine.replicateTrade sourceTrade traderAllocation copierEquity elapsed
      elapsedAtExecution with
    | (.inl _, next) => { run with engine := next }
    | (.inr copiedTrade, next) =>
      { engine := next, suspended := run.suspended ++ [copiedTrade] }
  | .resumeReplication place validation elapsed =>
    match run.suspended[place]? with
    | none => run
    | some copiedTrade =>
      { engine := (run.engine.resumeReplication copiedTrade validation elapsed).2
        suspended := run.suspended.eraseIdx place }
  | .closeCopiedPosition dealId =>
    { run with engine := (run.engine.closeCopiedPosition dealId).2 }
  | .stopCopyingTrader traderId =>
    { run with engine := (run.engine.stopCopyingTrader traderId).2 }
  | .checkDrawdownStop traderId currentPnl now =>
    { run with engine := (run.engine.checkDrawdownStop traderId currentPnl now).2 }

/-- A replication opens its copy at once, ends without one, or is suspended. -/
theorem step_replicate_cases (run : CopyRun) (sourceTrade : SourceTrade)
    (traderAllocation copierEquity elapsed elapsedAtExecution : ℚ) :
    let copiedTrade := sourceTrade.copied (copyDealId (run.engine.dealCounter + 1))
      (adjustedSize sourceTrade traderAllocation copierEquity)
    let next := run.step
      (.replicateTrade sourceTrade traderAllocation copierEquity elapsed elapsedAtExecution)
    run.engine.ReplicatesAtOnce copierEquity elapsed elapsedAtExecution ∧
        next = { run with engine := run.engine.counted.opened copiedTrade } ∨
      ¬run.engine.ReplicatesAtOnce copierEquity elapsed elapsedAtExecution ∧
        (next = { run with engine := run.engine.counted } ∨
          next = { engine := run.engine.counted, suspended := run.suspended ++ [copiedTrade] }) := by
  simp only [step]
  obtain ⟨atOnce, returned, answer⟩ | ⟨notAtOnce, ⟨returned, answer⟩ | answer⟩ :=
    replicate_trade_cases sourceTrade traderAllocation copierEquity elapsed elapsedAtExecution
      run.engine
  · exact .inl ⟨atOnce, by rw [answer]⟩
  · exact .inr ⟨notAtOnce, .inl (by rw [answer])⟩
  · exact .inr ⟨notAtOnce, .inr (by rw [answer])⟩

/-- A replication that is resumed opens its copy or ends without one, if it was suspended. -/
theorem step_resume_cases (run : CopyRun) (place : ℕ) (validation : CopyValidation) (elapsed : ℚ) :
    let next := run.step (.resumeReplication place validation elapsed)
    run.suspended[place]? = none ∧ next = run ∨
      ∃ copiedTrade, run.suspended[place]? = some copiedTrade ∧
        (run.engine.Allows validation elapsed ∧ next =
            { engine := run.engine.opened copiedTrade, suspended := run.suspended.eraseIdx place } ∨
          ¬run.engine.Allows validation elapsed ∧
            next = { run with suspended := run.suspended.eraseIdx place }) := by
  cases found : run.suspended[place]? with
  | none => exact .inl ⟨rfl, by simp only [step, found]⟩
  | some copiedTrade =>
    refine .inr ⟨copiedTrade, rfl, ?_⟩
    simp only [step, found, resume_replication_final]
    by_cases allows : run.engine.Allows validation elapsed
    · exact .inl ⟨allows, by rw [if_pos allows]⟩
    · exact .inr ⟨allows, by rw [if_neg allows]⟩

/-- A new engine. -/
def initial (hasRiskEngine : Bool) (executionTimeout drawdownStopPct : ℚ) : CopyRun where
  engine := { hasRiskEngine, executionTimeout, drawdownStopPct }

/-- Identifiers of the suspended and of the active copies. -/
def dealIds (run : CopyRun) : List String :=
  run.suspended.map (·.dealId) ++ run.engine.activeCopies.map (·.dealId)

/-- All identifiers are different and were given out. -/
structure Numbered (run : CopyRun) : Prop where
  once : run.dealIds.Nodup
  given : ∀ dealId ∈ run.dealIds, ∃ number ≤ run.engine.dealCounter, dealId = copyDealId number

section Numbers

variable {run : CopyRun}

/-- A run whose identifiers are some of those of another. -/
theorem Numbered.subperm (numbered : run.Numbered) {next : CopyRun}
    (fewer : next.dealIds.Subperm run.dealIds)
    (counts : run.engine.dealCounter ≤ next.engine.dealCounter) : next.Numbered where
  once := by
    obtain ⟨same, perm, sublist⟩ := fewer
    exact perm.nodup_iff.mp (numbered.once.sublist sublist)
  given := by
    intro dealId member
    obtain ⟨number, bound, named⟩ := numbered.given dealId (fewer.subset member)
    exact ⟨number, bound.trans counts, named⟩

/-- The next identifier is new. -/
theorem Numbered.next_new (numbered : run.Numbered) :
    copyDealId (run.engine.dealCounter + 1) ∉ run.dealIds := by
  intro member
  obtain ⟨number, bound, named⟩ := numbered.given _ member
  have same := copy_deal_id_injective named
  omega

/-- A run with the next identifier besides. -/
theorem Numbered.next (numbered : run.Numbered) {next : CopyRun}
    (more : next.dealIds.Perm (copyDealId (run.engine.dealCounter + 1) :: run.dealIds))
    (counts : next.engine.dealCounter = run.engine.dealCounter + 1) : next.Numbered where
  once := more.nodup_iff.mpr (List.nodup_cons.mpr ⟨numbered.next_new, numbered.once⟩)
  given := by
    intro dealId member
    rw [counts]
    obtain rfl | earlier := List.mem_cons.mp (more.mem_iff.mp member)
    · exact ⟨_, le_rfl, rfl⟩
    · obtain ⟨number, bound, named⟩ := numbered.given dealId earlier
      exact ⟨number, bound.trans (Nat.le_succ _), named⟩

/-- Identifiers after a copied trade was executed, beside some suspended ones. -/
theorem deal_ids_opened (engine : CopyEngine) (suspended : List CopiedTrade)
    (copiedTrade : CopiedTrade) :
    (dealIds ⟨engine.opened copiedTrade, suspended⟩).Perm
      (copiedTrade.dealId :: dealIds ⟨engine, suspended⟩) := by
  change (suspended.map _ ++ (engine.activeCopies ++ [_]).map _).Perm _
  rw [List.map_append, ← List.append_assoc]
  exact List.perm_append_singleton copiedTrade.dealId _

/-- A suspended copied trade and the others. -/
theorem suspended_perm {place : ℕ} {copiedTrade : CopiedTrade}
    (found : run.suspended[place]? = some copiedTrade) :
    (copiedTrade :: run.suspended.eraseIdx place).Perm run.suspended := by
  obtain ⟨inside, rfl⟩ := List.getElem?_eq_some_iff.mp found
  exact List.getElem_cons_eraseIdx_perm inside

/-- Closing a position closes none of the others. -/
theorem close_copied_position_sublist (dealId : String) (engine : CopyEngine) :
    (engine.closeCopiedPosition dealId).2.activeCopies.Sublist engine.activeCopies ∧
      (engine.closeCopiedPosition dealId).2.dealCounter = engine.dealCounter := by
  unfold closeCopiedPosition
  split
  · exact ⟨List.Sublist.refl _, rfl⟩
  · exact ⟨List.filter_sublist, rfl⟩

/-- Closing positions opens none. The induction is on the positions. -/
theorem close_positions_sublist (dealIds : List String) (engine : CopyEngine) :
    (closePositions dealIds engine).2.activeCopies.Sublist engine.activeCopies ∧
      (closePositions dealIds engine).2.dealCounter = engine.dealCounter := by
  induction dealIds generalizing engine with
  | nil => exact ⟨List.Sublist.refl _, rfl⟩
  | cons dealId rest inductionHypothesis =>
    obtain ⟨fewer, sameCounter⟩ := close_copied_position_sublist dealId engine
    obtain ⟨still, same⟩ := inductionHypothesis (engine.closeCopiedPosition dealId).2
    exact ⟨still.trans fewer, same.trans sameCounter⟩

/-- A run that closes positions at most. -/
theorem Numbered.close (numbered : run.Numbered) {engine : CopyEngine}
    (fewer : engine.activeCopies.Sublist run.engine.activeCopies)
    (counts : engine.dealCounter = run.engine.dealCounter) :
    Numbered { run with engine } :=
  numbered.subperm ((List.Sublist.refl _).append (fewer.map _)).subperm counts.ge

/-- Every move keeps the identifiers different. -/
theorem Numbered.step (numbered : run.Numbered) (move : CopyMove) : (run.step move).Numbered := by
  cases move with
  | registerTrader traderId allocatedEquity => exact numbered.close (List.Sublist.refl _) rfl
  | replicateTrade sourceTrade traderAllocation copierEquity elapsed elapsedAtExecution =>
    obtain ⟨-, opens⟩ | ⟨-, ends | suspends⟩ := run.step_replicate_cases sourceTrade
      traderAllocation copierEquity elapsed elapsedAtExecution
    · rw [opens]
      exact numbered.next (deal_ids_opened run.engine.counted run.suspended _) rfl
    · rw [ends]
      exact numbered.subperm (List.Subperm.refl _) (Nat.le_succ _)
    · rw [suspends]
      refine numbered.next ?_ rfl
      change ((run.suspended ++ [_]).map _ ++ _).Perm (_ :: (_ ++ _))
      rw [List.map_append, List.append_assoc]
      exact List.perm_middle
  | resumeReplication place validation elapsed =>
    obtain ⟨-, same⟩ | ⟨copiedTrade, found, ⟨-, opens⟩ | ⟨-, ends⟩⟩ :=
      run.step_resume_cases place validation elapsed
    · rw [same]
      exact numbered
    · have others := (suspended_perm found).map CopiedTrade.dealId
      rw [opens]
      refine numbered.subperm ?_ le_rfl
      refine ((deal_ids_opened _ _ copiedTrade).trans ?_).subperm
      exact others.append_right _
    · rw [ends]
      refine numbered.subperm ?_ le_rfl
      exact ((List.eraseIdx_sublist _ _).map _ |>.append (List.Sublist.refl _)).subperm
  | closeCopiedPosition dealId =>
    obtain ⟨fewer, counts⟩ := close_copied_position_sublist dealId run.engine
    exact numbered.close fewer counts
  | stopCopyingTrader traderId =>
    obtain ⟨fewer, counts⟩ := close_positions_sublist
      ((run.engine.activeCopies.filter (·.traderId = traderId)).map (·.dealId)) run.engine
    exact numbered.close fewer counts
  | checkDrawdownStop traderId currentPnl now =>
    obtain ⟨pnlHistory, same⟩ :=
      check_drawdown_stop_final traderId currentPnl now run.engine
    unfold CopyRun.step
    dsimp only
    rw [same]
    exact numbered.close (List.Sublist.refl _) rfl

/-- A new engine has given out no identifier. -/
theorem numbered_initial (hasRiskEngine : Bool) (executionTimeout drawdownStopPct : ℚ) :
    (initial hasRiskEngine executionTimeout drawdownStopPct).Numbered :=
  ⟨List.nodup_nil, by simp [initial, dealIds]⟩

end Numbers

end CopyRun

end IgTradingBot
