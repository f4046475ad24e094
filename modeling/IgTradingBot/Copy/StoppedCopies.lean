import IgTradingBot.Copy.OpenPositions

/-!
# Traders that are not copied any more

Stopping a trader closes the positions that the engine knows. A replication that is suspended at
its validation is none of them, and neither it nor a later call asks whether the trader is still
registered, so a position can be opened afterwards.
-/

namespace IgTradingBot

open CopyEngine

/-- A run, and the traders who were stopped and not registered again since. -/
structure CopyHistory where
  run : CopyRun
  stopped : List String := []

namespace CopyHistory

/-- A move, noted in the history. -/
def step (history : CopyHistory) (move : CopyMove) : CopyHistory where
  run := history.run.step move
  stopped :=
    match move with
    | .registerTrader traderId _ => history.stopped.filter (· ≠ traderId)
    | .stopCopyingTrader traderId => traderId :: history.stopped
    | _ => history.stopped

/-- No stopped trader has an active copy. -/
def StopsFinally (history : CopyHistory) : Prop :=
  ∀ copiedTrade ∈ history.run.engine.activeCopies, copiedTrade.traderId ∉ history.stopped

/-- No replication is executed for a stopped trader, neither at once nor after its validation. -/
def ReplicatesCopied (history : CopyHistory) : CopyMove → Prop
  | .replicateTrade sourceTrade _ copierEquity elapsed elapsedAtExecution =>
    history.run.engine.ReplicatesAtOnce copierEquity elapsed elapsedAtExecution →
      sourceTrade.traderId ∉ history.stopped
  | .resumeReplication place validation elapsed =>
    ∀ copiedTrade ∈ history.run.suspended[place]?,
      history.run.engine.Allows validation elapsed → copiedTrade.traderId ∉ history.stopped
  | _ => True

section Steps

variable {history : CopyHistory}

/-- An execution keeps the stops final exactly where its trader is not stopped. -/
theorem stops_opened_iff (final : history.StopsFinally) (engine : CopyEngine)
    (same : engine.activeCopies = history.run.engine.activeCopies) (copiedTrade : CopiedTrade)
    (suspended : List CopiedTrade) :
    StopsFinally ⟨⟨engine.opened copiedTrade, suspended⟩, history.stopped⟩ ↔
      copiedTrade.traderId ∉ history.stopped := by
  change (∀ other ∈ engine.activeCopies ++ [{ copiedTrade with status := .executed }],
    other.traderId ∉ history.stopped) ↔ _
  rw [same]
  constructor
  · exact fun after => after { copiedTrade with status := .executed }
      (List.mem_append_right _ (List.mem_singleton_self _))
  · intro notStopped other active
    obtain before | new := List.mem_append.mp active
    · exact final other before
    · rw [List.mem_singleton.mp new]
      exact notStopped

/-- After its positions are closed, a trader has no active copies. The induction is on the
positions. -/
theorem close_positions_closes (dealIds : List String) (engine : CopyEngine) :
    ∀ copiedTrade ∈ (closePositions dealIds engine).2.activeCopies,
      copiedTrade.dealId ∉ dealIds := by
  induction dealIds generalizing engine with
  | nil => exact fun _ _ => List.not_mem_nil
  | cons dealId rest inductionHypothesis =>
    intro copiedTrade active
    have later := inductionHypothesis (engine.closeCopiedPosition dealId).2 copiedTrade active
    have remaining : copiedTrade ∈ (engine.closeCopiedPosition dealId).2.activeCopies :=
      (CopyRun.close_positions_sublist rest _).1.subset active
    have different : copiedTrade.dealId ≠ dealId := by
      unfold closeCopiedPosition at remaining
      cases found : engine.activeCopies.find? fun other => other.dealId = dealId with
      | none =>
        rw [found] at remaining
        have unnamed := List.find?_eq_none.mp found copiedTrade remaining
        exact fun same => unnamed (decide_eq_true same)
      | some other =>
        rw [found] at remaining
        exact of_decide_eq_true (List.mem_filter.mp remaining).2
    exact List.not_mem_cons_of_ne_of_not_mem different later

/-- A stopped trader has no active copies. -/
theorem stop_copying_trader_closes (traderId : String) (engine : CopyEngine) :
    ∀ copiedTrade ∈ (engine.stopCopyingTrader traderId).2.activeCopies,
      copiedTrade ∈ engine.activeCopies ∧ copiedTrade.traderId ≠ traderId := by
  intro copiedTrade active
  let positions := (engine.activeCopies.filter (·.traderId = traderId)).map (·.dealId)
  have remaining : copiedTrade ∈ (closePositions positions engine).2.activeCopies := active
  have before := (CopyRun.close_positions_sublist positions engine).1.subset remaining
  refine ⟨before, fun isTrader => ?_⟩
  apply close_positions_closes positions engine copiedTrade remaining
  exact List.mem_map_of_mem (List.mem_filter.mpr ⟨before, decide_eq_true isTrader⟩)

/-- A move keeps the stops final exactly where it executes no replication for a stopped trader. -/
theorem stops_step_iff (final : history.StopsFinally) (move : CopyMove) :
    (history.step move).StopsFinally ↔ history.ReplicatesCopied move := by
  cases move with
  | registerTrader traderId allocatedEquity =>
    refine iff_of_true ?_ trivial
    exact fun copiedTrade active stopped =>
      final copiedTrade active (List.mem_of_mem_filter stopped)
  | replicateTrade sourceTrade traderAllocation copierEquity elapsed elapsedAtExecution =>
    unfold CopyHistory.step ReplicatesCopied
    dsimp only
    obtain ⟨atOnce, opens⟩ | ⟨notAtOnce, ends | suspends⟩ := history.run.step_replicate_cases
      sourceTrade traderAllocation copierEquity elapsed elapsedAtExecution
    · rw [opens]
      refine Iff.trans ?_ (forall_prop_of_true atOnce).symm
      exact stops_opened_iff final history.run.engine.counted rfl _ history.run.suspended
    · rw [ends]
      exact iff_of_true final fun atOnce => absurd atOnce notAtOnce
    · rw [suspends]
      exact iff_of_true final fun atOnce => absurd atOnce notAtOnce
  | resumeReplication place validation elapsed =>
    unfold CopyHistory.step ReplicatesCopied
    dsimp only
    obtain ⟨found, same⟩ | ⟨copiedTrade, found, ⟨allows, opens⟩ | ⟨refuses, ends⟩⟩ :=
      history.run.step_resume_cases place validation elapsed
    · rw [same, found]
      exact iff_of_true final (by simp)
    · have only : (∀ other ∈ some copiedTrade, history.run.engine.Allows validation elapsed →
          other.traderId ∉ history.stopped) ↔ copiedTrade.traderId ∉ history.stopped := by
        simp [allows]
      rw [opens, found, only]
      exact stops_opened_iff final history.run.engine rfl copiedTrade _
    · rw [ends]
      exact iff_of_true final fun _ _ allows => absurd allows refuses
  | closeCopiedPosition dealId =>
    refine iff_of_true (fun copiedTrade active => ?_) trivial
    exact final copiedTrade
      ((CopyRun.close_copied_position_sublist dealId history.run.engine).1.subset active)
  | stopCopyingTrader traderId =>
    refine iff_of_true (fun copiedTrade active => ?_) trivial
    obtain ⟨before, different⟩ :=
      stop_copying_trader_closes traderId history.run.engine copiedTrade active
    exact List.not_mem_cons_of_ne_of_not_mem different (final copiedTrade before)
  | checkDrawdownStop traderId currentPnl now =>
    refine iff_of_true ?_ trivial
    obtain ⟨pnlHistory, same⟩ :=
      check_drawdown_stop_final traderId currentPnl now history.run.engine
    unfold CopyHistory.step CopyRun.step
    dsimp only
    rw [same]
    exact final

end Steps

/-- For every interleaving of replications, which are suspended at their validation, with the other
calls: in all states that are reached, no trader who was stopped and not registered again has an
active copy, exactly when no replication is executed for such a trader. -/
theorem stops_finally_iff (hasRiskEngine : Bool) (executionTimeout drawdownStopPct : ℚ)
    (moves : List CopyMove) :
    (∀ reached, reached <+: moves →
        (Machines.after step
          { run := .initial hasRiskEngine executionTimeout drawdownStopPct }
          reached).StopsFinally) ↔
      Machines.Conforms step ReplicatesCopied
        { run := .initial hasRiskEngine executionTimeout drawdownStopPct } moves := by
  have decided : ∀ (history : CopyHistory) move, True → history.StopsFinally →
      ((history.step move).StopsFinally ↔ history.ReplicatesCopied move) :=
    fun _ move _ final => stops_step_iff final move
  have starts : StopsFinally
      { run := .initial hasRiskEngine executionTimeout drawdownStopPct } :=
    fun _ active => absurd active List.not_mem_nil
  exact Machines.always_iff_conforms (fun _ _ _ => trivial) decided trivial starts

/-- A replication that is suspended while its trader is stopped opens a position afterwards. -/
theorem suspended_replication_survives_stop :
    ¬∀ (hasRiskEngine : Bool) (executionTimeout drawdownStopPct : ℚ) (moves : List CopyMove),
      ∀ reached, reached <+: moves →
        (Machines.after step
          { run := .initial hasRiskEngine executionTimeout drawdownStopPct }
          reached).StopsFinally := by
  intro claim
  let moves : List CopyMove :=
    [.registerTrader "TRADER-A" 10000, .replicateTrade CopyRun.exampleTrade 10000 100000 0 0,
      .stopCopyingTrader "TRADER-A", .resumeReplication 0 (.validated true) 1]
  have final := claim true 3 (15 / 100) moves moves (List.prefix_refl _)
  have opened : ∃ copiedTrade ∈ (Machines.after step { run := .initial true 3 (15 / 100) }
      moves).run.engine.activeCopies, copiedTrade.traderId ∈
        (Machines.after step { run := .initial true 3 (15 / 100) } moves).stopped := by
    decide +kernel
  obtain ⟨copiedTrade, active, stopped⟩ := opened
  exact final copiedTrade active stopped

end CopyHistory

end IgTradingBot
