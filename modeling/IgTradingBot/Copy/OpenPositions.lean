import IgTradingBot.Copy.CopyRuns

/-!
# Open positions of copied traders

An allocation lists the open positions of its trader, and the engine all active copies. The lists
agree until a trader who has active copies is registered: the new allocation lists none of them.
-/

namespace IgTradingBot

namespace CopyEngine

/-- A trader has an active copy under an identifier. -/
def HasActive (engine : CopyEngine) (traderId dealId : String) : Prop :=
  ∃ copiedTrade ∈ engine.activeCopies,
    copiedTrade.dealId = dealId ∧ copiedTrade.traderId = traderId

instance (engine : CopyEngine) (traderId dealId : String) :
    Decidable (engine.HasActive traderId dealId) :=
  inferInstanceAs (Decidable (∃ copiedTrade ∈ _, _))

/-- The allocation of every registered trader lists exactly the active copies of this trader, each
once. -/
def Agrees (engine : CopyEngine) : Prop :=
  ∀ traderId allocation, engine.traderAllocations traderId = some allocation →
    allocation.openPositions.Nodup ∧
      ∀ dealId, dealId ∈ allocation.openPositions ↔ engine.HasActive traderId dealId

section Agreement

variable {engine : CopyEngine}

/-- A registration keeps the lists in agreement exactly where the trader has no active copies. -/
theorem agrees_register_iff (agrees : engine.Agrees) (traderId : String) (allocatedEquity : ℚ) :
    (engine.registerTrader traderId allocatedEquity).Agrees ↔
      ∀ copiedTrade ∈ engine.activeCopies, copiedTrade.traderId ≠ traderId := by
  constructor
  · intro after copiedTrade active isTrader
    obtain ⟨-, lists⟩ := after traderId { traderId, allocatedEquity } (Function.update_self ..)
    have listed := (lists copiedTrade.dealId).mpr ⟨copiedTrade, active, rfl, isTrader⟩
    exact List.not_mem_nil listed
  · intro none other allocation registered
    change Function.update engine.traderAllocations traderId _ other = some allocation at registered
    by_cases same : other = traderId
    · subst same
      rw [Function.update_self] at registered
      obtain rfl := Option.some.inj registered
      refine ⟨List.nodup_nil, fun dealId => iff_of_false List.not_mem_nil ?_⟩
      rintro ⟨copiedTrade, active, -, isTrader⟩
      exact none copiedTrade active isTrader
    · rw [Function.update_of_ne same] at registered
      exact agrees other allocation registered

/-- What a change of an allocation and of the active copies has to keep. -/
theorem Agrees.update (agrees : engine.Agrees) {traderId : String}
    {change : TraderAllocation → TraderAllocation} {activeCopies : List CopiedTrade}
    (others : ∀ other, other ≠ traderId → ∀ dealId,
      HasActive { engine with activeCopies } other dealId ↔ engine.HasActive other dealId)
    (own : ∀ allocation, engine.traderAllocations traderId = some allocation →
      (change allocation).openPositions.Nodup ∧
        ∀ dealId, dealId ∈ (change allocation).openPositions ↔
          HasActive { engine with activeCopies } traderId dealId) :
    ({ engine with activeCopies }.updateAllocation traderId change).Agrees := by
  intro other allocation registered
  change Function.update engine.traderAllocations traderId _ other = some allocation at registered
  by_cases same : other = traderId
  · subst same
    rw [Function.update_self] at registered
    obtain ⟨before, wasRegistered, rfl⟩ := Option.map_eq_some_iff.mp registered
    exact own before wasRegistered
  · rw [Function.update_of_ne same] at registered
    obtain ⟨once, lists⟩ := agrees other allocation registered
    exact ⟨once, fun dealId => (lists dealId).trans (others other same dealId).symm⟩

/-- A copied trade with a new identifier is listed by its trader. -/
theorem Agrees.opened (agrees : engine.Agrees) {copiedTrade : CopiedTrade}
    (fresh : copiedTrade.dealId ∉ engine.activeCopies.map (·.dealId)) :
    (engine.opened copiedTrade).Agrees := by
  have active_iff : ∀ traderId dealId,
      HasActive { engine with activeCopies := engine.activeCopies ++
        [{ copiedTrade with status := .executed }] } traderId dealId ↔
        engine.HasActive traderId dealId ∨
          copiedTrade.dealId = dealId ∧ copiedTrade.traderId = traderId := by
    intro traderId dealId
    unfold HasActive
    simp only [List.mem_append, List.mem_singleton, or_and_right, exists_or, exists_eq_left]
  refine agrees.update ?_ ?_
  · intro other different dealId
    rw [active_iff]
    exact or_iff_left fun both => different both.2.symm
  · intro allocation registered
    obtain ⟨once, lists⟩ := agrees _ allocation registered
    have unlisted : copiedTrade.dealId ∉ allocation.openPositions := by
      intro listed
      obtain ⟨other, active, sameId, -⟩ := (lists _).mp listed
      exact fresh (List.mem_map.mpr ⟨other, active, sameId⟩)
    refine ⟨List.concat_eq_append ▸ once.concat unlisted, fun dealId => ?_⟩
    rw [active_iff, List.mem_append, List.mem_singleton, lists, eq_comm]
    exact or_congr_right (and_iff_left rfl).symm

/-- Closing a position takes it off both lists. -/
theorem Agrees.close_copied_position (agrees : engine.Agrees)
    (once : (engine.activeCopies.map (·.dealId)).Nodup) (dealId : String) :
    (engine.closeCopiedPosition dealId).2.Agrees := by
  unfold closeCopiedPosition
  cases found : engine.activeCopies.find? fun copiedTrade => copiedTrade.dealId = dealId with
  | none => exact agrees
  | some copiedTrade =>
    have active : copiedTrade ∈ engine.activeCopies := List.mem_of_find?_eq_some found
    have picked := List.find?_some found
    have named : copiedTrade.dealId = dealId := of_decide_eq_true picked
    have active_iff : ∀ traderId other,
        HasActive { engine with activeCopies := engine.activeCopies.filter (·.dealId ≠ dealId) }
          traderId other ↔ other ≠ dealId ∧ engine.HasActive traderId other := by
      intro traderId other
      unfold HasActive
      constructor
      · rintro ⟨kept, isKept, rfl, isTrader⟩
        obtain ⟨wasActive, different⟩ := List.mem_filter.mp isKept
        exact ⟨of_decide_eq_true different, kept, wasActive, rfl, isTrader⟩
      · rintro ⟨different, kept, wasActive, rfl, isTrader⟩
        exact ⟨kept, List.mem_filter.mpr ⟨wasActive, decide_eq_true different⟩, rfl, isTrader⟩
    refine agrees.update ?_ ?_
    · intro other different otherId
      rw [active_iff]
      refine and_iff_right_of_imp ?_
      rintro ⟨otherTrade, otherActive, rfl, isTrader⟩ same
      have sameTrade : otherTrade = copiedTrade :=
        List.inj_on_of_nodup_map once otherActive active (same.trans named.symm)
      exact different (sameTrade ▸ isTrader.symm)
    · intro allocation registered
      obtain ⟨listedOnce, lists⟩ := agrees _ allocation registered
      refine ⟨listedOnce.erase dealId, fun other => ?_⟩
      rw [active_iff, listedOnce.mem_erase_iff, lists]

/-- Closing positions takes them off both lists. The induction is on the positions. -/
theorem Agrees.close_positions (agrees : engine.Agrees)
    (once : (engine.activeCopies.map (·.dealId)).Nodup) (dealIds : List String) :
    (closePositions dealIds engine).2.Agrees := by
  induction dealIds generalizing engine with
  | nil => exact agrees
  | cons dealId rest inductionHypothesis =>
    have fewer := (CopyRun.close_copied_position_sublist dealId engine).1
    exact inductionHypothesis (agrees.close_copied_position once dealId)
      (once.sublist (fewer.map _))

/-- Stopping a trader takes its positions and its allocation away. -/
theorem Agrees.stop_copying_trader (agrees : engine.Agrees)
    (once : (engine.activeCopies.map (·.dealId)).Nodup) (traderId : String) :
    (engine.stopCopyingTrader traderId).2.Agrees := by
  intro other allocation registered
  have closed := agrees.close_positions once
    ((engine.activeCopies.filter (·.traderId = traderId)).map (·.dealId))
  change Function.update (closePositions _ engine).2.traderAllocations traderId none other =
    some allocation at registered
  by_cases same : other = traderId
  · subst same
    rw [Function.update_self] at registered
    cases registered
  · rw [Function.update_of_ne same] at registered
    exact closed other allocation registered

end Agreement

end CopyEngine

namespace CopyRun

open CopyEngine

/-- A trader is registered only while it has no active copies. -/
def RegistersClosed (run : CopyRun) : CopyMove → Prop
  | .registerTrader traderId _ =>
    ∀ copiedTrade ∈ run.engine.activeCopies, copiedTrade.traderId ≠ traderId
  | _ => True

instance (run : CopyRun) : ∀ move, Decidable (run.RegistersClosed move)
  | .registerTrader _ _ => inferInstanceAs (Decidable (∀ copiedTrade ∈ _, _))
  | .replicateTrade _ _ _ _ _ => inferInstanceAs (Decidable True)
  | .resumeReplication _ _ _ => inferInstanceAs (Decidable True)
  | .closeCopiedPosition _ => inferInstanceAs (Decidable True)
  | .stopCopyingTrader _ => inferInstanceAs (Decidable True)
  | .checkDrawdownStop _ _ _ => inferInstanceAs (Decidable True)

/-- A move keeps the lists in agreement exactly where it registers no trader who has active
copies. -/
theorem agrees_step_iff {run : CopyRun} (numbered : run.Numbered) (agrees : run.engine.Agrees)
    (move : CopyMove) : (run.step move).engine.Agrees ↔ run.RegistersClosed move := by
  have once : (run.engine.activeCopies.map (·.dealId)).Nodup :=
    numbered.once.sublist (List.sublist_append_right _ _)
  cases move with
  | registerTrader traderId allocatedEquity =>
    exact agrees_register_iff agrees traderId allocatedEquity
  | replicateTrade sourceTrade traderAllocation copierEquity elapsed elapsedAtExecution =>
    refine iff_of_true ?_ trivial
    have sameLists : run.engine.counted.Agrees := agrees
    obtain ⟨-, opens⟩ | ⟨-, ends | suspends⟩ := run.step_replicate_cases sourceTrade
      traderAllocation copierEquity elapsed elapsedAtExecution
    · rw [opens]
      refine sameLists.opened fun member => numbered.next_new ?_
      exact List.mem_append_right _ member
    · rw [ends]
      exact sameLists
    · rw [suspends]
      exact sameLists
  | resumeReplication place validation elapsed =>
    refine iff_of_true ?_ trivial
    obtain ⟨-, same⟩ | ⟨copiedTrade, found, ⟨-, opens⟩ | ⟨-, ends⟩⟩ :=
      run.step_resume_cases place validation elapsed
    · rw [same]
      exact agrees
    · rw [opens]
      refine agrees.opened fun member => ?_
      have pending := List.mem_map_of_mem (f := CopiedTrade.dealId) (List.mem_of_getElem? found)
      exact (List.nodup_append.mp numbered.once).2.2 _ pending _ member rfl
    · rw [ends]
      exact agrees
  | closeCopiedPosition dealId =>
    exact iff_of_true (agrees.close_copied_position once dealId) trivial
  | stopCopyingTrader traderId =>
    exact iff_of_true (agrees.stop_copying_trader once traderId) trivial
  | checkDrawdownStop traderId currentPnl now =>
    refine iff_of_true ?_ trivial
    obtain ⟨pnlHistory, same⟩ :=
      check_drawdown_stop_final traderId currentPnl now run.engine
    unfold CopyRun.step
    dsimp only
    rw [same]
    exact agrees.update (fun _ _ _ => Iff.rfl) fun allocation registered =>
      agrees traderId allocation registered

/-- A new engine has no copies and no traders. -/
theorem agrees_initial (hasRiskEngine : Bool) (executionTimeout drawdownStopPct : ℚ) :
    (initial hasRiskEngine executionTimeout drawdownStopPct).engine.Agrees := by
  intro traderId allocation registered
  cases registered

/-- In every run of calls, also with replications that are suspended: every registered trader lists
exactly its active copies, each once, in all states that are reached, exactly when no trader is
registered while it has active copies. -/
theorem open_positions_agree_iff (hasRiskEngine : Bool) (executionTimeout drawdownStopPct : ℚ)
    (moves : List CopyMove) :
    (∀ reached, reached <+: moves →
        (Machines.after step (initial hasRiskEngine executionTimeout drawdownStopPct)
          reached).engine.Agrees) ↔
      Machines.Conforms step RegistersClosed
        (initial hasRiskEngine executionTimeout drawdownStopPct) moves := by
  have kept : ∀ (run : CopyRun) move, run.Numbered → (run.step move).Numbered :=
    fun _ move numbered => numbered.step move
  exact Machines.always_iff_conforms kept
    (fun _ move numbered agrees => agrees_step_iff numbered agrees move)
    (numbered_initial hasRiskEngine executionTimeout drawdownStopPct)
    (agrees_initial hasRiskEngine executionTimeout drawdownStopPct)

/-- A trade of a source trader. -/
def exampleTrade : SourceTrade where
  tradeId := "SRC-001"
  traderId := "TRADER-A"
  instrument := "EUR/USD"
  direction := "LONG"
  entryPrice := 11000 / 10000
  stopLoss := 10950 / 10000
  takeProfit := 11100 / 10000
  size := 10

/-- A trader who is registered again while a copy is active: the new allocation does not list
it. -/
theorem second_registration_forgets :
    ¬∀ (hasRiskEngine : Bool) (executionTimeout drawdownStopPct : ℚ) (moves : List CopyMove),
      (Machines.after step (initial hasRiskEngine executionTimeout drawdownStopPct)
        moves).engine.Agrees := by
  intro claim
  let moves : List CopyMove :=
    [.registerTrader "TRADER-A" 10000, .replicateTrade exampleTrade 10000 100000 0 0,
      .registerTrader "TRADER-A" 10000]
  have agrees : (Machines.after step (initial false 3 (15 / 100)) moves).engine.Agrees :=
    claim false 3 (15 / 100) moves
  obtain ⟨-, lists⟩ := agrees "TRADER-A" { traderId := "TRADER-A", allocatedEquity := 10000 } rfl
  have listed := (lists "COPY-000001").mpr (by decide +kernel)
  exact List.not_mem_nil listed

end CopyRun

end IgTradingBot
