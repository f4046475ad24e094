import IgTradingBot.Copy.CopyRuns
import IgTradingBot.Library.Extremes
import IgTradingBot.Library.Machines
import IgTradingBot.Library.Windows

/-!
# Drawdowns of copied traders

The check of a drawdown compares the profit of a trader with the highest one that it was told in the
last seven days. The profit of nothing, with which a trader starts, is not among these, so that a loss
before the first check is no drawdown.
-/

namespace IgTradingBot

open CopyEngine SlidingWindows

/-- The profits of a trader that a run tells the engine, with their times. -/
def CopyMove.observation (traderId : String) : CopyMove → Option (ℚ × ℚ)
  | .checkDrawdownStop checked currentPnl now =>
    if checked = traderId then some (now, currentPnl) else none
  | _ => none

/-- A move neither registers a trader nor stops copying it. -/
def CopyMove.Leaves (traderId : String) : CopyMove → Prop
  | .registerTrader registered _ => registered ≠ traderId
  | .stopCopyingTrader stopped => stopped ≠ traderId
  | _ => True

instance (traderId : String) : DecidablePred (CopyMove.Leaves traderId)
  | .registerTrader _ _ | .stopCopyingTrader _ => inferInstanceAs (Decidable (_ ≠ _))
  | .replicateTrade _ _ _ _ _ | .resumeReplication _ _ _ | .closeCopiedPosition _
  | .checkDrawdownStop _ _ _ => inferInstanceAs (Decidable True)

namespace CopyEngine

/-- What the check of a drawdown reads of a trader: its allocation and its profits. -/
def account (traderId : String) (engine : CopyEngine) : Option (ℚ × List (ℚ × ℚ)) :=
  (engine.traderAllocations traderId).map fun allocation =>
    (allocation.allocatedEquity, allocation.pnlHistory)

/-- A call leaves what the check of a drawdown reads of a trader. -/
structure SameAccount (traderId : String) (engine next : CopyEngine) : Prop where
  account : next.account traderId = engine.account traderId
  drawdownStopPct : next.drawdownStopPct = engine.drawdownStopPct

section Calls

variable {traderId : String} {engine next last : CopyEngine}

theorem SameAccount.refl (traderId : String) (engine : CopyEngine) :
    SameAccount traderId engine engine := ⟨rfl, rfl⟩

theorem SameAccount.trans (first : SameAccount traderId engine next)
    (second : SameAccount traderId next last) : SameAccount traderId engine last :=
  ⟨second.account.trans first.account, second.drawdownStopPct.trans first.drawdownStopPct⟩

/-- A change of an allocation that leaves its equity and its profits. -/
theorem same_account_update (changed : String) {change : TraderAllocation → TraderAllocation}
    (leaves : ∀ allocation, (change allocation).allocatedEquity = allocation.allocatedEquity ∧
      (change allocation).pnlHistory = allocation.pnlHistory) :
    SameAccount traderId engine (engine.updateAllocation changed change) := by
  refine ⟨?_, rfl⟩
  unfold account updateAllocation
  dsimp only
  by_cases same : traderId = changed
  · rw [same, Function.update_self]
    cases engine.traderAllocations changed with
    | none => rfl
    | some allocation => exact congrArg some (Prod.ext (leaves allocation).1 (leaves allocation).2)
  · rw [Function.update_of_ne same]

/-- A change of the allocation of another trader. -/
theorem same_account_other {changed : String} (different : traderId ≠ changed)
    (allocation : Option TraderAllocation) :
    SameAccount traderId engine
      { engine with
          traderAllocations := Function.update engine.traderAllocations changed allocation } := by
  refine ⟨?_, rfl⟩
  unfold account
  dsimp only
  rw [Function.update_of_ne different]

/-- An executed copy leaves every account. -/
theorem same_account_opened (copiedTrade : CopiedTrade) :
    SameAccount traderId engine (engine.opened copiedTrade) := by
  have added : SameAccount traderId engine { engine with
      activeCopies := engine.activeCopies ++ [{ copiedTrade with status := .executed }] } :=
    ⟨rfl, rfl⟩
  exact added.trans (same_account_update copiedTrade.traderId fun _ => ⟨rfl, rfl⟩)

/-- A closed position leaves every account. -/
theorem same_account_close (dealId : String) :
    SameAccount traderId engine (engine.closeCopiedPosition dealId).2 := by
  unfold closeCopiedPosition
  cases engine.activeCopies.find? fun copiedTrade => copiedTrade.dealId = dealId with
  | none => exact SameAccount.refl traderId engine
  | some copiedTrade =>
    have removed : SameAccount traderId engine { engine with
        activeCopies := engine.activeCopies.filter (·.dealId ≠ dealId) } := ⟨rfl, rfl⟩
    exact removed.trans (same_account_update copiedTrade.traderId fun _ => ⟨rfl, rfl⟩)

/-- Closed positions leave every account. The induction is on the positions. -/
theorem same_account_close_positions (dealIds : List String) (engine : CopyEngine) :
    SameAccount traderId engine (closePositions dealIds engine).2 := by
  induction dealIds generalizing engine with
  | nil => exact SameAccount.refl traderId engine
  | cons dealId rest inductionHypothesis =>
    exact (same_account_close dealId).trans (inductionHypothesis _)

/-- The profits that are kept of a trader after its check: those of the last seven days. -/
theorem account_checked {allocatedEquity : ℚ} {pnlHistory : List (ℚ × ℚ)}
    (known : engine.account traderId = some (allocatedEquity, pnlHistory)) (currentPnl now : ℚ) :
    (engine.checkDrawdownStop traderId currentPnl now).2.account traderId =
        some (allocatedEquity,
          trailing Prod.fst drawdownWindow now (pnlHistory ++ [(now, currentPnl)])) ∧
      (engine.checkDrawdownStop traderId currentPnl now).2.drawdownStopPct =
        engine.drawdownStopPct := by
  obtain ⟨allocation, registered, same⟩ := Option.map_eq_some_iff.mp known
  obtain ⟨rfl, rfl⟩ := Prod.mk.inj same
  have checked : (engine.checkDrawdownStop traderId currentPnl now).2 =
      engine.updateAllocation traderId fun allocation' =>
        { allocation' with
            pnlHistory :=
              trailing Prod.fst drawdownWindow now (allocation.pnlHistory ++ [(now, currentPnl)])
            currentPnl } := by
    unfold checkDrawdownStop
    rw [registered]
    dsimp only
    split
    · rfl
    · split_ifs <;> rfl
  rw [checked]
  refine ⟨?_, rfl⟩
  unfold account updateAllocation
  dsimp only
  rw [Function.update_self, registered]
  rfl

/-- The check of another trader leaves an account. -/
theorem same_account_checked {checked : String} (currentPnl now : ℚ)
    (different : traderId ≠ checked) :
    SameAccount traderId engine (engine.checkDrawdownStop checked currentPnl now).2 := by
  obtain ⟨pnlHistory, same⟩ := check_drawdown_stop_final checked currentPnl now engine
  rw [same]
  exact same_account_other different _

/-- The answer of a check: whether one of the profits that are kept lies at least the limit above the
current one, and an exception where there is no allocation to compare it with. -/
theorem check_drawdown_stop_true_iff {allocatedEquity : ℚ} {pnlHistory : List (ℚ × ℚ)}
    (known : engine.account traderId = some (allocatedEquity, pnlHistory)) (currentPnl now : ℚ) :
    (engine.checkDrawdownStop traderId currentPnl now).1 = .ok true ↔
      allocatedEquity ≠ 0 ∧
        ∃ entry ∈ trailing Prod.fst drawdownWindow now (pnlHistory ++ [(now, currentPnl)]),
          allocatedEquity * engine.drawdownStopPct ≤ entry.2 - currentPnl := by
  obtain ⟨allocation, registered, same⟩ := Option.map_eq_some_iff.mp known
  obtain ⟨rfl, rfl⟩ := Prod.mk.inj same
  set recent := trailing Prod.fst drawdownWindow now (allocation.pnlHistory ++ [(now, currentPnl)])
    with isRecent
  have summary : ((recent.map Prod.snd).max?.any fun greatest =>
      decide (allocation.allocatedEquity * engine.drawdownStopPct + currentPnl ≤ greatest)) = true ↔
        ∃ entry ∈ recent, allocation.allocatedEquity * engine.drawdownStopPct + currentPnl ≤ entry.2 :=
    Extremes.le_greatest_iff
  simp only [← le_sub_iff_add_le] at summary
  rw [← summary]
  unfold checkDrawdownStop
  rw [registered]
  dsimp only
  rw [trailing] at isRecent
  rw [← isRecent]
  cases (recent.map Prod.snd).max? with
  | none => simp
  | some peak =>
    dsimp only [Option.any_some]
    by_cases reached : allocation.allocatedEquity * engine.drawdownStopPct ≤ peak - currentPnl
    · rw [if_pos reached]
      by_cases without : allocation.allocatedEquity = 0
      · rw [drawdownShare, if_neg (not_not.mpr without)]
        split_ifs <;> simp [Except.map, without]
      · rw [drawdownShare, if_pos without]
        simp [Except.map, reached, without]
    · simp [reached]

end Calls

/-- A profit lies at least a limit below the highest of some profits. -/
def DrawnDown (limit currentPnl : ℚ) (profits : List ℚ) : Prop :=
  ∃ highest ∈ profits.max?, limit ≤ highest - currentPnl

/-- The profits of the last seven days. -/
def recentProfits (now : ℚ) (observed : List (ℚ × ℚ)) : List ℚ :=
  (trailing Prod.fst drawdownWindow now observed).map Prod.snd

/-- A profit lies so far below the highest one exactly when it lies so far below some. -/
theorem drawn_down_iff {limit currentPnl : ℚ} {profits : List ℚ} :
    DrawnDown limit currentPnl profits ↔ ∃ profit ∈ profits, limit ≤ profit - currentPnl := by
  have summary : ((profits.map id).max?.any fun greatest =>
      decide (limit + currentPnl ≤ greatest)) = true ↔
        ∃ profit ∈ profits, limit + currentPnl ≤ profit := Extremes.le_greatest_iff
  simp only [← le_sub_iff_add_le, List.map_id] at summary
  rw [← summary, DrawnDown]
  cases profits.max? <;> simp

end CopyEngine

namespace CopyRun

/-- The profits of a trader that a run tells the engine. -/
def observations (traderId : String) (moves : List CopyMove) : List (ℚ × ℚ) :=
  moves.filterMap (·.observation traderId)

/-- The engine has an allocation for a trader, and shows the profits that it was told. -/
structure Observes (traderId : String) (allocatedEquity drawdownStopPct clock : ℚ)
    (observed : List (ℚ × ℚ)) (run : CopyRun) : Prop where
  account : ∃ pnlHistory, run.engine.account traderId = some (allocatedEquity, pnlHistory) ∧
    Shows Prod.fst drawdownWindow clock pnlHistory observed
  drawdownStopPct : run.engine.drawdownStopPct = drawdownStopPct

section Runs

variable {traderId : String} {allocatedEquity drawdownStopPct clock now : ℚ}
  {observed : List (ℚ × ℚ)} {run next : CopyRun}

/-- A call that leaves the account of a trader. -/
theorem Observes.same (observes : run.Observes traderId allocatedEquity drawdownStopPct clock observed)
    (same : SameAccount traderId run.engine next.engine) :
    next.Observes traderId allocatedEquity drawdownStopPct clock observed := by
  obtain ⟨pnlHistory, known, shows⟩ := observes.account
  exact ⟨⟨pnlHistory, same.account.trans known, shows⟩,
    same.drawdownStopPct.trans observes.drawdownStopPct⟩

/-- A move that tells nothing of a trader leaves its account. -/
theorem same_account_step {move : CopyMove} (leaves : move.Leaves traderId)
    (untold : move.observation traderId = none) :
    SameAccount traderId run.engine (run.step move).engine := by
  cases move with
  | registerTrader registered equity => exact same_account_other (Ne.symm leaves) _
  | replicateTrade sourceTrade traderAllocation copierEquity elapsed elapsedAtExecution =>
    have counted : SameAccount traderId run.engine run.engine.counted := ⟨rfl, rfl⟩
    obtain ⟨-, opens⟩ | ⟨-, ends | suspends⟩ := run.step_replicate_cases sourceTrade
      traderAllocation copierEquity elapsed elapsedAtExecution
    · rw [opens]
      exact counted.trans (same_account_opened _)
    · rw [ends]
      exact counted
    · rw [suspends]
      exact counted
  | resumeReplication place validation elapsed =>
    obtain ⟨-, same⟩ | ⟨copiedTrade, -, ⟨-, opens⟩ | ⟨-, ends⟩⟩ :=
      run.step_resume_cases place validation elapsed
    · rw [same]
      exact SameAccount.refl traderId run.engine
    · rw [opens]
      exact same_account_opened copiedTrade
    · rw [ends]
      exact SameAccount.refl traderId run.engine
  | closeCopiedPosition dealId => exact same_account_close dealId
  | stopCopyingTrader stopped =>
    exact (same_account_close_positions _ run.engine).trans (same_account_other (Ne.symm leaves) _)
  | checkDrawdownStop checked currentPnl now =>
    refine same_account_checked currentPnl now fun same => ?_
    rw [CopyMove.observation, if_pos same.symm] at untold
    cases untold

/-- A check of a trader adds the profit that it tells. -/
theorem Observes.checked
    (observes : run.Observes traderId allocatedEquity drawdownStopPct clock observed)
    (later : clock ≤ now) (currentPnl : ℚ) :
    (run.step (.checkDrawdownStop traderId currentPnl now)).Observes traderId allocatedEquity
      drawdownStopPct now (observed ++ [(now, currentPnl)]) := by
  obtain ⟨pnlHistory, known, shows⟩ := observes.account
  obtain ⟨account, pct⟩ := account_checked known currentPnl now
  exact ⟨⟨_, account, ((shows.wait later).append (now, currentPnl)).prune⟩,
    pct.trans observes.drawdownStopPct⟩

/-- A run that keeps copying a trader shows the profits that it was told, whose times do not decrease.
The induction is on the moves. -/
theorem Observes.after {moves : List CopyMove}
    (observes : run.Observes traderId allocatedEquity drawdownStopPct clock observed)
    (leave : ∀ move ∈ moves, move.Leaves traderId)
    (inOrder : (clock :: (observations traderId moves).map Prod.fst ++ [now]).Pairwise (· ≤ ·)) :
    (Machines.after step run moves).Observes traderId allocatedEquity drawdownStopPct now
      (observed ++ observations traderId moves) := by
  induction moves generalizing run clock observed with
  | nil =>
    obtain ⟨pnlHistory, known, shows⟩ := observes.account
    have later : clock ≤ now := List.rel_of_pairwise_cons inOrder (List.mem_singleton_self now)
    exact ⟨⟨pnlHistory, known, by simpa [observations] using shows.wait later⟩,
      observes.drawdownStopPct⟩
  | cons move rest inductionHypothesis =>
    have leaveRest : ∀ later ∈ rest, later.Leaves traderId :=
      fun later among => leave later (List.mem_cons_of_mem _ among)
    cases told : move.observation traderId with
    | none =>
      have same : observations traderId (move :: rest) = observations traderId rest :=
        List.filterMap_cons_none told
      rw [same] at inOrder ⊢
      exact inductionHypothesis
        (observes.same (same_account_step (leave move List.mem_cons_self) told)) leaveRest inOrder
    | some observation =>
      have more : observations traderId (move :: rest) =
          observation :: observations traderId rest := List.filterMap_cons_some told
      rw [more] at inOrder ⊢
      obtain ⟨above, rests⟩ := List.pairwise_cons.mp inOrder
      rw [List.append_cons]
      refine inductionHypothesis ?_ leaveRest rests
      cases move with
      | checkDrawdownStop checked currentPnl reading =>
        rw [CopyMove.observation, Option.ite_none_right_eq_some] at told
        obtain ⟨rfl, isObservation⟩ := told
        obtain rfl := Option.some.inj isObservation
        exact observes.checked (above reading List.mem_cons_self) currentPnl
      | registerTrader _ _ => cases told
      | replicateTrade _ _ _ _ _ => cases told
      | resumeReplication _ _ _ => cases told
      | closeCopiedPosition _ => cases told
      | stopCopyingTrader _ => cases told

/-- A trader that is registered has no profits that the engine was told. -/
theorem observes_registered (run : CopyRun) (traderId : String) (allocatedEquity clock : ℚ) :
    (run.step (.registerTrader traderId allocatedEquity)).Observes traderId allocatedEquity
      run.engine.drawdownStopPct clock [] := by
  refine ⟨⟨[], ?_, shows_nil clock⟩, rfl⟩
  unfold account CopyRun.step registerTrader
  dsimp only
  rw [Function.update_self]
  rfl

end Runs

/-- What the start of a trader adds to the profits of the last seven days: if the trader was registered
in them, and the current profit lies at least the limit below the profit of nothing with which it
started, then it lies so far below a profit of these days that the engine was told. -/
def StartCovered (limit currentPnl registeredAt now : ℚ) (observed : List (ℚ × ℚ)) : Prop :=
  now - drawdownWindow ≤ registeredAt → limit ≤ 0 - currentPnl →
    ∃ profit ∈ recentProfits now observed, limit ≤ profit - currentPnl

instance (limit currentPnl registeredAt now : ℚ) (observed : List (ℚ × ℚ)) :
    Decidable (StartCovered limit currentPnl registeredAt now observed) :=
  inferInstanceAs (Decidable (_ → _ → ∃ profit ∈ _, _))

/-- The profits of the last seven days with the one with which a trader starts. -/
theorem recent_profits_start {registeredAt now limit currentPnl : ℚ} {observed : List (ℚ × ℚ)} :
    (∃ profit ∈ recentProfits now ((registeredAt, 0) :: observed), limit ≤ profit - currentPnl) ↔
      now - drawdownWindow ≤ registeredAt ∧ limit ≤ 0 - currentPnl ∨
        ∃ profit ∈ recentProfits now observed, limit ≤ profit - currentPnl := by
  unfold recentProfits trailing
  by_cases recent : now - drawdownWindow ≤ registeredAt
  · rw [List.filter_cons_of_pos (by simpa using recent), List.map_cons, List.exists_mem_cons_iff,
      and_iff_right recent]
  · rw [List.filter_cons_of_neg (by simpa using recent), or_iff_right fun start => recent start.1]

/-- For every run in which a trader is registered and then copied, whatever else happens in it, and whose
checks of the trader come at times that do not decrease: a check returns true exactly when the current
profit lies at least the limit below the highest one of the last seven days, where the start counts as
a profit of nothing, if and only if there is an allocation and the start adds nothing. -/
theorem drawdown_stop_exact_iff (run : CopyRun) (traderId : String)
    (allocatedEquity registeredAt : ℚ) (moves : List CopyMove) (currentPnl now : ℚ)
    (leave : ∀ move ∈ moves, move.Leaves traderId)
    (inOrder : (registeredAt :: (observations traderId moves).map Prod.fst ++ [now]).Pairwise
      (· ≤ ·)) :
    let limit := allocatedEquity * run.engine.drawdownStopPct
    let engine := (Machines.after step run (.registerTrader traderId allocatedEquity :: moves)).engine
    let observed := observations traderId moves ++ [(now, currentPnl)]
    ((engine.checkDrawdownStop traderId currentPnl now).1 = .ok true ↔
        DrawnDown limit currentPnl (recentProfits now ((registeredAt, 0) :: observed))) ↔
      allocatedEquity ≠ 0 ∧ StartCovered limit currentPnl registeredAt now observed := by
  intro limit engine observed
  have registered := observes_registered run traderId allocatedEquity registeredAt
  obtain ⟨⟨pnlHistory, known, shows⟩, pct⟩ := registered.after leave inOrder
  rw [List.nil_append] at shows
  have kept : (∃ entry ∈ trailing Prod.fst drawdownWindow now (pnlHistory ++ [(now, currentPnl)]),
      limit ≤ entry.2 - currentPnl) ↔
        ∃ profit ∈ recentProfits now observed, limit ≤ profit - currentPnl := by
    rw [(shows.append (now, currentPnl)) now le_rfl]
    simp only [recentProfits, List.mem_map, exists_exists_and_eq_and, observed]
  have answer : (engine.checkDrawdownStop traderId currentPnl now).1 = .ok true ↔ _ :=
    check_drawdown_stop_true_iff known currentPnl now
  rw [pct, kept] at answer
  rw [answer, drawn_down_iff, recent_profits_start, StartCovered]
  by_cases without : allocatedEquity = 0
  · -- without an allocation the limit is nothing, and the current profit reaches it
    have current : ∃ profit ∈ recentProfits now observed, limit ≤ profit - currentPnl := by
      refine ⟨currentPnl, ?_, by simp [limit, without]⟩
      refine List.mem_map.mpr ⟨(now, currentPnl), List.mem_filter.mpr ⟨by simp [observed], ?_⟩, rfl⟩
      exact decide_eq_true (sub_le_self now (by decide +kernel))
    exact iff_of_false (fun same => (same.mpr (.inr current)).1 without) fun both => both.1 without
  · rw [and_iff_right without, and_iff_right without]
    constructor
    · exact fun same recent reached => same.mpr (.inl ⟨recent, reached⟩)
    · intro covered
      exact ⟨.inr, fun either => either.elim (fun start => covered start.1 start.2) id⟩

/-- A trader that was told to have made and then lost money. -/
def risingAndFalling : List CopyMove := [.checkDrawdownStop "TRADER-A" 500 1]

/-- A trader that falls from a profit is stopped as it should be. -/
theorem falling_trader_is_stopped :
    let engine := (Machines.after step { engine := {} }
      (.registerTrader "TRADER-A" 10000 :: risingAndFalling)).engine
    (engine.checkDrawdownStop "TRADER-A" (-1100) 2).1 = .ok true ↔
      DrawnDown (10000 * Constants.copyDrawdownStopPct) (-1100)
        (recentProfits 2 ((0, 0) :: [(1, 500), (2, -1100)])) :=
  (drawdown_stop_exact_iff { engine := {} } "TRADER-A" 10000 0 risingAndFalling (-1100) 2
    (by decide) (by decide +kernel)).mpr (by decide +kernel)

/-- A trader whose first observation is a loss of a fifth of its allocation is not stopped. -/
theorem first_loss_is_missed :
    ¬∀ (run : CopyRun) (traderId : String) (allocatedEquity registeredAt : ℚ)
      (moves : List CopyMove) (currentPnl now : ℚ), 0 < allocatedEquity →
      (∀ move ∈ moves, move.Leaves traderId) →
      (registeredAt :: (observations traderId moves).map Prod.fst ++ [now]).Pairwise (· ≤ ·) →
        (((Machines.after step run (.registerTrader traderId allocatedEquity :: moves)
            ).engine.checkDrawdownStop traderId currentPnl now).1 = .ok true ↔
          DrawnDown (allocatedEquity * run.engine.drawdownStopPct) currentPnl
            (recentProfits now ((registeredAt, 0) :: observations traderId moves ++
              [(now, currentPnl)]))) := by
  intro claim
  have exact := claim { engine := {} } "TRADER-A" 10000 0 [] (-2000) 1 (by decide) (by decide)
    (by decide +kernel)
  have drawnDown : DrawnDown (10000 * Constants.copyDrawdownStopPct) (-2000)
      (recentProfits 1 [(0, 0), (1, -2000)]) := drawn_down_iff.mpr (by decide +kernel)
  exact absurd (exact.mpr drawnDown) (by decide +kernel)

end CopyRun

end IgTradingBot
