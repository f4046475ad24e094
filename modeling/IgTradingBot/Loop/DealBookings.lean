import IgTradingBot.Loop.DealAccount

/-!
# Bookings of reconciled deals

The persistence of a reconciled deal closes its row, so the deal is not booked again; but a
session that fails leaves the row open, while the totals have grown already. As long as no
session fails so, and identifiers are new, a run books every deal at most once.
-/

namespace IgTradingBot

open Sequential Sequential.Program KeyedRows PeriodTotals

namespace TradingLoop

open Database

/-- What the booking of deals depends on. -/
def dealState (world : World) : DealState :=
  ⟨world.desk.database, world.desk.dealRecords, insertedKeys world.history,
    reconciledDeals world.history⟩

/-- A property of the deals, as long as the history is regular. -/
def OnDeals (initial : Database) (account : DealState → Prop) (world : World) : Prop :=
  Throughout (LoopEvent.KeepsDealsApart initial) world.history → account (dealState world)

section Frames

variable {initial : Database} {account : DealState → Prop} {world : World}

/-- Other events do not matter to the deals. -/
theorem OnDeals.record (holds : OnDeals initial account world) {event : LoopEvent}
    (inserts : event.rowKeys = none) (books : event.reconciledDeal = none) {change : World}
    (recorded : change.history = event :: world.history)
    (sameDatabase : change.desk.database = world.desk.database)
    (sameRecords : change.desk.dealRecords = world.desk.dealRecords) :
    OnDeals initial account change := by
  intro regular
  rw [recorded] at regular
  have same : dealState change = dealState world := by
    simp only [dealState, recorded, sameDatabase, sameRecords, insertedKeys, reconciledDeals,
      List.filterMap_cons, inserts, books]
  exact same ▸ holds regular.2

theorem on_deals_ambient (initial : Database) (account : DealState → Prop) :
    Ambient (OnDeals initial account) where
  clock _ _ _ holds := holds
  engine _ _ _ holds := holds
  closed _ holds := holds.record rfl rfl rfl rfl rfl
  aside world desk same holds := by
    intro regular
    have sameState : dealState { world with desk } = dealState world := by
      simp only [dealState, same.database, same.dealRecords]
    exact sameState ▸ holds regular

theorem on_deals_gate (initial : Database) (account : DealState → Prop) :
    GateRules (OnDeals initial account) where
  toAmbient := on_deals_ambient initial account
  rolled _ holds := holds
  realizedRead _ _ holds := holds.record rfl rfl rfl rfl rfl

theorem on_deals_management (initial : Database) (account : DealState → Prop) :
    ManagementRules (OnDeals initial account) where
  toAmbient := on_deals_ambient initial account
  answered _ _ _ _ _ holds := holds.record rfl rfl rfl rfl rfl
  noted _ event managed holds := by
    cases event with
    | managementStarted => exact holds.record rfl rfl rfl rfl rfl
    | partialCloseRequested => exact holds.record rfl rfl rfl rfl rfl
    | _ => cases managed
  managed _ _ holds := holds

/-- What a property of the deals needs for the persistence of a close. -/
structure ClosingRules (account : DealState → Prop) : Prop where
  closes : ∀ state after, account state → state.database.Closes after →
    account { state with database := after }
  released : ∀ state dealId, account state →
    account { state with dealRecords := state.dealRecords.erase dealId }

theorem deal_account_closing (initial : Database) : ClosingRules (DealAccount initial) where
  closes _ _ holds closes := holds.closes closes
  released _ dealId holds := holds.released dealId

/-- A property of the deals survives any persistence of a close. -/
theorem ClosingRules.keeps_persistClosedTrade (rules : ClosingRules account) (config : LoopConfig)
    (script : PersistCloseScript) (dealId epic : String)
    (profit level closeLevel : Option Numeral) :
    Keeps (OnDeals initial account)
      (persistClosedTrade config script dealId epic profit level closeLevel) := by
  have stable := on_deals_ambient initial account
  apply stable.ensures_persistClosedTrade config script dealId epic profit level closeLevel
  · exact fun _ _ holds => holds
  · intro record exitPrice pnl
    have kept : Ensures (OnDeals initial account)
        (inSession script.session (closeRows record dealId epic exitPrice pnl))
        (fun _ => OnDeals initial account) (fun _ => OnDeals initial account) := by
      apply stable.ensures_session_end
      · intro world now answer database holds ran _ regular
        have closes := (close_rows_closes world.desk.database record dealId epic exitPrice pnl
          now).final (Closes.refl _)
        rw [ran] at closes
        exact rules.closes _ database (holds regular) closes
      · exact fun _ holds _ => holds
    exact kept.enter fun _ holds => holds.1
  · exact fun world holds regular => rules.released _ dealId (holds regular)

/-- The persistence of a reconciled deal shuts it, when the session keeps its changes. -/
theorem ClosingRules.ensures_shut (rules : ClosingRules account)
    (known : ∀ state, account state → DealAccount initial state) (config : LoopConfig)
    (script : PersistCloseScript) {dealId : String} (named : dealId ≠ "") (epic : String)
    (pnl level : ℚ) :
    Ensures (OnDeals initial account)
      (persistClosedTrade config script dealId epic (some (.number pnl)) none
        (some (.number level)))
      (fun _ => OnDeals initial fun state => account state ∧
        (script.session.ending.keepsChanges = true → state.database.Shut dealId))
      (fun _ => OnDeals initial fun state => account state ∧
        (script.session.ending.keepsChanges = true → state.database.Shut dealId)) := by
  apply (on_deals_ambient initial _).ensures_persistClosedTrade config script dealId epic
  · have read : ∀ value : ℚ, (Numeral.parseOrZero (some (.number value))).isOk = true := by
      intro value
      rw [Numeral.parse_or_zero_number]
      rfl
    rintro (unread | unread)
    · cases (read pnl).symm.trans unread
    · cases (read level).symm.trans unread
  · intro record exitPrice pnl
    have shuts : ∀ (world : World) now answer database,
        OnDeals initial (fun state => account state ∧ state.dealRecords.lookup dealId = record)
          world →
        closeRows record dealId epic exitPrice pnl now world.desk.database = (answer, database) →
        Throughout (LoopEvent.KeepsDealsApart initial) world.history →
        account { dealState world with database } ∧ database.Shut dealId ∧
          ∃ trade, answer = .ok trade := by
      intro world now answer database holds ran regular
      obtain ⟨holding, sameRecord⟩ := holds regular
      have closes := (close_rows_closes world.desk.database record dealId epic exitPrice pnl
        now).final (Closes.refl _)
      rw [ran] at closes
      have deals := known _ holding
      obtain ⟨trade, after, closed, shut⟩ := close_rows_shuts deals.keyed named
        (fun ids found => deals.recorded dealId ids (sameRecord.trans found)) epic exitPrice pnl now
      obtain ⟨rfl, rfl⟩ := Prod.mk.inj (closed.symm.trans ran)
      exact ⟨rules.closes _ _ holding closes, shut, trade, rfl⟩
    have session : Ensures
        (OnDeals initial fun state => account state ∧ state.dealRecords.lookup dealId = record)
        (inSession script.session (closeRows record dealId epic exitPrice pnl))
        (fun _ => OnDeals initial fun state => account state ∧
          (script.session.ending.keepsChanges = true → state.database.Shut dealId))
        (fun _ => OnDeals initial fun state => account state ∧
          (script.session.ending.keepsChanges = true → state.database.Shut dealId)) := by
      apply (on_deals_ambient initial _).ensures_session_end
      · intro world now answer database holds ran _ regular
        obtain ⟨holding, shut, _⟩ := shuts world now _ database holds ran regular
        exact ⟨holding, fun _ => shut⟩
      · intro world holds stopped regular
        refine ⟨(holds regular).1, fun keeps => ?_⟩
        rcases stopped with dropped | ⟨now, failure, database, raised⟩
        · cases keeps.symm.trans dropped
        · obtain ⟨_, _, trade, returned⟩ := shuts world now _ database holds raised regular
          cases returned
    exact session.enter fun world holds regular => ⟨holds.1 regular, holds.2⟩
  · intro world holds regular
    obtain ⟨holding, shut⟩ := holds regular
    exact ⟨rules.released _ dealId holding, shut⟩

end Frames

section Openings

variable {initial : Database}

/-- The rows of an opened trade have its keys. -/
theorem insert_open_trade_rows (script : PersistOpenScript) (signal : Signal) (entryPrice : ℚ)
    {dealId : String} (named : dealId ≠ "") (dealReference : Option String)
    (stopLoss takeProfit openedAt : ℚ) (database : Database) :
    ∃ (trade : TradeRow) (position : PositionRow),
      insertOpenTrade script signal entryPrice dealId dealReference stopLoss takeProfit openedAt
          database =
        (.ok (), ⟨trade :: database.trades, position :: database.positions⟩) ∧
      (trade.id = script.tradeId ∧ trade.igDealId = some dealId) ∧
      position.id = script.positionId ∧ position.igDealId = some dealId :=
  ⟨_, _, rfl, ⟨rfl, if_neg named⟩, rfl, if_neg named⟩

/-- The persistence of an opening keeps the account: its rows and its record get new keys. -/
theorem deal_account_keeps_persistOpenTrade (script : PersistOpenScript) (signal : Signal)
    {dealId : String} (named : dealId ≠ "") (dealReference : Option String)
    (entryLevel stopLevel limitLevel : Numeral) :
    Keeps (OnDeals initial (DealAccount initial))
      (persistOpenTrade script signal dealId dealReference entryLevel stopLevel limitLevel) := by
  let keys : RowKeys := ⟨script.tradeId, script.positionId, dealId⟩
  let named' : DealState → Prop := fun state => DealAccount initial state ∧
    dealId ∈ takenDeals initial state.inserted ∧
    ∀ row ∈ state.database.positions, row.igDealId = some dealId → row.id = script.positionId
  refine keeps_rescue ?_ fun _ => keeps_pure ()
  apply keeps_bind (keeps_ofExcept _)
  intro entryPrice
  apply keeps_bind (keeps_ofExcept _)
  intro stopLoss
  apply keeps_bind (keeps_ofExcept _)
  intro takeProfit
  have announced : Ensures (OnDeals initial (DealAccount initial))
      (modify (recordRows keys) : LoopProgram Unit)
      (fun _ => OnDeals initial (Inserting initial keys))
      (fun _ => OnDeals initial (DealAccount initial)) :=
    ensures_modify _ fun _ holds regular => (holds regular.2).announce regular.1
  apply ensures_bind announced
  intro _
  have inserted : ∀ (world : World) now answer database,
      OnDeals initial (Inserting initial keys) world →
      insertOpenTrade script signal entryPrice dealId dealReference stopLoss takeProfit now
        world.desk.database = (answer, database) →
      OnDeals initial named' { world with desk := { world.desk with database } } := by
    intro world now answer database holds ran regular
    have inserting := holds regular
    obtain ⟨trade, position, rows, ⟨tradeId, tradeDeal⟩, positionId, positionDeal⟩ :=
      insert_open_trade_rows script signal entryPrice named dealReference stopLoss takeProfit now
        world.desk.database
    obtain ⟨rfl, rfl⟩ := Prod.mk.inj (rows.symm.trans ran)
    obtain ⟨kept, names⟩ := inserting.inserted tradeId tradeDeal positionId positionDeal
    refine ⟨kept, ?_, names⟩
    exact List.mem_append_left _ (List.mem_map_of_mem inserting.announced)
  have session : Ensures (OnDeals initial (Inserting initial keys))
      (inSession script.session (insertOpenTrade script signal entryPrice dealId dealReference
        stopLoss takeProfit))
      (fun _ => OnDeals initial named') (fun _ => OnDeals initial (DealAccount initial)) := by
    apply (on_deals_ambient initial _).ensures_inSession
    · intro world now answer database holds ran
      have after := inserted world now _ database holds ran
      refine ⟨fun _ => after, fun kept _ => ?_⟩
      cases kept with
      | true => exact fun regular => (after regular).1
      | false => exact fun regular => (holds regular).toDealAccount
    · exact fun _ _ _ _ holds _ regular => (holds regular).toDealAccount
  apply ensures_bind session
  intro _
  rw [if_neg named]
  exact ensures_modify _ fun _ holds regular =>
    (holds regular).1.keepRecord (holds regular).2.1 (holds regular).2.2

theorem deal_account_entry (initial : Database) :
    EntryContracts (OnDeals initial (DealAccount initial)) where
  toRolls := (on_deals_gate initial _).toRolls
  opened _ _ holds := holds.record rfl rfl rfl rfl rfl
  counted _ _ _ holds := holds
  keepsOpening :=
    (on_deals_ambient initial _).keeps_keepOpening
      (fun _ _ _ _ _ holds => holds.record rfl rfl rfl rfl rfl)
      fun _ _ _ _ _ _ _ named => deal_account_keeps_persistOpenTrade _ _ named _ _ _ _
  submitted _ _ holds := holds.record rfl rfl rfl rfl rfl

end Openings

section Reconciliation

variable {initial : Database}

/-- The missing rows are rows of the query, each with the deal that it is counted under. -/
theorem count_missing_rows (live : List String) (counts : AList (fun _ : String => ℕ))
    (rows : List PositionRow) :
    ((countMissing live counts rows).2.map (·.2)).Sublist rows ∧
      ∀ missing ∈ (countMissing live counts rows).2,
        missing.1 ≠ "" ∧ missing.2.igDealId = some missing.1 := by
  induction rows generalizing counts with
  | nil => exact ⟨List.Sublist.slnil, fun missing member => by cases member⟩
  | cons row rest inductionHypothesis =>
    unfold countMissing
    dsimp only
    split_ifs with unnamed listed repeated
    · obtain ⟨sublist, deals⟩ := inductionHypothesis counts
      exact ⟨sublist.cons row, deals⟩
    · obtain ⟨sublist, deals⟩ := inductionHypothesis (counts.erase _)
      exact ⟨sublist.cons row, deals⟩
    · obtain ⟨sublist, deals⟩ := inductionHypothesis (counts.insert _ _)
      refine ⟨sublist.cons_cons row, ?_⟩
      intro missing member
      obtain rfl | later := List.mem_cons.mp member
      · refine ⟨unnamed, ?_⟩
        cases ofRow : row.igDealId with
        | none => simp [ofRow] at unnamed
        | some dealId => rfl
      · exact deals missing later
    · obtain ⟨sublist, deals⟩ := inductionHypothesis (counts.insert _ _)
      exact ⟨sublist.cons row, deals⟩

/-- The account while deals wait for their booking: they are different, and none of them was
booked. -/
structure Awaiting (initial : Database) (missing : List (String × PositionRow))
    (state : DealState) : Prop extends DealAccount initial state where
  different : missing.Pairwise fun first second => first.1 ≠ second.1
  waiting : ∀ deal ∈ missing, deal.1 ≠ "" ∧ deal.1 ∈ takenDeals initial state.inserted ∧
    deal.1 ∉ state.reconciled

/-- The open rows of a query wait for their booking. -/
theorem awaiting_missing {state : DealState} (account : DealAccount initial state)
    (live : List String) (counts : AList (fun _ : String => ℕ)) :
    Awaiting initial
      (countMissing live counts (state.database.positions.filter (·.isOpen))).2 state where
  toDealAccount := account
  different := by
    obtain ⟨sublist, deals⟩ :=
      count_missing_rows live counts (state.database.positions.filter (·.isOpen))
    have apart := account.keyed.positionDeals.sublist (sublist.trans List.filter_sublist)
    refine (List.pairwise_map.mp apart).imp_of_mem ?_
    intro first second firstMember secondMember separate same
    exact separate first.1 (deals first firstMember).2 (same ▸ (deals second secondMember).2)
  waiting := by
    obtain ⟨sublist, deals⟩ :=
      count_missing_rows live counts (state.database.positions.filter (·.isOpen))
    intro deal member
    obtain ⟨named, ofDeal⟩ := deals deal member
    have row := List.mem_filter.mp (sublist.subset (List.mem_map_of_mem member))
    refine ⟨named, (account.positionsTaken deal.2 row.1).2 _ ofDeal, ?_⟩
    intro booked
    have shut := (account.settled _ booked).2 deal.2 row.1 ofDeal
    exact absurd row.2 (by simp [shut])

theorem awaiting_closing (initial : Database) (missing : List (String × PositionRow)) :
    ClosingRules (Awaiting initial missing) where
  closes _ _ holds closes := ⟨holds.toDealAccount.closes closes, holds.different, holds.waiting⟩
  released _ dealId holds :=
    ⟨holds.toDealAccount.released dealId, holds.different, holds.waiting⟩

/-- A deal that waits no more leaves the others waiting. -/
theorem Awaiting.tail {state : DealState} {deal : String × PositionRow}
    {rest : List (String × PositionRow)} (awaiting : Awaiting initial (deal :: rest) state) :
    Awaiting initial rest state :=
  ⟨awaiting.toDealAccount, (List.pairwise_cons.mp awaiting.different).2,
    fun other member => awaiting.waiting other (List.mem_cons_of_mem deal member)⟩

/-- A deal that is shut may be booked; the others wait on. -/
theorem Awaiting.booked {state : DealState} {deal : String × PositionRow}
    {rest : List (String × PositionRow)} (awaiting : Awaiting initial (deal :: rest) state)
    (shut : state.database.Shut deal.1) :
    Awaiting initial rest { state with reconciled := deal.1 :: state.reconciled } := by
  obtain ⟨_, taken, unbooked⟩ := awaiting.waiting deal List.mem_cons_self
  obtain ⟨apart, different⟩ := List.pairwise_cons.mp awaiting.different
  refine ⟨awaiting.toDealAccount.booked taken shut unbooked, different, ?_⟩
  intro other member
  obtain ⟨named, otherTaken, otherUnbooked⟩ :=
    awaiting.waiting other (List.mem_cons_of_mem deal member)
  refine ⟨named, otherTaken, ?_⟩
  intro booked
  obtain same | earlier := List.mem_cons.mp booked
  · exact apart other member same.symm
  · exact otherUnbooked earlier

/-- The step of a reconciliation books the first deal that waits, or leaves it as it is. -/
theorem ensures_reconcileDeal (config : LoopConfig) (script : ReconcileScript)
    (transactions : List Transaction) (deal : String × PositionRow)
    (rest : List (String × PositionRow)) (named : deal.1 ≠ "") :
    Ensures (OnDeals initial (Awaiting initial (deal :: rest)))
      (reconcileDeal config script transactions deal)
      (fun _ => OnDeals initial (Awaiting initial rest))
      (fun _ => OnDeals initial (DealAccount initial)) := by
  cases found : transactionFor transactions deal.1 with
  | none =>
    simp only [reconcileDeal, found]
    exact ensures_pure () fun _ holds regular => (holds regular).tail
  | some transaction =>
    simp only [reconcileDeal, found]
    cases earned : parseIgDecimal transaction.profitAndLoss with
    | error failure => exact ensures_raise failure fun _ holds regular => (holds regular).toDealAccount
    | ok pnl =>
      cases closed : parseIgDecimal transaction.closeLevel with
      | error failure =>
        exact ensures_raise failure fun _ holds regular => (holds regular).toDealAccount
      | ok closeLevel =>
        have shut := (awaiting_closing initial (deal :: rest)).ensures_shut
          (fun _ holds => holds.toDealAccount) config (script.persist deal.1) named
          deal.2.instrument pnl closeLevel
        apply ensures_bind (shut.weaken (fun _ holds => holds) (fun _ _ holds => holds)
          fun _ _ holds regular => (holds regular).1.toDealAccount)
        intro _
        apply ensures_bind (on_deals_ambient initial _).ensures_readClock
        intro now
        have booked : Ensures
            (fun world => OnDeals initial (fun state => Awaiting initial (deal :: rest) state ∧
              ((script.persist deal.1).session.ending.keepsChanges = true →
                state.database.Shut deal.1)) world ∧ world.clock = now)
            (modify (takeTransaction deal.1 pnl
              (script.persist deal.1).session.ending.keepsChanges) : LoopProgram Unit)
            (fun _ => OnDeals initial (Awaiting initial rest))
            (fun _ => OnDeals initial (DealAccount initial)) := by
          apply ensures_modify
          rintro world ⟨holds, _⟩ ⟨persisted, regular⟩
          obtain ⟨awaiting, shuts⟩ := holds regular
          exact awaiting.booked (shuts persisted)
        apply ensures_bind booked
        intro _
        exact ensures_modify _ fun world holds =>
          (on_deals_ambient initial _).aside world _ ⟨rfl, rfl, rfl, rfl⟩ holds

/-- The deals that wait are booked one after the other. The induction is on the deals. -/
theorem ensures_reconcileDeals (config : LoopConfig) (script : ReconcileScript)
    (transactions : List Transaction) (missing : List (String × PositionRow))
    (named : ∀ deal ∈ missing, deal.1 ≠ "") :
    Ensures (OnDeals initial (Awaiting initial missing))
      (forEach missing (reconcileDeal config script transactions))
      (fun _ => OnDeals initial (DealAccount initial))
      (fun _ => OnDeals initial (DealAccount initial)) := by
  induction missing with
  | nil => exact ensures_pure () fun _ holds regular => (holds regular).toDealAccount
  | cons deal rest inductionHypothesis =>
    apply ensures_bind (ensures_reconcileDeal config script transactions deal rest
      (named deal List.mem_cons_self))
    intro _
    exact inductionHypothesis fun other member => named other (List.mem_cons_of_mem deal member)

/-- A reconciliation keeps the account. -/
theorem deal_account_keeps_reconciliation (config : LoopConfig) (script : ReconcileScript)
    (livePositions : List PositionDict) :
    Keeps (OnDeals initial (DealAccount initial))
      (reconcileBrokerClosedPositions config script livePositions) := by
  have stable := on_deals_ambient initial
  have queried : Ensures (OnDeals initial (DealAccount initial))
      (inSession script.query fun _ => getOpenPositions)
      (fun rows => OnDeals initial fun state => DealAccount initial state ∧
        state.database.positions.filter (·.isOpen) = rows)
      (fun _ => OnDeals initial (DealAccount initial)) := by
    apply (stable _).ensures_inSession
    · intro world now answer database holds ran
      obtain ⟨same, rfl⟩ := Prod.mk.inj ran
      obtain rfl := Except.ok.inj same
      refine ⟨fun _ regular => ⟨holds regular, rfl⟩, fun kept _ => ?_⟩
      cases kept with
      | true => exact holds
      | false => exact holds
    · exact fun _ _ _ _ holds _ => holds
  apply ensures_bind queried
  intro rows
  apply ensures_read_bind
  intro counts
  let missing := (countMissing (liveDealIds livePositions)
    (forgetCounts (liveDealIds livePositions) (persistedDealIds rows) counts) rows).2
  have counted : Ensures
      (fun world => OnDeals initial (fun state => DealAccount initial state ∧
        state.database.positions.filter (·.isOpen) = rows) world ∧
        world.desk.missingPositionCounts = counts)
      (setDesk fun desk =>
        { desk with
            missingPositionCounts := (countMissing (liveDealIds livePositions)
              (forgetCounts (liveDealIds livePositions) (persistedDealIds rows) counts) rows).1 })
      (fun _ => OnDeals initial (Awaiting initial missing))
      (fun _ => OnDeals initial (DealAccount initial)) := by
    apply ensures_modify
    rintro world ⟨holds, _⟩ regular
    obtain ⟨account, rfl⟩ := holds regular
    exact awaiting_missing account (liveDealIds livePositions) _
  apply ensures_bind counted
  intro _
  apply ensures_ite
  · intro _
    exact ensures_pure () fun _ holds regular => (holds regular).toDealAccount
  · intro _
    have waited : Ensures (OnDeals initial (Awaiting initial missing)) (await script.transactions)
        (fun _ => OnDeals initial (Awaiting initial missing))
        (fun _ => OnDeals initial (DealAccount initial)) :=
      ((stable _).keeps_await script.transactions).weaken (fun _ holds => holds)
        (fun _ _ holds => holds) fun _ _ holds regular => (holds regular).toDealAccount
    apply ensures_bind waited
    intro transactions
    exact ensures_reconcileDeals config script transactions missing
      fun deal member => ((count_missing_rows _ _ rows).2 deal member).1

/-- Every part of a run keeps the account. -/
theorem deal_account_contracts (initial : Database) (config : LoopConfig) :
    CycleContracts config (fun _ => True) (OnDeals initial (DealAccount initial)) where
  toGateRules := on_deals_gate initial _
  answered := (on_deals_management initial _).answered
  keepsPersistence := (deal_account_closing initial).keeps_persistClosedTrade config
  listed _ _ holds := holds
  keepsReconciliation := deal_account_keeps_reconciliation config
  keepsManagement := (on_deals_management initial _).keeps_manageProfessionalPosition
  entered _ input _ _ _ :=
    ((deal_account_entry initial).keeps_gatedEntry (on_deals_gate initial _) config input.entry _).enter
      fun _ holds => holds.1

end Reconciliation

/-- In every run of a fresh loop over a database with unique keys, in which every booked deal is
persisted and every row gets new keys, no deal is booked twice from the transaction history. -/
theorem run_books_deals_once (config : LoopConfig) (starts : List StartInput) (clock : ℚ)
    (schedule : ℕ → ℚ) (engine : RiskEngine) (desk : Desk) (openAtBroker : ℕ)
    (unrecorded : desk.dealRecords = ∅) (keyed : desk.database.Keyed)
    (regular : Throughout (LoopEvent.KeepsDealsApart desk.database)
      (final (run config starts) (constructed clock schedule engine desk openAtBroker)).history) :
    (reconciledDeals
      (final (run config starts)
        (constructed clock schedule engine desk openAtBroker)).history).Nodup := by
  have initial : OnDeals desk.database (DealAccount desk.database)
      (constructed clock schedule engine desk openAtBroker) := by
    intro _
    refine ⟨keyed, ?_, ?_, ?_, ?_, ?_, List.nodup_nil⟩
    · intro row member
      refine ⟨List.mem_map_of_mem member, fun dealId ofDeal => ?_⟩
      have listed := List.mem_filterMap.mpr ⟨row, member, ofDeal⟩
      exact List.mem_append_right _ (List.mem_append_left _ listed)
    · intro row member
      refine ⟨List.mem_map_of_mem member, fun dealId ofDeal => ?_⟩
      have listed := List.mem_filterMap.mpr ⟨row, member, ofDeal⟩
      exact List.mem_append_right _ (List.mem_append_right _ listed)
    · intro dealId ids found
      simp [dealState, constructed, unrecorded] at found
    · intro dealId ids found
      simp [dealState, constructed, unrecorded] at found
    · intro dealId booked
      cases booked
  exact (((deal_account_contracts desk.database config).keeps_run starts
    fun _ _ _ _ _ _ => trivial).final initial regular).once

/-- A database that holds one deal open. -/
def heldDatabase : Database :=
  { trades :=
      [{ id := "TRADE-1", instrument := "CS.D.EURUSD.CFD.IP", direction := "LONG", size := 1
         entryPrice := 11 / 10, igDealId := some "DEAL-1", strategy := "legacy_sma_atr"
         openedAt := 400000, confidenceScore := 70 }]
    positions :=
      [{ id := "POSITION-1", tradeId := "TRADE-1", instrument := "CS.D.EURUSD.CFD.IP"
         direction := "LONG", size := 1, entryPrice := 11 / 10, igDealId := some "DEAL-1" }] }

theorem held_database_keyed : heldDatabase.Keyed :=
  ⟨List.pairwise_singleton _ _, List.pairwise_singleton _ _, List.pairwise_singleton _ _,
    List.pairwise_singleton _ _⟩

/-- A loop that is constructed over this database. -/
def heldWorld : World :=
  constructed 500000 (fun reading => 500000 + reading) demoWorld.engine { database := heldDatabase } 0

/-- A cycle in which the broker lists no position and the transaction of the deal is known. -/
def brokerClosed (ending : SessionEnd) : CycleInput :=
  { demoCycle [] [] with
    account :=
      { positions := { reply := .ok [] }
        reconcile :=
          { transactions :=
              { reply := .ok
                  [{ reference := some "DEAL-1", profitAndLoss := .number 10
                     closeLevel := .number (111 / 100) }] }
            persist := fun _ => { session := { ending } } } } }

/-- The session of the first booking fails, the row stays open, and two cycles later the deal is
booked again. -/
theorem failed_session_books_deal_twice :
    ¬ (reconciledDeals
      (final (run demoConfig [{ cycles :=
        [brokerClosed .committed, brokerClosed (.failed false), brokerClosed .committed,
          brokerClosed .committed] }]) heldWorld).history).Nodup := by
  decide +kernel

/-- With sessions that commit, four such cycles book the deal once. -/
theorem committed_session_books_deal_once :
    (reconciledDeals
      (final (run demoConfig [{ cycles :=
        [brokerClosed .committed, brokerClosed .committed, brokerClosed .committed,
          brokerClosed .committed] }]) heldWorld).history).Nodup := by
  apply run_books_deals_once
  · rfl
  · exact held_database_keyed
  · decide +kernel

end TradingLoop

end IgTradingBot
