import IgTradingBot.Library.PeriodTotals
import IgTradingBot.Loop.Cycle
import IgTradingBot.Loop.DealRows

/-!
# The account of reconciled deals

A deal that the broker has closed is booked when an open row of it is found and its
transaction is known. What that depends on is the database, the records of deals, which
rows were inserted and which deals were booked so far. The account says what these have to
do with each other, and each way in which they change keeps it.
-/

namespace IgTradingBot

open Sequential Sequential.Program KeyedRows PeriodTotals

/-- Keys of the rows that an event announces. -/
def LoopEvent.rowKeys : LoopEvent → Option RowKeys
  | .openingPersisted keys => some keys
  | _ => none

/-- Deal that an event books from the transaction history. -/
def LoopEvent.reconciledDeal : LoopEvent → Option String
  | .closeReconciled dealId _ _ _ _ => some dealId
  | _ => none

/-- Rows that were announced in a history, the latest first. -/
def insertedKeys (history : List LoopEvent) : List RowKeys := history.filterMap (·.rowKeys)

/-- Deals that were booked from the transaction history, the latest first. -/
def reconciledDeals (history : List LoopEvent) : List String := history.filterMap (·.reconciledDeal)

/-- Identifiers that rows have had, initially or since. -/
def takenTrades (initial : Database) (inserted : List RowKeys) : List String :=
  inserted.map (·.tradeId) ++ initial.trades.map (·.id)

def takenPositions (initial : Database) (inserted : List RowKeys) : List String :=
  inserted.map (·.positionId) ++ initial.positions.map (·.id)

def takenDeals (initial : Database) (inserted : List RowKeys) : List String :=
  inserted.map (·.dealId) ++
    (initial.trades.filterMap (·.igDealId) ++ initial.positions.filterMap (·.igDealId))

/-- No row has had these keys yet. -/
def RowKeys.New (initial : Database) (inserted : List RowKeys) (keys : RowKeys) : Prop :=
  keys.tradeId ∉ takenTrades initial inserted ∧
    keys.positionId ∉ takenPositions initial inserted ∧ keys.dealId ∉ takenDeals initial inserted

instance (initial : Database) (inserted : List RowKeys) (keys : RowKeys) :
    Decidable (keys.New initial inserted) := inferInstanceAs (Decidable (_ ∧ _ ∧ _))

/-- An event is regular when a booked deal is persisted, and a row gets new keys. -/
def LoopEvent.KeepsDealsApart (initial : Database) (event : LoopEvent)
    (earlier : List LoopEvent) : Prop :=
  match event with
  | .closeReconciled _ _ persisted _ _ => persisted = true
  | .openingPersisted keys => keys.New initial (insertedKeys earlier)
  | _ => True

instance (initial : Database) (event : LoopEvent) (earlier : List LoopEvent) :
    Decidable (event.KeepsDealsApart initial earlier) :=
  match event with
  | .closeReconciled _ _ _ _ _ => inferInstanceAs (Decidable (_ = _))
  | .openingPersisted _ => inferInstanceAs (Decidable (RowKeys.New _ _ _))
  | .realizedRead _ _ | .orderSubmitted _ _ | .positionOpened _ _ _ _ | .positionClosed
  | .closeAnswered _ _ _ _ _ _ | .managementStarted _ | .partialCloseRequested _ _ _ =>
    inferInstanceAs (Decidable True)

/-- What the booking of deals depends on. -/
structure DealState where
  database : Database
  dealRecords : AList (fun _ : String => DealRecord)
  inserted : List RowKeys
  reconciled : List String

/-- The account of the deals: keys are unique and were announced, a record of a deal names its
row, and a booked deal has no open row and was booked once. -/
structure DealAccount (initial : Database) (state : DealState) : Prop where
  keyed : state.database.Keyed
  tradesTaken : ∀ row ∈ state.database.trades, row.id ∈ takenTrades initial state.inserted ∧
    ∀ dealId, row.igDealId = some dealId → dealId ∈ takenDeals initial state.inserted
  positionsTaken : ∀ row ∈ state.database.positions,
    row.id ∈ takenPositions initial state.inserted ∧
      ∀ dealId, row.igDealId = some dealId → dealId ∈ takenDeals initial state.inserted
  recordsTaken : ∀ dealId ids, state.dealRecords.lookup dealId = some ids →
    dealId ∈ takenDeals initial state.inserted
  recorded : ∀ dealId ids, state.dealRecords.lookup dealId = some ids →
    ∀ row ∈ state.database.positions, row.igDealId = some dealId → row.id = ids.positionId
  settled : ∀ dealId ∈ state.reconciled,
    dealId ∈ takenDeals initial state.inserted ∧ state.database.Shut dealId
  once : state.reconciled.Nodup

section Account

variable {initial : Database} {state : DealState}

/-- Closes keep the account. -/
theorem DealAccount.closes (account : DealAccount initial state) {after : Database}
    (closes : state.database.Closes after) :
    DealAccount initial { state with database := after } where
  keyed := closes.keyed account.keyed
  tradesTaken row member := by
    obtain ⟨old, oldMember, sameId, sameDeal⟩ := closes.trade_origin member
    obtain ⟨idTaken, dealTaken⟩ := account.tradesTaken old oldMember
    exact ⟨sameId ▸ idTaken, fun dealId ofDeal => dealTaken dealId (sameDeal ▸ ofDeal)⟩
  positionsTaken row member := by
    obtain ⟨old, oldMember, sameId, sameDeal, _⟩ := closes.position_origin member
    obtain ⟨idTaken, dealTaken⟩ := account.positionsTaken old oldMember
    exact ⟨sameId ▸ idTaken, fun dealId ofDeal => dealTaken dealId (sameDeal ▸ ofDeal)⟩
  recordsTaken := account.recordsTaken
  recorded dealId ids found row member ofDeal := by
    obtain ⟨old, oldMember, sameId, sameDeal, _⟩ := closes.position_origin member
    rw [sameId]
    exact account.recorded dealId ids found old oldMember (sameDeal ▸ ofDeal)
  settled dealId booked := by
    obtain ⟨taken, shut⟩ := account.settled dealId booked
    exact ⟨taken, closes.shut shut⟩
  once := account.once

/-- A record that is found after one was erased was there before. -/
theorem lookup_of_erase {records : AList (fun _ : String => DealRecord)} {erased dealId : String}
    {ids : DealRecord} (found : (records.erase erased).lookup dealId = some ids) :
    records.lookup dealId = some ids := by
  by_cases same : dealId = erased
  · subst same
    rw [AList.lookup_erase] at found
    cases found
  · rwa [AList.lookup_erase_ne same] at found

/-- A record may be erased. -/
theorem DealAccount.released (account : DealAccount initial state) (dealId : String) :
    DealAccount initial { state with dealRecords := state.dealRecords.erase dealId } :=
  { account with
    recordsTaken := fun other ids found => account.recordsTaken other ids (lookup_of_erase found)
    recorded := fun other ids found => account.recorded other ids (lookup_of_erase found) }

/-- A deal without an open row that was not booked yet is booked. -/
theorem DealAccount.booked (account : DealAccount initial state) {dealId : String}
    (taken : dealId ∈ takenDeals initial state.inserted) (shut : state.database.Shut dealId)
    (unbooked : dealId ∉ state.reconciled) :
    DealAccount initial { state with reconciled := dealId :: state.reconciled } :=
  { account with
    settled := by
      intro other member
      obtain rfl | earlier := List.mem_cons.mp member
      · exact ⟨taken, shut⟩
      · exact account.settled other earlier
    once := List.nodup_cons.mpr ⟨unbooked, account.once⟩ }

/-- The account while the rows of an opening are announced and not inserted yet. -/
structure Inserting (initial : Database) (keys : RowKeys) (state : DealState) : Prop
    extends DealAccount initial state where
  announced : keys ∈ state.inserted
  newTrade : ∀ row ∈ state.database.trades,
    row.id ≠ keys.tradeId ∧ row.igDealId ≠ some keys.dealId
  newPosition : ∀ row ∈ state.database.positions,
    row.id ≠ keys.positionId ∧ row.igDealId ≠ some keys.dealId
  unrecorded : state.dealRecords.lookup keys.dealId = none
  unbooked : keys.dealId ∉ state.reconciled

/-- New keys may be announced. -/
theorem DealAccount.announce (account : DealAccount initial state) {keys : RowKeys}
    (new : keys.New initial state.inserted) :
    Inserting initial keys { state with inserted := keys :: state.inserted } where
  keyed := account.keyed
  tradesTaken row member := by
    obtain ⟨idTaken, dealTaken⟩ := account.tradesTaken row member
    exact ⟨List.mem_cons_of_mem _ idTaken,
      fun dealId ofDeal => List.mem_cons_of_mem _ (dealTaken dealId ofDeal)⟩
  positionsTaken row member := by
    obtain ⟨idTaken, dealTaken⟩ := account.positionsTaken row member
    exact ⟨List.mem_cons_of_mem _ idTaken,
      fun dealId ofDeal => List.mem_cons_of_mem _ (dealTaken dealId ofDeal)⟩
  recordsTaken dealId ids found := List.mem_cons_of_mem _ (account.recordsTaken dealId ids found)
  recorded := account.recorded
  settled dealId booked := by
    obtain ⟨taken, shut⟩ := account.settled dealId booked
    exact ⟨List.mem_cons_of_mem _ taken, shut⟩
  once := account.once
  announced := List.mem_cons_self
  newTrade row member := by
    obtain ⟨idTaken, dealTaken⟩ := account.tradesTaken row member
    refine ⟨?_, fun ofDeal => new.2.2 (dealTaken _ ofDeal)⟩
    intro same
    exact new.1 (same ▸ idTaken)
  newPosition row member := by
    obtain ⟨idTaken, dealTaken⟩ := account.positionsTaken row member
    refine ⟨?_, fun ofDeal => new.2.2 (dealTaken _ ofDeal)⟩
    intro same
    exact new.2.1 (same ▸ idTaken)
  unrecorded := by
    cases found : state.dealRecords.lookup keys.dealId with
    | none => rfl
    | some ids => exact absurd (account.recordsTaken _ ids found) new.2.2
  unbooked booked := new.2.2 (account.settled _ booked).1

/-- The announced rows have keys of their own. -/
theorem Inserting.inserted_keyed (inserting : Inserting initial keys state) {trade : TradeRow}
    {position : PositionRow} (tradeId : trade.id = keys.tradeId)
    (tradeDeal : trade.igDealId = some keys.dealId) (positionId : position.id = keys.positionId)
    (positionDeal : position.igDealId = some keys.dealId) :
    Database.Keyed
      { trades := trade :: state.database.trades
        positions := position :: state.database.positions } := by
  refine ⟨?_, ?_, ?_, ?_⟩
  · apply inserting.keyed.trades.cons
    rintro value named other member otherNamed
    obtain rfl := Option.some.inj named
    exact (inserting.newTrade other member).1 ((Option.some.inj otherNamed).trans tradeId)
  · apply inserting.keyed.tradeDeals.cons
    intro value named other member otherNamed
    rw [tradeDeal] at named
    exact (inserting.newTrade other member).2 (otherNamed.trans named.symm)
  · apply inserting.keyed.positions.cons
    rintro value named other member otherNamed
    obtain rfl := Option.some.inj named
    exact (inserting.newPosition other member).1 ((Option.some.inj otherNamed).trans positionId)
  · apply inserting.keyed.positionDeals.cons
    intro value named other member otherNamed
    rw [positionDeal] at named
    exact (inserting.newPosition other member).2 (otherNamed.trans named.symm)

/-- The announced rows are inserted; only their position is a row of the deal. -/
theorem Inserting.inserted (inserting : Inserting initial keys state) {trade : TradeRow}
    {position : PositionRow} (tradeId : trade.id = keys.tradeId)
    (tradeDeal : trade.igDealId = some keys.dealId) (positionId : position.id = keys.positionId)
    (positionDeal : position.igDealId = some keys.dealId) :
    DealAccount initial
      { state with
        database :=
          { trades := trade :: state.database.trades
            positions := position :: state.database.positions } } ∧
      ∀ row ∈ position :: state.database.positions, row.igDealId = some keys.dealId →
        row.id = keys.positionId := by
  have tradeTaken : keys.tradeId ∈ takenTrades initial state.inserted :=
    List.mem_append_left _ (List.mem_map_of_mem inserting.announced)
  have positionTaken : keys.positionId ∈ takenPositions initial state.inserted :=
    List.mem_append_left _ (List.mem_map_of_mem inserting.announced)
  have dealTaken : keys.dealId ∈ takenDeals initial state.inserted :=
    List.mem_append_left _ (List.mem_map_of_mem inserting.announced)
  refine ⟨⟨inserting.inserted_keyed tradeId tradeDeal positionId positionDeal, ?_, ?_,
    inserting.recordsTaken, ?_, ?_, inserting.once⟩, ?_⟩
  · intro row member
    obtain rfl | earlier := List.mem_cons.mp member
    · refine ⟨tradeId ▸ tradeTaken, fun dealId ofDeal => ?_⟩
      obtain rfl := Option.some.inj (tradeDeal.symm.trans ofDeal)
      exact dealTaken
    · exact inserting.tradesTaken row earlier
  · intro row member
    obtain rfl | earlier := List.mem_cons.mp member
    · refine ⟨positionId ▸ positionTaken, fun dealId ofDeal => ?_⟩
      obtain rfl := Option.some.inj (positionDeal.symm.trans ofDeal)
      exact dealTaken
    · exact inserting.positionsTaken row earlier
  · intro dealId ids found row member ofDeal
    obtain rfl | earlier := List.mem_cons.mp member
    · obtain rfl := Option.some.inj (positionDeal.symm.trans ofDeal)
      rw [inserting.unrecorded] at found
      cases found
    · exact inserting.recorded dealId ids found row earlier ofDeal
  · intro dealId booked
    obtain ⟨taken, shut⟩ := inserting.settled dealId booked
    refine ⟨taken, ?_⟩
    intro row member ofDeal
    obtain rfl | earlier := List.mem_cons.mp member
    · obtain rfl := Option.some.inj (positionDeal.symm.trans ofDeal)
      exact absurd booked inserting.unbooked
    · exact shut row earlier ofDeal
  · intro row member ofDeal
    obtain rfl | earlier := List.mem_cons.mp member
    · exact positionId
    · exact absurd ofDeal (inserting.newPosition row earlier).2

/-- A record of a deal may be kept when it names the rows of the deal. -/
theorem DealAccount.keepRecord (account : DealAccount initial state) {dealId : String}
    {ids : DealRecord} (taken : dealId ∈ takenDeals initial state.inserted)
    (named : ∀ row ∈ state.database.positions, row.igDealId = some dealId →
      row.id = ids.positionId) :
    DealAccount initial { state with dealRecords := state.dealRecords.insert dealId ids } :=
  { account with
    recordsTaken := by
      intro other found lookup
      by_cases same : other = dealId
      · exact same ▸ taken
      · rw [AList.lookup_insert_ne same] at lookup
        exact account.recordsTaken other found lookup
    recorded := by
      intro other found lookup
      by_cases same : other = dealId
      · subst same
        rw [AList.lookup_insert] at lookup
        obtain rfl := Option.some.inj lookup
        exact named
      · rw [AList.lookup_insert_ne same] at lookup
        exact account.recorded other found lookup }

end Account

end IgTradingBot
