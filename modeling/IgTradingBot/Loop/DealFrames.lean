import IgTradingBot.Loop.Cycle
import IgTradingBot.Loop.DealRows
import Mathlib.Data.List.Forall2

/-!
# Rows of other deals

The persistence of a closed trade finds the rows to close by the record of the deal,
else by the deal identifier, else it takes the newest open trade and the first open
position of the instrument, whichever deal they belong to. Nothing is assumed of the
database: rows may share identifiers and deals.
-/

namespace IgTradingBot

open Sequential Sequential.Program

/-- A row carries the identifier of another deal. -/
def OfOtherDeal (dealId : String) (igDealId : Option String) : Prop :=
  ∃ other, igDealId = some other ∧ other ≠ dealId

instance (dealId : String) (igDealId : Option String) : Decidable (OfOtherDeal dealId igDealId) :=
  match igDealId with
  | some other => decidable_of_iff (other ≠ dealId) (by simp [OfOtherDeal])
  | none => isFalse (by simp [OfOtherDeal])

/-- What the close of a deal reads in a row of either table. -/
structure RowView (α : Type) where
  id : α → String
  igDealId : α → Option String
  instrument : α → String
  isOpen : α → Bool

/-- The view of a trade. -/
def tradeView : RowView TradeRow where
  id := TradeRow.id
  igDealId := TradeRow.igDealId
  instrument := TradeRow.instrument
  isOpen := TradeRow.isOpen

/-- The view of a position. -/
def positionView : RowView PositionRow where
  id := PositionRow.id
  igDealId := PositionRow.igDealId
  instrument := PositionRow.instrument
  isOpen := PositionRow.isOpen

namespace RowView

variable {α : Type} (view : RowView α)

/-- Row by row, no open row of another deal is closed. -/
def Spares (dealId : String) (before after : List α) : Prop :=
  List.Forall₂ (fun old new =>
      OfOtherDeal dealId (view.igDealId old) → view.isOpen old = true → view.isOpen new = true)
    before after

instance (dealId : String) (before after : List α) : Decidable (view.Spares dealId before after) :=
  inferInstanceAs (Decidable (List.Forall₂ _ before after))

/-- Row by row, the rows with the identifier of a row are closed, and no others. -/
def Shuts (taken : Option α) (before after : List α) : Prop :=
  List.Forall₂ (fun old new =>
      view.isOpen new = (view.isOpen old && !decide (taken.map view.id = some (view.id old))))
    before after

/-- No open row of another deal has an identifier. -/
def NotOfOthers (rows : List α) (dealId id : String) : Prop :=
  ∀ row ∈ rows, view.id row = id → view.isOpen row = true → ¬OfOtherDeal dealId (view.igDealId row)

/-- A query for the recorded row, or else for the row of the deal, finds at most one. -/
def Single (rows : List α) (recorded : Option String) (dealId : String) : Prop :=
  match recorded with
  | some id => (rows.filter (view.id · = id)).length ≤ 1
  | none => dealId ≠ "" → (rows.filter (view.igDealId · = some dealId)).length ≤ 1

/-- Newest open row of an instrument. -/
def newestOpen (rows : List α) (epic : String) : Option α :=
  (rows.filter fun row => view.isOpen row && view.instrument row = epic).head?

/-- Row that is closed for a deal: the recorded one, else the row of the deal, else the
newest open row of the instrument. -/
def matching (rows : List α) (recorded : Option String) (dealId epic : String) : Option α :=
  match recorded with
  | some id => rows.find? (view.id · = id)
  | none =>
    (if dealId = "" then none else rows.find? (view.igDealId · = some dealId)).or
      (view.newestOpen rows epic)

/-- A table is in order for the close of a deal: no open row of another deal has the recorded
identifier; without a record, the same of the row of the deal, or, when the table has no row
of the deal, of the newest open row of the instrument. -/
def InOrder (rows : List α) (recorded : Option String) (dealId epic : String) : Prop :=
  match recorded with
  | some id => view.NotOfOthers rows dealId id
  | none =>
    (dealId ≠ "" ∧ ∃ own ∈ rows, view.igDealId own = some dealId ∧
      view.NotOfOthers rows dealId (view.id own)) ∨
    ((dealId = "" ∨ ∀ row ∈ rows, view.igDealId row ≠ some dealId) ∧
      ∀ newest, view.newestOpen rows epic = some newest →
        view.NotOfOthers rows dealId (view.id newest))

variable {view}

/-- The rows that are shut spare the other deals exactly when none of them is an open row of
another deal. -/
theorem Shuts.spares_iff {taken : Option α} {before after : List α}
    (shuts : view.Shuts taken before after) (dealId : String) :
    view.Spares dealId before after ↔
      ∀ row, taken = some row → view.NotOfOthers before dealId (view.id row) := by
  induction shuts with
  | nil => exact iff_of_true .nil fun _ _ _ member => absurd member List.not_mem_nil
  | @cons old new before after stays _ inductionHypothesis =>
    have head : (OfOtherDeal dealId (view.igDealId old) → view.isOpen old = true →
        view.isOpen new = true) ↔
        ∀ row, taken = some row → view.id old = view.id row → view.isOpen old = true →
          ¬OfOtherDeal dealId (view.igDealId old) := by
      rw [stays]
      constructor
      · rintro spared row rfl same isOpen other
        simpa [same] using spared other isOpen
      · intro others other isOpen
        have kept : taken.map view.id ≠ some (view.id old) := by
          intro named
          obtain ⟨row, found, same⟩ := Option.map_eq_some_iff.mp named
          exact others row found same.symm isOpen other
        simp [isOpen, kept]
    rw [Spares, List.forall₂_cons, head, ← Spares, inductionHypothesis]
    constructor
    · rintro ⟨first, rest⟩ row found shut member
      obtain rfl | later := List.mem_cons.mp member
      · exact first row found
      · exact rest row found shut later
    · intro others
      exact ⟨fun row found => others row found old List.mem_cons_self,
        fun row found shut member => others row found shut (List.mem_cons_of_mem _ member)⟩

/-- A row that is found by its identifier has it. -/
theorem found_id {rows : List α} {id : String} {row : α}
    (found : rows.find? (view.id · = id) = some row) : view.id row = id := by
  simpa using List.find?_some found

/-- When a query finds at most one row of a deal, the deal has no two rows. -/
theorem Single.only {rows : List α} {dealId : String} (single : view.Single rows none dealId)
    (named : dealId ≠ "") {row other : α} (member : row ∈ rows) (otherMember : other ∈ rows)
    (ofDeal : view.igDealId row = some dealId) (otherOfDeal : view.igDealId other = some dealId) :
    other = row := by
  have rowListed : row ∈ rows.filter (view.igDealId · = some dealId) :=
    List.mem_filter.mpr ⟨member, decide_eq_true ofDeal⟩
  have otherListed : other ∈ rows.filter (view.igDealId · = some dealId) :=
    List.mem_filter.mpr ⟨otherMember, decide_eq_true otherOfDeal⟩
  have one : (rows.filter (view.igDealId · = some dealId)).length = 1 :=
    le_antisymm (single named) (List.length_pos_of_mem rowListed)
  obtain ⟨only, listed⟩ := List.length_eq_one_iff.mp one
  rw [listed] at rowListed otherListed
  exact (List.mem_singleton.mp otherListed).trans (List.mem_singleton.mp rowListed).symm

/-- A table is in order exactly when the row that is closed shares its identifier with no open
row of another deal. -/
theorem in_order_iff {rows : List α} {recorded : Option String} {dealId : String}
    (single : view.Single rows recorded dealId) (epic : String) :
    view.InOrder rows recorded dealId epic ↔
      ∀ taken, view.matching rows recorded dealId epic = some taken →
        view.NotOfOthers rows dealId (view.id taken) := by
  cases recorded with
  | some id =>
    constructor
    · intro inOrder taken found
      rw [found_id found]
      exact inOrder
    · intro others row member named
      have present : (rows.find? (view.id · = id)).isSome :=
        List.find?_isSome.mpr ⟨row, member, decide_eq_true named⟩
      obtain ⟨taken, found⟩ := Option.isSome_iff_exists.mp present
      exact others taken found row member (named.trans (found_id found).symm)
  | none =>
    by_cases unnamed : dealId = ""
    · simp [InOrder, matching, unnamed]
    · simp only [InOrder, matching, unnamed, if_false, ne_eq, not_false_eq_true, true_and, false_or]
      cases own : rows.find? (view.igDealId · = some dealId) with
      | none =>
        have absent : ∀ row ∈ rows, view.igDealId row ≠ some dealId := by
          simpa using own
        rw [Option.none_or]
        constructor
        · rintro (⟨row, member, ofDeal, _⟩ | ⟨_, others⟩)
          · exact absurd ofDeal (absent row member)
          · exact others
        · exact fun others => Or.inr ⟨absent, others⟩
      | some row =>
        have member := List.mem_of_find?_eq_some own
        have ofDeal : view.igDealId row = some dealId := by
          simpa using List.find?_some own
        rw [Option.some_or]
        constructor
        · rintro (⟨other, otherMember, otherOfDeal, others⟩ | ⟨absent, _⟩) taken ⟨⟩
          · rw [← single.only unnamed member otherMember ofDeal otherOfDeal]
            exact others
          · exact absurd ofDeal (absent row member)
        · exact fun others => Or.inl ⟨row, member, ofDeal, others row rfl⟩

end RowView

/-- Row by row, no open trade or position of another deal is closed. -/
def SparesOtherDeals (dealId : String) (before after : Database) : Prop :=
  tradeView.Spares dealId before.trades after.trades ∧
    positionView.Spares dealId before.positions after.positions

instance (dealId : String) (before after : Database) :
    Decidable (SparesOtherDeals dealId before after) :=
  inferInstanceAs (Decidable (_ ∧ _))

namespace TradingLoop

open Database

/-- Every query for one row finds at most one. -/
def Unambiguous (database : Database) (record : Option DealRecord) (dealId : String) : Prop :=
  tradeView.Single database.trades (record.map (·.tradeId)) dealId ∧
    positionView.Single database.positions (record.map (·.positionId)) dealId

/-- Trade that is closed for a deal. -/
def matchingTrade (database : Database) (record : Option DealRecord) (dealId epic : String) :
    Option TradeRow :=
  tradeView.matching database.trades (record.map (·.tradeId)) dealId epic

/-- Position that is closed for a deal. -/
def matchingPosition (database : Database) (record : Option DealRecord) (dealId epic : String) :
    Option PositionRow :=
  positionView.matching database.positions (record.map (·.positionId)) dealId epic

/-- A query for one row answers with the first one, unless there are several. -/
theorem scalar_one_or_none_filter {α : Type} (rows : List α) (picks : α → Bool) :
    scalarOneOrNone (rows.filter picks) =
      if (rows.filter picks).length ≤ 1 then .ok (rows.find? picks) else .error .database := by
  rw [← List.head?_filter]
  rcases rows.filter picks with _ | ⟨first, _ | ⟨second, rest⟩⟩ <;> simp [scalarOneOrNone]

/-- A query for one row, which leaves the database as it is. -/
theorem single_query {α : Type} (rows : Database → List α) (picks : α → Bool)
    (database : Database) :
    (do let found ← read fun state => (rows state).filter picks
        ofExcept (scalarOneOrNone found) : Query (Option α)) database =
      (if ((rows database).filter picks).length ≤ 1 then .ok ((rows database).find? picks)
        else .error .database, database) :=
  congrArg (·, database) (scalar_one_or_none_filter (rows database) picks)

/-- Two queries for one row each, and what follows when neither is ambiguous. -/
theorem two_queries {α β γ : Type} {first : Query (Option α)} {second : Query (Option β)}
    (next : Option α → Option β → Query γ) {database : Database} {one two : Prop}
    [Decidable one] [Decidable two] {trade : Option α} {position : Option β} {rows : γ}
    (firstRan : first database = (if one then .ok trade else .error .database, database))
    (secondRan : second database = (if two then .ok position else .error .database, database))
    (ended : next trade position database = (.ok rows, database)) :
    ((one ∧ two) ∧
      (do let trade ← first
          let position ← second
          next trade position : Query γ) database = (.ok rows, database)) ∨
      (¬(one ∧ two) ∧
        (do let trade ← first
            let position ← second
            next trade position : Query γ) database = (.error .database, database)) := by
  by_cases single : one
  · rw [if_pos single] at firstRan
    by_cases alsoSingle : two
    · rw [if_pos alsoSingle] at secondRan
      exact Or.inl ⟨⟨single, alsoSingle⟩,
        (bind_ok firstRan).trans ((bind_ok secondRan).trans ended)⟩
    · rw [if_neg alsoSingle] at secondRan
      exact Or.inr ⟨fun both => alsoSingle both.2,
        (bind_ok firstRan).trans (bind_error secondRan)⟩
  · rw [if_neg single] at firstRan
    exact Or.inr ⟨fun both => single both.1, bind_error firstRan⟩

/-- The newest open position is found among the open ones. -/
theorem newest_open_position (positions : List PositionRow) (epic : String) :
    positionView.newestOpen positions epic =
      (positions.filter (·.isOpen)).find? (·.instrument = epic) := by
  rw [RowView.newestOpen, List.head?_filter, List.find?_filter]
  simp only [Bool.decide_and, Bool.decide_eq_true]
  rfl

/-- The rows to close are the matching ones, or a query finds several. -/
theorem closed_rows_run (database : Database) (record : Option DealRecord)
    (dealId epic : String) :
    (Unambiguous database record dealId ∧ closedRows record dealId epic database =
        (.ok (matchingTrade database record dealId epic,
          matchingPosition database record dealId epic), database)) ∨
      (¬Unambiguous database record dealId ∧
        closedRows record dealId epic database = (.error .database, database)) := by
  cases record with
  | some ids =>
    have queried := two_queries (fun trade position => pure (trade, position))
      (single_query Database.trades (·.id = ids.tradeId) database)
      (single_query Database.positions (·.id = ids.positionId) database) rfl
    exact queried
  | none =>
    simp only [matchingPosition, RowView.matching, newest_open_position, Option.map_none]
    by_cases unnamed : dealId = ""
    · subst unnamed
      exact Or.inl ⟨⟨fun named => absurd rfl named, fun named => absurd rfl named⟩, rfl⟩
    · have asked : Unambiguous database none dealId ↔
          (database.trades.filter (·.igDealId = some dealId)).length ≤ 1 ∧
            (database.positions.filter (·.igDealId = some dealId)).length ≤ 1 :=
        and_congr (imp_iff_right unnamed) (imp_iff_right unnamed)
      simp only [asked, closedRows, matchingTrade, RowView.matching, unnamed, if_false,
        Option.map_none]
      exact two_queries _ (single_query Database.trades (·.igDealId = some dealId) database)
        (single_query Database.positions (·.igDealId = some dealId) database) rfl

/-- The matching rows are shut in both tables. -/
structure ShutsMatching (record : Option DealRecord) (dealId epic : String)
    (before after : Database) : Prop where
  trades : tradeView.Shuts (matchingTrade before record dealId epic) before.trades after.trades
  positions :
    positionView.Shuts (matchingPosition before record dealId epic) before.positions after.positions

/-- A table stays as it is when no row is taken. -/
theorem shuts_none {α : Type} (view : RowView α) (rows : List α) : view.Shuts none rows rows :=
  List.forall₂_same.mpr fun _ _ => by simp

/-- The close of a trade shuts the rows with its identifier. -/
theorem close_trade_shuts (trade : TradeRow) (exitPrice pnl closedAt : ℚ) (database : Database) :
    tradeView.Shuts (some trade) database.trades
      (final (Database.closeTrade trade.id exitPrice pnl closedAt) database).trades := by
  refine List.forall₂_map_right_iff.mpr (List.forall₂_same.mpr ?_)
  intro row _
  by_cases same : row.id = trade.id
  · simp [tradeView, same]
  · simp [tradeView, same, Ne.symm same]

/-- The close of a position shuts the rows with its identifier and leaves the trades. -/
theorem close_position_run (position : Option PositionRow) (trade : Option TradeRow)
    (database : Database) :
    ∃ after,
      (match position with
        | some shutting => do
            Database.closePosition shutting.id
            pure trade
        | none => pure trade : Query (Option TradeRow)) database = (.ok trade, after) ∧
      after.trades = database.trades ∧
      positionView.Shuts position database.positions after.positions := by
  cases position with
  | none => exact ⟨database, rfl, rfl, shuts_none _ _⟩
  | some shutting =>
    refine ⟨final (Database.closePosition shutting.id) database, rfl, rfl, ?_⟩
    refine List.forall₂_map_right_iff.mpr (List.forall₂_same.mpr ?_)
    intro row _
    by_cases same : row.id = shutting.id
    · simp [positionView, same]
    · simp [positionView, same, Ne.symm same]

/-- Without an ambiguous query the close of a deal returns and shuts the matching rows. -/
theorem close_rows_run {database : Database} {record : Option DealRecord} {dealId : String}
    (unambiguous : Unambiguous database record dealId) (epic : String)
    (exitPrice pnl closedAt : ℚ) :
    ∃ trade after, closeRows record dealId epic exitPrice pnl closedAt database =
      (.ok trade, after) ∧ ShutsMatching record dealId epic database after := by
  obtain ⟨_, found⟩ | ⟨ambiguous, _⟩ := closed_rows_run database record dealId epic
  · cases trade : matchingTrade database record dealId epic with
    | none =>
      obtain ⟨after, closed, sameTrades, positions⟩ :=
        close_position_run (matchingPosition database record dealId epic) none database
      rw [trade] at found
      refine ⟨none, after, (bind_ok found).trans closed, ?_, positions⟩
      rw [trade, sameTrades]
      exact shuts_none _ _
    | some closing =>
      let price := if exitPrice = 0 then closing.entryPrice else exitPrice
      obtain ⟨after, closed, sameTrades, positions⟩ :=
        close_position_run (matchingPosition database record dealId epic) (some closing)
          (final (Database.closeTrade closing.id price pnl closedAt) database)
      rw [trade] at found
      refine ⟨some closing, after, (bind_ok found).trans closed, ?_, positions⟩
      rw [trade, sameTrades]
      exact close_trade_shuts closing price pnl closedAt database
  · exact absurd unambiguous ambiguous

/-- An ambiguous query ends the close of a deal. -/
theorem close_rows_ambiguous {database : Database} {record : Option DealRecord}
    {dealId epic : String} (ambiguous : ¬Unambiguous database record dealId)
    (exitPrice pnl closedAt : ℚ) :
    closeRows record dealId epic exitPrice pnl closedAt database =
      (.error .database, database) := by
  obtain ⟨unambiguous, _⟩ | ⟨_, failed⟩ := closed_rows_run database record dealId epic
  · exact absurd unambiguous ambiguous
  · exact bind_error failed

/-- The persistence of a close gets to the rows, and what it does to them is kept: the profit
and the level can be read, no query finds several rows, and the session keeps its changes. -/
structure ReachesRows (script : PersistCloseScript) (dealId : String)
    (profit level closeLevel : Option Numeral) (desk : Desk) : Prop where
  earned : (Numeral.parseOrZero profit).isOk = true
  paid : (Numeral.parseOrZero (Numeral.orElse level closeLevel)).isOk = true
  unambiguous : Unambiguous desk.database (desk.dealRecords.lookup dealId) dealId
  kept : script.session.ending.keepsChanges = true

/-- A property of the database alone, beside the records of deals, is ambient. -/
theorem database_ambient (holds : Database → Prop) :
    Ambient fun world => holds world.desk.database where
  clock _ _ _ kept := kept
  engine _ _ _ kept := kept
  aside _ _ same kept := same.database ▸ kept
  closed _ kept := kept

theorem database_records_ambient (database : Database) (dealId : String)
    (record : Option DealRecord) :
    Ambient fun world =>
      world.desk.database = database ∧ world.desk.dealRecords.lookup dealId = record where
  clock _ _ _ kept := kept
  engine _ _ _ kept := kept
  aside _ _ same kept := ⟨same.database.trans kept.1, same.dealRecords ▸ kept.2⟩
  closed _ kept := kept

/-- The matching rows are shut when the rows are reached, and otherwise nothing changes. -/
structure ShutsReached (reaches : Prop) (record : Option DealRecord) (dealId epic : String)
    (before after : Database) : Prop where
  shut : reaches → ShutsMatching record dealId epic before after
  same : ¬reaches → after = before

/-- A session that closes the rows of a deal reaches them when no query finds several rows and
the session keeps its changes. -/
theorem session_shuts_reached (script : DatabaseSession) (before : Database)
    (record : Option DealRecord) (dealId epic : String) (exitPrice pnl : ℚ) :
    let reaches := Unambiguous before record dealId ∧ script.ending.keepsChanges = true
    Ensures
      (fun world =>
        world.desk.database = before ∧ world.desk.dealRecords.lookup dealId = record)
      (inSession script (closeRows record dealId epic exitPrice pnl))
      (fun _ world => ShutsReached reaches record dealId epic before world.desk.database)
      (fun _ world => ShutsReached reaches record dealId epic before world.desk.database) := by
  intro reaches
  apply (database_records_ambient before dealId record).ensures_session_end
  · rintro world now answer database ⟨same, _⟩ returned keeps
    rw [same] at returned
    have unambiguous : Unambiguous before record dealId := by
      by_contra ambiguous
      rw [close_rows_ambiguous ambiguous] at returned
      cases returned
    obtain ⟨trade, closed, ended, shuts⟩ := close_rows_run unambiguous epic exitPrice pnl now
    obtain ⟨_, rfl⟩ := Prod.mk.inj (ended.symm.trans returned)
    exact ⟨fun _ => shuts, fun unreached => absurd ⟨unambiguous, keeps⟩ unreached⟩
  · rintro world ⟨same, _⟩ stopped
    refine ⟨fun reached => ?_, fun _ => same⟩
    rcases stopped with dropped | ⟨now, failure, database, raised⟩
    · cases reached.2.symm.trans dropped
    · obtain ⟨trade, closed, ended, _⟩ := close_rows_run reached.1 epic exitPrice pnl now
      rw [same] at raised
      cases ended.symm.trans raised

/-- A profit or a level that cannot be read ends the persistence before its session. -/
theorem persist_unread (config : LoopConfig) (script : PersistCloseScript) (dealId epic : String)
    {profit level closeLevel : Option Numeral} (world : World)
    (unread : (Numeral.parseOrZero profit).isOk = false ∨
      (Numeral.parseOrZero (Numeral.orElse level closeLevel)).isOk = false) :
    final (persistClosedTrade config script dealId epic profit level closeLevel) world = world := by
  rw [final, persistClosedTrade, rescue_run, bind_ok (read_run _ world)]
  cases earned : Numeral.parseOrZero profit with
  | error failure => rfl
  | ok pnl =>
    cases paid : Numeral.parseOrZero (Numeral.orElse level closeLevel) with
    | error failure => rfl
    | ok exitPrice =>
      rw [earned, paid] at unread
      cases unread with
      | inl missing => cases missing
      | inr missing => cases missing

/-- The persistence of a close shuts the matching rows when it reaches them, and otherwise
leaves the database as it is. -/
theorem persist_shuts_reached (config : LoopConfig) (script : PersistCloseScript)
    (dealId epic : String) (profit level closeLevel : Option Numeral) (world : World) :
    ShutsReached (ReachesRows script dealId profit level closeLevel world.desk)
      (world.desk.dealRecords.lookup dealId) dealId epic world.desk.database
      (final (persistClosedTrade config script dealId epic profit level closeLevel)
        world).desk.database := by
  let record := world.desk.dealRecords.lookup dealId
  let reaches := Unambiguous world.desk.database record dealId ∧
    script.session.ending.keepsChanges = true
  by_cases unread : (Numeral.parseOrZero profit).isOk = false ∨
      (Numeral.parseOrZero (Numeral.orElse level closeLevel)).isOk = false
  · rw [persist_unread config script dealId epic world unread]
    refine ⟨fun reached => ?_, fun _ => rfl⟩
    cases unread with
    | inl missing => cases reached.earned.symm.trans missing
    | inr missing => cases reached.paid.symm.trans missing
  · have session : ∀ found exitPrice pnl, Ensures
        (fun state : World => (state.desk.database = world.desk.database ∧
          state.desk.dealRecords.lookup dealId = record) ∧
            state.desk.dealRecords.lookup dealId = found)
        (inSession script.session (closeRows found dealId epic exitPrice pnl))
        (fun _ state =>
          ShutsReached reaches record dealId epic world.desk.database state.desk.database)
        (fun _ state =>
          ShutsReached reaches record dealId epic world.desk.database state.desk.database) := by
      intro found exitPrice pnl
      apply ensures_of_known (found = record) fun state entry => entry.2.symm.trans entry.1.2
      rintro rfl
      exact (session_shuts_reached _ _ _ _ _ _ _).enter fun _ entry => entry.1
    have ended := ((database_ambient _).ensures_persistClosedTrade config script dealId epic
      profit level closeLevel (fun missing => absurd missing unread) session
      fun _ holds => holds).final ⟨rfl, rfl⟩
    have read := not_or.mp unread
    simp only [Bool.not_eq_false] at read
    refine ⟨fun reached => ended.shut ⟨reached.unambiguous, reached.kept⟩, fun unreached => ?_⟩
    exact ended.same fun reached => unreached ⟨read.1, read.2, reached.1, reached.2⟩

/-- The close of one deal closes no open row of another deal exactly when it reaches no rows, or
both tables are in order for it. -/
theorem persist_spares_other_deals_iff (config : LoopConfig) (script : PersistCloseScript)
    (dealId epic : String) (profit level closeLevel : Option Numeral) (world : World) :
    let record := world.desk.dealRecords.lookup dealId
    let database := world.desk.database
    SparesOtherDeals dealId database
        (final (persistClosedTrade config script dealId epic profit level closeLevel)
          world).desk.database ↔
      (ReachesRows script dealId profit level closeLevel world.desk →
        tradeView.InOrder database.trades (record.map (·.tradeId)) dealId epic ∧
          positionView.InOrder database.positions (record.map (·.positionId)) dealId epic) := by
  intro record database
  have run := persist_shuts_reached config script dealId epic profit level closeLevel world
  by_cases reaches : ReachesRows script dealId profit level closeLevel world.desk
  · have shut := run.shut reaches
    have trades := (shut.trades.spares_iff dealId).trans
      (RowView.in_order_iff reaches.unambiguous.1 epic).symm
    have positions := (shut.positions.spares_iff dealId).trans
      (RowView.in_order_iff reaches.unambiguous.2 epic).symm
    exact (and_congr trades positions).trans (imp_iff_right reaches).symm
  · rw [run.same reaches]
    refine iff_of_true ⟨?_, ?_⟩ fun reached => absurd reached reaches
    · exact List.forall₂_same.mpr fun _ _ _ => id
    · exact List.forall₂_same.mpr fun _ _ _ => id

/-- The only rows are those of an open deal. -/
def otherDealWorld : World :=
  { demoWorld with
    desk :=
      { database :=
          { trades :=
              [⟨"T2", "CS.D.EURUSD.CFD.IP", "BUY", 1, 11 / 10, some "DEAL-2", none,
                "london_breakout", 0, 80, true, none, none, none⟩]
            positions :=
              [⟨"P2", "T2", "CS.D.EURUSD.CFD.IP", "BUY", 1, 11 / 10, some "DEAL-2", none, none,
                true⟩] } } }

/-- The close of a deal without rows closes the rows of the other deal in its instrument. -/
theorem unknown_deal_closes_other :
    let persisted := persistClosedTrade demoConfig {} "DEAL-1" "CS.D.EURUSD.CFD.IP"
      (some (.number 25)) none none
    (final persisted otherDealWorld).desk.database.trades.map (·.isOpen) = [false] ∧
      (final persisted otherDealWorld).desk.database.positions.map (·.isOpen) = [false] ∧
      ¬SparesOtherDeals "DEAL-1" otherDealWorld.desk.database
        (final persisted otherDealWorld).desk.database := by
  decide +kernel

end TradingLoop

end IgTradingBot
