import IgTradingBot.Library.KeyedRows
import IgTradingBot.Loop.Closing

/-!
# Rows of a deal

Rows have primary keys, and a broker deal has at most one row in each table. Then a query by
a key never raises, and the close of a deal leaves no open row of it; whatever rows a close
finds, it opens none and changes no key.
-/

namespace IgTradingBot

open Sequential Sequential.Program KeyedRows

namespace Database

/-- Primary keys and deals are unique in both tables. -/
structure Keyed (database : Database) : Prop where
  trades : UniqueOn (fun row => some row.id) database.trades
  tradeDeals : UniqueOn (·.igDealId) database.trades
  positions : UniqueOn (fun row => some row.id) database.positions
  positionDeals : UniqueOn (·.igDealId) database.positions

/-- No open row of a deal is left. -/
def Shut (dealId : String) (database : Database) : Prop :=
  ∀ row ∈ database.positions, row.igDealId = some dealId → row.isOpen = false

/-- The rows of a database after some closes: the keys are the same, and no row is opened. -/
structure Closes (before after : Database) : Prop where
  trades : ∃ edit : TradeRow → TradeRow, after.trades = before.trades.map edit ∧
    ∀ row, (edit row).id = row.id ∧ (edit row).igDealId = row.igDealId
  positions : ∃ edit : PositionRow → PositionRow, after.positions = before.positions.map edit ∧
    ∀ row, (edit row).id = row.id ∧ (edit row).igDealId = row.igDealId ∧
      (row.isOpen = false → (edit row).isOpen = false)

section Closes

variable {before after : Database}

theorem Closes.refl (database : Database) : Closes database database :=
  ⟨⟨id, (List.map_id _).symm, fun _ => ⟨rfl, rfl⟩⟩,
    ⟨id, (List.map_id _).symm, fun _ => ⟨rfl, rfl, id⟩⟩⟩

/-- Every row after some closes was there before, with the same keys. -/
theorem Closes.trade_origin (closes : Closes before after) {row : TradeRow}
    (member : row ∈ after.trades) :
    ∃ old ∈ before.trades, row.id = old.id ∧ row.igDealId = old.igDealId := by
  obtain ⟨edit, mapped, keeps⟩ := closes.trades
  rw [mapped] at member
  obtain ⟨old, oldMember, rfl⟩ := List.mem_map.mp member
  exact ⟨old, oldMember, keeps old⟩

theorem Closes.position_origin (closes : Closes before after) {row : PositionRow}
    (member : row ∈ after.positions) :
    ∃ old ∈ before.positions, row.id = old.id ∧ row.igDealId = old.igDealId ∧
      (old.isOpen = false → row.isOpen = false) := by
  obtain ⟨edit, mapped, keeps⟩ := closes.positions
  rw [mapped] at member
  obtain ⟨old, oldMember, rfl⟩ := List.mem_map.mp member
  exact ⟨old, oldMember, keeps old⟩

/-- Closes keep the keys unique. -/
theorem Closes.keyed (closes : Closes before after) (keyed : Keyed before) : Keyed after := by
  obtain ⟨⟨editTrade, trades, keepsTrade⟩, ⟨editPosition, positions, keepsPosition⟩⟩ := closes
  refine ⟨?_, ?_, ?_, ?_⟩
  · rw [trades]
    exact keyed.trades.map fun row => congrArg some (keepsTrade row).1
  · rw [trades]
    exact keyed.tradeDeals.map fun row => (keepsTrade row).2
  · rw [positions]
    exact keyed.positions.map fun row => congrArg some (keepsPosition row).1
  · rw [positions]
    exact keyed.positionDeals.map fun row => (keepsPosition row).2.1

/-- A deal without an open row stays so. -/
theorem Closes.shut (closes : Closes before after) {dealId : String} (shut : Shut dealId before) :
    Shut dealId after := by
  intro row member ofDeal
  obtain ⟨old, oldMember, _, sameDeal, stays⟩ := closes.position_origin member
  exact stays (shut old oldMember (sameDeal.symm.trans ofDeal))

/-- One more close of a trade. -/
theorem Closes.closeTrade (closes : Closes before after) (id : String)
    (exitPrice pnl closedAt : ℚ) :
    Closes before (final (Database.closeTrade id exitPrice pnl closedAt) after) := by
  obtain ⟨⟨edit, mapped, keeps⟩, positions⟩ := closes
  let closed : TradeRow → TradeRow := fun row =>
    if row.id = id then
      { row with
          isOpen := false
          exitPrice := some exitPrice
          pnl := some pnl
          closedAt := some closedAt }
    else row
  refine ⟨⟨closed ∘ edit, ?_, ?_⟩, positions⟩
  · rw [← List.map_map, ← mapped]
    rfl
  · intro row
    simp only [Function.comp, closed]
    split_ifs
    · exact keeps row
    · exact keeps row

/-- One more close of a position. -/
theorem Closes.closePosition (closes : Closes before after) (id : String) :
    Closes before (final (Database.closePosition id) after) := by
  obtain ⟨trades, ⟨edit, mapped, keeps⟩⟩ := closes
  let closed : PositionRow → PositionRow := fun row =>
    if row.id = id then { row with isOpen := false } else row
  refine ⟨trades, ⟨closed ∘ edit, ?_, ?_⟩⟩
  · rw [← List.map_map, ← mapped]
    rfl
  · intro row
    simp only [Function.comp, closed]
    split_ifs
    · exact ⟨(keeps row).1, (keeps row).2.1, fun _ => rfl⟩
    · exact keeps row

end Closes

section Queries

variable {database : Database}

/-- A query for rows of one key finds at most one and does not raise. -/
theorem scalar_one_or_none_unique {α : Type} {key : α → Option String} {rows : List α}
    (unique : UniqueOn key rows) {picks : α → Bool} {value : String}
    (named : ∀ row, picks row = true → key row = some value) :
    scalarOneOrNone (rows.filter picks) = .ok (rows.find? picks) := by
  rw [unique.filter_eq named]
  cases rows.find? picks <;> rfl

theorem Keyed.get_trade (keyed : database.Keyed) (id : String) :
    getTrade id database = (.ok (database.trades.find? (·.id = id)), database) := by
  have single : scalarOneOrNone (database.trades.filter (·.id = id)) =
      .ok (database.trades.find? (·.id = id)) :=
    scalar_one_or_none_unique keyed.trades fun row picked =>
      congrArg some (of_decide_eq_true picked)
  exact congrArg (·, database) single

theorem Keyed.get_trade_by_deal (keyed : database.Keyed) (dealId : String) :
    getTradeByIgDealId dealId database =
      (.ok (database.trades.find? (·.igDealId = some dealId)), database) := by
  have single : scalarOneOrNone (database.trades.filter (·.igDealId = some dealId)) =
      .ok (database.trades.find? (·.igDealId = some dealId)) :=
    scalar_one_or_none_unique keyed.tradeDeals fun row picked => of_decide_eq_true picked
  exact congrArg (·, database) single

theorem Keyed.get_position (keyed : database.Keyed) (id : String) :
    getPosition id database = (.ok (database.positions.find? (·.id = id)), database) := by
  have single : scalarOneOrNone (database.positions.filter (·.id = id)) =
      .ok (database.positions.find? (·.id = id)) :=
    scalar_one_or_none_unique keyed.positions fun row picked =>
      congrArg some (of_decide_eq_true picked)
  exact congrArg (·, database) single

theorem Keyed.get_position_by_deal (keyed : database.Keyed) (dealId : String) :
    getPositionByIgDealId dealId database =
      (.ok (database.positions.find? (·.igDealId = some dealId)), database) := by
  have single : scalarOneOrNone (database.positions.filter (·.igDealId = some dealId)) =
      .ok (database.positions.find? (·.igDealId = some dealId)) :=
    scalar_one_or_none_unique keyed.positionDeals fun row picked => of_decide_eq_true picked
  exact congrArg (·, database) single

end Queries

end Database

namespace TradingLoop

open Database

section Closing

variable {database : Database} {record : Option DealRecord} {dealId : String}

/-- The rows that a close finds include the row of its deal, when the record of the deal, if
there is one, names that row. -/
theorem closed_rows_find (keyed : database.Keyed) (named : dealId ≠ "")
    (recorded : ∀ ids, record = some ids → ∀ row ∈ database.positions,
      row.igDealId = some dealId → row.id = ids.positionId) (epic : String) :
    ∃ trade position, closedRows record dealId epic database = (.ok (trade, position), database) ∧
      ∀ row ∈ database.positions, row.igDealId = some dealId → position = some row := by
  cases record with
  | some ids =>
    refine ⟨database.trades.find? (·.id = ids.tradeId),
      database.positions.find? (·.id = ids.positionId), ?_, ?_⟩
    · exact (bind_ok (keyed.get_trade ids.tradeId)).trans (bind_ok (keyed.get_position _))
    · intro row member ofDeal
      apply keyed.positions.find_eq (fun row picked => congrArg some (of_decide_eq_true picked))
        member
      exact decide_eq_true (recorded ids rfl row member ofDeal)
  | none =>
    have trade := keyed.get_trade_by_deal dealId
    have position := keyed.get_position_by_deal dealId
    let newestTrade := (database.trades.filter fun row => row.isOpen && row.instrument = epic).head?
    let newestPosition := (database.positions.filter (·.isOpen)).find? (·.instrument = epic)
    refine ⟨(database.trades.find? (·.igDealId = some dealId)).or newestTrade,
      (database.positions.find? (·.igDealId = some dealId)).or newestPosition, ?_, ?_⟩
    · simp only [closedRows, named, if_false]
      exact (bind_ok trade).trans ((bind_ok position).trans rfl)
    · intro row member ofDeal
      have found : database.positions.find? (·.igDealId = some dealId) = some row :=
        keyed.positionDeals.find_eq (fun row picked => of_decide_eq_true picked) member
          (decide_eq_true ofDeal)
      rw [found]
      rfl

/-- Whatever rows a close finds, it only closes some. -/
theorem close_rows_closes (before : Database) (record : Option DealRecord) (dealId epic : String)
    (exitPrice pnl closedAt : ℚ) :
    Keeps (Closes before) (closeRows record dealId epic exitPrice pnl closedAt) := by
  have queried : Keeps (Closes before) (closedRows record dealId epic) := by
    have single : ∀ {α : Type} (rows : Database → List α), Keeps (Closes before)
        (do let found ← read rows; ofExcept (scalarOneOrNone found) : Query (Option α)) :=
      fun _ => keeps_bind (keeps_read _) fun _ => keeps_ofExcept _
    cases record with
    | some ids =>
      exact keeps_bind (single _) fun _ => keeps_bind (single _) fun _ => keeps_pure _
    | none =>
      have newest : ∀ answer : List TradeRow → List PositionRow →
          Option TradeRow × Option PositionRow, Keeps (Closes before)
          (do
            let openTrades ← getOpenTrades epic
            let openPositions ← getOpenPositions
            pure (answer openTrades openPositions) : Query _) :=
        fun _ => keeps_bind (keeps_read _) fun _ => keeps_bind (keeps_read _) fun _ => keeps_pure _
      by_cases unnamed : dealId = ""
      · simp only [closedRows, unnamed, if_true]
        exact keeps_bind (keeps_pure _) fun _ => keeps_bind (keeps_pure _) fun _ => newest _
      · simp only [closedRows, unnamed, if_false]
        exact keeps_bind (single _) fun _ => keeps_bind (single _) fun _ => newest _
  have tradeClosed : ∀ trade : TradeRow, Keeps (Closes before)
      (Database.closeTrade trade.id (if exitPrice = 0 then trade.entryPrice else exitPrice) pnl
        closedAt) :=
    fun _ => keeps_of_final fun _ closes => closes.closeTrade _ _ _ _
  have positionClosed : ∀ position : PositionRow,
      Keeps (Closes before) (Database.closePosition position.id) :=
    fun _ => keeps_of_final fun _ closes => closes.closePosition _
  apply keeps_bind queried
  rintro ⟨trade, position⟩
  cases trade with
  | none =>
    cases position with
    | none => exact keeps_pure _
    | some shutting => exact keeps_bind (positionClosed shutting) fun _ => keeps_pure _
  | some closing =>
    apply keeps_bind (tradeClosed closing)
    intro _
    cases position with
    | none => exact keeps_pure _
    | some shutting => exact keeps_bind (positionClosed shutting) fun _ => keeps_pure _

/-- The close of a deal does not raise and leaves no open row of it. -/
theorem close_rows_shuts (keyed : database.Keyed) (named : dealId ≠ "")
    (recorded : ∀ ids, record = some ids → ∀ row ∈ database.positions,
      row.igDealId = some dealId → row.id = ids.positionId)
    (epic : String) (exitPrice pnl closedAt : ℚ) :
    ∃ trade after, closeRows record dealId epic exitPrice pnl closedAt database =
      (.ok trade, after) ∧ Shut dealId after := by
  obtain ⟨trade, position, found, ofDeal⟩ := closed_rows_find keyed named recorded epic
  -- the close of the trade leaves the positions as they are
  have shutting : ∀ trades : List TradeRow, ∃ after,
      (match position with
        | some row => final (Database.closePosition row.id) { database with trades }
        | none => { database with trades }) = after ∧ Shut dealId after := by
    intro trades
    refine ⟨_, rfl, ?_⟩
    intro row member rowOfDeal
    cases position with
    | none => exact absurd (ofDeal row member rowOfDeal) (by simp)
    | some closed =>
      obtain ⟨old, oldMember, rfl⟩ := List.mem_map.mp member
      by_cases same : old.id = closed.id
      · simp only [same, if_true]
      · simp only [same, if_false] at rowOfDeal
        obtain rfl := Option.some.inj (ofDeal old oldMember rowOfDeal)
        exact absurd rfl same
  cases trade with
  | none =>
    obtain ⟨after, reached, shut⟩ := shutting database.trades
    refine ⟨none, after, ?_, shut⟩
    rw [← reached]
    cases position with
    | none => exact bind_ok found
    | some row => exact (bind_ok found).trans rfl
  | some closing =>
    let closed := final (Database.closeTrade closing.id
      (if exitPrice = 0 then closing.entryPrice else exitPrice) pnl closedAt) database
    obtain ⟨after, reached, shut⟩ := shutting closed.trades
    refine ⟨some closing, after, ?_, shut⟩
    rw [← reached]
    cases position with
    | none => exact (bind_ok found).trans rfl
    | some row => exact (bind_ok found).trans rfl

end Closing

end TradingLoop

end IgTradingBot
