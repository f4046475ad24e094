import IgTradingBot.Loop.DailyProfit

/-!
# Rejected closes

`_close_position` counts a close, books its profit and persists it for every reply
that arrives. So a reply that does not report acceptance leaves the accounts as they
are only if the request was never made: the size of the position cannot be read.
-/

namespace IgTradingBot

open Sequential Sequential.Program

/-- Two worlds with the same accounts: the count of closes, both totals of profit, the
rows of trades and positions, the records of deals, and the managed positions. -/
structure SameAccounts (before after : World) : Prop where
  tradesClosed : after.desk.tradesClosed = before.desk.tradesClosed
  totalPnl : after.desk.totalPnl = before.desk.totalPnl
  dailyRealizedPnl : after.books.dailyRealizedPnl = before.books.dailyRealizedPnl
  database : after.desk.database = before.desk.database
  dealRecords : after.desk.dealRecords = before.desk.dealRecords
  professionalPositions : after.desk.professionalPositions = before.desk.professionalPositions

namespace TradingLoop

/-- The loop has counted a number of closes. -/
def CountedCloses (count : ℕ) (world : World) : Prop := world.desk.tradesClosed = count

section Counting

variable {count : ℕ}

/-- No interruption counts a close. -/
theorem counted_interrupts (meanwhile : List Interference) :
    Keeps (CountedCloses count) (forEach meanwhile interrupt) := by
  apply keeps_forEach
  intro interference _
  apply keeps_of_final
  intro world counted
  cases interference <;> exact counted

theorem counted_await {α : Type} (awaited : Awaited α) :
    Keeps (CountedCloses count) (await awaited) :=
  keeps_bind (counted_interrupts awaited.meanwhile) fun _ => keeps_ofExcept awaited.reply

/-- A session counts no close. -/
theorem counted_session {α : Type} (script : DatabaseSession) (block : ℚ → Database.Query α) :
    Keeps (CountedCloses count) (inSession script block) := by
  apply keeps_bind (counted_interrupts script.meanwhile)
  intro _
  apply keeps_bind
  · exact keeps_of_final fun _ counted => counted
  intro now
  apply keeps_bind (keeps_read _)
  intro database
  rcases block now database with ⟨answer, changed⟩
  cases answer with
  | error failure => exact keeps_raise failure
  | ok answer =>
    cases script.ending with
    | committed => exact keeps_bind (keeps_modify fun _ counted => counted) fun _ => keeps_pure _
    | failed kept => exact keeps_bind (keeps_modify fun _ counted => counted) fun _ => keeps_raise _

/-- The persistence of a close counts nothing. -/
theorem counted_persistence (config : LoopConfig) (script : PersistCloseScript)
    (dealId epic : String) (profit level closeLevel : Option Numeral) :
    Keeps (CountedCloses count)
      (persistClosedTrade config script dealId epic profit level closeLevel) := by
  have erased : Keeps (CountedCloses count)
      (if dealId = "" then pure ()
        else setDesk fun desk =>
          { desk with
              dealRecords := desk.dealRecords.erase dealId
              professionalPositions := desk.professionalPositions.erase dealId }) :=
    keeps_ite (fun _ => keeps_pure _) fun _ => keeps_modify fun _ counted => counted
  apply keeps_rescue
  · apply keeps_bind (keeps_read _)
    intro record
    apply keeps_bind (keeps_ofExcept _)
    intro pnl
    apply keeps_bind (keeps_ofExcept _)
    intro exitPrice
    apply keeps_bind (counted_session _ _)
    intro closedTrade
    apply keeps_ite
    · intro _
      exact keeps_bind (counted_await _) fun _ => erased
    · intro _
      exact erased
  · intro _
    exact keeps_pure _

/-- A request that is answered has counted no close yet. -/
theorem counted_request {script : CloseScript} {reply : DealReply}
    (answered : script.request.reply = .ok reply) {raised : Failure → World → Prop} :
    Ensures (CountedCloses count) (submitClose script)
      (fun found world => found = reply ∧ CountedCloses count world) raised := by
  have waited : Ensures (CountedCloses count) (await script.request)
      (fun found world => found = reply ∧ CountedCloses count world) raised := by
    intro world counted
    have kept := (counted_interrupts script.request.meanwhile).final counted
    rw [await_run, answered]
    exact ⟨rfl, kept⟩
  apply ensures_ite
  · intro _
    have closed : Ensures (CountedCloses count) closeAtBroker (fun _ => CountedCloses count)
        raised := ensures_modify _ fun _ counted => counted
    exact ensures_bind closed fun _ => waited
  · intro _
    exact waited

/-- Every close that is answered is counted, whatever the reply says. -/
theorem counted_close (config : LoopConfig) {script : CloseScript} {reply : DealReply}
    {position : PositionDict} {size : ℚ} (epic : String)
    (sized : sizeOf position limits.tradeSize = .ok size)
    (answered : script.request.reply = .ok reply) :
    Ensures (CountedCloses count) (closePosition config script position epic)
      (fun _ => CountedCloses (count + 1)) (fun _ => CountedCloses (count + 1)) := by
  have requested : Ensures (CountedCloses count) (requestClose config script position epic)
      (fun _ => CountedCloses (count + 1)) (fun _ => CountedCloses (count + 1)) := by
    unfold requestClose
    rw [sized]
    apply ensures_bind (counted_request answered)
    intro found
    have read : Ensures (fun world => found = reply ∧ CountedCloses count world) readClock
        (fun _ => CountedCloses count) (fun _ => CountedCloses (count + 1)) :=
      fun _ counted => counted.2
    apply ensures_bind read
    intro _
    have taken (request : CloseRequest) : Ensures (CountedCloses count)
        (modify (takeCloseReply request true (reportsAccepted found)
          (Numeral.amount found.profit)) : LoopProgram Unit)
        (fun _ => CountedCloses count) (fun _ => CountedCloses (count + 1)) :=
      ensures_modify _ fun _ counted => counted
    apply ensures_bind (taken _)
    intro _
    have booked : Ensures (CountedCloses count)
        (setDesk fun desk =>
          { desk with
              totalPnl := desk.totalPnl + Numeral.amount found.profit
              tradesClosed := desk.tradesClosed + 1 })
        (fun _ => CountedCloses (count + 1)) (fun _ => CountedCloses (count + 1)) :=
      ensures_modify _ fun _ counted => congrArg (· + 1) counted
    apply ensures_bind booked
    intro _
    exact keeps_bind (counted_persistence _ _ _ _ _ _ _) fun _ => keeps_pure _
  exact ensures_rescue requested fun _ => keeps_pure _

end Counting

/-- A position whose size cannot be read is not closed, and nothing changes. -/
theorem close_unsized (config : LoopConfig) (script : CloseScript) {position : PositionDict}
    (epic : String) (world : World) {failure : Failure}
    (unsized : sizeOf position limits.tradeSize = .error failure) :
    closePosition config script position epic world = (.ok false, world) := by
  have raised : requestClose config script position epic world = (.error failure, world) := by
    unfold requestClose
    rw [unsized]
    rfl
  rw [closePosition, rescue_run, raised]
  rfl

/-- A reply that does not report acceptance leaves the accounts as they are exactly when the
size of the position cannot be read, so that no close is requested at all. -/
theorem rejected_close_unbooked_iff (config : LoopConfig) (script : CloseScript)
    (reply : DealReply) (position : PositionDict) (epic : String) (world : World)
    (answered : script.request.reply = .ok reply) (_rejected : reportsAccepted reply = false) :
    SameAccounts world (final (closePosition config script position epic) world) ↔
      (sizeOf position limits.tradeSize).isOk = false := by
  cases sized : sizeOf position limits.tradeSize with
  | error failure =>
    rw [final, close_unsized config script epic world sized]
    exact iff_of_true ⟨rfl, rfl, rfl, rfl, rfl, rfl⟩ rfl
  | ok size =>
    have counted : CountedCloses (world.desk.tradesClosed + 1)
        (final (closePosition config script position epic) world) :=
      (counted_close config epic sized answered).final rfl
    constructor
    · intro same
      have impossible := counted.symm.trans same.tradesClosed
      omega
    · intro unsized
      cases unsized

/-- A reply that rejects the close, with the profit of the position. -/
def rejectedReply : DealReply :=
  { dealStatus := some "REJECTED", profit := some (.number (-300)) }

/-- The rejected close of the short position is counted, and its profit is booked in both totals. -/
theorem rejected_close_booked :
    let closed := closePosition demoConfig { request := { reply := .ok rejectedReply } }
      shortPosition "CS.D.EURUSD.CFD.IP"
    reportsAccepted rejectedReply = false ∧
      (final closed demoWorld).desk.tradesClosed = 1 ∧
      (final closed demoWorld).desk.totalPnl = -300 ∧
      (final closed demoWorld).books.dailyRealizedPnl = -300 ∧
      ¬SameAccounts demoWorld (final closed demoWorld) := by
  have counted : (final (closePosition demoConfig { request := { reply := .ok rejectedReply } }
      shortPosition "CS.D.EURUSD.CFD.IP") demoWorld).desk.tradesClosed = 1 := by decide +kernel
  refine ⟨by decide, counted, by decide +kernel, by decide +kernel, ?_⟩
  intro same
  have unchanged := same.tradesClosed
  rw [counted] at unchanged
  exact absurd unchanged (by decide +kernel)

/-- A position whose size is no number is not closed, so nothing is booked. -/
theorem rejected_close_unsized :
    SameAccounts demoWorld
      (final (closePosition demoConfig { request := { reply := .ok rejectedReply } }
        { position := some { size := some .malformed } } "CS.D.EURUSD.CFD.IP") demoWorld) :=
  (rejected_close_unbooked_iff demoConfig { request := { reply := .ok rejectedReply } }
    rejectedReply _ _ demoWorld rfl (by decide)).mpr (by decide)

end TradingLoop

end IgTradingBot
