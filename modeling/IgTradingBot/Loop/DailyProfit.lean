import IgTradingBot.Library.PeriodTotals
import IgTradingBot.Loop.Cycle

/-!
# Realised profit of a day

The entry gate rolls the daily books over before it reads the realised profit; the closes
do not, and they book what the reply says whether or not it reports acceptance. The
ledger below lists what a correct counter would hold: the profit of every accepted full or
partial close, and of every reconciled deal that has not been listed yet, on the day of its
booking.
-/

namespace IgTradingBot

open Sequential Sequential.Program PeriodTotals

/-- Deals whose full close was accepted or reconciled. -/
def closedDeals : List LoopEvent → List String
  | [] => []
  | .closeAnswered request true true _ _ _ :: earlier => request.dealId :: closedDeals earlier
  | .closeReconciled dealId _ _ _ _ :: earlier => dealId :: closedDeals earlier
  | _ :: earlier => closedDeals earlier

/-- The profits that count, each with the day of its booking. -/
def profitLedger : List LoopEvent → List (ℤ × ℚ)
  | [] => []
  | .closeAnswered _ _ accepted profit today _ :: earlier =>
    if accepted then (today, profit) :: profitLedger earlier else profitLedger earlier
  | .closeReconciled dealId profit _ today _ :: earlier =>
    if decide (dealId ∉ closedDeals earlier) then (today, profit) :: profitLedger earlier
    else profitLedger earlier
  | _ :: earlier => profitLedger earlier

/-- A close is booked regularly when its profit is zero, or when it counts exactly if it
is booked on the current day: a reply counts when it reports acceptance, and only the
reply to a full close is booked; a reconciled deal counts when it has not been closed
before, and is always booked. -/
def LoopEvent.BookedRegularly (event : LoopEvent) (earlier : List LoopEvent) : Prop :=
  match event with
  | .closeAnswered _ full accepted profit today counterDate =>
    profit = 0 ∨ (accepted = true ↔ full = true ∧ counterDate = today)
  | .closeReconciled dealId profit _ today counterDate =>
    profit = 0 ∨ (dealId ∉ closedDeals earlier ↔ counterDate = today)
  | _ => True

/-- A reading of the realised profit agrees with the ledger of its day. -/
def LoopEvent.ReadsLedger (event : LoopEvent) (earlier : List LoopEvent) : Prop :=
  match event with
  | .realizedRead today dailyRealizedPnl => dailyRealizedPnl = sumOn today (profitLedger earlier)
  | _ => True

instance (event : LoopEvent) (earlier : List LoopEvent) :
    Decidable (event.BookedRegularly earlier) :=
  match event with
  | .closeAnswered _ _ _ _ _ _ => inferInstanceAs (Decidable (_ ∨ (_ ↔ _ ∧ _)))
  | .closeReconciled _ _ _ _ _ => inferInstanceAs (Decidable (_ ∨ (_ ↔ _)))
  | .realizedRead _ _ | .orderSubmitted _ _ | .positionOpened _ _ _ _ | .positionClosed
  | .managementStarted _ | .partialCloseRequested _ _ _ | .openingPersisted _ =>
    inferInstanceAs (Decidable True)

instance (event : LoopEvent) (earlier : List LoopEvent) : Decidable (event.ReadsLedger earlier) :=
  match event with
  | .realizedRead _ _ => inferInstanceAs (Decidable (_ = _))
  | .closeAnswered _ _ _ _ _ _ | .closeReconciled _ _ _ _ _ | .orderSubmitted _ _
  | .positionOpened _ _ _ _ | .positionClosed | .managementStarted _
  | .partialCloseRequested _ _ _ | .openingPersisted _ => inferInstanceAs (Decidable True)

namespace TradingLoop

/-- The account of the realised profit: after regular bookings the counter tracks the
ledger, and every reading so far agreed with it. -/
def ProfitAccount (world : World) : Prop :=
  Throughout LoopEvent.BookedRegularly world.history →
    Tracks (profitLedger world.history) (utcDay world.clock) world.books.dailyTradeDate
      world.books.dailyRealizedPnl ∧
    Throughout LoopEvent.ReadsLedger world.history

/-- Events that neither book nor read a profit leave the account as it is. -/
theorem ProfitAccount.record {world : World} (account : ProfitAccount world) {event : LoopEvent}
    (change : World) (recorded : change.history = event :: world.history)
    (sameClock : change.clock = world.clock) (sameBooks : change.books = world.books)
    (unread : event.ReadsLedger world.history)
    (unbooked : profitLedger (event :: world.history) = profitLedger world.history) :
    ProfitAccount change := by
  intro regular
  rw [recorded] at regular ⊢
  obtain ⟨tracks, reads⟩ := account regular.2
  refine ⟨?_, unread, reads⟩
  rw [unbooked, sameClock, sameBooks]
  exact tracks

/-- The taking up of a reply keeps the account. -/
theorem ProfitAccount.answered {world : World} (account : ProfitAccount world)
    (request : CloseRequest) (full accepted : Bool) (profit : ℚ) :
    ProfitAccount (takeCloseReply request full accepted profit world) := by
  rintro ⟨booked, regular⟩
  obtain ⟨tracks, reads⟩ := account regular
  have entered := tracks.enter profit accepted full booked
  refine ⟨?_, trivial, reads⟩
  cases full <;> exact entered

/-- The booking of a reconciled deal keeps the account. -/
theorem ProfitAccount.reconciled {world : World} (account : ProfitAccount world) (dealId : String)
    (profit : ℚ) (persisted : Bool) :
    ProfitAccount (takeTransaction dealId profit persisted world) := by
  rintro ⟨booked, regular⟩
  obtain ⟨tracks, reads⟩ := account regular
  have entered := tracks.enter profit (decide (dealId ∉ closedDeals world.history)) true (by
    simp only [decide_eq_true_eq, true_and]
    exact booked)
  exact ⟨entered, trivial, reads⟩

theorem profit_account_incidental : Incidental ProfitAccount where
  clock _ _ later account regular :=
    ⟨(account regular).1.wait (utc_day_mono later), (account regular).2⟩
  engine _ _ _ account := account
  desk _ _ _ account := account
  noted _ event isNote account := by
    cases event with
    | managementStarted => exact account.record _ rfl rfl rfl trivial rfl
    | partialCloseRequested => exact account.record _ rfl rfl rfl trivial rfl
    | openingPersisted => exact account.record _ rfl rfl rfl trivial rfl
    | _ => cases isNote
  closed _ account := account.record _ rfl rfl rfl trivial rfl

/-- Rolling the books over clears a stale counter. -/
theorem ProfitAccount.rolled {world : World} (account : ProfitAccount world) :
    ProfitAccount { world with books := booksOn (utcDay world.clock) world.books } := by
  intro regular
  obtain ⟨tracks, reads⟩ := account regular
  refine ⟨?_, reads⟩
  by_cases stale : utcDay world.clock = world.books.dailyTradeDate
  · simpa only [booksOn, stale, ne_eq, not_true_eq_false, if_false] using tracks
  · simpa only [booksOn, stale, ne_eq, not_false_eq_true, if_true] using tracks.roll stale

/-- The gate reads a counter of the current day. -/
theorem profit_account_gate : GateRules ProfitAccount where
  toAmbient := profit_account_incidental.toAmbient
  rolled _ account := account.rolled
  realizedRead world today account := by
    rintro ⟨_, regular⟩
    obtain ⟨tracks, reads⟩ := account regular
    exact ⟨tracks, tracks.exact_of_current today, reads⟩

theorem profit_account_entry : EntryRules ProfitAccount where
  toRolls := profit_account_gate.toRolls
  desk := profit_account_incidental.desk
  noted := profit_account_incidental.noted
  opened _ _ account := account.record _ rfl rfl rfl trivial rfl
  counted _ _ _ account := account
  submitted _ _ account := account.record _ rfl rfl rfl trivial rfl

/-- Every part of a run keeps the account. -/
theorem profit_account_rules (config : LoopConfig) :
    CycleRules config (fun _ => True) ProfitAccount where
  toGateRules := profit_account_gate
  desk := profit_account_incidental.desk
  noted := profit_account_incidental.noted
  answered _ request full accepted profit account := account.answered request full accepted profit
  listed _ _ account := account
  reconciled _ dealId profit persisted account := account.reconciled dealId profit persisted
  entered _ input _ _ _ :=
    (profit_account_entry.entryContracts.keeps_gatedEntry profit_account_gate config input.entry _).enter
      (fun _ holds => holds.1)

/-- In every run whose closes are all booked regularly, every reading of the realised
profit by the entry gate is the sum of the ledger on its day. -/
theorem run_reads_ledger (config : LoopConfig) (starts : List StartInput) (clock : ℚ)
    (schedule : ℕ → ℚ) (engine : RiskEngine) (desk : Desk) (openAtBroker : ℕ)
    (regular : Throughout LoopEvent.BookedRegularly
      (final (run config starts) (constructed clock schedule engine desk openAtBroker)).history) :
    Throughout LoopEvent.ReadsLedger
      (final (run config starts) (constructed clock schedule engine desk openAtBroker)).history := by
  have initial : ProfitAccount (constructed clock schedule engine desk openAtBroker) :=
    fun _ => ⟨tracks_nil _, trivial⟩
  have account := ((profit_account_rules config).contracts.keeps_run starts
    fun _ _ _ _ _ _ => trivial).final initial
  exact (account regular).2

/-- A short position of the demo instrument. -/
def shortPosition : PositionDict :=
  { position := some
      { dealId := some "DEAL-1", direction := some "SELL", size := some (.number 1) }
    market := some (some "CS.D.EURUSD.CFD.IP") }

/-- A run of one cycle in which a long signal closes the short position. -/
def flipRun (reply : DealReply) : List StartInput :=
  [{ cycles := [demoCycle [shortPosition]
      [("CS.D.EURUSD.CFD.IP",
        { analysis := { reply := .ok (some (demoSignal "CS.D.EURUSD.CFD.IP")) }
          close := { request := { reply := .ok reply } }
          entry :=
            { risk := { scalingFactor := { reply := .ok 10000 } }
              execution := demoAcceptance "DEAL-2" } })]] }]

/-- The demo world, where a new day begins before the first reading of the clock. -/
def newDayWorld : World := { demoWorld with schedule := fun reading => 520000 + reading }

/-- The accepted close of a new day is booked in the counter of the day before, and the
gate that follows clears it: it reads zero where the day has lost three hundred. -/
theorem loss_of_new_day_cleared :
    ¬ Throughout LoopEvent.ReadsLedger
      (final (run demoConfig (flipRun
        { dealStatus := some "ACCEPTED", profit := some (.number (-300)) })) newDayWorld).history := by
  decide +kernel

/-- On the day of the books the same close is booked regularly and read. -/
theorem loss_of_same_day_read :
    Throughout LoopEvent.ReadsLedger
      (final (run demoConfig (flipRun
        { dealStatus := some "ACCEPTED", profit := some (.number (-300)) })) demoWorld).history := by
  apply run_reads_ledger
  decide +kernel

end TradingLoop

end IgTradingBot
