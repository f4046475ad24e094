import IgTradingBot.Loop.Cycle

/-!
# Entries of a day

The daily cap and the cooldown of an instrument are counted on accepted replies. The
count covers the positions that the broker opens as long as every order that opens a
position opens one and is answered as accepted: then at most one opening is not yet
counted, and it is counted before the next order can be submitted. Time may pass between
an opening and its counting, also over midnight.
-/

namespace IgTradingBot

open Sequential Sequential.Program

/-- A position that the broker opened. -/
structure Opening where
  epic : String
  time : ℚ
  deriving DecidableEq, Repr

/-- The opening that an event records. -/
def LoopEvent.opening? : LoopEvent → Option Opening
  | .positionOpened epic time _ _ => some ⟨epic, time⟩
  | _ => none

/-- The openings of a history, latest first. -/
def openings (history : List LoopEvent) : List Opening := history.filterMap LoopEvent.opening?

/-- Number of openings on a UTC day. -/
def openingsOn (day : ℤ) (opened : List Opening) : ℕ :=
  opened.countP fun opening => utcDay opening.time = day

/-- Openings of one instrument are at least the cooldown apart. -/
def Spaced (opened : List Opening) : Prop :=
  opened.Pairwise fun later earlier => later.epic = earlier.epic →
    earlier.time + TradingLoop.limits.minSecondsBetweenTradesPerInstrument ≤ later.time

instance (opened : List Opening) : Decidable (Spaced opened) :=
  inferInstanceAs (Decidable (List.Pairwise _ opened))

/-- An execution that is counted as it should be: no position is opened, or one, and then
the reply reports acceptance. -/
def ExecutionScript.Counted (script : ExecutionScript) : Prop :=
  script.steps.count .positionOpened = 0 ∨
    (script.steps.count .positionOpened = 1 ∧
      ∃ reply, script.reply = .ok reply ∧ TradingLoop.reportsAccepted reply = true)

namespace TradingLoop

/-- Days after every opening have none. -/
theorem openings_on_later {day : ℤ} {opened : List Opening}
    (past : ∀ opening ∈ opened, utcDay opening.time < day) : openingsOn day opened = 0 := by
  apply List.countP_eq_zero.mpr
  intro opening member same
  exact absurd (of_decide_eq_true same) (past opening member).ne

/-- The account of the entries between two orders: the counter covers the openings of its
day, no day has too many, and every opening lies before the last counted opening of its
instrument. -/
structure EntryAccount (clock : ℚ) (books : Books) (opened : List Opening) : Prop where
  current : books.dailyTradeDate ≤ utcDay clock
  past : ∀ opening ∈ opened, utcDay opening.time ≤ books.dailyTradeDate
  covered : openingsOn books.dailyTradeDate opened ≤ books.dailyTradeCount
  capped : ∀ day, openingsOn day opened ≤ limits.maxDailyTrades
  timed : ∀ opening ∈ opened, ∃ last,
    books.lastTradeTimeByEpic.lookup opening.epic = some last ∧ opening.time ≤ last
  spaced : Spaced opened

/-- The account when an instrument has passed the gate. -/
structure ReadyToOpen (epic : String) (clock : ℚ) (books : Books) (opened : List Opening) : Prop
    extends EntryAccount clock books opened where
  belowCap : books.dailyTradeCount < limits.maxDailyTrades
  cooledDown : ∀ last, books.lastTradeTimeByEpic.lookup epic = some last →
    last + limits.minSecondsBetweenTradesPerInstrument ≤ clock

/-- The account while an opening of an instrument may not be counted yet. -/
structure UncountedOpening (epic : String) (clock : ℚ) (books : Books) (opened : List Opening) :
    Prop where
  current : books.dailyTradeDate ≤ utcDay clock
  reached : ∀ opening ∈ opened, utcDay opening.time ≤ utcDay clock
  covered : openingsOn books.dailyTradeDate opened ≤ books.dailyTradeCount + 1
  later : ∀ day, books.dailyTradeDate < day → openingsOn day opened ≤ 1
  capped : ∀ day, openingsOn day opened ≤ limits.maxDailyTrades
  timedHere : ∀ opening ∈ opened, opening.epic = epic → opening.time ≤ clock
  timedElsewhere : ∀ opening ∈ opened, opening.epic ≠ epic → ∃ last,
    books.lastTradeTimeByEpic.lookup opening.epic = some last ∧ opening.time ≤ last
  spaced : Spaced opened

section Account

variable {epic : String} {clock now : ℚ} {books : Books} {opened : List Opening}

/-- Openings of an instrument that has cooled down lie a cooldown back. -/
theorem ReadyToOpen.before_cooldown (ready : ReadyToOpen epic clock books opened)
    {opening : Opening} (member : opening ∈ opened) (same : opening.epic = epic) :
    opening.time + limits.minSecondsBetweenTradesPerInstrument ≤ clock := by
  obtain ⟨last, counted, before⟩ := ready.timed opening member
  rw [same] at counted
  have cooled := ready.cooledDown last counted
  linarith

/-- Without an opening there is nothing to be counted. -/
theorem ReadyToOpen.uncounted (ready : ReadyToOpen epic clock books opened) :
    UncountedOpening epic clock books opened where
  current := ready.current
  reached opening member := (ready.past opening member).trans ready.current
  covered := Nat.le_succ_of_le ready.covered
  later day after := by
    have none := openings_on_later fun opening member =>
      (ready.past opening member).trans_lt after
    rw [none]
    exact Nat.zero_le 1
  capped := ready.capped
  timedHere opening member same := by
    have cooled := ready.before_cooldown member same
    have wait : (0 : ℚ) ≤ limits.minSecondsBetweenTradesPerInstrument := by decide +kernel
    linarith
  timedElsewhere opening member _ := ready.timed opening member
  spaced := ready.spaced

/-- One more opening on a day. -/
theorem openings_on_cons (day : ℤ) (opening : Opening) (opened : List Opening) :
    openingsOn day (opening :: opened) =
      openingsOn day opened + if utcDay opening.time = day then 1 else 0 := by
  by_cases same : utcDay opening.time = day
  · simp [openingsOn, same]
  · simp [openingsOn, same]

/-- The one opening that a passed gate allows. On the day of the books the counter was
below the cap; on a later day it is the first one. -/
theorem ReadyToOpen.opens (ready : ReadyToOpen epic clock books opened) :
    UncountedOpening epic clock books (⟨epic, clock⟩ :: opened) := by
  have before := ready.uncounted
  have laterNone : ∀ day, books.dailyTradeDate < day → openingsOn day opened = 0 :=
    fun day after => openings_on_later fun opening member =>
      (ready.past opening member).trans_lt after
  refine ⟨ready.current, ?_, ?_, ?_, ?_, ?_, ?_, ?_⟩
  · intro opening member
    obtain rfl | member := List.mem_cons.mp member
    · exact le_refl _
    · exact before.reached opening member
  · have covered := ready.covered
    rw [openings_on_cons]
    split_ifs <;> omega
  · intro day after
    have none := laterNone day after
    rw [openings_on_cons, none]
    split_ifs <;> omega
  · intro day
    rw [openings_on_cons]
    split_ifs with today
    · obtain same | after := eq_or_lt_of_le ready.current
      · have covered := ready.covered
        have below := ready.belowCap
        rw [same, today] at covered
        omega
      · have none := laterNone day (today ▸ after)
        have positive : 0 < limits.maxDailyTrades := by decide
        omega
    · exact ready.capped day
  · intro opening member same
    obtain rfl | member := List.mem_cons.mp member
    · exact le_refl _
    · exact before.timedHere opening member same
  · intro opening member other
    obtain rfl | member := List.mem_cons.mp member
    · exact absurd rfl other
    · exact before.timedElsewhere opening member other
  · apply List.pairwise_cons.mpr
    refine ⟨?_, ready.spaced⟩
    intro earlier member same
    exact ready.before_cooldown member same.symm

/-- Rolling the books over keeps an uncounted opening: a new day has at most that one. -/
theorem UncountedOpening.rolled (pending : UncountedOpening epic clock books opened) :
    UncountedOpening epic clock (booksOn (utcDay clock) books) opened := by
  have times : (booksOn (utcDay clock) books).lastTradeTimeByEpic = books.lastTradeTimeByEpic :=
    booksOn_lastTradeTime _ _
  refine ⟨?_, pending.reached, ?_, ?_, pending.capped, pending.timedHere, ?_, pending.spaced⟩
  · exact le_of_eq (booksOn_date _ _)
  · by_cases newDay : utcDay clock = books.dailyTradeDate
    · simpa only [booksOn, newDay, ne_eq, not_true_eq_false, if_false] using pending.covered
    · have after := lt_of_le_of_ne pending.current (Ne.symm newDay)
      simpa [booksOn, newDay] using pending.later _ after
  · intro day after
    rw [booksOn_date] at after
    exact pending.later day (pending.current.trans_lt after)
  · rw [times]
    exact pending.timedElsewhere

/-- Counting an opening in the books of the current day, with a later time, settles the
account. -/
theorem UncountedOpening.counted (pending : UncountedOpening epic clock books opened)
    (today : books.dailyTradeDate = utcDay clock) (later : clock ≤ now) :
    EntryAccount now
      { books with
          dailyTradeCount := books.dailyTradeCount + 1
          lastTradeTimeByEpic := books.lastTradeTimeByEpic.insert epic now } opened where
  current := pending.current.trans (utc_day_mono later)
  past opening member := (pending.reached opening member).trans_eq today.symm
  covered := pending.covered
  capped := pending.capped
  timed opening member := by
    by_cases same : opening.epic = epic
    · refine ⟨now, ?_, (pending.timedHere opening member same).trans later⟩
      rw [same]
      exact AList.lookup_insert _
    · obtain ⟨last, counted, before⟩ := pending.timedElsewhere opening member same
      refine ⟨last, ?_, before⟩
      rw [← counted]
      exact AList.lookup_insert_ne same
  spaced := pending.spaced

/-- Later readings of the clock keep the account. -/
theorem EntryAccount.wait (account : EntryAccount clock books opened) (later : clock ≤ now) :
    EntryAccount now books opened :=
  { account with current := account.current.trans (utc_day_mono later) }

theorem ReadyToOpen.wait (ready : ReadyToOpen epic clock books opened) (later : clock ≤ now) :
    ReadyToOpen epic now books opened :=
  { ready.toEntryAccount.wait later with
    belowCap := ready.belowCap
    cooledDown := fun last counted => (ready.cooledDown last counted).trans later }

theorem UncountedOpening.wait (pending : UncountedOpening epic clock books opened)
    (later : clock ≤ now) : UncountedOpening epic now books opened :=
  { pending with
    current := pending.current.trans (utc_day_mono later)
    reached := fun opening member => (pending.reached opening member).trans (utc_day_mono later)
    timedHere := fun opening member same => (pending.timedHere opening member same).trans later }

end Account

section Frames

/-- A property of the clock, the books and the openings. -/
def OnEntries (account : ℚ → Books → List Opening → Prop) (world : World) : Prop :=
  account world.clock world.books (openings world.history)

/-- Whatever only time can change is incidental. -/
theorem entries_incidental {account : ℚ → Books → List Opening → Prop}
    (wait : ∀ {clock now books opened}, account clock books opened → clock ≤ now →
      account now books opened) : Incidental (OnEntries account) where
  clock _ _ later holds := wait holds later
  engine _ _ _ holds := holds
  desk _ _ _ holds := holds
  noted _ event isNote holds := by
    cases event with
    | managementStarted => exact holds
    | partialCloseRequested => exact holds
    | openingPersisted => exact holds
    | _ => cases isNote
  closed _ holds := holds

theorem account_incidental : Incidental (OnEntries EntryAccount) :=
  entries_incidental EntryAccount.wait

theorem ready_incidental (epic : String) : Incidental (OnEntries (ReadyToOpen epic)) :=
  entries_incidental ReadyToOpen.wait

theorem uncounted_incidental (epic : String) : Incidental (OnEntries (UncountedOpening epic)) :=
  entries_incidental UncountedOpening.wait

/-- The books of an account may be rolled over at any time. -/
theorem EntryAccount.rolled {clock : ℚ} {books : Books} {opened : List Opening}
    (account : EntryAccount clock books opened) :
    EntryAccount clock (booksOn (utcDay clock) books) opened := by
  by_cases newDay : utcDay clock = books.dailyTradeDate
  · simpa only [booksOn, newDay, ne_eq, not_true_eq_false, if_false] using account
  · have after := lt_of_le_of_ne account.current (Ne.symm newDay)
    have none := openings_on_later fun opening member =>
      (account.past opening member).trans_lt after
    simp only [booksOn, newDay, ne_eq, not_false_eq_true, if_true]
    exact
      { account with
        current := le_refl _
        past := fun opening member => (account.past opening member).trans after.le
        covered := none.le }

theorem account_gate_rules : GateRules (OnEntries EntryAccount) where
  toAmbient := account_incidental.toAmbient
  rolled _ account := account.rolled
  realizedRead _ _ account := account

/-- The counting of an opening settles the account: the books are rolled over at one
reading of the clock, and the time of the opening is a later one. -/
theorem ensures_countOpening (epic : String) {raised : Failure → World → Prop} :
    Ensures (OnEntries (UncountedOpening epic)) (countOpening epic)
      (fun _ => OnEntries EntryAccount) raised := by
  intro world pending
  have rolled := (pending.wait (le_max_left world.clock (world.schedule world.reads))).rolled
  exact rolled.counted (booksOn_date _ _) (le_max_left _ _)

/-- The steps of an order never raise. -/
theorem order_step_returns (epic : String) (step : OrderStep) (world : World) :
    ∃ answer after, orderStep epic step world = (.ok answer, after) := by
  cases step with
  | interrupted interference =>
    exact ⟨(), _, interrupt_returns interference world⟩
  | positionOpened => exact ⟨(), _, rfl⟩

/-- Steps without an opening are ambient. -/
theorem Ambient.ensures_unopened {invariant : World → Prop} (stable : Ambient invariant)
    (epic : String) (steps : List OrderStep) (unopened : .positionOpened ∉ steps)
    {raised : Failure → World → Prop} :
    Ensures invariant (forEach steps (orderStep epic)) (fun _ => invariant) raised := by
  induction steps with
  | nil => exact ensures_pure () fun _ holds => holds
  | cons step rest inductionHypothesis =>
    have remaining := inductionHypothesis fun member =>
      unopened (List.mem_cons_of_mem step member)
    cases step with
    | positionOpened => exact absurd List.mem_cons_self unopened
    | interrupted interference =>
      have kept : Keeps invariant (orderStep epic (.interrupted interference)) :=
        stable.keeps_interrupt interference
      exact ensures_bind (kept.of_returns (order_step_returns epic _)) fun _ => remaining

/-- Steps with at most one opening leave at most one opening uncounted. The induction is
on the steps; after the opening the rest is ambient. -/
theorem ensures_order_steps (epic : String) (steps : List OrderStep)
    (once : steps.count .positionOpened ≤ 1) {raised : Failure → World → Prop} :
    Ensures (OnEntries (ReadyToOpen epic)) (forEach steps (orderStep epic))
      (fun _ => OnEntries (UncountedOpening epic)) raised := by
  induction steps with
  | nil => exact ensures_pure () fun _ ready => ready.uncounted
  | cons step rest inductionHypothesis =>
    cases step with
    | interrupted interference =>
      have kept : Keeps (OnEntries (ReadyToOpen epic)) (orderStep epic (.interrupted interference)) :=
        (ready_incidental epic).keeps_interrupt interference
      have fewer : rest.count .positionOpened ≤ 1 := by simpa using once
      exact ensures_bind (kept.of_returns (order_step_returns epic _)) fun _ =>
        inductionHypothesis fewer
    | positionOpened =>
      have unopened : .positionOpened ∉ rest := by
        apply List.count_eq_zero.mp
        simpa using once
      have opened : Ensures (OnEntries (ReadyToOpen epic)) (orderStep epic .positionOpened)
          (fun _ => OnEntries (UncountedOpening epic)) raised := by
        intro world ready
        exact (ready.wait (le_max_left _ _)).opens
      exact ensures_bind opened fun _ =>
        (uncounted_incidental epic).ensures_unopened epic rest unopened

/-- After a placed order that is counted as it should be, either nothing was opened, or
the reply reports acceptance. -/
theorem ensures_placeOrder (script : ExecutionScript) (order : OpeningOrder)
    (counted : script.Counted) :
    Ensures (OnEntries (ReadyToOpen order.epic)) (placeOrder script order)
      (fun reply world => OnEntries (UncountedOpening order.epic) world ∧
        (reportsAccepted reply = false → OnEntries EntryAccount world))
      (fun _ => OnEntries EntryAccount) := by
  have submitted : Ensures (OnEntries (ReadyToOpen order.epic))
      (modify (recordOrder order) : LoopProgram Unit)
      (fun _ => OnEntries (ReadyToOpen order.epic)) (fun _ => OnEntries EntryAccount) :=
    ensures_modify _ fun _ ready => ready
  have settled : ∀ world, OnEntries (ReadyToOpen order.epic) world → OnEntries EntryAccount world :=
    fun _ ready => ready.toEntryAccount
  apply ensures_bind submitted
  intro _
  obtain unopened | ⟨once, reply, answered, accepted⟩ := counted
  · apply ensures_bind ((ready_incidental order.epic).ensures_unopened order.epic script.steps
      (List.count_eq_zero.mp unopened))
    intro _ world ready
    cases script.reply with
    | ok reply => exact ⟨ready.uncounted, fun _ => settled world ready⟩
    | error failure => exact settled world ready
  · apply ensures_bind (ensures_order_steps order.epic script.steps once.le)
    intro _
    rw [answered]
    intro world pending
    refine ⟨pending, ?_⟩
    intro rejected
    rw [accepted] at rejected
    cases rejected

/-- An execution that is counted as it should be settles the account. -/
theorem ensures_counted_execution (config : LoopConfig) (script : ExecutionScript)
    (signal : Signal) (counted : script.Counted) :
    Ensures (OnEntries (ReadyToOpen signal.epic)) (executeSignal config script signal)
      (fun _ => OnEntries EntryAccount) (fun _ => OnEntries EntryAccount) := by
  have rejected : ∀ _ : Failure, Keeps (OnEntries EntryAccount) rejectTrade :=
    fun _ => account_incidental.keeps_rejectTrade
  refine ensures_rescue ?_ rejected
  cases executionBlocked config with
  | some failure => exact ensures_raise failure fun _ ready => ready.toEntryAccount
  | none =>
    apply ensures_bind (ensures_placeOrder script (openingOrder signal) counted)
    intro reply
    cases accepted : reportsAccepted reply with
    | true =>
      simp only [bookReply, accepted, if_true]
      have counting : Ensures (OnEntries (UncountedOpening signal.epic)) (countOpening signal.epic)
          (fun _ => OnEntries EntryAccount) (fun _ => OnEntries EntryAccount) :=
        ensures_countOpening signal.epic
      apply ensures_bind (counting.enter (fun _ holds => holds.1))
      intro _
      exact account_incidental.keeps_keepOpening _ _ _
    | false =>
      simp only [bookReply, accepted]
      exact (account_incidental.keeps_rejectTrade).enter (fun _ holds => holds.2 trivial)

/-- A gated entry keeps the account: the gate opens the way for one order, which is
counted before the entry ends. -/
theorem account_keeps_gatedEntry (config : LoopConfig) (script : EntryScript) (signal : Signal)
    (counted : script.execution.Counted) :
    Keeps (OnEntries EntryAccount) (gatedEntry config script signal) := by
  apply ensures_bind (account_gate_rules.keeps_gate signal).traced
  intro rejection
  cases rejection with
  | some reason =>
    exact account_incidental.keeps_rejectTrade.enter (fun _ holds => holds.1)
  | none =>
    have entered := (ready_incidental signal.epic).ensures_enterSignal config script signal
      (fun _ ready => ready) (fun _ ready => ready.toEntryAccount) fun approved => by
        apply ensures_of_known (approved.epic = signal.epic)
        · rintro world ⟨_, start, _, entering⟩
          exact entering.epic_eq
        intro sameEpic
        have executed := ensures_counted_execution config script.execution approved counted
        rw [sameEpic] at executed
        exact executed.enter (fun _ holds => holds.1)
    apply entered.weaken
    · rintro world ⟨account, earlier, _, passed⟩
      have clear := gate_clears passed
      exact ⟨account, clear.belowCap, clear.cooledDown⟩
    · exact fun _ _ ended => ended
    · exact fun _ _ ended => ended

/-- Every part of a run keeps the account. -/
theorem account_rules (config : LoopConfig) :
    CycleRules config (fun input => input.entry.execution.Counted) (OnEntries EntryAccount) where
  toGateRules := account_gate_rules
  desk := account_incidental.desk
  noted := account_incidental.noted
  answered world request full accepted profit account := by
    cases full with
    | true => exact { account with }
    | false => exact account
  listed _ _ account := account
  reconciled _ _ _ _ account := { account with }
  entered epic input found counted _ :=
    (account_keeps_gatedEntry config input.entry _ counted).enter (fun _ holds => holds.1)

end Frames

/-- In every run in which each order opens no position, or one that is answered as
accepted, no UTC day has more openings than the daily cap, and openings of one instrument
are at least the cooldown apart. -/
theorem run_entries_bounded (config : LoopConfig) (starts : List StartInput) (clock : ℚ)
    (schedule : ℕ → ℚ) (engine : RiskEngine) (desk : Desk) (openAtBroker : ℕ)
    (counted : EachStep (fun input => input.entry.execution.Counted) starts) :
    let history :=
      (final (run config starts) (constructed clock schedule engine desk openAtBroker)).history
    (∀ day, openingsOn day (openings history) ≤ limits.maxDailyTrades) ∧
      Spaced (openings history) := by
  have initial : OnEntries EntryAccount (constructed clock schedule engine desk openAtBroker) := by
    refine ⟨le_refl _, ?_, Nat.zero_le _, fun _ => Nat.zero_le _, ?_, List.Pairwise.nil⟩
    · intro opening member
      cases member
    · intro opening member
      cases member
  have account := ((account_rules config).contracts.keeps_run starts counted).final initial
  exact ⟨account.capped, account.spaced⟩

/-- A cycle with one order whose position is opened, and closed again in the pause. -/
def openedCycle (reply : Except Failure DealReply) : CycleInput :=
  { demoCycle [] [demoStep "CS.D.EURUSD.CFD.IP" { steps := [.positionOpened], reply }] with
    pause := [.positionClosed] }

/-- Four orders whose replies are lost after the request: four openings of one instrument
within seconds on one day. -/
theorem lost_replies_uncounted :
    let history := (final (run demoConfig
      [{ cycles := List.replicate 4 (openedCycle (.error (.igConnection "Request failed"))) }])
      demoWorld).history
    openingsOn 5 (openings history) = 4 ∧ ¬ Spaced (openings history) := by
  decide +kernel

/-- With an accepted reply the second cycle is stopped by the cooldown. -/
theorem accepted_replies_counted :
    let history := (final (run demoConfig
      [{ cycles := List.replicate 2 (openedCycle (demoAcceptance "DEAL-1").reply) }])
      demoWorld).history
    (∀ day, openingsOn day (openings history) ≤ limits.maxDailyTrades) ∧
      Spaced (openings history) := by
  apply run_entries_bounded
  intro start inRun cycle inStart step inCycle
  obtain rfl := List.mem_singleton.mp inRun
  obtain rfl := List.eq_of_mem_replicate inStart
  obtain rfl := List.mem_singleton.mp inCycle
  exact Or.inr ⟨rfl, _, rfl, by decide⟩

end TradingLoop

end IgTradingBot
