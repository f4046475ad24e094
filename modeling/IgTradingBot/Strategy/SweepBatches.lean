import IgTradingBot.Library.Machines
import IgTradingBot.Strategy.LiquiditySweep

/-!
# Batches of candles

The loop polls prices, which close candles, and analyzes an instrument whenever its turn
comes; so the candles of a day reach the state machine in batches that depend on the
timing. The state does not: it is the one that a single call leaves. The machine below
interleaves polls and analyses in any order.
-/

namespace IgTradingBot

open LiquiditySweep

/-- A signal that a call has returned, with the candle that triggered it and the latest closed
candle of the call. -/
structure SweepEmission where
  epic : String
  signal : SweepSignal
  trigger : Option Candle
  latest : Option Candle
  deriving DecidableEq, Repr

/-- The attributes of the loop that the analysis uses, and the signals that it has returned,
the latest first. An instrument without an entry has a fresh state. -/
structure SweepDesk where
  buffer : CandleBuffer := {}
  snapshots : AList (fun _ : String => Snapshot) := ∅
  sweepStates : AList (fun _ : String => LiquiditySweepState) := ∅
  emitted : List SweepEmission := []

/-- A poll of both prices at a time, or an analysis. -/
inductive SweepMove where
  | polled (epic : String) (bid offer now : ℚ)
  | analyzed (epic : String)
  deriving DecidableEq, Repr

/-- The move is a poll. -/
def SweepMove.isPoll : SweepMove → Bool
  | .polled _ _ _ _ => true
  | .analyzed _ => false

namespace SweepDesk

/-- Closed candles of an instrument. -/
def candles (desk : SweepDesk) (epic : String) : List Candle := desk.buffer.getCandles epic false

/-- State of an instrument. -/
def sweepState (desk : SweepDesk) (epic : String) : LiquiditySweepState :=
  (desk.sweepStates.lookup epic).getD {}

/-- What an analysis of an instrument leaves. -/
def outcome (desk : SweepDesk) (epic : String) : SweepOutcome :=
  analyze epic (desk.candles epic) (desk.snapshots.lookup epic) (desk.sweepState epic)

/-- One move. -/
def step (desk : SweepDesk) : SweepMove → SweepDesk
  | .polled epic bid offer now =>
    { desk with
        snapshots := desk.snapshots.insert epic ⟨bid, offer⟩
        buffer := desk.buffer.onTick epic (some (.number bid)) (some (.number offer)) now }
  | .analyzed epic =>
    { desk with
        sweepStates := desk.sweepStates.insert epic (desk.outcome epic).state
        emitted :=
          match (desk.outcome epic).signal with
          | some signal =>
            ⟨epic, signal, (desk.outcome epic).trigger, (desk.candles epic).getLast?⟩ ::
              desk.emitted
          | none => desk.emitted }

/-- UTC day of the latest closed candle of an instrument. -/
def currentDay (desk : SweepDesk) (epic : String) : Option ℤ :=
  (desk.candles epic).getLast?.map dayOf

/-- A move keeps to a setting: it evicts no candle of the instrument, and it analyzes the
instrument on one day only. -/
def KeepsTo (epic : String) (day : ℤ) (desk : SweepDesk) (move : SweepMove) : Prop :=
  desk.candles epic <+: (desk.step move).candles epic ∧
    (move = .analyzed epic → desk.currentDay epic = some day)

instance (epic : String) (day : ℤ) (desk : SweepDesk) (move : SweepMove) :
    Decidable (KeepsTo epic day desk move) := inferInstanceAs (Decidable (_ ∧ _))

end SweepDesk

namespace LiquiditySweep

/-- The state that one candle leaves. -/
def advance (range : DailyRange) (state : LiquiditySweepState) (candle : Candle) :
    LiquiditySweepState := (processCandle range state candle).1

section Calls

variable {epic : String} {candles : List Candle} {snapshot : Option Snapshot}
  {state : LiquiditySweepState} {range : DailyRange} {day : ℤ}

/-- A candle leaves its time, and the day as it was. -/
theorem advance_cursor (range : DailyRange) (state : LiquiditySweepState) (candle : Candle) :
    (advance range state candle).lastCandleTime = some candle.time := rfl

theorem advance_day (range : DailyRange) (state : LiquiditySweepState) (candle : Candle) :
    (advance range state candle).day = state.day := by
  have broken : (awaitBreak range state candle).day = state.day := by
    unfold awaitBreak
    split_ifs <;> rfl
  have bought : (armBuy range (awaitBreak range state candle) candle).day = state.day := by
    unfold armBuy
    split_ifs <;> exact broken
  have armed : (armSell range (armBuy range (awaitBreak range state candle) candle) candle).day =
      state.day := by
    unfold armSell
    split_ifs <;> exact bought
  have fired : ∀ other : LiquiditySweepState, (fireBuy other candle).1.day = other.day := by
    intro other
    unfold fireBuy
    split_ifs <;> rfl
  have sold : ∀ other : LiquiditySweepState, (fireSell other candle).1.day = other.day := by
    intro other
    unfold fireSell
    split_ifs <;> rfl
  simp only [advance, processCandle]
  rw [sold, fired, armed]

/-- The state of a call depends on the range and on the candles only. -/
theorem sweep_state (shown : Snapshot) (latest : Candle) (items : List Candle)
    (progress : SweepOutcome) :
    (items.foldl (sweepCandle epic candles shown latest range) progress).state =
      items.foldl (advance range) progress.state := by
  induction items generalizing progress with
  | nil => rfl
  | cons candle rest inductionHypothesis =>
    have one : (sweepCandle epic candles shown latest range progress candle).state =
        advance range progress.state candle := by
      unfold sweepCandle advance
      split
      next reached crossing processed =>
        rw [processed]
        split_ifs <;> rfl
      next reached processed => rw [processed]
    rw [List.foldl_cons, List.foldl_cons, inductionHypothesis, one]

/-- A call gets to the candles. -/
structure Examines (candles : List Candle) (snapshot : Option Snapshot) (latest : Candle)
    (range : DailyRange) : Prop where
  enough : CandleBuffer.minCandlesForStrategy ≤ candles.length
  priced : snapshot.isSome = true
  latest_eq : candles.getLast? = some latest
  range_eq : previousDailyRange candles (dayOf latest) = some range

/-- A call gets to the candles, or leaves the state as it is. -/
theorem analyze_cases (epic : String) (candles : List Candle) (snapshot : Option Snapshot)
    (state : LiquiditySweepState) :
    (∃ latest range, Examines candles snapshot latest range) ∨
      ((analyze epic candles snapshot state).state = state ∧
        (analyze epic candles snapshot state).signal = none) := by
  by_cases few : candles.length < CandleBuffer.minCandlesForStrategy
  · simp [analyze, few]
  · cases snapshot with
    | none => simp [analyze, few]
    | some shown =>
      cases ended : candles.getLast? with
      | none => simp [analyze, few, ended]
      | some latest =>
        cases found : previousDailyRange candles (dayOf latest) with
        | none => simp [analyze, few, ended, found]
        | some range => exact Or.inl ⟨latest, range, not_lt.mp few, rfl, ended, found⟩

/-- A call that gets to the candles resumes behind the last processed one. -/
theorem Examines.run {latest : Candle} (examines : Examines candles snapshot latest range)
    (epic : String) (state : LiquiditySweepState) :
    ∃ shown, snapshot = some shown ∧ analyze epic candles snapshot state =
      decided range
        ((pendingCandles (dayOf latest) (resumedState (dayOf latest) state) candles).foldl
          (sweepCandle epic candles shown latest range)
          { state := resumedState (dayOf latest) state }) := by
  obtain ⟨shown, rfl⟩ := Option.isSome_iff_exists.mp examines.priced
  refine ⟨shown, rfl, ?_⟩
  simp only [analyze, not_lt.mpr examines.enough, if_false, examines.latest_eq, examines.range_eq]

theorem Examines.state_eq {latest : Candle} (examines : Examines candles snapshot latest range)
    (epic : String) (state : LiquiditySweepState) :
    (analyze epic candles snapshot state).state =
      Cursors.resume (·.time) (·.lastCandleTime) (advance range)
        (resumedState (dayOf latest) state) (candles.filter (dayOf · = dayOf latest)) := by
  obtain ⟨shown, _, ran⟩ := examines.run epic state
  rw [ran]
  exact sweep_state shown latest _ _

/-- Processing candles keeps the day. -/
theorem resume_day (range : DailyRange) (state : LiquiditySweepState) (items : List Candle) :
    (Cursors.resume (·.time) (·.lastCandleTime) (advance range) state items).day = state.day := by
  unfold Cursors.resume
  generalize Cursors.behind (·.time) state.lastCandleTime items = pending
  induction pending generalizing state with
  | nil => rfl
  | cons candle rest inductionHypothesis =>
    rw [List.foldl_cons, inductionHypothesis, advance_day]

theorem resumed_day (day : ℤ) (state : LiquiditySweepState) :
    (resumedState day state).day = some day := by
  unfold resumedState
  split_ifs with same
  · exact same
  · rfl

/-- Candles of a day do not change the range before it. -/
theorem previous_range_append {earlier later : List Candle}
    (ofDay : ∀ candle ∈ later, dayOf candle = day) :
    previousDailyRange (earlier ++ later) day = previousDailyRange earlier day := by
  have noDay : ((later.map dayOf).filter (· < day)) = [] := by
    apply List.filter_eq_nil_iff.mpr
    intro found member
    obtain ⟨candle, inLater, rfl⟩ := List.mem_map.mp member
    simp [ofDay candle inLater]
  have noCandle : ∀ previous, previous < day →
      later.filter (dayOf · = previous) = [] := by
    intro previous before
    apply List.filter_eq_nil_iff.mpr
    intro candle inLater
    have different : day ≠ previous := before.ne'
    simp [ofDay candle inLater, different]
  unfold previousDailyRange
  rw [List.map_append, List.filter_append, noDay, List.append_nil]
  cases found : ((earlier.map dayOf).filter (· < day)).max? with
  | none => rfl
  | some previous =>
    have member := List.max?_mem found
    have before : previous < day := of_decide_eq_true (List.mem_filter.mp member).2
    simp only [Option.bind_eq_bind, Option.bind_some, List.filter_append, noCandle previous before,
      List.append_nil]

/-- The law of batches: a call on a part of the candles of a day makes no difference to the
state that a call on all of them leaves. -/
theorem analyze_absorbs (epic : String) {earlier later : List Candle} {before : Option Snapshot}
    (state : LiquiditySweepState)
    (increasing : Cursors.Increasing (·.time) (earlier ++ later))
    (started : earlier.getLast?.map dayOf = some day)
    (ended : (earlier ++ later).getLast?.map dayOf = some day)
    (ofDay : ∀ candle ∈ later, dayOf candle = day)
    (stillPriced : before.isSome = true → snapshot.isSome = true) :
    (analyze epic (earlier ++ later) snapshot (analyze epic earlier before state).state).state =
      (analyze epic (earlier ++ later) snapshot state).state := by
  obtain ⟨latest, range, examines⟩ | ⟨unchanged, _⟩ := analyze_cases epic earlier before state
  · have sameDay : dayOf latest = day := by
      rw [examines.latest_eq] at started
      exact Option.some.inj started
    obtain ⟨last, isLast, lastDay⟩ := Option.map_eq_some_iff.mp ended
    have whole : Examines (earlier ++ later) snapshot last range := by
      refine ⟨?_, stillPriced examines.priced, isLast, ?_⟩
      · rw [List.length_append]
        exact examines.enough.trans (Nat.le_add_right _ _)
      · rw [lastDay, previous_range_append ofDay, ← sameDay]
        exact examines.range_eq
    have first := examines.state_eq epic state
    have resumed : resumedState day (analyze epic earlier before state).state =
        (analyze epic earlier before state).state := by
      have sameState : (analyze epic earlier before state).state.day = some day := by
        rw [first, resume_day, sameDay]
        exact resumed_day day state
      rw [resumedState, if_pos sameState]
    rw [whole.state_eq, whole.state_eq, lastDay, resumed, first, sameDay, List.filter_append]
    apply Cursors.resume_resume
    · exact fun reached candle => advance_cursor range reached candle
    · rw [← List.filter_append]
      exact List.Pairwise.filter _ increasing
  · rw [unchanged]

end Calls

/-- Between two days in order lies only that day. -/
theorem of_day_of_increasing {earlier later : List Candle} {day : ℤ}
    (increasing : Cursors.Increasing (·.time) (earlier ++ later))
    (started : earlier.getLast?.map dayOf = some day)
    (ended : (earlier ++ later).getLast?.map dayOf = some day) :
    ∀ candle ∈ later, dayOf candle = day := by
  intro candle member
  obtain ⟨first, isFirst, firstDay⟩ := Option.map_eq_some_iff.mp started
  obtain ⟨last, isLast, lastDay⟩ := Option.map_eq_some_iff.mp ended
  have after : first.time < candle.time :=
    (List.pairwise_append.mp increasing).2.2 first (List.mem_of_getLast? isFirst) candle member
  have upTo : candle.time ≤ last.time :=
    increasing.le_last isLast (List.mem_append_right earlier member)
  apply le_antisymm
  · exact (utc_day_mono upTo).trans_eq lastDay
  · exact firstDay.symm.trans_le (utc_day_mono after.le)

end LiquiditySweep

namespace SweepDesk

theorem candles_eq (desk : SweepDesk) (epic : String) :
    desk.candles epic = desk.buffer.candles epic := by
  simp [candles, CandleBuffer.getCandles]

theorem sweep_state_analyzed (desk : SweepDesk) (epic : String) :
    (desk.step (.analyzed epic)).sweepState epic = (desk.outcome epic).state := by
  simp [step, sweepState]

theorem sweep_state_other (desk : SweepDesk) {epic other : String} (different : epic ≠ other) :
    (desk.step (.analyzed other)).sweepState epic = desk.sweepState epic := by
  simp [step, sweepState, AList.lookup_insert_ne different]

/-- Two desks have been polled alike, and whatever candles of the day may still follow, a call
on all of them leaves the same state in both. -/
structure Alike (epic : String) (day : ℤ) (desk other : SweepDesk) : Prop where
  buffer : desk.buffer = other.buffer
  snapshots : desk.snapshots = other.snapshots
  sameState : ∀ later snapshot, Cursors.Increasing (·.time) (desk.candles epic ++ later) →
    (desk.candles epic ++ later).getLast?.map dayOf = some day →
    ((desk.snapshots.lookup epic).isSome = true → snapshot.isSome = true) →
    (analyze epic (desk.candles epic ++ later) snapshot (desk.sweepState epic)).state =
      (analyze epic (desk.candles epic ++ later) snapshot (other.sweepState epic)).state

theorem Alike.refl (epic : String) (day : ℤ) (desk : SweepDesk) : Alike epic day desk desk :=
  ⟨rfl, rfl, fun _ _ _ _ _ => rfl⟩

section Steps

variable {epic : String} {day : ℤ} {desk other : SweepDesk}

/-- A poll that evicts nothing keeps two desks alike. -/
theorem Alike.polled (alike : Alike epic day desk other) (ticked : String) (bid offer now : ℚ)
    (kept : desk.candles epic <+: (desk.step (.polled ticked bid offer now)).candles epic) :
    Alike epic day (desk.step (.polled ticked bid offer now))
      (other.step (.polled ticked bid offer now)) := by
  refine ⟨?_, ?_, ?_⟩
  · simp only [step, alike.buffer]
  · simp only [step, alike.snapshots]
  · intro later snapshot increasing ended priced
    obtain ⟨closed, grown⟩ := kept
    rw [← grown, List.append_assoc] at increasing ended ⊢
    apply alike.sameState _ snapshot increasing ended
    intro wasPriced
    apply priced
    by_cases same : epic = ticked
    · subst same
      simp [step]
    · simp only [step, AList.lookup_insert_ne same]
      exact wasPriced

/-- An analysis of one of two desks keeps them alike. -/
theorem Alike.analyzed (alike : Alike epic day desk other)
    (today : desk.currentDay epic = some day) :
    Alike epic day (desk.step (.analyzed epic)) other := by
  refine ⟨alike.buffer, alike.snapshots, ?_⟩
  intro later snapshot increasing ended priced
  rw [sweep_state_analyzed]
  have ofDay := of_day_of_increasing increasing today ended
  exact (analyze_absorbs epic (desk.sweepState epic) increasing today ended ofDay priced).trans
    (alike.sameState later snapshot increasing ended priced)

theorem Alike.analyzedOther (alike : Alike epic day desk other) {analyzed : String}
    (different : epic ≠ analyzed) : Alike epic day (desk.step (.analyzed analyzed)) other := by
  refine ⟨alike.buffer, alike.snapshots, ?_⟩
  intro later snapshot increasing ended priced
  rw [sweep_state_other desk different]
  exact alike.sameState later snapshot increasing ended priced

/-- A run and its polls alone leave two desks alike. The induction is on the moves. -/
theorem Alike.run (alike : Alike epic day desk other) (moves : List SweepMove)
    (keeps : Machines.Conforms step (KeepsTo epic day) desk moves) :
    Alike epic day (Machines.after step desk moves)
      (Machines.after step other (moves.filter (·.isPoll))) := by
  induction moves generalizing desk other with
  | nil => exact alike
  | cons move rest inductionHypothesis =>
    obtain ⟨⟨kept, today⟩, remaining⟩ := keeps
    cases move with
    | polled ticked bid offer now =>
      exact inductionHypothesis (alike.polled ticked bid offer now kept) remaining
    | analyzed analyzed =>
      by_cases same : analyzed = epic
      · subst same
        exact inductionHypothesis (alike.analyzed (today rfl)) remaining
      · exact inductionHypothesis (alike.analyzedOther (Ne.symm same)) remaining

end Steps

end SweepDesk

end IgTradingBot
