import IgTradingBot.Strategy.SweepBatches

/-!
# Triggers of the sweep signals

A signal is triggered by the latest closed candle of its call, and the state has passed the
trigger from then on: the cursor of the day stands at it or behind it, or the day is a later
one. So a candle that has triggered a signal is never pending again.
-/

namespace IgTradingBot

open LiquiditySweep

namespace LiquiditySweep

/-- A state has passed a candle: it is of an earlier day than the state, or the cursor has
reached it. -/
def Passed (state : LiquiditySweepState) (candle : Candle) : Prop :=
  ∃ day, state.day = some day ∧
    (dayOf candle < day ∨
      dayOf candle = day ∧ ∃ last, state.lastCandleTime = some last ∧ candle.time ≤ last)

section Calls

variable {epic : String} {candles : List Candle} {snapshot : Option Snapshot}
  {state : LiquiditySweepState} {range : DailyRange} {latest : Candle}

/-- A signal at the end of the candles was there before them, or one of them with the time of
the latest one has triggered it. The induction is on the candles. -/
theorem sweep_trigger (shown : Snapshot) (items : List Candle) (progress : SweepOutcome)
    {signal : SweepSignal}
    (made : (items.foldl (sweepCandle epic candles shown latest range) progress).signal =
      some signal) :
    (progress.signal = some signal ∧
      (items.foldl (sweepCandle epic candles shown latest range) progress).trigger =
        progress.trigger) ∨
    ∃ candle ∈ items,
      (items.foldl (sweepCandle epic candles shown latest range) progress).trigger =
        some candle ∧ candle.time = latest.time := by
  induction items generalizing progress with
  | nil => exact Or.inl ⟨made, rfl⟩
  | cons candle rest inductionHypothesis =>
    have one : ((sweepCandle epic candles shown latest range progress candle).signal =
          progress.signal ∧
        (sweepCandle epic candles shown latest range progress candle).trigger =
          progress.trigger) ∨
        ((sweepCandle epic candles shown latest range progress candle).trigger = some candle ∧
          candle.time = latest.time) := by
      unfold sweepCandle
      split
      next =>
        split_ifs with isLatest
        · exact Or.inr ⟨rfl, isLatest⟩
        · exact Or.inl ⟨rfl, rfl⟩
      next => exact Or.inl ⟨rfl, rfl⟩
    obtain ⟨before, kept⟩ | ⟨later, member, triggered, isLatest⟩ := inductionHypothesis _ made
    · obtain ⟨sameSignal, sameTrigger⟩ | ⟨triggered, isLatest⟩ := one
      · exact Or.inl ⟨sameSignal.symm.trans before, kept.trans sameTrigger⟩
      · exact Or.inr ⟨candle, List.mem_cons_self, kept.trans triggered, isLatest⟩
    · exact Or.inr ⟨later, List.mem_cons_of_mem candle member, triggered, isLatest⟩

/-- What triggers a signal is the latest closed candle, and it lay behind the cursor. -/
theorem Examines.triggered (examines : Examines candles snapshot latest range)
    (increasing : Cursors.Increasing (·.time) candles) {signal : SweepSignal}
    (made : (analyze epic candles snapshot state).signal = some signal) :
    (analyze epic candles snapshot state).trigger = some latest ∧
      latest ∈ pendingCandles (dayOf latest) (resumedState (dayOf latest) state) candles := by
  obtain ⟨shown, _, ran⟩ := examines.run epic state
  rw [ran] at made ⊢
  obtain ⟨before, _⟩ | ⟨candle, pending, triggered, sameTime⟩ := sweep_trigger shown _ _ made
  · cases before
  · have member : candle ∈ candles :=
      List.mem_of_mem_filter (List.mem_of_mem_filter pending)
    obtain rfl := increasing.eq_of_key_eq member (List.mem_of_getLast? examines.latest_eq) sameTime
    exact ⟨triggered, pending⟩

/-- The state after a call is of the day of the latest candle. -/
theorem Examines.day_eq (examines : Examines candles snapshot latest range) (epic : String)
    (state : LiquiditySweepState) :
    (analyze epic candles snapshot state).state.day = some (dayOf latest) := by
  rw [examines.state_eq, resume_day]
  exact resumed_day (dayOf latest) state

/-- A call passes every candle that was pending. -/
theorem Examines.passes (examines : Examines candles snapshot latest range)
    (increasing : Cursors.Increasing (·.time) candles) {candle : Candle}
    (pending : candle ∈
      pendingCandles (dayOf latest) (resumedState (dayOf latest) state) candles) :
    Passed (analyze epic candles snapshot state).state candle := by
  have ofDay : dayOf candle = dayOf latest :=
    of_decide_eq_true (List.mem_filter.mp (List.mem_of_mem_filter pending)).2
  refine ⟨dayOf latest, examines.day_eq epic state, Or.inr ⟨ofDay, ?_⟩⟩
  rw [examines.state_eq]
  have ordered : Cursors.Increasing (·.time) (candles.filter (dayOf · = dayOf latest)) :=
    List.Pairwise.filter _ increasing
  exact Cursors.resume_passes (·.lastCandleTime)
    (fun reached item => advance_cursor range reached item) _ ordered pending

/-- A call passes every candle that was passed before, when the state is of no later day than
the latest candle. -/
theorem Examines.keeps_passed (examines : Examines candles snapshot latest range)
    {candle : Candle} (passed : Passed state candle)
    (reached : ∀ day, state.day = some day → day ≤ dayOf latest) :
    Passed (analyze epic candles snapshot state).state candle := by
  obtain ⟨day, ofState, position⟩ := passed
  refine ⟨dayOf latest, examines.day_eq epic state, ?_⟩
  obtain earlier | sameDay := (reached day ofState).lt_or_eq
  · left
    obtain before | ⟨equal, _⟩ := position
    · exact before.trans earlier
    · exact equal.trans_lt earlier
  · obtain rfl := sameDay
    obtain before | ⟨equal, last, stood, upTo⟩ := position
    · exact Or.inl before
    · right
      refine ⟨equal, ?_⟩
      have resumed : resumedState (dayOf latest) state = state := if_pos ofState
      rw [examines.state_eq, resumed]
      obtain ⟨position, moved, forward⟩ := Cursors.resume_forward (·.lastCandleTime)
        (fun reached item => advance_cursor range reached item) state
        (candles.filter (dayOf · = dayOf latest)) stood
      exact ⟨position, moved, upTo.trans forward⟩

/-- A candle that was passed is not pending. -/
theorem Passed.not_pending (passed : Passed state latest)
    (reached : ∀ day, state.day = some day → day ≤ dayOf latest) :
    latest ∉ pendingCandles (dayOf latest) (resumedState (dayOf latest) state) candles := by
  intro pending
  obtain ⟨day, ofState, before | ⟨rfl, last, stood, upTo⟩⟩ := passed
  · exact absurd (reached day ofState) (not_le.mpr before)
  · have resumed : resumedState (dayOf latest) state = state := if_pos ofState
    obtain ⟨_, beyond⟩ := List.mem_filter.mp pending
    rw [resumed, stood] at beyond
    have later : last < latest.time := of_decide_eq_true beyond
    exact absurd upTo (not_le.mpr later)

end Calls

end LiquiditySweep

namespace SweepDesk

/-- Invariant of the loop: candles are in order, no state is ahead of its candles, and every
signal was triggered by the latest closed candle of its call, which its state has passed. -/
structure Emitting (desk : SweepDesk) : Prop where
  room : 0 < desk.buffer.maxCandles
  ordered : ∀ epic, desk.buffer.Ordered epic
  reached : ∀ epic day, (desk.sweepState epic).day = some day →
    ∃ latest, (desk.candles epic).getLast? = some latest ∧ day ≤ dayOf latest
  triggered : ∀ emission ∈ desk.emitted, ∃ candle,
    emission.trigger = some candle ∧ emission.latest = some candle ∧
      Passed (desk.sweepState emission.epic) candle
  distinct : desk.emitted.Pairwise fun later earlier =>
    later.epic = earlier.epic → later.trigger ≠ earlier.trigger

theorem emitting_start : Emitting {} := by
  refine ⟨by decide, ?_, ?_, ?_, List.Pairwise.nil⟩
  · intro epic
    exact ⟨List.Pairwise.nil, fun candle member => by cases member⟩
  · intro epic day ofState
    cases ofState
  · intro emission member
    cases member

section Steps

variable {desk : SweepDesk}

theorem Emitting.polled (emitting : desk.Emitting) (ticked : String) (bid offer now : ℚ) :
    (desk.step (.polled ticked bid offer now)).Emitting := by
  refine ⟨?_, ?_, ?_, emitting.triggered, emitting.distinct⟩
  · exact (CandleBuffer.on_tick_room _ _ _ _ _).symm ▸ emitting.room
  · intro epic
    exact (emitting.ordered epic).on_tick ticked (some (.number bid)) (some (.number offer)) now
  · intro epic day ofState
    obtain ⟨latest, ended, upTo⟩ := emitting.reached epic day ofState
    rw [candles_eq] at ended
    obtain ⟨later, nowEnded, notBefore⟩ := (emitting.ordered epic).latest_on_tick emitting.room
      ended ticked (some (.number bid)) (some (.number offer)) now
    refine ⟨later, ?_, upTo.trans (utc_day_mono notBefore)⟩
    rw [candles_eq]
    exact nowEnded

/-- A call leaves the other instruments alone. -/
theorem sweep_state_step (desk : SweepDesk) (analyzed epic : String) :
    (desk.step (.analyzed analyzed)).sweepState epic =
      if epic = analyzed then (desk.outcome analyzed).state else desk.sweepState epic := by
  split_ifs with same
  · subst same
    exact desk.sweep_state_analyzed epic
  · exact desk.sweep_state_other same

section Examined

variable {epic : String} {latest : Candle} {range : DailyRange}
  (examines : Examines (desk.candles epic) (desk.snapshots.lookup epic) latest range)
include examines

/-- The day of the state is not after the latest candle of a call that gets to the candles. -/
theorem Emitting.day_le (emitting : desk.Emitting) {day : ℤ}
    (ofState : (desk.sweepState epic).day = some day) : day ≤ dayOf latest := by
  obtain ⟨last, ended, upTo⟩ := emitting.reached epic day ofState
  obtain rfl := Option.some.inj (examines.latest_eq.symm.trans ended)
  exact upTo

/-- What was emitted is still passed after a call. -/
theorem Emitting.passed_still (emitting : desk.Emitting) {emission : SweepEmission}
    (member : emission ∈ desk.emitted) :
    ∃ candle, emission.trigger = some candle ∧ emission.latest = some candle ∧
      Passed ((desk.step (.analyzed epic)).sweepState emission.epic) candle := by
  obtain ⟨candle, triggered, isLatest, passed⟩ := emitting.triggered emission member
  refine ⟨candle, triggered, isLatest, ?_⟩
  rw [sweep_state_step]
  split_ifs with same
  · rw [same] at passed
    exact examines.keeps_passed passed fun day ofState => emitting.day_le examines ofState
  · exact passed

/-- A call takes the state to the day of the latest candle. -/
theorem Emitting.reached_step (emitting : desk.Emitting) (other : String) (day : ℤ)
    (ofState : ((desk.step (.analyzed epic)).sweepState other).day = some day) :
    ∃ last, ((desk.step (.analyzed epic)).candles other).getLast? = some last ∧
      day ≤ dayOf last := by
  rw [sweep_state_step] at ofState
  split_ifs at ofState with same
  · rw [outcome, examines.day_eq] at ofState
    obtain rfl := Option.some.inj ofState
    exact ⟨latest, same ▸ examines.latest_eq, le_refl _⟩
  · exact emitting.reached other day ofState

/-- A signal is of the latest candle, which no earlier signal of the instrument was of. -/
theorem Emitting.emitted_step (emitting : desk.Emitting) {signal : SweepSignal}
    (made : (desk.outcome epic).signal = some signal) :
    (desk.step (.analyzed epic)).Emitting := by
  have increasing : Cursors.Increasing (·.time) (desk.candles epic) :=
    desk.candles_eq epic ▸ (emitting.ordered epic).increasing
  obtain ⟨trigger, pending⟩ := examines.triggered increasing made
  have grown : (desk.step (.analyzed epic)).emitted =
      ⟨epic, signal, some latest, some latest⟩ :: desk.emitted := by
    simp only [step, made, examines.latest_eq]
    rw [outcome, trigger]
  refine ⟨emitting.room, emitting.ordered, emitting.reached_step examines, ?_, ?_⟩
  · rw [grown]
    intro emission member
    obtain rfl | earlier := List.mem_cons.mp member
    · refine ⟨latest, rfl, rfl, ?_⟩
      rw [sweep_state_analyzed]
      exact examines.passes increasing pending
    · exact emitting.passed_still examines earlier
  · rw [grown]
    refine List.pairwise_cons.mpr ⟨?_, emitting.distinct⟩
    intro earlier member sameEpic sameTrigger
    obtain ⟨candle, triggered, _, passed⟩ := emitting.triggered earlier member
    obtain rfl := Option.some.inj (sameTrigger.trans triggered)
    obtain rfl : epic = earlier.epic := sameEpic
    exact passed.not_pending (fun day ofState => emitting.day_le examines ofState) pending

end Examined

/-- A call that leaves the state as it is emits nothing. -/
theorem Emitting.unexamined_step (emitting : desk.Emitting) {epic : String}
    (unchanged : (desk.outcome epic).state = desk.sweepState epic)
    (quiet : (desk.outcome epic).signal = none) : (desk.step (.analyzed epic)).Emitting := by
  have same : (desk.step (.analyzed epic)).emitted = desk.emitted := by
    simp only [step, quiet]
  have sameState : ∀ other,
      (desk.step (.analyzed epic)).sweepState other = desk.sweepState other := by
    intro other
    rw [sweep_state_step]
    split_ifs with equal
    · rw [equal]
      exact unchanged
    · rfl
  refine ⟨emitting.room, emitting.ordered, ?_, ?_, ?_⟩
  · intro other day ofState
    rw [sameState] at ofState
    exact emitting.reached other day ofState
  · rw [same]
    intro emission member
    rw [sameState]
    exact emitting.triggered emission member
  · rw [same]
    exact emitting.distinct

theorem Emitting.analyzed (emitting : desk.Emitting) (epic : String) :
    (desk.step (.analyzed epic)).Emitting := by
  obtain ⟨latest, range, examines⟩ | ⟨unchanged, quiet⟩ :=
    analyze_cases epic (desk.candles epic) (desk.snapshots.lookup epic) (desk.sweepState epic)
  · cases made : (desk.outcome epic).signal with
    | none =>
      have same : (desk.step (.analyzed epic)).emitted = desk.emitted := by
        simp only [step, made]
      refine ⟨emitting.room, emitting.ordered, emitting.reached_step examines, ?_, ?_⟩
      · rw [same]
        exact fun emission member => emitting.passed_still examines member
      · rw [same]
        exact emitting.distinct
    | some signal => exact emitting.emitted_step examines made
  · exact emitting.unexamined_step unchanged quiet

/-- Every run keeps the invariant. -/
theorem emitting_run (moves : List SweepMove) : (Machines.after step {} moves).Emitting := by
  apply Machines.after_keeps_always _ moves emitting_start
  intro current move emitting
  cases move with
  | polled ticked bid offer now => exact emitting.polled ticked bid offer now
  | analyzed epic => exact emitting.analyzed epic

end Steps

/-- Sweep detection does not depend on the batches. A stretch of polls and analyses that
evicts no candle and analyzes the instrument on one day only, ended by an analysis, leaves
the state that the final analysis alone leaves after the same polls. In every run each signal
is triggered by the latest closed candle of its call, and no candle of an instrument triggers
two signals. -/
theorem sweep_detection_independent_of_batches (earlier moves : List SweepMove) (epic : String)
    (day : ℤ) :
    (Machines.Conforms step (KeepsTo epic day) (Machines.after step {} earlier)
        (moves ++ [.analyzed epic]) →
      (Machines.after step {} (earlier ++ (moves ++ [.analyzed epic]))).sweepState epic =
        (Machines.after step {}
          (earlier ++ (moves.filter (·.isPoll) ++ [.analyzed epic]))).sweepState epic) ∧
    (∀ emission ∈ (Machines.after step {} (earlier ++ moves)).emitted, ∃ candle,
      emission.trigger = some candle ∧ emission.latest = some candle) ∧
    (Machines.after step {} (earlier ++ moves)).emitted.Pairwise fun later earlier =>
      later.epic = earlier.epic → later.trigger ≠ earlier.trigger := by
  have emitting := emitting_run (earlier ++ moves)
  refine ⟨?_, ?_, emitting.distinct⟩
  · intro keeps
    obtain ⟨stretch, ⟨_, today⟩, _⟩ := (Machines.conforms_append _ moves _).mp keeps
    have alike := (Alike.refl epic day (Machines.after step {} earlier)).run moves stretch
    have ordered := ((emitting_run (earlier ++ moves)).ordered epic).increasing
    rw [Machines.after_append] at ordered
    simp only [Machines.after_append, Machines.after_cons, Machines.after_nil,
      sweep_state_analyzed]
    generalize Machines.after step (Machines.after step {} earlier) moves = desk at *
    generalize Machines.after step (Machines.after step {} earlier) (moves.filter (·.isPoll)) =
      other at *
    have sameCandles : other.candles epic = desk.candles epic := by
      simp only [candles, alike.buffer]
    have final := alike.sameState [] (desk.snapshots.lookup epic)
    simp only [List.append_nil] at final
    rw [outcome, outcome, sameCandles, ← alike.snapshots]
    exact final (desk.candles_eq epic ▸ ordered) (today rfl) id
  · intro emission member
    obtain ⟨candle, triggered, isLatest, _⟩ := emitting.triggered emission member
    exact ⟨candle, triggered, isLatest⟩

/-- Polls of one price, at the given times. -/
def pollsOf (epic : String) (ticks : List (ℚ × ℚ)) : List SweepMove :=
  ticks.map fun (now, price) => .polled epic price price now

/-- A day of the range 90 to 110, and the first candles of the day after it, the second of which
breaks out and turns. -/
def sweptMorning : List SweepMove :=
  pollsOf "EURUSD" [(0, 100), (60, 110), (120, 90), (86400, 100), (86460, 80), (86470, 81)]

/-- A call after the turn, and the candle that goes beyond it. -/
def sweptReversal : List SweepMove :=
  pollsOf "EURUSD" [(86520, 85)] ++ .analyzed "EURUSD" ::
    pollsOf "EURUSD" [(86530, 88), (86580, 88)]

theorem sweep_in_two_calls :
    Machines.Conforms step (KeepsTo "EURUSD" 1) (Machines.after step {} sweptMorning)
        (sweptReversal ++ [.analyzed "EURUSD"]) ∧
      (Machines.after step {}
        (sweptMorning ++ (sweptReversal ++ [.analyzed "EURUSD"]))).sweepState "EURUSD" =
        (Machines.after step {} (sweptMorning ++
          (sweptReversal.filter (·.isPoll) ++ [.analyzed "EURUSD"]))).sweepState "EURUSD" ∧
      (Machines.after step {}
        (sweptMorning ++ (sweptReversal ++ [.analyzed "EURUSD"]))).emitted.length = 1 := by
  have keeps : Machines.Conforms step (KeepsTo "EURUSD" 1) (Machines.after step {} sweptMorning)
      (sweptReversal ++ [.analyzed "EURUSD"]) := by decide +kernel
  obtain ⟨sameState, _⟩ :=
    sweep_detection_independent_of_batches sweptMorning sweptReversal "EURUSD" 1
  exact ⟨keeps, sameState keeps, by decide +kernel⟩

end SweepDesk

end IgTradingBot
