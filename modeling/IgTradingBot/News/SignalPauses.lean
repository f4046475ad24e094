import IgTradingBot.News.EconomicCalendar
import Mathlib.Algebra.Order.Floor.Ring

/-!
# Pauses before scheduled events

A calendar with a static schedule is refreshed when it starts and at every midnight in UTC, and then
holds the events whose own clock shows the day of the last refresh. Signals pause before an event of
high impact exactly where such an event is held: one that is shortly after the next midnight, or
whose clock shows another day than UTC, is missed.
-/

namespace IgTradingBot

namespace EconomicCalendar

/-- The midnights in UTC after a start, up to a time. -/
def midnights (start now : ℚ) : List ℚ :=
  (List.range (utcDay now - utcDay start).toNat).map fun days : ℕ =>
    ((utcDay start + 1 + days : ℤ) : ℚ) * 86400

/-- Refresh a calendar from a static schedule at some times. -/
def refreshAt (fromisoformat : String → Option DateTime) (schedule : List RawEvent)
    (times : List ℚ) (calendar : EconomicCalendar) : EconomicCalendar :=
  times.foldl (fun current now => current.updateDaily fromisoformat
    (fun date => some (StaticScheduleProvider.fetchEvents schedule date)) now) calendar

/-- The calendar that started at a time and was refreshed at every midnight since. -/
def refreshed (fromisoformat : String → Option DateTime) (schedule : List RawEvent)
    (start now : ℚ) : EconomicCalendar :=
  refreshAt fromisoformat schedule (start :: midnights start now) {}

/-- An event of a schedule is ahead that pauses the signals of an instrument. -/
def PausesFor (fromisoformat : String → Option DateTime) (instrument : String) (now : ℚ)
    (raw : RawEvent) : Prop :=
  ∃ event ∈ parseEvent fromisoformat raw, event.impactLevel = "HIGH" ∧
    instrument ∈ event.correlatedInstruments ∧ isWithin pauseWindow now event = true

instance (fromisoformat : String → Option DateTime) (instrument : String) (now : ℚ)
    (raw : RawEvent) : Decidable (PausesFor fromisoformat instrument now raw) :=
  inferInstanceAs (Decidable (∃ event ∈ _, _))

section Refreshes

variable {fromisoformat : String → Option DateTime} {schedule : List RawEvent}

/-- A midnight begins its day. -/
theorem utc_day_midnight (day : ℤ) : utcDay (day * 86400) = day := by
  unfold utcDay
  rw [mul_div_cancel_right₀ _ (by norm_num : (86400 : ℚ) ≠ 0), Int.floor_intCast]

/-- After some refreshes, the events are those of the day of the last one. -/
theorem refresh_at_events (times : List ℚ) (last : ℚ) (calendar : EconomicCalendar) :
    (refreshAt fromisoformat schedule (times ++ [last]) calendar).events =
      (schedule.filter fun event =>
        StaticScheduleProvider.eventMatchesDate event (utcDay last)).filterMap
          (parseEvent fromisoformat) := by
  unfold refreshAt
  rw [List.foldl_append]
  rfl

/-- The last refresh is on the day of the check: it is the start, or the last midnight. -/
theorem last_refresh_today {start now : ℚ} (started : start ≤ now) :
    ∃ times last, start :: midnights start now = times ++ [last] ∧ utcDay last = utcDay now := by
  have notBefore : utcDay start ≤ utcDay now := Int.floor_mono (by gcongr)
  cases days : (utcDay now - utcDay start).toNat with
  | zero =>
    refine ⟨[], start, ?_, by omega⟩
    simp [midnights, days]
  | succ rest =>
    have today : utcDay start + 1 + rest = utcDay now := by omega
    refine ⟨start :: (List.range rest).map fun days : ℕ =>
        ((utcDay start + 1 + days : ℤ) : ℚ) * 86400,
      ((utcDay now : ℤ) : ℚ) * 86400, ?_, utc_day_midnight _⟩
    rw [midnights, days, List.range_succ, List.map_append, List.map_singleton, today]
    rfl

/-- The events of a calendar that is refreshed at every midnight are those of the day. -/
theorem refreshed_events {start now : ℚ} (started : start ≤ now) :
    (refreshed fromisoformat schedule start now).events =
      (schedule.filter fun event =>
        StaticScheduleProvider.eventMatchesDate event (utcDay now)).filterMap
          (parseEvent fromisoformat) := by
  obtain ⟨times, last, refreshes, today⟩ := last_refresh_today started
  rw [refreshed, refreshes, refresh_at_events, today]

/-- Signals pause exactly where an event of the day is ahead. -/
theorem should_pause_signals_iff {start now : ℚ} (started : start ≤ now) (instrument : String) :
    (refreshed fromisoformat schedule start now).shouldPauseSignals instrument now = true ↔
      ∃ raw ∈ schedule, StaticScheduleProvider.eventMatchesDate raw (utcDay now) = true ∧
        PausesFor fromisoformat instrument now raw := by
  unfold shouldPauseSignals
  rw [refreshed_events started]
  simp only [List.any_eq_true, List.mem_filterMap, List.mem_filter, PausesFor, Option.mem_def,
    Bool.and_eq_true, beq_iff_eq, decide_eq_true_eq, and_assoc]
  constructor
  · rintro ⟨event, ⟨raw, listed, dated, parsed⟩, facts⟩
    exact ⟨raw, listed, dated, event, parsed, facts⟩
  · rintro ⟨raw, listed, dated, event, parsed, facts⟩
    exact ⟨event, ⟨raw, listed, dated, parsed⟩, facts⟩

end Refreshes

/-- Every event of high impact of a schedule pauses the signals of its instruments shortly before
it. -/
def PausesBeforeEvents (fromisoformat : String → Option DateTime) (schedule : List RawEvent)
    (start now : ℚ) : Prop :=
  ∀ raw ∈ schedule, ∀ event ∈ parseEvent fromisoformat raw, event.impactLevel = "HIGH" →
    now ≤ event.scheduledAt.instant → event.scheduledAt.instant ≤ now + pauseWindow →
      ∀ instrument ∈ event.correlatedInstruments,
        (refreshed fromisoformat schedule start now).shouldPauseSignals instrument now = true

/-- For every event of high impact that is shortly ahead, and every instrument of it, one of those
events has the day in UTC on its own clock. -/
def DatedToday (fromisoformat : String → Option DateTime) (schedule : List RawEvent) (now : ℚ) :
    Prop :=
  ∀ raw ∈ schedule, ∀ event ∈ parseEvent fromisoformat raw, event.impactLevel = "HIGH" →
    now ≤ event.scheduledAt.instant → event.scheduledAt.instant ≤ now + pauseWindow →
      ∀ instrument ∈ event.correlatedInstruments,
        ∃ other ∈ schedule, StaticScheduleProvider.eventMatchesDate other (utcDay now) = true ∧
          PausesFor fromisoformat instrument now other

instance (fromisoformat : String → Option DateTime) (schedule : List RawEvent) (now : ℚ) :
    Decidable (DatedToday fromisoformat schedule now) :=
  inferInstanceAs (Decidable (∀ raw ∈ _, ∀ event ∈ _, _ → _ → _ → ∀ instrument ∈ _,
    ∃ other ∈ _, _))

/-- For every static schedule, start and later check: every event of high impact pauses the signals of
its instruments shortly before it exactly when, for each of them, such an event has the day in UTC on
its own clock. -/
theorem pauses_before_events_iff (fromisoformat : String → Option DateTime)
    (schedule : List RawEvent) {start now : ℚ} (started : start ≤ now) :
    PausesBeforeEvents fromisoformat schedule start now ↔
      DatedToday fromisoformat schedule now := by
  unfold PausesBeforeEvents DatedToday
  simp only [should_pause_signals_iff started]

/-- An event of high impact on a clock that shows UTC. -/
def eventAt (scheduledAt : ℚ) : RawEvent where
  id := some "event"
  scheduledAt := some (.moment (DateTime.utc scheduledAt))
  correlatedInstruments := some ["EURUSD"]

/-- An event at noon pauses signals two minutes before. -/
theorem pauses_before_noon :
    DatedToday (fun _ => none) [eventAt 43200] 43080 ∧
      PausesBeforeEvents (fun _ => none) [eventAt 43200] 0 43080 :=
  have dated : DatedToday (fun _ => none) [eventAt 43200] 43080 := by decide +kernel
  ⟨dated, (pauses_before_events_iff (fun _ => none) [eventAt 43200] (by norm_num)).mpr dated⟩

/-- An event two minutes after midnight is missed two minutes before midnight. -/
theorem event_after_midnight_is_missed :
    ¬PausesBeforeEvents (fun _ => none) [eventAt (86400 + 120)] 0 (86400 - 120) := by
  intro pauses
  have paused := pauses (eventAt (86400 + 120)) List.mem_cons_self _ rfl rfl (by decide +kernel)
    (by decide +kernel) "EURUSD" List.mem_cons_self
  exact absurd paused (by decide +kernel)

end EconomicCalendar

end IgTradingBot
