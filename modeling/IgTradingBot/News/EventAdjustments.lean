import IgTradingBot.Library.Machines
import IgTradingBot.News.EconomicCalendar

/-!
# Adjustments before scheduled events

A check widens the stops of the instruments of the events that are shortly ahead. The calendar
remembers the identifiers of the events that it adjusted for, and an update forgets them. An event
is adjusted for a second time after an update that falls before it, and never where another event
with its identifier, such as the empty one, came first.

What it means for two events of successive updates to be the same one is not for the calendar to
say: the results hold for every notion of identity.
-/

namespace IgTradingBot

/-- A call of the calendar. -/
inductive CalendarCall where
  | updateDaily (fetched : Option (List RawEvent)) (now : ℚ)
  | checkAndApplyAdjustments (now : ℚ)

/-- A calendar, the events that a check was shortly before, and those that were adjusted for. -/
structure CalendarHistory where
  calendar : EconomicCalendar := {}
  due : List EconomicEventData := []
  applied : List EconomicEventData := []

namespace EconomicCalendar

/-- The events that a check is to adjust for: those of high impact that are shortly ahead, and have
correlated instruments. -/
def dueEvents (now : ℚ) (calendar : EconomicCalendar) : List EconomicEventData :=
  (calendar.upcoming now).filter fun event => event.correlatedInstruments ≠ []

/-- The first event of every identifier that is not noted. -/
def firstOfIds (noted : Finset String) : List EconomicEventData → List EconomicEventData
  | [] => []
  | event :: rest =>
    if event.id ∈ noted then firstOfIds noted rest
    else event :: firstOfIds (insert event.id noted) rest

/-- The identifiers and instruments of records of adjustments. -/
def adjustedFor (adjustments : List PreEventAdjustment) : List (String × String) :=
  adjustments.map fun adjustment => (adjustment.eventId, adjustment.instrument)

/-- The identifiers and instruments that adjustments for some events have. -/
def instrumentsOf (events : List EconomicEventData) : List (String × String) :=
  events.flatMap fun event => event.correlatedInstruments.map fun instrument => (event.id, instrument)

/-- A calendar was adjusted for some events: every correlated instrument of each has a record, and
its stop is widened once if there is a callback. -/
structure Adjusted (widenStop : Option WidenStop) (events : List EconomicEventData)
    (calendar later : EconomicCalendar) : Prop where
  records : adjustedFor later.adjustmentHistory =
    adjustedFor calendar.adjustmentHistory ++ instrumentsOf events
  widened : later.widenedStops = calendar.widenedStops ++
    if widenStop.isSome then events.flatMap (·.correlatedInstruments) else []

section Adjustments

variable (widenStop : Option WidenStop) (calendar : EconomicCalendar)

/-- The adjustment for an instrument has its record, and the stop is widened once. -/
theorem adjust_instrument (event : EconomicEventData) (now : ℚ) (instrument : String) :
    adjustedFor (adjustInstrument widenStop event now instrument calendar).2.adjustmentHistory =
        adjustedFor calendar.adjustmentHistory ++ [(event.id, instrument)] ∧
      (adjustInstrument widenStop event now instrument calendar).2.widenedStops =
        calendar.widenedStops ++ (if widenStop.isSome then [instrument] else []) ∧
      (adjustInstrument widenStop event now instrument calendar).2.adjustedEventIds =
        calendar.adjustedEventIds := by
  refine ⟨?_, ?_, rfl⟩
  · unfold adjustInstrument adjustedFor
    dsimp only
    rw [List.map_append, List.map_singleton]
    split <;> rfl
  · cases widenStop <;> rfl

/-- The adjustments of an event have the records of its instruments, and each stop is widened once.
The induction is on the instruments. -/
theorem apply_pre_event_adjustments (event : EconomicEventData) (now : ℚ)
    (instruments : List String) :
    let later := (applyPreEventAdjustments widenStop event now instruments calendar).2
    adjustedFor later.adjustmentHistory = adjustedFor calendar.adjustmentHistory ++
        instruments.map (fun instrument => (event.id, instrument)) ∧
      later.widenedStops =
        calendar.widenedStops ++ (if widenStop.isSome then instruments else []) ∧
      later.adjustedEventIds = calendar.adjustedEventIds := by
  induction instruments generalizing calendar with
  | nil => exact ⟨(List.append_nil _).symm, by simp [applyPreEventAdjustments], rfl⟩
  | cons instrument rest inductionHypothesis =>
    obtain ⟨records, widened, noted⟩ :=
      adjust_instrument widenStop calendar event now instrument
    obtain ⟨laterRecords, laterWidened, laterNoted⟩ := inductionHypothesis
      (adjustInstrument widenStop event now instrument calendar).2
    refine ⟨laterRecords.trans ?_, laterWidened.trans ?_, laterNoted.trans noted⟩
    · rw [records, List.append_assoc]
      rfl
    · rw [widened, List.append_assoc]
      cases widenStop <;> rfl

/-- The adjustments for upcoming events are those of the first event of every identifier that is not
noted. The induction is on the events, with the identifiers that are noted before each. -/
theorem adjust_events (now : ℚ) (events : List EconomicEventData) :
    let adjusted := adjustEvents widenStop now events calendar
    adjusted.1.map (·.1) = firstOfIds calendar.adjustedEventIds
        (events.filter fun event => event.correlatedInstruments ≠ []) ∧
      Adjusted widenStop (adjusted.1.map (·.1)) calendar adjusted.2 := by
  induction events generalizing calendar with
  | nil =>
    refine ⟨rfl, ?_, ?_⟩
    · exact (List.append_nil _).symm
    · simp [adjustEvents]
  | cons event rest inductionHypothesis =>
    dsimp only
    unfold adjustEvents
    split_ifs with isNoted uncorrelated
    · obtain ⟨first, adjusted⟩ := inductionHypothesis calendar
      refine ⟨first.trans ?_, adjusted⟩
      rw [List.filter_cons]
      split_ifs
      · rw [firstOfIds, if_pos isNoted]
      · rfl
    · obtain ⟨first, adjusted⟩ := inductionHypothesis calendar
      refine ⟨first.trans ?_, adjusted⟩
      rw [List.filter_cons_of_neg (by simp [uncorrelated])]
    · obtain ⟨records, widened, noted⟩ := apply_pre_event_adjustments widenStop calendar
        event now event.correlatedInstruments
      set applied := applyPreEventAdjustments widenStop event now event.correlatedInstruments
        calendar
      obtain ⟨first, adjusted⟩ := inductionHypothesis { applied.2 with
        adjustedEventIds := insert event.id applied.2.adjustedEventIds }
      refine ⟨?_, ?_, ?_⟩
      · rw [List.filter_cons_of_pos (by simp [uncorrelated]), firstOfIds, if_neg isNoted, ← noted]
        exact congrArg (event :: ·) first
      · refine adjusted.records.trans ?_
        rw [records, List.append_assoc]
        rfl
      · refine adjusted.widened.trans ?_
        rw [widened, List.append_assoc]
        cases widenStop <;> rfl

end Adjustments

end EconomicCalendar

namespace CalendarHistory

open EconomicCalendar

variable {K : Type} [DecidableEq K]

/-- A call of the calendar, with the events that it is before and those that it adjusts for. -/
def step (fromisoformat : String → Option DateTime) (widenStop : Option WidenStop)
    (history : CalendarHistory) : CalendarCall → CalendarHistory
  | .updateDaily fetched now =>
    { history with
        calendar := history.calendar.updateDaily fromisoformat (fun _ => fetched) now }
  | .checkAndApplyAdjustments now =>
    let (adjusted, later) := history.calendar.checkAndApplyAdjustments widenStop now
    { calendar := later
      due := history.due ++ history.calendar.dueEvents now
      applied := history.applied ++ adjusted.map (·.1) }

/-- Every event that a check was shortly before was adjusted for exactly once: each of its correlated
instruments has a record, and its stop was widened if there is a callback. -/
structure AppliesOnce (widenStop : Option WidenStop) (identity : EconomicEventData → K)
    (history : CalendarHistory) : Prop where
  once : ∀ event ∈ history.due,
    history.applied.countP (fun other => identity other = identity event) = 1
  adjusted : Adjusted widenStop history.applied {} history.calendar

/-- A check adjusts for an event exactly where it is the first time: no event that was due before is
the first one of an identifier that is not noted, and of any other exactly one is. -/
def Adjusts (identity : EconomicEventData → K) (history : CalendarHistory) : CalendarCall → Prop
  | .updateDaily _ _ => True
  | .checkAndApplyAdjustments now => ∀ event ∈ history.calendar.dueEvents now,
    (firstOfIds history.calendar.adjustedEventIds (history.calendar.dueEvents now)).countP
        (fun other => identity other = identity event) =
      if identity event ∈ history.due.map identity then 0 else 1

instance (identity : EconomicEventData → K) (history : CalendarHistory) :
    ∀ call, Decidable (history.Adjusts identity call)
  | .updateDaily _ _ => inferInstanceAs (Decidable True)
  | .checkAndApplyAdjustments _ => inferInstanceAs (Decidable (∀ event ∈ _, _))

/-- Only events that were due are adjusted for, and what was done for them is on record. -/
structure Recorded (widenStop : Option WidenStop) (history : CalendarHistory) : Prop where
  wereDue : ∀ event ∈ history.applied, event ∈ history.due
  adjusted : Adjusted widenStop history.applied {} history.calendar

section Calls

variable {fromisoformat : String → Option DateTime} {widenStop : Option WidenStop}
  {identity : EconomicEventData → K} {history : CalendarHistory}

/-- The first events of identifiers are among the events. -/
theorem mem_of_mem_first_of_ids {noted : Finset String} {events : List EconomicEventData}
    {event : EconomicEventData} (first : event ∈ firstOfIds noted events) : event ∈ events := by
  induction events generalizing noted with
  | nil => exact first
  | cons other rest inductionHypothesis =>
    unfold firstOfIds at first
    split_ifs at first
    · exact List.mem_cons_of_mem _ (inductionHypothesis first)
    · obtain rfl | later := List.mem_cons.mp first
      · exact List.mem_cons_self
      · exact List.mem_cons_of_mem _ (inductionHypothesis later)

/-- A check adjusts for the first event of every identifier that is not noted. -/
theorem check_applies (fromisoformat : String → Option DateTime) (widenStop : Option WidenStop)
    (history : CalendarHistory) (now : ℚ) :
    (history.step fromisoformat widenStop (.checkAndApplyAdjustments now)).applied =
        history.applied ++ firstOfIds history.calendar.adjustedEventIds
          (history.calendar.dueEvents now) ∧
      Adjusted widenStop
        (firstOfIds history.calendar.adjustedEventIds (history.calendar.dueEvents now))
        history.calendar
        (history.step fromisoformat widenStop (.checkAndApplyAdjustments now)).calendar := by
  obtain ⟨first, adjusted⟩ := adjust_events widenStop history.calendar now
    (history.calendar.upcoming now)
  exact ⟨congrArg (history.applied ++ ·) first, first ▸ adjusted⟩

/-- Every call keeps the record of the adjustments. -/
theorem Recorded.step (recorded : history.Recorded widenStop)
    (fromisoformat : String → Option DateTime) (call : CalendarCall) :
    (history.step fromisoformat widenStop call).Recorded widenStop := by
  cases call with
  | updateDaily fetched now =>
    exact ⟨recorded.wereDue, recorded.adjusted.records, recorded.adjusted.widened⟩
  | checkAndApplyAdjustments now =>
    obtain ⟨applied, adjusted⟩ := check_applies fromisoformat widenStop history now
    constructor
    · intro event isApplied
      rw [applied] at isApplied
      obtain before | first := List.mem_append.mp isApplied
      · exact List.mem_append_left _ (recorded.wereDue event before)
      · exact List.mem_append_right _ (mem_of_mem_first_of_ids first)
    · rw [applied]
      constructor
      · rw [adjusted.records, recorded.adjusted.records, List.append_assoc, instrumentsOf,
          instrumentsOf, instrumentsOf, List.flatMap_append]
      · rw [adjusted.widened, recorded.adjusted.widened, List.append_assoc, List.flatMap_append]
        cases widenStop <;> rfl

/-- Of an event that was not due there is no adjustment. -/
theorem Recorded.count_eq_zero (recorded : history.Recorded widenStop) {value : K}
    (notDue : value ∉ history.due.map identity) :
    history.applied.countP (fun other => identity other = value) = 0 := by
  refine List.countP_eq_zero.mpr fun other isApplied => ?_
  simp only [decide_eq_true_eq]
  rintro rfl
  exact notDue (List.mem_map_of_mem (recorded.wereDue other isApplied))

/-- A call keeps one adjustment for every event that was due exactly where it adjusts for an event
the first time that it is due. -/
theorem Recorded.step_once_iff (recorded : history.Recorded widenStop)
    (applies : history.AppliesOnce widenStop identity) (call : CalendarCall) :
    (history.step fromisoformat widenStop call).AppliesOnce widenStop identity ↔
      history.Adjusts identity call := by
  have nextRecorded := recorded.step fromisoformat call
  cases call with
  | updateDaily fetched now =>
    exact iff_of_true ⟨applies.once, nextRecorded.adjusted⟩ trivial
  | checkAndApplyAdjustments now =>
    obtain ⟨applied, -⟩ := check_applies fromisoformat widenStop history now
    set first := firstOfIds history.calendar.adjustedEventIds (history.calendar.dueEvents now)
    have counted : ∀ event : EconomicEventData,
        (history.step fromisoformat widenStop (.checkAndApplyAdjustments now)).applied.countP
            (fun other => identity other = identity event) =
          history.applied.countP (fun other => identity other = identity event) +
            first.countP fun other => identity other = identity event := by
      intro event
      rw [applied, List.countP_append]
    -- An event that was due before has its adjustment, and any other has none yet.
    have before : ∀ event : EconomicEventData,
        history.applied.countP (fun other => identity other = identity event) =
          if identity event ∈ history.due.map identity then 1 else 0 := by
      intro event
      split_ifs with wasDue
      · obtain ⟨same, isDue, sameIdentity⟩ := List.mem_map.mp wasDue
        rw [← sameIdentity]
        exact applies.once same isDue
      · exact recorded.count_eq_zero wasDue
    constructor
    · intro later event isDue
      have one := later.once event (List.mem_append_right _ isDue)
      rw [counted, before] at one
      change first.countP _ = _
      split_ifs at one ⊢ <;> omega
    · intro adjusts
      refine ⟨fun event isDue => ?_, nextRecorded.adjusted⟩
      rw [counted, before]
      by_cases now_due : ∃ other ∈ history.calendar.dueEvents now, identity other = identity event
      · obtain ⟨other, otherDue, same⟩ := now_due
        have rule := adjusts other otherDue
        rw [same] at rule
        rw [rule]
        split_ifs <;> rfl
      · have none : first.countP (fun other => identity other = identity event) = 0 := by
          refine List.countP_eq_zero.mpr fun other isFirst => ?_
          simp only [decide_eq_true_eq]
          exact fun same => now_due ⟨other, mem_of_mem_first_of_ids isFirst, same⟩
        obtain was | isNew := List.mem_append.mp isDue
        · rw [none, if_pos (List.mem_map_of_mem was)]
        · exact absurd ⟨event, isNew, rfl⟩ now_due

end Calls

/-- At first nothing was due. -/
theorem recorded_new (widenStop : Option WidenStop) : Recorded widenStop {} where
  wereDue event isApplied := absurd isApplied (by simp)
  adjusted := ⟨rfl, by simp⟩

/-- For every source of events and callback, and every notion of identity of events: in every run of
updates and checks, every event that a check was shortly before is adjusted for exactly once, in
every state, exactly when every check adjusts for the events that are due the first time. -/
theorem applies_once_iff (fromisoformat : String → Option DateTime) (widenStop : Option WidenStop)
    (identity : EconomicEventData → K) (calls : List CalendarCall) :
    (∀ reached, reached <+: calls →
        AppliesOnce widenStop identity
          (Machines.after (step fromisoformat widenStop) {} reached)) ↔
      Machines.Conforms (step fromisoformat widenStop) (Adjusts identity) {} calls :=
  Machines.always_iff_conforms (fun _ call recorded => recorded.step fromisoformat call)
    (fun _ call recorded applies => recorded.step_once_iff applies call) (recorded_new widenStop)
    ⟨fun event isDue => absurd isDue (by simp), (recorded_new widenStop).adjusted⟩

/-- An event of high impact at ten minutes past midnight. -/
def earlyEvent : RawEvent where
  id := some "event"
  scheduledAt := some (.moment (DateTime.utc 600))
  correlatedInstruments := some ["EURUSD"]

/-- An update between two checks forgets that an event was adjusted for. -/
theorem update_repeats_adjustment :
    ¬∀ reached, reached <+: [.updateDaily (some [earlyEvent]) 0, .checkAndApplyAdjustments 60,
        .updateDaily (some [earlyEvent]) 120, .checkAndApplyAdjustments 180] →
      AppliesOnce (some fun _ _ => none) id
        (Machines.after (step (fun _ => none) (some fun _ _ => none)) {} reached) := by
  intro applies
  have once := (applies _ (List.prefix_refl _)).once
  exact absurd once (by decide +kernel)

end CalendarHistory

end IgTradingBot
