import IgTradingBot.Config.Constants
import IgTradingBot.Core.Values
import IgTradingBot.Risk.DrawdownMonitor
import Mathlib.Data.Finset.Insert

/-!
# Economic calendar

Scheduled events, from `src/news/economic_calendar.py`. The calendar loads the events of a UTC day
from its source, pauses signals shortly before events of high impact, and widens the stops of the
instruments that such an event is about. Times are seconds since the epoch. A date and time has a
clock of its own, which may say how far it is from UTC.
-/

namespace IgTradingBot

/-- A date and time: what its clock shows, and the offset of the clock from UTC if it has one. -/
structure DateTime where
  clock : ℚ
  tzinfo : Option ℚ := none
  deriving DecidableEq, Repr

namespace DateTime

/-- The time in UTC. A clock without an offset shows UTC. -/
def instant (moment : DateTime) : ℚ := moment.clock - moment.tzinfo.getD 0

/-- The day on the clock. -/
def date (moment : DateTime) : ℤ := ⌊moment.clock / 86400⌋

/-- A time in UTC on a clock that shows UTC. -/
def utc (now : ℚ) : DateTime := ⟨now, some 0⟩

end DateTime

/-- The time of an event as its source gives it. -/
inductive ScheduledAt where
  | text (value : String)
  | moment (value : DateTime)
  deriving DecidableEq, Repr

/-- An event as its source gives it: entries may be missing. -/
structure RawEvent where
  id : Option String := none
  eventName : Option String := none
  eventType : Option String := none
  scheduledAt : Option ScheduledAt := none
  impactLevel : Option String := none
  currencyRegion : Option String := none
  correlatedInstruments : Option (List String) := none
  forecastValue : Option String := none
  previousValue : Option String := none
  deriving DecidableEq, Repr

/-- A scheduled event. -/
structure EconomicEventData where
  id : String
  eventName : String
  eventType : String
  scheduledAt : DateTime
  impactLevel : String := "HIGH"
  currencyRegion : String := ""
  correlatedInstruments : List String := []
  forecastValue : Option String := none
  previousValue : Option String := none
  deriving DecidableEq, Repr

/-- Record of an adjustment before an event. -/
structure PreEventAdjustment where
  eventId : String
  eventName : String
  instrument : String
  positionSizeReduced : Bool := false
  stopWidened : Bool := false
  originalStop : Option ℚ := none
  newStop : Option ℚ := none
  atrUsed : Option ℚ := none
  adjustedAt : ℚ
  deriving DecidableEq, Repr

/-- What is answered when a stop is widened. -/
structure WidenedStop where
  originalStop : Option ℚ := none
  newStop : Option ℚ := none
  atrUsed : Option ℚ := none

/-- The stops are widened by a callback. Its answer may depend on the instruments for which it was
called before; there is none if it fails. -/
abbrev WidenStop := List String → String → Option WidenedStop

namespace StaticScheduleProvider

/-- An event is scheduled on a day. Only a date and time has a day. -/
def eventMatchesDate (event : RawEvent) (targetDate : ℤ) : Bool :=
  match event.scheduledAt with
  | some (.moment scheduled) => scheduled.date = targetDate
  | some (.text _) => false
  | none => false

/-- The events of the day of a date. -/
def fetchEvents (events : List RawEvent) (date : DateTime) : List RawEvent :=
  events.filter fun event => eventMatchesDate event date.date

end StaticScheduleProvider

/-- State of the calendar, with the instruments for which stops were widened. -/
structure EconomicCalendar where
  events : List EconomicEventData := []
  lastUpdate : Option ℚ := none
  adjustedEventIds : Finset String := ∅
  notifiedEventIds : Finset String := ∅
  adjustmentHistory : List PreEventAdjustment := []
  widenedStops : List String := []

namespace EconomicCalendar

/-- The time of an event, if it can be read. A clock without an offset shows UTC. -/
def parseScheduledAt (fromisoformat : String → Option DateTime) (event : RawEvent) :
    Option DateTime := do
  let scheduled ← match ← event.scheduledAt with
    | .text value => fromisoformat value
    | .moment value => some value
  return ⟨scheduled.clock, some (scheduled.tzinfo.getD 0)⟩

/-- An event from what its source gives, with the defaults of what is missing. -/
def parseEvent (fromisoformat : String → Option DateTime) (raw : RawEvent) :
    Option EconomicEventData := do
  let scheduledAt ← parseScheduledAt fromisoformat raw
  return {
    id := raw.id.getD ""
    eventName := raw.eventName.getD ""
    eventType := raw.eventType.getD ""
    scheduledAt := scheduledAt
    impactLevel := raw.impactLevel.getD "HIGH"
    currencyRegion := raw.currencyRegion.getD ""
    correlatedInstruments := raw.correlatedInstruments.getD []
    forecastValue := raw.forecastValue
    previousValue := raw.previousValue }

/-- Load the events of a day. The source may fail, and the events then stay. -/
def updateDaily (fromisoformat : String → Option DateTime)
    (fetchEvents : DateTime → Option (List RawEvent)) (now : ℚ) (calendar : EconomicCalendar) :
    EconomicCalendar :=
  { calendar with
      events := match fetchEvents (DateTime.utc now) with
        | some rawEvents => rawEvents.filterMap (parseEvent fromisoformat)
        | none => calendar.events
      lastUpdate := some now
      adjustedEventIds := ∅
      notifiedEventIds := ∅ }

/-- An event is ahead of a time by at most a number of seconds. -/
def isWithin (window now : ℚ) (event : EconomicEventData) : Bool :=
  decide (0 ≤ event.scheduledAt.instant - now) &&
    decide (event.scheduledAt.instant - now ≤ window)

/-- Seconds before an event in which signals pause. -/
def pauseWindow : ℚ := Constants.newsPreEventSignalPauseMinutes * 60

/-- Seconds before an event in which stops are widened. -/
def riskWindow : ℚ := Constants.newsPreEventRiskWindowMinutes * 60

/-- Signals pause for an instrument shortly before an event of high impact. -/
def shouldPauseSignals (instrument : String) (currentTime : ℚ) (calendar : EconomicCalendar) :
    Bool :=
  calendar.events.any fun event =>
    event.impactLevel == "HIGH" && instrument ∈ event.correlatedInstruments &&
      isWithin pauseWindow currentTime event

/-- Widen the stop of an instrument before an event, and note it. -/
def adjustInstrument (widenStop : Option WidenStop) (event : EconomicEventData) (now : ℚ)
    (instrument : String) (calendar : EconomicCalendar) : PreEventAdjustment × EconomicCalendar :=
  let adjustment : PreEventAdjustment :=
    { eventId := event.id
      eventName := event.eventName
      instrument := instrument
      positionSizeReduced := true
      adjustedAt := now }
  let widened := match widenStop.bind fun callback => callback calendar.widenedStops instrument with
    | none => adjustment
    | some result =>
      { adjustment with
          stopWidened := true
          originalStop := result.originalStop
          newStop := result.newStop
          atrUsed := result.atrUsed }
  (widened,
    { calendar with
        adjustmentHistory := calendar.adjustmentHistory ++ [widened]
        widenedStops := calendar.widenedStops ++ widenStop.toList.map fun _ => instrument })

/-- Widen the stops of some instruments before an event, one after the other. -/
def applyPreEventAdjustments (widenStop : Option WidenStop) (event : EconomicEventData) (now : ℚ) :
    List String → EconomicCalendar → List PreEventAdjustment × EconomicCalendar
  | [], calendar => ([], calendar)
  | instrument :: rest, calendar =>
    let (adjustment, adjusted) := adjustInstrument widenStop event now instrument calendar
    let (adjustments, later) := applyPreEventAdjustments widenStop event now rest adjusted
    (adjustment :: adjustments, later)

/-- Adjust for some upcoming events, one after the other. An event whose identifier is noted, or that
has no correlated instruments, is passed over. What is returned are the events that were adjusted
for, each with its adjustments. -/
def adjustEvents (widenStop : Option WidenStop) (now : ℚ) :
    List EconomicEventData → EconomicCalendar →
      List (EconomicEventData × List PreEventAdjustment) × EconomicCalendar
  | [], calendar => ([], calendar)
  | event :: rest, calendar =>
    if event.id ∈ calendar.adjustedEventIds then adjustEvents widenStop now rest calendar
    else if event.correlatedInstruments = [] then adjustEvents widenStop now rest calendar
    else
      let (eventAdjustments, applied) :=
        applyPreEventAdjustments widenStop event now event.correlatedInstruments calendar
      let noted := { applied with
        adjustedEventIds := insert event.id applied.adjustedEventIds }
      let (adjusted, later) := adjustEvents widenStop now rest noted
      ((event, eventAdjustments) :: adjusted, later)

/-- The events of high impact that a check is before. -/
def upcoming (now : ℚ) (calendar : EconomicCalendar) : List EconomicEventData :=
  calendar.events.filter fun event => event.impactLevel == "HIGH" && isWithin riskWindow now event

/-- Check the upcoming events and adjust for them. -/
def checkAndApplyAdjustments (widenStop : Option WidenStop) (now : ℚ)
    (calendar : EconomicCalendar) :
    List (EconomicEventData × List PreEventAdjustment) × EconomicCalendar :=
  adjustEvents widenStop now (calendar.upcoming now) calendar

end EconomicCalendar

end IgTradingBot
