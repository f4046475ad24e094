import IgTradingBot.Library.Timetables
import Mathlib.Data.String.Basic

/-!
# Market hours

When the market of an instrument is open, by its asset class, and when it opens next. An instant is
the number of microseconds since the first day of the calendar, which is a Monday.

The methods that look at the weekday, the hour and the minute of a time follow a timetable that
repeats every week. The timetables say what the code does: foreign exchange is still open in the
minute of Friday 21:00, and gold once more in the last hour of Friday, in which `is_market_open`
does not look at the end of the week. What `get_next_open` returns agrees with them everywhere: it
is the first instant, from the given one on, at which the market is open.
-/

namespace IgTradingBot

open Timetables

/-- The asset classes that have market hours of their own. -/
inductive MarketHours.AssetClass where
  | forex
  | usIndex
  | euIndex
  | commodityGold
  | commodityOil
  | commodityOther
  | crypto
  | usStock
  deriving DecidableEq, Repr

/-- A time as a clock on the wall shows it, with the offset of that clock from UTC. A naive time has
no offset. -/
structure WallTime where
  wall : ℤ
  utcoffset : Option ℤ
  deriving DecidableEq, Repr

/-- The table of asset classes, and how a text is written in capital letters. -/
structure MarketHours where
  instrumentMap : List (String × MarketHours.AssetClass)
  upper : String → String

namespace MarketHours

/-! ## Fields of an instant -/

/-- Microseconds of a minute. -/
def microsOfMinute : ℤ := 60000000

/-- Microseconds of an hour. -/
def microsOfHour : ℤ := 3600000000

/-- Microseconds of a day. -/
def microsOfDay : ℤ := 86400000000

/-- Day of the week of an instant: one for Monday, seven for Sunday. -/
def isoweekday (time : ℤ) : ℤ := time / microsOfDay % 7 + 1

/-- Hour of an instant. -/
def hourOf (time : ℤ) : ℤ := time / microsOfHour % 24

/-- Minute of an instant. -/
def minuteOf (time : ℤ) : ℤ := time / microsOfMinute % 60

/-- The instant of another hour and minute on the same day. -/
def replaceTime (time hour minute : ℤ) : ℤ :=
  time / microsOfDay * microsOfDay + hour * microsOfHour + minute * microsOfMinute

/-- A span of days. -/
def days (count : ℤ) : ℤ := count * microsOfDay

/-! ## Asset classes -/

/-- The first table of the asset classes. -/
def instrumentAssetClassMap : List (String × AssetClass) := [
  ("EUR/USD", .forex), ("GBP/USD", .forex), ("USD/JPY", .forex), ("AUD/USD", .forex),
  ("USD/CAD", .forex), ("USD/CHF", .forex), ("NZD/USD", .forex), ("EUR/GBP", .forex),
  ("EUR/JPY", .forex), ("GBP/JPY", .forex),
  ("US500", .usIndex), ("US30", .usIndex), ("USTEC", .usIndex), ("US2000", .usIndex),
  ("DE40", .euIndex), ("UK100", .euIndex), ("FR40", .euIndex), ("EU50", .euIndex),
  ("GOLD", .commodityGold), ("XAU/USD", .commodityGold),
  ("OIL_CRUDE", .commodityOil), ("OIL_BRENT", .commodityOil),
  ("SILVER", .commodityOther), ("XAG/USD", .commodityOther), ("NATGAS", .commodityOther),
  ("BTC/USD", .crypto), ("ETH/USD", .crypto), ("XRP/USD", .crypto), ("LTC/USD", .crypto),
  ("AAPL", .usStock), ("MSFT", .usStock), ("GOOGL", .usStock), ("AMZN", .usStock),
  ("TSLA", .usStock)]

/-- Currencies by which a pair is taken for foreign exchange. -/
def forexPrefixes : List String :=
  ["EUR", "GBP", "USD", "JPY", "AUD", "CAD", "CHF", "NZD",
    "SEK", "NOK", "DKK", "SGD", "HKD", "ZAR", "MXN", "TRY"]

/-- Bases by which a pair is taken for a crypto currency. -/
def cryptoBases : List String := ["BTC", "ETH", "XRP", "LTC", "ADA", "DOT", "SOL", "DOGE"]

/-- The table that a new object starts with. -/
def create (upper : String → String) : MarketHours := ⟨instrumentAssetClassMap, upper⟩

variable (hours : MarketHours) (instrument : String)

/-- The class of a pair of two names, where the names tell. -/
def pairClass : Option AssetClass :=
  match instrument.splitOn "/" with
  | [base, quoted] =>
    if hours.upper base ∈ cryptoBases then some .crypto
    else if hours.upper base ∈ forexPrefixes ∨ hours.upper quoted ∈ forexPrefixes then some .forex
    else none
  | _ => none

/-- The class that the beginning of a name tells. -/
def prefixClass : AssetClass :=
  let begins := fun start : String => start.isPrefixOf (hours.upper instrument)
  if ["BTC", "ETH", "XRP", "LTC", "CRYPTO"].any begins then .crypto
  else if ["US", "SP", "DOW", "NASDAQ"].any begins then .usIndex
  else if ["DE", "UK", "FR", "EU", "FTSE", "DAX", "CAC"].any begins then .euIndex
  else .commodityOther

/-- The asset class of an instrument: by the table, then by its name. -/
def getAssetClass : AssetClass :=
  match hours.instrumentMap.lookup instrument with
  | some assetClass => assetClass
  | none => (hours.pairClass instrument).getD (hours.prefixClass instrument)

/-- A new entry of the table, which takes the place of an earlier one. -/
def registerInstrument (assetClass : AssetClass) : MarketHours :=
  { hours with instrumentMap := (instrument, assetClass) :: hours.instrumentMap }

/-! ## Open markets -/

/-- The instant of a time. A naive time is taken for UTC. -/
def toUtc (time : WallTime) : ℤ := time.wall - time.utcoffset.getD 0

/-- An instant as a time in UTC. -/
def utc (time : ℤ) : WallTime := ⟨time, some 0⟩

/-- Foreign exchange: Sunday 21:00 to Friday 21:00, that minute included. -/
def isForexOpen (time : ℤ) : Bool :=
  if isoweekday time = 6 then false
  else if isoweekday time = 7 then hourOf time ≥ 21
  else if isoweekday time = 5 then hourOf time < 21 ∨ (hourOf time = 21 ∧ minuteOf time = 0)
  else true

/-- Markets that are open on working days, from one minute of the day to another. -/
def isOpenBetween (openMinutes closeMinutes time : ℤ) : Bool :=
  if isoweekday time > 5 then false
  else
    let timeMinutes := hourOf time * 60 + minuteOf time
    openMinutes ≤ timeMinutes ∧ timeMinutes < closeMinutes

/-- United States: 14:30 to 21:00. -/
def isUsMarketOpen (time : ℤ) : Bool := isOpenBetween (14 * 60 + 30) (21 * 60) time

/-- Europe: 08:00 to 16:30. -/
def isEuMarketOpen (time : ℤ) : Bool := isOpenBetween (8 * 60) (16 * 60 + 30) time

/-- Gold, with the daily break from 22:00 to 23:00. -/
def isGoldOpen (time : ℤ) : Bool :=
  if isoweekday time = 6 then false
  else if isoweekday time = 7 then hourOf time ≥ 23
  else if isoweekday time = 5 then ¬(22 ≤ hourOf time ∧ hourOf time < 23)
  else if 1 ≤ isoweekday time ∧ isoweekday time ≤ 4 then ¬(22 ≤ hourOf time ∧ hourOf time < 23)
  else true

/-- Oil, with the daily break from 22:00 to 23:00. -/
def isOilOpen (time : ℤ) : Bool :=
  if isoweekday time = 6 then false
  else if isoweekday time = 7 then hourOf time ≥ 23
  else if isoweekday time = 5 then hourOf time < 22
  else if 1 ≤ isoweekday time ∧ isoweekday time ≤ 4 then ¬(22 ≤ hourOf time ∧ hourOf time < 23)
  else true

/-- Other commodities: 01:00 to 22:00 on working days. -/
def isDefaultCommodityOpen (time : ℤ) : Bool :=
  if isoweekday time > 5 then false else 1 ≤ hourOf time ∧ hourOf time < 22

/-- Whether the market of an asset class is open at an instant. -/
def isClassOpen (assetClass : AssetClass) (time : ℤ) : Bool :=
  match assetClass with
  | .crypto => true
  | .forex => isForexOpen time
  | .usIndex | .usStock => isUsMarketOpen time
  | .euIndex => isEuMarketOpen time
  | .commodityGold => isGoldOpen time
  | .commodityOil => isOilOpen time
  | .commodityOther => isDefaultCommodityOpen time

/-- Whether the market of an instrument is open. -/
def isMarketOpen (time : WallTime) : Bool :=
  isClassOpen (hours.getAssetClass instrument) (toUtc time)

/-! ## The next opening -/

/-- Sunday 21:00. -/
def nextForexOpen (time : ℤ) : ℤ :=
  let weekday := isoweekday time
  let daysAhead :=
    if weekday = 6 then 1
    else if weekday = 7 ∧ hourOf time < 21 then 0
    else if weekday = 5 ∧ hourOf time ≥ 21 then 2
    else if 7 - weekday ≤ 0 then 7 - weekday + 7
    else 7 - weekday
  replaceTime time 21 0 + days daysAhead

/-- The search for the next working day: how many days ahead it is. -/
def seekWeekday (daysAhead nextDay : ℤ) : ℤ :=
  let day := if nextDay > 7 then 1 else nextDay
  if 1 ≤ day ∧ day ≤ 5 then daysAhead else seekWeekday (daysAhead + 1) (day + 1)
termination_by if nextDay > 7 then 0 else (8 - nextDay).toNat
decreasing_by all_goals grind

/-- A time of the day, on the next working day on which it is still to come. -/
def nextWeekdayAt (passed : Bool) (hour minute time : ℤ) : ℤ :=
  if 1 ≤ isoweekday time ∧ isoweekday time ≤ 5 ∧ ¬passed then replaceTime time hour minute
  else replaceTime time hour minute + days (seekWeekday 1 (isoweekday time + 1))

/-- 14:30 of a working day. -/
def nextUsOpen (time : ℤ) : ℤ :=
  nextWeekdayAt (hourOf time * 60 + minuteOf time ≥ 14 * 60 + 30) 14 30 time

/-- 08:00 of a working day. -/
def nextEuOpen (time : ℤ) : ℤ :=
  nextWeekdayAt (hourOf time * 60 + minuteOf time ≥ 8 * 60) 8 0 time

/-- 23:00, after the daily break or after the weekend. -/
def nextGoldOpen (time : ℤ) : ℤ :=
  let weekday := isoweekday time
  let hour := hourOf time
  if 1 ≤ weekday ∧ weekday ≤ 5 ∧ 22 ≤ hour ∧ hour < 23 then replaceTime time 23 0
  else if weekday = 6 then replaceTime time 23 0 + days 1
  else if weekday = 7 ∧ hour < 23 then replaceTime time 23 0
  else if weekday = 5 ∧ hour ≥ 22 then replaceTime time 23 0 + days 2
  else replaceTime time 23 0 + days 1

/-- 23:00, after the daily break or after the weekend. The break of Friday is the weekend. -/
def nextOilOpen (time : ℤ) : ℤ :=
  let weekday := isoweekday time
  let hour := hourOf time
  if 1 ≤ weekday ∧ weekday ≤ 4 ∧ 22 ≤ hour ∧ hour < 23 then replaceTime time 23 0
  else if weekday = 5 ∧ hour ≥ 22 then replaceTime time 23 0 + days 2
  else if weekday = 6 then replaceTime time 23 0 + days 1
  else if weekday = 7 ∧ hour < 23 then replaceTime time 23 0
  else replaceTime time 23 0 + days 1

/-- 01:00 of a working day. -/
def nextDefaultCommodityOpen (time : ℤ) : ℤ := nextWeekdayAt (hourOf time ≥ 1) 1 0 time

/-- The next opening of an asset class whose market is closed. -/
def nextClassOpen (assetClass : AssetClass) (time : ℤ) : ℤ :=
  match assetClass with
  | .crypto => time
  | .forex => nextForexOpen time
  | .usIndex | .usStock => nextUsOpen time
  | .euIndex => nextEuOpen time
  | .commodityGold => nextGoldOpen time
  | .commodityOil => nextOilOpen time
  | .commodityOther => nextDefaultCommodityOpen time

/-- The next market open time of an instrument, which is now while it is open. -/
def getNextOpen (time : WallTime) : ℤ :=
  if hours.isMarketOpen instrument (utc (toUtc time)) then toUtc time
  else nextClassOpen (hours.getAssetClass instrument) (toUtc time)

/-! ## Timetables of the classes -/

/-- A minute of the week. -/
def inWeek (weekday hour minute : ℤ) : ℤ :=
  (weekday - 1) * microsOfDay + hour * microsOfHour + minute * microsOfMinute

/-- Spans of the working days. -/
def workingDays (openHour openMinute closeHour closeMinute : ℤ) : List (ℤ × ℤ) :=
  [1, 2, 3, 4, 5].map fun weekday =>
    (inWeek weekday openHour openMinute, inWeek weekday closeHour closeMinute)

/-- The spans between the daily breaks, up to Friday 22:00 and from Sunday 23:00 on. -/
def betweenBreaks : List (ℤ × ℤ) :=
  [(inWeek 1 0 0, inWeek 1 22 0), (inWeek 1 23 0, inWeek 2 22 0), (inWeek 2 23 0, inWeek 3 22 0),
    (inWeek 3 23 0, inWeek 4 22 0), (inWeek 4 23 0, inWeek 5 22 0), (inWeek 7 23 0, inWeek 8 0 0)]

/-- When the markets of a class are open in a week. -/
def spansOf : AssetClass → List (ℤ × ℤ)
  | .crypto => [(inWeek 1 0 0, inWeek 8 0 0)]
  | .forex => [(inWeek 1 0 0, inWeek 5 21 1), (inWeek 7 21 0, inWeek 8 0 0)]
  | .usIndex | .usStock => workingDays 14 30 21 0
  | .euIndex => workingDays 8 0 16 30
  | .commodityGold => (inWeek 5 23 0, inWeek 6 0 0) :: betweenBreaks
  | .commodityOil => betweenBreaks
  | .commodityOther => workingDays 1 0 22 0

/-- The weekly timetable of an asset class. -/
def timetable (assetClass : AssetClass) : Timetable where
  period := 7 * microsOfDay
  spans := spansOf assetClass
  positive := by decide
  ordered := by cases assetClass <;> decide

/-- An instant of a week is the day of the week and the time of the day. -/
theorem phase_eq (assetClass : AssetClass) (time : ℤ) :
    (timetable assetClass).phase time =
      (isoweekday time - 1) * microsOfDay + time % microsOfDay := by
  have week := Int.ediv_ediv_of_nonneg (x := time) (y := 86400000000) (z := 7) (by decide)
  simp only [Timetable.phase, timetable, isoweekday, microsOfDay]
  omega

/-- The hour is read off the time of the day. -/
theorem hourOf_eq (time : ℤ) : hourOf time = time % microsOfDay / microsOfHour := by
  have day := Int.ediv_ediv_of_nonneg (x := time) (y := 3600000000) (z := 24) (by decide)
  simp only [hourOf, microsOfDay, microsOfHour]
  omega

/-- The minute is read off the time of the day. -/
theorem minuteOf_eq (time : ℤ) : minuteOf time = time % microsOfDay / microsOfMinute % 60 := by
  have day := Int.ediv_ediv_of_nonneg (x := time) (y := 60000000) (z := 1440) (by decide)
  simp only [minuteOf, microsOfDay, microsOfMinute]
  omega

/-- The days of the week are counted from one to seven. -/
theorem isoweekday_range (time : ℤ) : 1 ≤ isoweekday time ∧ isoweekday time ≤ 7 := by
  rw [isoweekday]
  omega

/-- The methods that look at the fields of an instant follow the timetable of the class. -/
theorem isClassOpen_iff (assetClass : AssetClass) (time : ℤ) :
    isClassOpen assetClass time = true ↔ (timetable assetClass).Opens time := by
  have weekday := isoweekday_range time
  simp only [Timetable.Opens, phase_eq]
  cases assetClass
  all_goals
    simp only [isClassOpen, isForexOpen, isUsMarketOpen, isEuMarketOpen, isOpenBetween, isGoldOpen,
      isOilOpen, isDefaultCommodityOpen, timetable, spansOf, workingDays, betweenBreaks, hourOf_eq,
      minuteOf_eq, inWeek, microsOfDay, microsOfHour, microsOfMinute, List.map_cons, List.map_nil,
      List.mem_cons, List.not_mem_nil,
      or_false, exists_eq_or_imp, exists_eq_left, Bool.if_false_left, Bool.if_true_right,
      Bool.and_eq_true, Bool.or_eq_true, Bool.not_eq_true', decide_eq_true_eq, decide_eq_false_iff_not,
      Bool.ite_eq_true_distrib, true_iff]
  all_goals (try split_ifs) <;> omega

/-! ## The first opening -/

/-- The next working day is tomorrow, or the Monday after the weekend. -/
theorem seekWeekday_eq (time : ℤ) :
    seekWeekday 1 (isoweekday time + 1) =
      if isoweekday time = 5 then 3 else if isoweekday time = 6 then 2 else 1 := by
  obtain ⟨lower, upper⟩ := isoweekday_range time
  generalize isoweekday time = weekday at lower upper
  have cases : weekday = 1 ∨ weekday = 2 ∨ weekday = 3 ∨ weekday = 4 ∨ weekday = 5 ∨ weekday = 6 ∨
      weekday = 7 := by omega
  rcases cases with rfl | rfl | rfl | rfl | rfl | rfl | rfl <;> simp [seekWeekday]

/-- The time of another hour and minute, from the time of the day on. -/
theorem replaceTime_eq (time hour minute : ℤ) :
    replaceTime time hour minute =
      time - time % microsOfDay + hour * microsOfHour + minute * microsOfMinute := by
  have division := Int.ediv_mul_add_emod time microsOfDay
  rw [replaceTime]
  linarith

/-- Where the market of a class is closed, its method for the next opening waits for a start of the
timetable, and for no longer than for any other. -/
theorem nextClassOpen_nearest (assetClass : AssetClass) (time : ℤ)
    (closed : isClassOpen assetClass time = false) :
    (∃ span ∈ (timetable assetClass).spans,
        nextClassOpen assetClass time = time + (timetable assetClass).wait time span) ∧
      ∀ span ∈ (timetable assetClass).spans,
        nextClassOpen assetClass time ≤ time + (timetable assetClass).wait time span := by
  have weekday := isoweekday_range time
  have shut : ¬(timetable assetClass).Opens time :=
    fun opens => Bool.eq_false_iff.mp closed ((isClassOpen_iff assetClass time).mpr opens)
  simp only [Timetable.wait_eq, Timetable.Opens, phase_eq] at shut ⊢
  cases assetClass
  all_goals
    simp only [nextClassOpen, nextForexOpen, nextUsOpen, nextEuOpen, nextGoldOpen, nextOilOpen,
      nextDefaultCommodityOpen, nextWeekdayAt, seekWeekday_eq, replaceTime_eq, days, timetable,
      spansOf, workingDays, betweenBreaks, hourOf_eq, minuteOf_eq, inWeek, microsOfDay,
      microsOfHour, microsOfMinute, List.map_cons, List.map_nil, List.mem_cons, List.not_mem_nil,
      or_false, exists_eq_or_imp, exists_eq_left, forall_eq_or_imp, forall_eq, decide_eq_true_eq]
      at shut ⊢
  all_goals (try split_ifs) <;> omega

/-- An instant is its own time in UTC. -/
@[simp] theorem toUtc_utc (time : ℤ) : toUtc (utc time) = time := sub_zero time

/-- The market of an instrument keeps to the weekly timetable of its asset class, and the next
opening is the first instant, not before the time asked for, at which the market is open. -/
theorem isMarketOpen_weekly_and_getNextOpen_first (hours : MarketHours) (instrument : String)
    (time : WallTime) :
    (hours.isMarketOpen instrument time = true ↔
      (timetable (hours.getAssetClass instrument)).Opens (toUtc time)) ∧
    IsLeast {later | toUtc time ≤ later ∧ hours.isMarketOpen instrument (utc later) = true}
      (hours.getNextOpen instrument time) := by
  have follows : ∀ later, hours.isMarketOpen instrument (utc later) = true ↔
      (timetable (hours.getAssetClass instrument)).Opens later := by
    intro later
    rw [isMarketOpen, toUtc_utc]
    exact isClassOpen_iff _ later
  refine ⟨isClassOpen_iff _ _, ?_⟩
  simp only [follows]
  cases opens : hours.isMarketOpen instrument (utc (toUtc time)) with
  | true =>
    rw [getNextOpen, if_pos opens]
    exact Timetable.isLeast_opening_of_opens ((follows _).mp opens)
  | false =>
    rw [getNextOpen, if_neg (Bool.eq_false_iff.mp opens)]
    have shut : ¬(timetable (hours.getAssetClass instrument)).Opens (toUtc time) :=
      fun open_now => Bool.eq_false_iff.mp opens ((follows _).mpr open_now)
    rw [isMarketOpen, toUtc_utc] at opens
    obtain ⟨reached, nearest⟩ := nextClassOpen_nearest _ _ opens
    exact Timetable.isLeast_opening_of_closed shut reached nearest

end MarketHours

end IgTradingBot
