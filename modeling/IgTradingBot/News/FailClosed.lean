import IgTradingBot.Loop.NewsSeverity
import IgTradingBot.News.CalendarProviders
import IgTradingBot.News.NewsBlocks

/-!
# Failing closed without a calendar

Without an economic calendar an evaluation blocks the trade. Whether there is one is decided by the
calls that return: an answer that is no calendar, such as a text that is not XML or an object where an
array is expected, is read as a calendar without events. Trades are then not blocked unless something
else blocks them.
-/

namespace IgTradingBot

namespace CalendarProviders

open FreeNewsSafetyLayer NewsHistory
open TradingLoop (asciiText)

/-- A value is an object. -/
def isObject : JsonValue → Bool
  | .object _ => true
  | _ => false

/-- A value is an array. -/
def isArray : JsonValue → Bool
  | .array _ => true
  | _ => false

/-- A calendar was delivered and read: an array of objects, or a document of the events of a week. -/
def Delivered (parsing : ParsingOperations) : CalendarOutcome → Prop
  | .fmp apiKey responses => apiKey ≠ "" ∧ ∃ items, fmpGet responses = .ok (.array items) ∧
    items.all isObject = true
  | .forexFactory response => ∃ xmlText root, response = .ok xmlText ∧
    parsing.fromstring xmlText = some root ∧ root.tag = "weeklyevents"
  | .marketaux => False
  | .gdelt => False

/-- An answer that is no calendar was taken for one: JSON that is no array, or a text that is no
document of the events of a week. -/
def Mistaken (parsing : ParsingOperations) : CalendarOutcome → Prop
  | .fmp apiKey responses => apiKey ≠ "" ∧ ∃ data, fmpGet responses = .ok data ∧ isArray data = false
  | .forexFactory response => ∃ xmlText, response = .ok xmlText ∧
    ∀ root ∈ parsing.fromstring xmlText, root.tag ≠ "weeklyevents"
  | .marketaux => False
  | .gdelt => False

section Adapters

variable {parsing : ParsingOperations}

/-- A calendar counts as fetched where a provider of calendars returns. -/
theorem fetched_iff (answer : ProviderAnswer) :
    fetchedCalendar answer = true ↔
      answer.providesEconomicCalendar = true ∧ ∃ events, answer.calendar = .ok events := by
  unfold fetchedCalendar
  cases answer.calendar <;> simp

/-- Items are read exactly where all of them are objects. The induction is on the items. -/
theorem fmp_events_ok_iff (parsing : ParsingOperations) (items : List JsonValue) :
    (∃ events, items.mapM (fmpEvent parsing) = .ok events) ↔ items.all isObject = true := by
  induction items with
  | nil => exact iff_of_true ⟨[], rfl⟩ rfl
  | cons item rest inductionHypothesis =>
    rw [List.all_cons, Bool.and_eq_true, ← inductionHypothesis, List.mapM_cons]
    cases item with
    | object entries =>
      have read : ∃ event, fmpEvent parsing (.object entries) = .ok event := by
        unfold fmpEvent
        dsimp only
        split <;> exact ⟨_, rfl⟩
      obtain ⟨event, isRead⟩ := read
      rw [isRead]
      cases rest.mapM (fmpEvent parsing) with
      | error failure => exact iff_of_false nofun fun both => nomatch both.2
      | ok events => exact iff_of_true ⟨event :: events, rfl⟩ ⟨rfl, events, rfl⟩
    | _ => exact iff_of_false nofun (by simp [isObject])

/-- The JSON adapter returns exactly where it has a key, an endpoint answers, and all items of the
answer are objects. -/
theorem fmp_calendar_ok_iff (apiKey : String) (responses : List (Except Failure JsonValue)) :
    (∃ events, fmpCalendar parsing apiKey responses = .ok events) ↔
      apiKey ≠ "" ∧ ∃ data, fmpGet responses = .ok data ∧ (fmpItems data).all isObject = true := by
  unfold fmpCalendar
  split_ifs with noKey
  · exact iff_of_false nofun fun both => both.1 noKey
  · rw [and_iff_right noKey]
    cases fmpGet responses with
    | error failure => exact iff_of_false nofun nofun
    | ok data =>
      have same : (∃ other, Except.ok data = (Except.ok other : Except Failure JsonValue) ∧
          (fmpItems other).all isObject = true) ↔ (fmpItems data).all isObject = true :=
        ⟨fun ⟨_, same, all⟩ => Except.ok.inj same ▸ all, fun all => ⟨data, rfl, all⟩⟩
      rw [same, ← fmp_events_ok_iff parsing]
      change (∃ events, (do
        let read ← (fmpItems data).mapM (fmpEvent parsing)
        return read.filterMap id) = Except.ok events) ↔ _
      cases (fmpItems data).mapM (fmpEvent parsing) with
      | error failure => exact iff_of_false nofun nofun
      | ok read => exact iff_of_true ⟨_, rfl⟩ ⟨_, rfl⟩

/-- The XML adapter returns exactly where it is answered. -/
theorem forexfactory_calendar_ok_iff (start finish : ℚ) (response : Except Failure String) :
    (∃ events, forexfactoryCalendar parsing start finish response = .ok events) ↔
      ∃ xmlText, response = .ok xmlText := by
  cases response with
  | error failure => exact iff_of_false nofun nofun
  | ok xmlText => exact iff_of_true ⟨_, rfl⟩ ⟨xmlText, rfl⟩

/-- A calendar counts as fetched where one was delivered, or an answer is mistaken for one. -/
theorem fetched_calendar_iff (start finish : ℚ) (outcome : ProviderOutcome) :
    fetchedCalendar (adapter parsing start finish outcome) = true ↔
      Delivered parsing outcome.calendar ∨ Mistaken parsing outcome.calendar := by
  refine (fetched_iff _).trans ?_
  unfold adapter
  dsimp only
  cases outcome.calendar with
  | fmp apiKey responses =>
    refine (and_iff_right rfl).trans ((fmp_calendar_ok_iff apiKey responses).trans ?_)
    unfold Delivered Mistaken
    rw [← and_or_left]
    refine and_congr_right fun _ => ?_
    constructor
    · rintro ⟨data, got, all⟩
      cases data with
      | array items => exact Or.inl ⟨items, got, all⟩
      | _ => exact Or.inr ⟨_, got, rfl⟩
    · rintro (⟨items, got, all⟩ | ⟨data, got, noArray⟩)
      · exact ⟨_, got, all⟩
      · refine ⟨data, got, ?_⟩
        cases data with
        | array items => exact absurd noArray (by simp [isArray])
        | _ => rfl
  | forexFactory response =>
    refine (and_iff_right rfl).trans ((forexfactory_calendar_ok_iff start finish response).trans ?_)
    unfold Delivered Mistaken
    constructor
    · rintro ⟨xmlText, answers⟩
      by_cases weekly : ∃ root, parsing.fromstring xmlText = some root ∧ root.tag = "weeklyevents"
      · obtain ⟨root, parsed, tag⟩ := weekly
        exact Or.inl ⟨xmlText, root, answers, parsed, tag⟩
      · exact Or.inr ⟨xmlText, answers, fun root parsed tag => weekly ⟨root, parsed, tag⟩⟩
    · rintro (⟨xmlText, -, answers, -⟩ | ⟨xmlText, answers, -⟩)
      · exact ⟨xmlText, answers⟩
      · exact ⟨xmlText, answers⟩
  | marketaux => exact iff_of_false (fun both => nomatch both.1) (by simp [Delivered, Mistaken])
  | gdelt => exact iff_of_false (fun both => nomatch both.1) (by simp [Delivered, Mistaken])

/-- There is a calendar where one was delivered, or an answer is mistaken for one. -/
theorem available_iff (layer : FreeNewsSafetyLayer) (now : ℚ) (outcomes : List ProviderOutcome) :
    (answersAt (adapter parsing) layer now outcomes).any fetchedCalendar = true ↔
      (∃ outcome ∈ outcomes, Delivered parsing outcome.calendar) ∨
        ∃ outcome ∈ outcomes, Mistaken parsing outcome.calendar := by
  unfold answersAt
  rw [List.any_map, List.any_eq_true, ← exists_or]
  refine exists_congr fun outcome => ?_
  rw [← and_or_left]
  exact and_congr_right fun _ => fetched_calendar_iff _ _ outcome

end Adapters

/-- An evaluation fails closed: without a delivered calendar at the last refresh, it blocks the
trade. -/
def FailsClosed (parsing : ParsingOperations) (history : NewsHistory ProviderOutcome)
    (symbol : String) (strategySignal : Bool) (now : ℚ) (outcomes : List ProviderOutcome) : Prop :=
  (∀ outcome ∈ history.lastOutcomes now outcomes, ¬Delivered parsing outcome.calendar) →
    (history.decision parsing.toTextOperations (adapter parsing) symbol strategySignal now
      outcomes).newsAction = .blockTrade

/-- No answer is mistaken for a calendar, or something else blocks: there is no signal, the symbol is
not supported, or an event or a headline of the last refresh blocks. -/
def BlocksWithoutCalendar (parsing : ParsingOperations) (history : NewsHistory ProviderOutcome)
    (symbol : String) (strategySignal : Bool) (now : ℚ) (outcomes : List ProviderOutcome) : Prop :=
  let last := history.lastOutcomes now outcomes
  let answers := answersAt (adapter parsing) history.layer (history.clock now) last
  let normalised := normaliseSymbol parsing.toTextOperations symbol
  (∀ outcome ∈ last, ¬Mistaken parsing outcome.calendar) ∨ strategySignal = false ∨
    normalised ∉ symbolKeywords.map Prod.fst ∨
    (∃ event, LastOfKey.IsLast eventKey (eventsOf answers) event ∧
      history.layer.BlocksAt normalised now event) ∨
    ∃ headline, LastOfKey.IsLast (headlineKey parsing.toTextOperations) (headlinesOf answers)
      headline ∧ Severe parsing.toTextOperations normalised headline

section Evaluations

variable {parsing : ParsingOperations} {history : NewsHistory ProviderOutcome}

/-- An evaluation of an enabled layer fails closed exactly where a calendar was delivered, no answer
is mistaken for one, or something else blocks. -/
theorem evaluation_fails_closed_iff
    (consistent : history.Consistent parsing.toTextOperations (adapter parsing))
    (enabled : history.layer.enabled = true) (symbol : String) (strategySignal : Bool) (now : ℚ)
    (outcomes : List ProviderOutcome) :
    FailsClosed parsing history symbol strategySignal now outcomes ↔
      (∃ outcome ∈ history.lastOutcomes now outcomes, Delivered parsing outcome.calendar) ∨
        BlocksWithoutCalendar parsing history symbol strategySignal now outcomes := by
  unfold FailsClosed BlocksWithoutCalendar
  dsimp only
  set last := history.lastOutcomes now outcomes
  by_cases delivered : ∃ outcome ∈ last, Delivered parsing outcome.calendar
  · refine iff_of_true (fun none => ?_) (Or.inl delivered)
    obtain ⟨outcome, among, isDelivered⟩ := delivered
    exact absurd isDelivered (none outcome among)
  · have none : ∀ outcome ∈ last, ¬Delivered parsing outcome.calendar :=
      fun outcome among isDelivered => delivered ⟨outcome, among, isDelivered⟩
    rw [imp_iff_right none, or_iff_right delivered]
    cases strategySignal with
    | false => exact iff_of_true rfl (Or.inr (Or.inl rfl))
    | true =>
      rw [decision_blocks_iff enabled]
      by_cases supported : normaliseSymbol parsing.toTextOperations symbol ∈
          symbolKeywords.map Prod.fst
      · have unavailable : (answersAt (adapter parsing) history.layer (history.clock now) last).any
            fetchedCalendar = false ↔ ∀ outcome ∈ last, ¬Mistaken parsing outcome.calendar := by
          rw [← Bool.not_eq_true, available_iff, or_iff_right delivered]
          push Not
          exact Iff.rfl
        rw [(consistent.refreshed_caches now outcomes).blocks_iff supported, unavailable]
        simp only [refresh_blocks_at, supported, not_true_eq_false, false_or, Bool.true_eq_false]
        exact Iff.rfl
      · exact iff_of_true (Or.inl supported) (Or.inr (Or.inr (Or.inl supported)))

end Evaluations

/-- For every enabled layer, every run of calls and every outcome of the providers at each: an
evaluation that follows fails closed exactly when a calendar was delivered at the last refresh, no
answer of it is mistaken for a calendar, or something else blocks the trade. -/
theorem fails_closed_iff (parsing : ParsingOperations)
    (checkIntervalMinutes blockBeforeMinutes blockAfterMinutes : ℤ)
    (calls : List (NewsCall ProviderOutcome)) (symbol : String) (strategySignal : Bool) (now : ℚ)
    (outcomes : List ProviderOutcome) :
    let history := Machines.after (step parsing.toTextOperations (adapter parsing))
      ⟨create true checkIntervalMinutes blockBeforeMinutes blockAfterMinutes, []⟩ calls
    FailsClosed parsing history symbol strategySignal now outcomes ↔
      (∃ outcome ∈ history.lastOutcomes now outcomes, Delivered parsing outcome.calendar) ∨
        BlocksWithoutCalendar parsing history symbol strategySignal now outcomes := by
  have new : (create true checkIntervalMinutes blockBeforeMinutes blockAfterMinutes).lastRefresh =
      none := rfl
  have kept := kept_after parsing.toTextOperations (adapter parsing) new calls
  exact evaluation_fails_closed_iff kept.consistent kept.enabled symbol strategySignal now outcomes

/-- Parsers that find no dates, times or documents, on the ASCII characters. -/
def noParsing : ParsingOperations :=
  { asciiText with
      str := fun
        | .text value => value
        | _ => ""
      strip := id
      fromisoformat := fun _ => none
      strptimeDate := fun _ => none
      strptimeTime := fun _ _ => none
      fromstring := fun _ => none }

/-- A text that is not XML is taken for a calendar without events. -/
theorem unparseable_calendar_allows :
    ¬FailsClosed noParsing ⟨create true 10 30 45, []⟩ "EURUSD" true 0
      [⟨.forexFactory (.ok "Service Unavailable"), .ok []⟩] := by
  intro failsClosed
  have nothing : ∀ outcome ∈ ([⟨.forexFactory (.ok "Service Unavailable"), .ok []⟩] :
      List ProviderOutcome), ¬Delivered noParsing outcome.calendar := by
    intro outcome among
    obtain rfl := List.mem_singleton.mp among
    rintro ⟨_, _, _, parsed, _⟩
    exact nomatch parsed
  exact absurd (failsClosed nothing) (by decide +kernel)

end CalendarProviders

end IgTradingBot
