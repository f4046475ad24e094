import IgTradingBot.Loop.NewsSeverity
import IgTradingBot.News.CalendarProviders
import IgTradingBot.News.NewsBlocks

/-!
# Completeness of blocking windows

Providers with calendars that do not change, and that are always reached. A refresh asks for the
events in whose windows its own time lies, and the cache is used for a while after: an event whose
window begins in the meantime is not in it. Of several events with one title, time and currency the
last one is kept, whatever its impact.
-/

namespace IgTradingBot

/-- A provider with the events that its calendar lists, and what it delivers of them for a range of
times. -/
structure ListedProvider where
  providesEconomicCalendar : Bool := true
  events : List CalendarEvent
  delivers : ℚ → ℚ → CalendarEvent → Bool

namespace ListedProvider

open FreeNewsSafetyLayer NewsHistory
open TradingLoop (asciiText)

/-- The XML adapter delivers the events of the range. -/
def forexFactory (events : List CalendarEvent) : ListedProvider where
  events := events
  delivers start finish event := start ≤ event.timestamp ∧ event.timestamp ≤ finish

/-- The adapters without a calendar. -/
def withoutCalendar : ListedProvider where
  providesEconomicCalendar := false
  events := []
  delivers _ _ _ := true

/-- What a provider returns for a range, with what its call for headlines returns or raises. -/
def adapter (start finish : ℚ)
    (outcome : ListedProvider × Except Failure (List NewsHeadline)) : ProviderAnswer where
  providesEconomicCalendar := outcome.1.providesEconomicCalendar
  calendar := .ok (outcome.1.events.filter (outcome.1.delivers start finish))
  headlines := outcome.2

/-- The XML adapter is a provider that lists the events of its document. -/
theorem adapter_forex_factory (parsing : ParsingOperations) (start finish : ℚ) (xmlText : String)
    (headlines : Except Failure (List NewsHeadline)) :
    CalendarProviders.adapter parsing start finish ⟨.forexFactory (.ok xmlText), headlines⟩ =
      adapter start finish
        (forexFactory (CalendarProviders.parseForexfactoryCalendar parsing xmlText), headlines) :=
  rfl

/-- The events that providers deliver at a refresh. -/
def deliveredAt (providers : List ListedProvider) (layer : FreeNewsSafetyLayer) (clock : ℚ) :
    List CalendarEvent :=
  providers.flatMap fun provider =>
    provider.events.filter (provider.delivers (clock - layer.blockAfter) (clock + layer.blockBefore))

/-- The calendars are those of some providers. -/
def Unchanged (providers : List ListedProvider) :
    NewsCall (ListedProvider × Except Failure (List NewsHeadline)) → Prop
  | .evaluate _ _ _ outcomes => outcomes.map Prod.fst = providers
  | .calendarEvents _ outcomes => outcomes.map Prod.fst = providers

/-- A listed event of high impact for a currency of a symbol has a window in which a time lies. -/
def Listed (providers : List ListedProvider) (layer : FreeNewsSafetyLayer) (symbol : String)
    (now : ℚ) : Prop :=
  ∃ provider ∈ providers, ∃ event ∈ provider.events, layer.BlocksAt symbol now event

/-- The last refresh was delivered such an event, and no later one with its title, time and
currency; or something else blocks: there is no calendar, or a headline is severe. -/
def Noticed (text : TextOperations) (providers : List ListedProvider)
    (history : NewsHistory (ListedProvider × Except Failure (List NewsHeadline))) (symbol : String)
    (now : ℚ) (outcomes : List (ListedProvider × Except Failure (List NewsHeadline))) : Prop :=
  (∃ event, LastOfKey.IsLast eventKey (deliveredAt providers history.layer (history.clock now)) event ∧
      history.layer.BlocksAt symbol now event) ∨
    (∀ provider ∈ providers, provider.providesEconomicCalendar = false) ∨
    ∃ headline, LastOfKey.IsLast (headlineKey text)
        (headlinesOf (answersAt adapter history.layer (history.clock now)
          (history.lastOutcomes now outcomes))) headline ∧
      Severe text symbol headline

section Runs

variable {text : TextOperations} {providers : List ListedProvider}
  {history : NewsHistory (ListedProvider × Except Failure (List NewsHeadline))}

/-- A symbol with currencies is supported. -/
theorem supported_of_blocks {layer : FreeNewsSafetyLayer} {symbol : String} {now : ℚ}
    {event : CalendarEvent} (blocks : layer.BlocksAt symbol now event) :
    symbol ∈ symbolKeywords.map Prod.fst := by
  by_contra unsupported
  have noCurrencies : symbolCurrencies.lookup symbol = none := by
    rw [List.lookup_eq_none_iff]
    intro entry among
    refine bne_iff_ne.mpr fun same => unsupported (same ▸ ?_)
    have sameSymbols : symbolCurrencies.map Prod.fst = symbolKeywords.map Prod.fst := rfl
    exact sameSymbols ▸ List.mem_map_of_mem among
  have among := blocks.2.1
  rw [noCurrencies] at among
  exact absurd among (by simp)

/-- The events that the answers of the providers hold are those that they deliver. -/
theorem events_of_answers {outcomes : List (ListedProvider × Except Failure (List NewsHeadline))}
    (listed : outcomes.map Prod.fst = providers) (layer : FreeNewsSafetyLayer) (clock : ℚ) :
    eventsOf (answersAt adapter layer clock outcomes) = deliveredAt providers layer clock := by
  unfold eventsOf answersAt deliveredAt
  rw [← listed, List.flatMap_map, List.flatMap_map]
  rfl

/-- There is a calendar where a provider has one. -/
theorem available_of_answers {outcomes : List (ListedProvider × Except Failure (List NewsHeadline))}
    (listed : outcomes.map Prod.fst = providers) (layer : FreeNewsSafetyLayer) (clock : ℚ) :
    (answersAt adapter layer clock outcomes).any fetchedCalendar = false ↔
      ∀ provider ∈ providers, provider.providesEconomicCalendar = false := by
  unfold answersAt
  rw [← listed, List.any_map, List.any_eq_false]
  simp [fetchedCalendar, adapter]

/-- The last refresh has noted the calendars of the providers. -/
def Noted (providers : List ListedProvider)
    (history : NewsHistory (ListedProvider × Except Failure (List NewsHeadline))) : Prop :=
  history.layer.lastRefresh ≠ none → history.outcomes.map Prod.fst = providers

/-- The last outcomes of an evaluation are those of the providers. -/
theorem Noted.last_outcomes (noted : Noted providers history) (now : ℚ)
    {outcomes : List (ListedProvider × Except Failure (List NewsHeadline))}
    (listed : outcomes.map Prod.fst = providers) :
    (history.lastOutcomes now outcomes).map Prod.fst = providers := by
  unfold lastOutcomes
  split_ifs with fresh
  · refine noted fun none => ?_
    simp [isFresh, none] at fresh
  · exact listed

/-- A refresh notes the calendars of the providers. -/
theorem Noted.refresh (noted : Noted providers history) (now : ℚ)
    {outcomes : List (ListedProvider × Except Failure (List NewsHeadline))}
    (listed : outcomes.map Prod.fst = providers) :
    Noted providers (history.refresh text adapter now outcomes) :=
  fun _ => noted.last_outcomes now listed

/-- Every call whose calendars are those of the providers notes them. -/
theorem Noted.step (noted : Noted providers history)
    {call : NewsCall (ListedProvider × Except Failure (List NewsHeadline))}
    (unchanged : Unchanged providers call) :
    Noted providers (history.step text adapter call) := by
  have listed : call.outcomes.map Prod.fst = providers := by
    cases call with
    | evaluate symbol strategySignal now outcomes => exact unchanged
    | calendarEvents now outcomes => exact unchanged
  obtain ⟨now, refreshed⟩ | left := step_cases text adapter history call
  · rw [refreshed]
    exact noted.refresh now listed
  · rw [left]
    exact noted

/-- An evaluation of a signal by an enabled layer blocks every listed event exactly where such an
event is noticed, if there is one. -/
theorem evaluation_blocks_iff (consistent : history.Consistent text adapter)
    (enabled : history.layer.enabled = true) (noted : Noted providers history) (symbol : String)
    (now : ℚ) {outcomes : List (ListedProvider × Except Failure (List NewsHeadline))}
    (listed : outcomes.map Prod.fst = providers) :
    (Listed providers history.layer (normaliseSymbol text symbol) now →
        (history.decision text adapter symbol true now outcomes).newsAction = .blockTrade) ↔
      (Listed providers history.layer (normaliseSymbol text symbol) now →
        Noticed text providers history (normaliseSymbol text symbol) now outcomes) := by
  refine forall_congr' fun ⟨provider, isProvider, event, isListed, blocks⟩ => ?_
  have supported := supported_of_blocks blocks
  have last := noted.last_outcomes now listed
  rw [decision_blocks_iff enabled, (consistent.refreshed_caches now outcomes).blocks_iff supported,
    available_of_answers last, events_of_answers last]
  unfold Noticed
  simp only [refresh_blocks_at, supported, not_true_eq_false, false_or]
  exact or_left_comm

end Runs

/-- For every settings of a layer, all providers with calendars that do not change, every run of calls
and every evaluation of a signal that follows: if the calendars list an event of high impact for the
epic in whose window the time lies, the trade is blocked, exactly when such an event is noticed. -/
theorem blocks_listed_events_iff (text : TextOperations) (providers : List ListedProvider)
    (checkIntervalMinutes blockBeforeMinutes blockAfterMinutes : ℤ)
    (calls : List (NewsCall (ListedProvider × Except Failure (List NewsHeadline))))
    (unchanged : ∀ call ∈ calls, Unchanged providers call) (symbol : String) (now : ℚ)
    (outcomes : List (ListedProvider × Except Failure (List NewsHeadline)))
    (listed : outcomes.map Prod.fst = providers) :
    let history := Machines.after (step text adapter)
      ⟨create true checkIntervalMinutes blockBeforeMinutes blockAfterMinutes, []⟩ calls
    (Listed providers history.layer (normaliseSymbol text symbol) now →
        (history.decision text adapter symbol true now outcomes).newsAction = .blockTrade) ↔
      (Listed providers history.layer (normaliseSymbol text symbol) now →
        Noticed text providers history (normaliseSymbol text symbol) now outcomes) := by
  have new : (create true checkIntervalMinutes blockBeforeMinutes blockAfterMinutes).lastRefresh =
      none := rfl
  have kept := kept_after text adapter new calls
  have noted : Noted providers (Machines.after (step text adapter)
      ⟨create true checkIntervalMinutes blockBeforeMinutes blockAfterMinutes, []⟩ calls) := by
    have conforms : Machines.Conforms (step text adapter) (fun _ => Unchanged providers)
        ⟨create true checkIntervalMinutes blockBeforeMinutes blockAfterMinutes, []⟩ calls :=
      Machines.conforms_of_forall fun call among _ => unchanged call among
    exact Machines.after_keeps (fun _ _ noted unchanged => noted.step unchanged)
      (fun refreshed => absurd rfl refreshed) conforms
  exact evaluation_blocks_iff kept.consistent kept.enabled noted symbol now listed

/-- An event of high impact of a currency. -/
def highEvent (timestamp : ℚ) : CalendarEvent where
  title := "Interest rate decision"
  timestamp := timestamp
  impact := "HIGH"
  currency := "EUR"

/-- A provider of the events of a week, of which there is one. -/
def oneEvent (timestamp : ℚ) : ListedProvider := forexFactory [highEvent timestamp]

/-- An event ten minutes ahead blocks. -/
theorem near_event_blocks :
    (decision asciiText adapter "EURUSD" true 0 [(oneEvent 600, .ok [])]
      ⟨create true 10 30 45, []⟩).newsAction = .blockTrade := by
  refine (blocks_listed_events_iff asciiText [oneEvent 600] 10 30 45 [] (by simp) "EURUSD" 0
    [(oneEvent 600, .ok [])] rfl).mpr (fun _ => Or.inl ?_) ?_
  · exact ⟨highEvent 600, ⟨[], [], by decide +kernel, by simp⟩, by decide +kernel⟩
  · exact ⟨oneEvent 600, List.mem_cons_self, highEvent 600, List.mem_cons_self, by decide +kernel⟩

/-- An event whose window begins three minutes after a refresh does not block five minutes after
it. -/
theorem event_that_comes_near_is_missed :
    ¬(Listed [oneEvent 2000]
        (Machines.after (step asciiText adapter) ⟨create true 10 30 45, []⟩
          [.evaluate "EURUSD" true 0 [(oneEvent 2000, .ok [])]]).layer "EURUSD" 300 →
      (decision asciiText adapter "EURUSD" true 300 [(oneEvent 2000, .ok [])]
        (Machines.after (step asciiText adapter) ⟨create true 10 30 45, []⟩
          [.evaluate "EURUSD" true 0 [(oneEvent 2000, .ok [])]])).newsAction = .blockTrade) := by
  intro blocks
  have blocked := blocks ⟨oneEvent 2000, List.mem_cons_self, highEvent 2000, List.mem_cons_self,
    by decide +kernel⟩
  exact absurd blocked (by decide +kernel)

end ListedProvider

end IgTradingBot
