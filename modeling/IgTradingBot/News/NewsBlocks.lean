import IgTradingBot.Library.LastOfKey
import IgTradingBot.Library.Machines
import IgTradingBot.News.FreeNewsSafety

/-!
# Blocks of the news safety layer

When an evaluation of a strategy signal blocks the trade, in terms of what the providers answered at
the last refresh. Of several events or headlines with one key the last one is kept. The cache of a
layer is what its last refresh made of the answers, in every run of evaluations.
-/

namespace IgTradingBot

/-- A layer, and what its providers did at the last refresh. -/
structure NewsHistory (Outcome : Type) where
  layer : FreeNewsSafetyLayer
  outcomes : List Outcome := []

/-- A call of the layer, with what its providers do if it refreshes. -/
inductive NewsCall (Outcome : Type) where
  | evaluate (symbol : String) (strategySignal : Bool) (now : ℚ) (outcomes : List Outcome)
  | calendarEvents (now : ℚ) (outcomes : List Outcome)

/-- What the providers answer to a call. -/
def NewsCall.outcomes {Outcome : Type} : NewsCall Outcome → List Outcome
  | .evaluate _ _ _ outcomes => outcomes
  | .calendarEvents _ outcomes => outcomes

namespace FreeNewsSafetyLayer

/-- The cache is younger than the interval. -/
def isFresh (layer : FreeNewsSafetyLayer) (now : ℚ) : Bool :=
  layer.lastRefresh.any fun last => now - last < layer.checkInterval

/-- An event of high impact for a currency of a symbol, in whose window a time lies. -/
def BlocksAt (layer : FreeNewsSafetyLayer) (symbol : String) (now : ℚ) (event : CalendarEvent) :
    Prop :=
  event.impact = "HIGH" ∧ event.currency ∈ (symbolCurrencies.lookup symbol).getD [] ∧
    event.timestamp - layer.blockBefore ≤ now ∧ now ≤ event.timestamp + layer.blockAfter

instance (layer : FreeNewsSafetyLayer) (symbol : String) (now : ℚ) (event : CalendarEvent) :
    Decidable (layer.BlocksAt symbol now event) :=
  inferInstanceAs (Decidable (_ ∧ _ ∧ _ ∧ _))

/-- Layers with the same windows block at the same times. -/
theorem blocks_at_congr {first second : FreeNewsSafetyLayer}
    (before : second.blockBefore = first.blockBefore) (after : second.blockAfter = first.blockAfter)
    (symbol : String) (now : ℚ) (event : CalendarEvent) :
    second.BlocksAt symbol now event ↔ first.BlocksAt symbol now event := by
  unfold BlocksAt
  rw [before, after]

/-- A headline for a symbol whose score blocks. -/
def Severe (text : TextOperations) (symbol : String) (headline : NewsHeadline) : Prop :=
  matchesKeywords text headline.title (keywordsOf symbol) = true ∧
    80 ≤ headlineScore text symbol headline

/-- The key of an event. -/
def eventKey (event : CalendarEvent) : String × ℚ × String :=
  (event.title, event.timestamp, event.currency)

/-- The key of a headline. -/
def headlineKey (text : TextOperations) (headline : NewsHeadline) : String :=
  text.lower headline.title

/-- The events that some answers hold. -/
def eventsOf (answers : List ProviderAnswer) : List CalendarEvent :=
  answers.flatMap fun answer => answered answer.calendar

/-- The headlines that some answers hold. -/
def headlinesOf (answers : List ProviderAnswer) : List NewsHeadline :=
  answers.flatMap fun answer => answered answer.headlines

/-- The cache of a layer is what a refresh makes of some answers. -/
structure Caches (text : TextOperations) (answers : List ProviderAnswer)
    (layer : FreeNewsSafetyLayer) : Prop where
  calendar : layer.calendar = deduplicateEvents (eventsOf answers)
  headlines : layer.headlines =
    symbolKeywords.map fun entry => (entry.1, deduplicateHeadlines text (headlinesOf answers))
  available : layer.calendarAvailable = answers.any fetchedCalendar

section Decisions

variable {text : TextOperations} {layer : FreeNewsSafetyLayer} {symbol : String} {now : ℚ}

/-- What is left of some items are the last ones of their keys. The induction is on the items, from
the last one on. -/
theorem mem_deduplicate_iff {Key Item : Type} [DecidableEq Key] {key : Item → Key}
    {items : List Item} {item : Item} :
    item ∈ deduplicate key items ↔ LastOfKey.IsLast key items item := by
  induction items using List.reverseRecOn generalizing item with
  | nil => exact iff_of_false (by simp [deduplicate]) LastOfKey.not_is_last_nil
  | append_singleton rest final inductionHypothesis =>
    rw [LastOfKey.is_last_concat_iff, ← inductionHypothesis]
    unfold deduplicate
    rw [List.foldl_append, List.foldl_cons, List.foldl_nil]
    change _ ∈ (if (deduplicate key rest).any _ then _ else deduplicate key rest ++ [final]) ↔
      item = final ∨ key final ≠ key item ∧ item ∈ deduplicate key rest
    split_ifs with known
    · obtain ⟨other, isKept, same⟩ := List.any_eq_true.mp known
      rw [List.mem_map]
      constructor
      · rintro ⟨another, anotherKept, rfl⟩
        split_ifs with replaced
        · exact Or.inl rfl
        · exact Or.inr ⟨fun same => replaced same.symm, anotherKept⟩
      · rintro (rfl | ⟨different, isOther⟩)
        · exact ⟨other, isKept, if_pos (of_decide_eq_true same)⟩
        · exact ⟨item, isOther, if_neg fun same => different same.symm⟩
    · have unknown : ∀ other ∈ deduplicate key rest, key other ≠ key final := by
        intro other isKept same
        exact known (List.any_eq_true.mpr ⟨other, isKept, decide_eq_true same⟩)
      rw [List.mem_append, List.mem_singleton, or_comm]
      refine or_congr_right ⟨fun isKept => ⟨(unknown item isKept).symm, isKept⟩, And.right⟩

/-- The events that are current are those of the calendar that block. -/
theorem current_events_ne_nil_iff :
    layer.currentEvents symbol now ≠ [] ↔ ∃ event ∈ layer.calendar, layer.BlocksAt symbol now event := by
  unfold currentEvents
  rw [Ne, List.filter_eq_nil_iff]
  simp only [decide_eq_true_eq, not_forall, not_not, exists_prop]
  rfl

/-- The highest of some scores blocks exactly where one of them does. -/
theorem highest_blocks_iff (scores : List ℤ) :
    actionForScore (scores.max?.getD 0) = .blockTrade ↔ ∃ score ∈ scores, 80 ≤ score := by
  have blocks : ∀ score : ℤ, actionForScore score = .blockTrade ↔ 80 ≤ score := by
    intro score
    unfold actionForScore
    split_ifs <;> simp_all
  rw [blocks]
  cases highest : scores.max? with
  | none =>
    have none : scores = [] := List.max?_eq_none_iff.mp highest
    subst none
    simp
  | some top =>
    obtain ⟨member, above⟩ := List.max?_eq_some_iff.mp highest
    exact ⟨fun reached => ⟨top, member, reached⟩,
      fun ⟨score, other, reached⟩ => reached.trans (above score other)⟩

/-- The cache blocks a symbol exactly where there is no calendar, one of its events blocks, or one of
its headlines is severe. -/
theorem cached_decision_blocks_iff :
    (layer.cachedDecision text symbol now).newsAction = .blockTrade ↔
      layer.calendarAvailable = false ∨
        (∃ event ∈ layer.calendar, layer.BlocksAt symbol now event) ∨
          ∃ headline ∈ (layer.headlines.lookup symbol).getD [], Severe text symbol headline := by
  unfold cachedDecision
  rw [← current_events_ne_nil_iff]
  cases available : layer.calendarAvailable with
  | false => simp
  | true =>
    rw [Bool.not_true, if_neg Bool.false_ne_true]
    by_cases current : layer.currentEvents symbol now = []
    · rw [if_neg (not_not.mpr current)]
      dsimp only
      rw [highest_blocks_iff]
      simp [current, matchedHeadlines, Severe, and_assoc]
    · rw [if_pos current]
      simp [current]

/-- A supported symbol has the headlines of the cache. -/
theorem Caches.headlines_lookup {answers : List ProviderAnswer} (caches : Caches text answers layer)
    (supported : symbol ∈ symbolKeywords.map Prod.fst) :
    (layer.headlines.lookup symbol).getD [] = deduplicateHeadlines text (headlinesOf answers) := by
  rw [caches.headlines]
  generalize deduplicateHeadlines text (headlinesOf answers) = items
  simp only [symbolKeywords, List.map_cons, List.map_nil, List.mem_cons, List.not_mem_nil,
    or_false] at supported ⊢
  obtain rfl | rfl | rfl | rfl | rfl := supported <;> rfl

/-- The cache of some answers blocks a supported symbol exactly where there is no calendar among
them, or the last event of a key blocks, or the last headline of a title is severe. -/
theorem Caches.blocks_iff {answers : List ProviderAnswer} (caches : Caches text answers layer)
    (supported : symbol ∈ symbolKeywords.map Prod.fst) :
    (layer.cachedDecision text symbol now).newsAction = .blockTrade ↔
      answers.any fetchedCalendar = false ∨
        (∃ event, LastOfKey.IsLast eventKey (eventsOf answers) event ∧
          layer.BlocksAt symbol now event) ∨
        ∃ headline, LastOfKey.IsLast (headlineKey text) (headlinesOf answers) headline ∧
          Severe text symbol headline := by
  rw [cached_decision_blocks_iff, caches.available, caches.calendar,
    caches.headlines_lookup supported]
  refine or_congr_right (or_congr ?_ ?_)
  · exact exists_congr fun event => and_congr_left fun _ => mem_deduplicate_iff
  · exact exists_congr fun headline => and_congr_left fun _ => mem_deduplicate_iff

end Decisions

end FreeNewsSafetyLayer

namespace NewsHistory

open FreeNewsSafetyLayer

variable {Outcome : Type}

/-- What the outcomes of providers answer at a refresh: they are asked for the events in whose window
the time may lie. -/
def answersAt (adapter : ℚ → ℚ → Outcome → ProviderAnswer) (layer : FreeNewsSafetyLayer) (now : ℚ)
    (outcomes : List Outcome) : List ProviderAnswer :=
  outcomes.map (adapter (now - layer.blockAfter) (now + layer.blockBefore))

/-- Refresh a layer, and note what its providers did. -/
def refresh (text : TextOperations) (adapter : ℚ → ℚ → Outcome → ProviderAnswer) (now : ℚ)
    (outcomes : List Outcome) (history : NewsHistory Outcome) : NewsHistory Outcome where
  layer := history.layer.refresh text now (answersAt adapter history.layer now outcomes)
  outcomes := if history.layer.isFresh now then history.outcomes else outcomes

/-- The decision on a strategy signal. -/
def decision (text : TextOperations) (adapter : ℚ → ℚ → Outcome → ProviderAnswer) (symbol : String)
    (strategySignal : Bool) (now : ℚ) (outcomes : List Outcome) (history : NewsHistory Outcome) :
    NewsRiskDecision :=
  (history.layer.evaluate text symbol strategySignal now
    (answersAt adapter history.layer now outcomes)).2

/-- A call of the layer. -/
def step (text : TextOperations) (adapter : ℚ → ℚ → Outcome → ProviderAnswer)
    (history : NewsHistory Outcome) : NewsCall Outcome → NewsHistory Outcome
  | .evaluate symbol strategySignal now outcomes =>
    if strategySignal && history.layer.enabled &&
        normaliseSymbol text symbol ∈ symbolKeywords.map Prod.fst then
      history.refresh text adapter now outcomes
    else history
  | .calendarEvents now outcomes => history.refresh text adapter now outcomes

/-- The cache is what the last refresh made of the outcomes, if there was one. -/
def Consistent (text : TextOperations) (adapter : ℚ → ℚ → Outcome → ProviderAnswer)
    (history : NewsHistory Outcome) : Prop :=
  ∀ last ∈ history.layer.lastRefresh,
    Caches text (answersAt adapter history.layer last history.outcomes) history.layer

/-- The settings are those that a layer was created with, and the cache is consistent. -/
structure Kept (text : TextOperations) (adapter : ℚ → ℚ → Outcome → ProviderAnswer)
    (created : FreeNewsSafetyLayer) (history : NewsHistory Outcome) : Prop where
  consistent : history.Consistent text adapter
  enabled : history.layer.enabled = created.enabled
  blockBefore : history.layer.blockBefore = created.blockBefore
  blockAfter : history.layer.blockAfter = created.blockAfter

section Runs

variable {text : TextOperations} {adapter : ℚ → ℚ → Outcome → ProviderAnswer}
  {history : NewsHistory Outcome}

/-- A refresh keeps the settings. -/
theorem refresh_settings (text : TextOperations) (adapter : ℚ → ℚ → Outcome → ProviderAnswer)
    (history : NewsHistory Outcome) (now : ℚ) (outcomes : List Outcome) :
    let layer := (history.refresh text adapter now outcomes).layer
    layer.enabled = history.layer.enabled ∧ layer.blockBefore = history.layer.blockBefore ∧
      layer.blockAfter = history.layer.blockAfter := by
  simp only [refresh, FreeNewsSafetyLayer.refresh]
  split_ifs <;> exact ⟨rfl, rfl, rfl⟩

/-- A refresh changes no window. -/
theorem refresh_blocks_at (text : TextOperations) (adapter : ℚ → ℚ → Outcome → ProviderAnswer)
    (history : NewsHistory Outcome) (now : ℚ) (outcomes : List Outcome) (symbol : String)
    (time : ℚ) (event : CalendarEvent) :
    (history.refresh text adapter now outcomes).layer.BlocksAt symbol time event ↔
      history.layer.BlocksAt symbol time event :=
  have settings := refresh_settings text adapter history now outcomes
  blocks_at_congr settings.2.1 settings.2.2 symbol time event

/-- After a refresh the cache is what the last one made of the outcomes: this one, or the one before
where the cache is fresh. -/
theorem Consistent.refresh (consistent : history.Consistent text adapter) (now : ℚ)
    (outcomes : List Outcome) :
    (history.refresh text adapter now outcomes).Consistent text adapter ∧
      (history.refresh text adapter now outcomes).layer.lastRefresh =
        if history.layer.isFresh now then history.layer.lastRefresh else some now := by
  unfold NewsHistory.refresh FreeNewsSafetyLayer.refresh
  change Consistent text adapter ⟨if history.layer.isFresh now then _ else _, _⟩ ∧
    (if history.layer.isFresh now then _ else _ : FreeNewsSafetyLayer).lastRefresh = _
  split_ifs with fresh
  · exact ⟨consistent, rfl⟩
  · refine ⟨?_, rfl⟩
    intro last isLast
    obtain rfl := Option.some.inj isLast
    exact ⟨rfl, rfl, rfl⟩

/-- A call refreshes the layer or leaves it as it is. -/
theorem step_cases (text : TextOperations) (adapter : ℚ → ℚ → Outcome → ProviderAnswer)
    (history : NewsHistory Outcome) (call : NewsCall Outcome) :
    (∃ now, history.step text adapter call = history.refresh text adapter now call.outcomes) ∨
      history.step text adapter call = history := by
  cases call with
  | evaluate symbol strategySignal now outcomes =>
    unfold NewsHistory.step
    dsimp only
    split_ifs
    · exact Or.inl ⟨now, rfl⟩
    · exact Or.inr rfl
  | calendarEvents now outcomes => exact Or.inl ⟨now, rfl⟩

/-- Every call keeps the cache consistent. -/
theorem Consistent.step (consistent : history.Consistent text adapter) (call : NewsCall Outcome) :
    (history.step text adapter call).Consistent text adapter := by
  obtain ⟨now, refreshed⟩ | left := step_cases text adapter history call
  · rw [refreshed]
    exact (consistent.refresh now call.outcomes).1
  · rw [left]
    exact consistent

/-- Every call keeps the settings. -/
theorem step_settings (text : TextOperations) (adapter : ℚ → ℚ → Outcome → ProviderAnswer)
    (history : NewsHistory Outcome) (call : NewsCall Outcome) :
    let layer := (history.step text adapter call).layer
    layer.enabled = history.layer.enabled ∧ layer.blockBefore = history.layer.blockBefore ∧
      layer.blockAfter = history.layer.blockAfter := by
  obtain ⟨now, refreshed⟩ | left := step_cases text adapter history call
  · rw [refreshed]
    exact refresh_settings text adapter history now call.outcomes
  · rw [left]
    exact ⟨rfl, rfl, rfl⟩

/-- The decision on a signal that an enabled layer supports is that of the refreshed cache; other
symbols are blocked. -/
theorem decision_blocks_iff (enabled : history.layer.enabled = true) (symbol : String) (now : ℚ)
    (outcomes : List Outcome) :
    (history.decision text adapter symbol true now outcomes).newsAction = .blockTrade ↔
      normaliseSymbol text symbol ∉ symbolKeywords.map Prod.fst ∨
        ((history.refresh text adapter now outcomes).layer.cachedDecision text
          (normaliseSymbol text symbol) now).newsAction = .blockTrade := by
  unfold decision evaluate
  by_cases supported : normaliseSymbol text symbol ∈ symbolKeywords.map Prod.fst
  · simp [enabled, supported, NewsHistory.refresh]
  · simp [enabled, supported]

/-- The clock of the last refresh, for an evaluation: its own time where the cache is not fresh. -/
def clock (history : NewsHistory Outcome) (now : ℚ) : ℚ :=
  if history.layer.isFresh now then history.layer.lastRefresh.getD now else now

/-- The outcomes of the last refresh, for an evaluation: its own ones where the cache is not fresh. -/
def lastOutcomes (history : NewsHistory Outcome) (now : ℚ) (outcomes : List Outcome) :
    List Outcome :=
  if history.layer.isFresh now then history.outcomes else outcomes

/-- The refreshed cache is what its last refresh made of the outcomes. -/
theorem Consistent.refreshed_caches (consistent : history.Consistent text adapter) (now : ℚ)
    (outcomes : List Outcome) :
    Caches text (answersAt adapter history.layer (history.clock now)
        (history.lastOutcomes now outcomes))
      (history.refresh text adapter now outcomes).layer := by
  obtain ⟨later, lastRefresh⟩ := consistent.refresh now outcomes
  obtain ⟨-, before, after⟩ := refresh_settings text adapter history now outcomes
  have last : history.clock now ∈
      (history.refresh text adapter now outcomes).layer.lastRefresh := by
    rw [lastRefresh, clock]
    split_ifs with fresh
    · cases isLast : history.layer.lastRefresh with
      | none => simp [isFresh, isLast] at fresh
      | some last => rfl
    · rfl
  have caches := later (history.clock now) last
  unfold answersAt at caches ⊢
  rw [← before, ← after]
  exact caches

/-- Every call keeps what a layer was created with, and the cache consistent. -/
theorem Kept.step {created : FreeNewsSafetyLayer} (kept : Kept text adapter created history)
    (call : NewsCall Outcome) : Kept text adapter created (history.step text adapter call) := by
  obtain ⟨enabled, before, after⟩ := step_settings text adapter history call
  exact ⟨kept.consistent.step call, enabled.trans kept.enabled, before.trans kept.blockBefore,
    after.trans kept.blockAfter⟩

/-- A run keeps what a layer was created with, and the cache consistent. -/
theorem kept_after (text : TextOperations) (adapter : ℚ → ℚ → Outcome → ProviderAnswer)
    {created : FreeNewsSafetyLayer} (new : created.lastRefresh = none)
    (calls : List (NewsCall Outcome)) :
    Kept text adapter created (Machines.after (NewsHistory.step text adapter) ⟨created, []⟩ calls) := by
  have consistent : Consistent text adapter ⟨created, []⟩ := by
    intro last isLast
    rw [new] at isLast
    exact nomatch isLast
  exact Machines.after_keeps_always (fun _ call kept => kept.step call) calls
    ⟨consistent, rfl, rfl, rfl⟩

end Runs

end NewsHistory

end IgTradingBot
