import IgTradingBot.Loop.NewsSeverity
import IgTradingBot.News.NewsBlocks

/-!
# More evidence

One more event or headline in an answer of a provider. Of several items with one key the last one is
kept, and it need not be the strongest: an item that displaces a stronger one of its key can lower
the risk. Every other item leaves the score at least as high, and a block by an event a block.
-/

namespace IgTradingBot

/-- An event or a headline. -/
inductive NewsEvidence where
  | event (added : CalendarEvent)
  | headline (added : NewsHeadline)

namespace FreeNewsSafetyLayer

open TradingLoop (asciiText)

/-- One more event, anywhere in a provider's calendar. -/
def AddsEvent (added : CalendarEvent) (answers more : List ProviderAnswer) : Prop :=
  ∃ before answer after earlier later, answers = before ++ answer :: after ∧
    answer.calendar = .ok (earlier ++ later) ∧
    more = before ++ { answer with calendar := .ok (earlier ++ added :: later) } :: after

/-- One more headline, anywhere in a provider's headlines. -/
def AddsHeadline (added : NewsHeadline) (answers more : List ProviderAnswer) : Prop :=
  ∃ before answer after earlier later, answers = before ++ answer :: after ∧
    answer.headlines = .ok (earlier ++ later) ∧
    more = before ++ { answer with headlines := .ok (earlier ++ added :: later) } :: after

/-- One more event or headline. -/
def Adds : NewsEvidence → List ProviderAnswer → List ProviderAnswer → Prop
  | .event added => AddsEvent added
  | .headline added => AddsHeadline added

/-- The sentiment of a headline counts. -/
def Strong (headline : NewsHeadline) : Prop := ∃ sentiment ∈ headline.sentiment, 6 / 10 ≤ |sentiment|

/-- An item becomes the last one of its key, and displaces a stronger one: an event of high impact,
or a headline whose sentiment counts. -/
def Displaces (text : TextOperations) (answers more : List ProviderAnswer) : NewsEvidence → Prop
  | .event added => LastOfKey.IsLast eventKey (eventsOf more) added ∧ added.impact ≠ "HIGH" ∧
    ∃ displaced, LastOfKey.IsLast eventKey (eventsOf answers) displaced ∧
      eventKey added = eventKey displaced ∧ displaced.impact = "HIGH"
  | .headline added => LastOfKey.IsLast (headlineKey text) (headlinesOf more) added ∧
    ¬Strong added ∧ ∃ displaced, LastOfKey.IsLast (headlineKey text) (headlinesOf answers) displaced ∧
      headlineKey text added = headlineKey text displaced ∧ Strong displaced

section Scores

variable {text : TextOperations} {layer : FreeNewsSafetyLayer} {symbol : String} {now : ℚ}
  {answers more : List ProviderAnswer}

/-- A headline scores at least twenty-five, and less than an event. -/
theorem headline_score_bounds (headline : NewsHeadline) :
    0 ≤ headlineScore text symbol headline ∧ headlineScore text symbol headline ≤ 100 := by
  unfold headlineScore
  cases headline.sentiment <;> dsimp only <;> split_ifs <;> omega

/-- The score of a headline is at least that of its title, and more where its sentiment counts. -/
theorem headline_score_eq (headline : NewsHeadline) :
    headlineScore text symbol headline =
      match headline.sentiment with
      | some sentiment =>
        if 6 / 10 ≤ |sentiment| then
          max (headlineScore text symbol { headline with sentiment := none }) 60
        else headlineScore text symbol { headline with sentiment := none }
      | none => headlineScore text symbol { headline with sentiment := none } := by
  unfold headlineScore
  cases headline.sentiment <;> rfl

/-- Of two headlines with one title, without case, the one whose sentiment counts scores more. -/
theorem headline_score_mono {headline other : NewsHeadline}
    (sameTitle : headlineKey text headline = headlineKey text other)
    (stronger : Strong headline → Strong other) :
    headlineScore text symbol headline ≤ headlineScore text symbol other := by
  have sameScore : headlineScore text symbol { headline with sentiment := none } =
      headlineScore text symbol { other with sentiment := none } := by
    have title : text.lower headline.title = text.lower other.title := sameTitle
    unfold headlineScore
    dsimp only
    rw [title]
  have atLeast : headlineScore text symbol { other with sentiment := none } ≤
      headlineScore text symbol other := by
    rw [headline_score_eq other]
    split
    · split_ifs
      · exact le_max_left _ _
      · exact le_refl _
    · exact le_refl _
  rw [headline_score_eq headline, sameScore]
  cases scored : headline.sentiment with
  | none => exact atLeast
  | some sentiment =>
    dsimp only
    split_ifs with counts
    · obtain ⟨otherSentiment, otherScored, otherCounts⟩ := stronger ⟨sentiment, scored, counts⟩
      rw [headline_score_eq other, Option.mem_def.mp otherScored]
      exact le_of_eq (if_pos otherCounts).symm
    · exact atLeast

/-- Scores that are each reached by others have no higher maximum. -/
theorem highest_mono {scores others : List ℤ} (nonneg : ∀ score ∈ others, 0 ≤ score)
    (reached : ∀ score ∈ scores, ∃ other ∈ others, score ≤ other) :
    scores.max?.getD 0 ≤ others.max?.getD 0 := by
  have above : ∀ score ∈ others, score ≤ others.max?.getD 0 := by
    intro score member
    cases highest : others.max? with
    | none => exact absurd (List.max?_eq_none_iff.mp highest) (List.ne_nil_of_mem member)
    | some top => exact (List.max?_eq_some_iff.mp highest).2 score member
  cases highest : scores.max? with
  | none =>
    cases otherHighest : others.max? with
    | none => exact le_refl _
    | some top => exact nonneg top (List.max?_eq_some_iff.mp otherHighest).1
  | some top =>
    obtain ⟨other, member, le⟩ := reached top (List.max?_eq_some_iff.mp highest).1
    exact le.trans (above other member)

/-- An event that is added, and displaces no stronger one, leaves a block by an event. -/
theorem event_blocks_of_adds {added : CalendarEvent} (adds : AddsEvent added answers more)
    (keeps : ¬Displaces text answers more (.event added))
    (blocked : ∃ event, LastOfKey.IsLast eventKey (eventsOf answers) event ∧
      layer.BlocksAt symbol now event) :
    ∃ event, LastOfKey.IsLast eventKey (eventsOf more) event ∧ layer.BlocksAt symbol now event := by
  obtain ⟨before, answer, after, earlier, later, rfl, held, rfl⟩ := adds
  obtain ⟨event, last, blocks⟩ := blocked
  have split : eventsOf (before ++ answer :: after) =
      (eventsOf before ++ earlier) ++ (later ++ eventsOf after) := by
    simp [eventsOf, answered, held]
  have splitMore : eventsOf (before ++ { answer with
      calendar := .ok (earlier ++ added :: later) } :: after) =
        (eventsOf before ++ earlier) ++ added :: (later ++ eventsOf after) := by
    simp [eventsOf, answered]
  have kept := last
  rw [split] at kept
  obtain stays | ⟨isLast, sameKey⟩ := kept.insert added
  · exact ⟨event, splitMore ▸ stays, blocks⟩
  · refine ⟨added, splitMore ▸ isLast, ?_⟩
    obtain ⟨-, sameTime, sameCurrency⟩ : added.title = event.title ∧
        added.timestamp = event.timestamp ∧ added.currency = event.currency := by
      simpa [eventKey] using sameKey
    have high : added.impact = "HIGH" := by
      by_contra low
      exact keeps ⟨splitMore ▸ isLast, low, event, last, sameKey, blocks.1⟩
    unfold BlocksAt
    rw [sameTime, sameCurrency]
    exact ⟨high, blocks.2⟩

/-- For every headline there is one that scores as much, with a headline that is added and displaces
no stronger one. -/
theorem headline_scored_of_adds {added : NewsHeadline} (adds : AddsHeadline added answers more)
    (keeps : ¬Displaces text answers more (.headline added)) {headline : NewsHeadline}
    (last : LastOfKey.IsLast (headlineKey text) (headlinesOf answers) headline)
    (isMatch : matchesKeywords text headline.title (keywordsOf symbol) = true) :
    ∃ other, LastOfKey.IsLast (headlineKey text) (headlinesOf more) other ∧
      matchesKeywords text other.title (keywordsOf symbol) = true ∧
      headlineScore text symbol headline ≤ headlineScore text symbol other := by
  obtain ⟨before, answer, after, earlier, later, rfl, held, rfl⟩ := adds
  have split : headlinesOf (before ++ answer :: after) =
      (headlinesOf before ++ earlier) ++ (later ++ headlinesOf after) := by
    simp [headlinesOf, answered, held]
  have splitMore : headlinesOf (before ++ { answer with
      headlines := .ok (earlier ++ added :: later) } :: after) =
        (headlinesOf before ++ earlier) ++ added :: (later ++ headlinesOf after) := by
    simp [headlinesOf, answered]
  have kept := last
  rw [split] at kept
  obtain stays | ⟨isLast, sameKey⟩ := kept.insert added
  · exact ⟨headline, splitMore ▸ stays, isMatch, le_refl _⟩
  · have sameTitle : text.lower added.title = text.lower headline.title := sameKey
    refine ⟨added, splitMore ▸ isLast, ?_, headline_score_mono sameKey.symm fun strong => ?_⟩
    · unfold matchesKeywords at isMatch ⊢
      rw [sameTitle]
      exact isMatch
    · by_contra weak
      exact keeps ⟨splitMore ▸ isLast, weak, headline, last, sameKey, strong⟩

/-- One more item leaves a calendar available. -/
theorem available_of_adds {evidence : NewsEvidence} (adds : Adds evidence answers more)
    (available : answers.any fetchedCalendar = true) : more.any fetchedCalendar = true := by
  have fetched : ∀ {before after : List ProviderAnswer} {answer changed : ProviderAnswer},
      (fetchedCalendar answer = true → fetchedCalendar changed = true) →
        (before ++ answer :: after).any fetchedCalendar = true →
          (before ++ changed :: after).any fetchedCalendar = true := by
    intro before after answer changed keeps
    simp only [List.any_append, List.any_cons, Bool.or_eq_true]
    exact Or.imp_right (Or.imp_left keeps)
  cases evidence with
  | event added =>
    obtain ⟨before, answer, after, earlier, later, rfl, held, rfl⟩ := adds
    refine fetched (fun isFetched => ?_) available
    unfold fetchedCalendar at isFetched ⊢
    rw [held] at isFetched
    exact isFetched
  | headline added =>
    obtain ⟨before, answer, after, earlier, later, rfl, -, rfl⟩ := adds
    exact fetched (fun isFetched => by exact isFetched) available

/-- One more item that displaces no stronger one leaves a block by an event, and for every headline
one that scores as much. -/
theorem evidence_of_adds (layer : FreeNewsSafetyLayer) (symbol : String) (now : ℚ)
    {evidence : NewsEvidence} (adds : Adds evidence answers more)
    (keeps : ¬Displaces text answers more evidence) :
    ((∃ event, LastOfKey.IsLast eventKey (eventsOf answers) event ∧
          layer.BlocksAt symbol now event) →
        ∃ event, LastOfKey.IsLast eventKey (eventsOf more) event ∧
          layer.BlocksAt symbol now event) ∧
      ∀ headline, LastOfKey.IsLast (headlineKey text) (headlinesOf answers) headline →
        matchesKeywords text headline.title (keywordsOf symbol) = true →
          ∃ other, LastOfKey.IsLast (headlineKey text) (headlinesOf more) other ∧
            matchesKeywords text other.title (keywordsOf symbol) = true ∧
            headlineScore text symbol headline ≤ headlineScore text symbol other := by
  cases evidence with
  | event added =>
    refine ⟨event_blocks_of_adds adds keeps, fun headline last isMatch => ?_⟩
    obtain ⟨before, answer, after, earlier, later, rfl, -, rfl⟩ := adds
    have same : headlinesOf (before ++ { answer with
        calendar := .ok (earlier ++ added :: later) } :: after) =
          headlinesOf (before ++ answer :: after) := by
      simp [headlinesOf]
    exact ⟨headline, same ▸ last, isMatch, le_refl _⟩
  | headline added =>
    refine ⟨fun blocked => ?_, fun _ last isMatch =>
      headline_scored_of_adds adds keeps last isMatch⟩
    obtain ⟨before, answer, after, earlier, later, rfl, -, rfl⟩ := adds
    have same : eventsOf (before ++ { answer with
        headlines := .ok (earlier ++ added :: later) } :: after) =
          eventsOf (before ++ answer :: after) := by
      simp [eventsOf]
    rw [same]
    exact blocked

/-- The score of a cache with a calendar: a hundred where an event blocks, else the highest of the
headlines. -/
theorem cached_score_eq (available : layer.calendarAvailable = true) :
    (layer.cachedDecision text symbol now).newsRiskScore =
      if layer.currentEvents symbol now ≠ [] then 100
      else (((layer.matchedHeadlines text symbol).map (headlineScore text symbol)).max?).getD 0 := by
  unfold cachedDecision
  rw [available, Bool.not_true, if_neg Bool.false_ne_true]
  split_ifs <;> rfl

/-- A cache with the evidence of another one scores at least as much. -/
theorem cached_score_mono {first second : FreeNewsSafetyLayer}
    (caches : Caches text answers first) (cachesMore : Caches text more second)
    (window : second.blockBefore = first.blockBefore ∧ second.blockAfter = first.blockAfter)
    (supported : symbol ∈ symbolKeywords.map Prod.fst)
    (available : answers.any fetchedCalendar = true) {evidence : NewsEvidence}
    (adds : Adds evidence answers more) (keeps : ¬Displaces text answers more evidence) :
    (first.cachedDecision text symbol now).newsRiskScore ≤
      (second.cachedDecision text symbol now).newsRiskScore := by
  obtain ⟨blocks, scored⟩ := evidence_of_adds first symbol now adds keeps
  rw [cached_score_eq (caches.available.trans available),
    cached_score_eq (cachesMore.available.trans (available_of_adds adds available))]
  have current : first.currentEvents symbol now ≠ [] → second.currentEvents symbol now ≠ [] := by
    rw [current_events_ne_nil_iff, current_events_ne_nil_iff, caches.calendar, cachesMore.calendar]
    rintro ⟨event, isKept, isCurrent⟩
    obtain ⟨other, last, otherCurrent⟩ := blocks ⟨event, mem_deduplicate_iff.mp isKept, isCurrent⟩
    exact ⟨other, mem_deduplicate_iff.mpr last, (blocks_at_congr window.1 window.2 symbol now other).mpr otherCurrent⟩
  have matched : ∀ {layer : FreeNewsSafetyLayer} {held : List ProviderAnswer},
      Caches text held layer → ∀ headline, headline ∈ layer.matchedHeadlines text symbol ↔
        LastOfKey.IsLast (headlineKey text) (headlinesOf held) headline ∧
          matchesKeywords text headline.title (keywordsOf symbol) = true := by
    intro layer held holds headline
    unfold matchedHeadlines
    rw [holds.headlines_lookup supported, List.mem_filter]
    exact and_congr_left fun _ => mem_deduplicate_iff
  have highest : (((first.matchedHeadlines text symbol).map (headlineScore text symbol)).max?).getD 0 ≤
      (((second.matchedHeadlines text symbol).map (headlineScore text symbol)).max?).getD 0 := by
    refine highest_mono (fun score among => ?_) fun score among => ?_
    · obtain ⟨headline, -, rfl⟩ := List.mem_map.mp among
      exact (headline_score_bounds headline).1
    · obtain ⟨headline, isMatched, rfl⟩ := List.mem_map.mp among
      obtain ⟨last, isMatch⟩ := (matched caches headline).mp isMatched
      obtain ⟨other, otherLast, otherMatch, le⟩ := scored headline last isMatch
      exact ⟨_, List.mem_map_of_mem ((matched cachesMore other).mpr ⟨otherLast, otherMatch⟩), le⟩
  have atMost : (((first.matchedHeadlines text symbol).map
      (headlineScore text symbol)).max?).getD 0 ≤ 100 := by
    cases top : ((first.matchedHeadlines text symbol).map (headlineScore text symbol)).max? with
    | none => exact by decide
    | some score =>
      obtain ⟨headline, -, rfl⟩ := List.mem_map.mp (List.max?_eq_some_iff.mp top).1
      exact (headline_score_bounds headline).2
  by_cases isCurrent : first.currentEvents symbol now ≠ []
  · rw [if_pos isCurrent, if_pos (current isCurrent)]
  · rw [if_neg isCurrent]
    split_ifs
    · exact atMost
    · exact highest

/-- A decision with the reason of an event has the score of a hundred. -/
theorem score_of_event_window (strategySignal : Bool)
    (reason : (layer.evaluate text symbol strategySignal now answers).2.reason =
      "high_impact_economic_event_window") :
    (layer.evaluate text symbol strategySignal now answers).2.newsRiskScore = 100 := by
  unfold evaluate cachedDecision at reason ⊢
  dsimp only at reason ⊢
  split_ifs at reason ⊢ with noSignal disabled
  · rfl
  · simp at reason
  · rfl
  · rfl
  · unfold reasonForAction at reason
    dsimp only at reason
    split at reason
    · simp at reason
    · split at reason <;> simp at reason
  · rfl

end Scores

/-- For all providers' answers with a calendar, every layer, symbol and time: one more event or
headline anywhere in an answer, unless it displaces a stronger item of its key, leaves the score at
least as high, and a block by an event a block. -/
theorem more_evidence_keeps_risk (text : TextOperations) (layer : FreeNewsSafetyLayer)
    (symbol : String) (strategySignal : Bool) (now : ℚ) {answers more : List ProviderAnswer}
    (available : answers.any fetchedCalendar = true) {evidence : NewsEvidence}
    (adds : Adds evidence answers more) (keeps : ¬Displaces text answers more evidence) :
    (layer.evaluate text symbol strategySignal now answers).2.newsRiskScore ≤
        (layer.evaluate text symbol strategySignal now more).2.newsRiskScore ∧
      ((layer.evaluate text symbol strategySignal now answers).2.reason =
          "high_impact_economic_event_window" →
        (layer.evaluate text symbol strategySignal now more).2.newsAction = .blockTrade) := by
  have score : (layer.evaluate text symbol strategySignal now answers).2.newsRiskScore ≤
      (layer.evaluate text symbol strategySignal now more).2.newsRiskScore := by
    unfold evaluate
    dsimp only
    split_ifs with noSignal disabled supported
    · exact le_refl (100 : ℤ)
    · exact le_refl (0 : ℤ)
    · by_cases fresh : layer.lastRefresh.any (fun last => now - last < layer.checkInterval) = true
      · unfold refresh
        rw [if_pos fresh, if_pos fresh]
      · unfold refresh
        rw [if_neg fresh, if_neg fresh]
        exact cached_score_mono ⟨rfl, rfl, rfl⟩ ⟨rfl, rfl, rfl⟩ ⟨rfl, rfl⟩ supported available adds
          keeps
    · exact le_refl (100 : ℤ)
  refine ⟨score, fun reason => ?_⟩
  rw [evaluate_action]
  have hundred := score_of_event_window strategySignal reason
  exact if_pos (by omega)

/-- An event of an impact at a fixed time. -/
def eventOf (impact : String) : CalendarEvent where
  title := "Interest rate decision"
  timestamp := 600
  impact := impact
  currency := "EUR"

/-- The answer of one provider with some events. -/
def answerOf (events : List CalendarEvent) : List ProviderAnswer :=
  [{ providesEconomicCalendar := true, calendar := .ok events, headlines := .ok [] }]

/-- An event of high impact that is added to an empty calendar keeps the risk. -/
theorem first_event_keeps_risk :
    (evaluate asciiText {} "EURUSD" true 0 (answerOf [])).2.newsRiskScore ≤
        (evaluate asciiText {} "EURUSD" true 0 (answerOf [eventOf "HIGH"])).2.newsRiskScore ∧
      ((evaluate asciiText {} "EURUSD" true 0 (answerOf [])).2.reason =
          "high_impact_economic_event_window" →
        (evaluate asciiText {} "EURUSD" true 0 (answerOf [eventOf "HIGH"])).2.newsAction =
          .blockTrade) := by
  have adds : Adds (.event (eventOf "HIGH")) (answerOf []) (answerOf [eventOf "HIGH"]) :=
    ⟨[], _, [], [], [], rfl, rfl, rfl⟩
  exact more_evidence_keeps_risk asciiText {} "EURUSD" true 0 rfl adds fun displaces =>
    displaces.2.1 rfl

/-- An event of low impact that follows one of high impact with the same title, time and currency
lifts the block. -/
theorem low_event_lifts_block :
    ¬∀ (evidence : NewsEvidence) (answers more : List ProviderAnswer),
      answers.any fetchedCalendar = true → Adds evidence answers more →
        (evaluate asciiText {} "EURUSD" true 0 answers).2.newsRiskScore ≤
            (evaluate asciiText {} "EURUSD" true 0 more).2.newsRiskScore ∧
          ((evaluate asciiText {} "EURUSD" true 0 answers).2.reason =
              "high_impact_economic_event_window" →
            (evaluate asciiText {} "EURUSD" true 0 more).2.newsAction = .blockTrade) := by
  intro keeps
  have adds : Adds (.event (eventOf "LOW")) (answerOf [eventOf "HIGH"])
      (answerOf [eventOf "HIGH", eventOf "LOW"]) :=
    ⟨[], _, [], [eventOf "HIGH"], [], rfl, rfl, rfl⟩
  exact absurd (keeps _ _ _ rfl adds).1 (by decide +kernel)

end FreeNewsSafetyLayer

end IgTradingBot
