import IgTradingBot.Loop.Execution

/-!
# Free news safety layer

The overlay of `src/news/free_news_safety.py`: the refresh of its cache from the providers'
answers, and the decision on a strategy signal. The providers' adapters are outside; an
answer is what their two calls return or raise. Case, alphanumeric characters and the
printing of a date are those of the text library.
-/

namespace IgTradingBot

open TradingLoop (containsText)

/-- The operations on text that the layer takes from its library. -/
structure TextOperations where
  lower : String → String
  upper : String → String
  isAlnum : Char → Bool
  isoformat : ℚ → String

/-- Keywords of the supported symbols. -/
def symbolKeywords : List (String × List String) :=
  [("XAUUSD", ["gold", "fed", "powell", "cpi", "inflation", "interest rates", "tariff", "trump",
      "war", "geopolitical risk", "yields", "us dollar"]),
    ("BTCUSD", ["bitcoin", "btc", "crypto", "etf", "sec", "trump", "regulation", "risk assets",
      "liquidity"]),
    ("EURUSD", ["eur", "euro", "ecb", "fed", "cpi", "inflation", "gdp", "usd"]),
    ("GBPUSD", ["gbp", "pound", "boe", "uk inflation", "fed", "usd"]),
    ("USDJPY", ["jpy", "yen", "boj", "intervention", "fed", "yields", "us dollar"])]

/-- Currencies of the supported symbols. -/
def symbolCurrencies : List (String × List String) :=
  [("XAUUSD", ["USD"]), ("BTCUSD", ["USD"]), ("EURUSD", ["EUR", "USD"]),
    ("GBPUSD", ["GBP", "USD"]), ("USDJPY", ["USD", "JPY"])]

/-- An event of the economic calendar. -/
structure CalendarEvent where
  title : String
  timestamp : ℚ
  impact : String
  currency : String
  source : String := "FMP"
  deriving DecidableEq, Repr

/-- A headline with its sentiment, if it has one. -/
structure NewsHeadline where
  title : String
  publishedAt : ℚ
  source : String
  sentiment : Option ℚ := none
  deriving DecidableEq, Repr

/-- A decision of the layer. -/
structure NewsRiskDecision where
  newsRiskScore : ℤ
  newsAction : NewsAction
  matchedNewsHeadlines : List String := []
  matchedCalendarEvents : List String := []
  reason : String := ""
  deriving DecidableEq, Repr

/-- What a provider's two calls return or raise during a refresh. -/
structure ProviderAnswer where
  providesEconomicCalendar : Bool := false
  calendar : Except Failure (List CalendarEvent)
  headlines : Except Failure (List NewsHeadline)

/-- Settings and cache of the layer. Times are seconds. -/
structure FreeNewsSafetyLayer where
  enabled : Bool := true
  checkInterval : ℚ := 600
  blockBefore : ℚ := 1800
  blockAfter : ℚ := 2700
  calendar : List CalendarEvent := []
  headlines : List (String × List NewsHeadline) := []
  lastRefresh : Option ℚ := none
  calendarAvailable : Bool := false

namespace FreeNewsSafetyLayer

/-- A layer with its settings in minutes. -/
def create (enabled : Bool := true)
    (checkIntervalMinutes blockBeforeMinutes blockAfterMinutes : ℤ) : FreeNewsSafetyLayer :=
  { enabled := enabled
    checkInterval := (max 1 checkIntervalMinutes : ℤ) * 60
    blockBefore := (max 0 blockBeforeMinutes : ℤ) * 60
    blockAfter := (max 0 blockAfterMinutes : ℤ) * 60 }

/-- The supported symbol of an instrument's name, or the name without other characters. -/
def normaliseSymbol (text : TextOperations) (value : String) : String :=
  let compact := String.ofList ((text.upper value).toList.filter text.isAlnum)
  if compact = "BTCUSDT" then "BTCUSD"
  else ((symbolKeywords.map Prod.fst).find? fun symbol => containsText symbol compact).getD compact

/-- A title contains one of the keywords. -/
def matchesKeywords (text : TextOperations) (title : String) (keywords : List String) : Bool :=
  keywords.any fun keyword => containsText (text.lower keyword) (text.lower title)

/-- The risk score of a headline. -/
def headlineScore (text : TextOperations) (symbol : String) (headline : NewsHeadline) : ℤ :=
  let title := text.lower headline.title
  let mentions := fun terms : List String => terms.any fun term => containsText term title
  let topical : ℤ :=
    if mentions ["trump", "tariff", "war", "attack", "sanction", "intervention"] then max 25 65
    else if mentions ["fed", "powell", "ecb", "boe", "boj", "cpi", "inflation", "yields"] then
      max 25 45
    else 25
  let urgent :=
    if mentions ["emergency", "breaking", "invasion", "nuclear", "market crash"] then
      max topical 85
    else topical
  let regulated :=
    if symbol = "BTCUSD" ∧ mentions ["sec", "regulation", "etf", "liquidity"] then max urgent 55
    else urgent
  match headline.sentiment with
  | some sentiment => if 6 / 10 ≤ |sentiment| then max regulated 60 else regulated
  | none => regulated

/-- The action that a score calls for. -/
def actionForScore (score : ℤ) : NewsAction :=
  if 80 ≤ score then .blockTrade
  else if 55 ≤ score then .reduceSize
  else if 35 ≤ score then .requireExtraConfirmation
  else .allowNormal

/-- The reason of a decision that the headlines make. -/
def reasonForAction (action : NewsAction) (matched : Bool) : String :=
  if !matched then "no_relevant_recent_news"
  else match action with
    | .allowNormal => "low_impact_relevant_news"
    | .requireExtraConfirmation => "moderate_news_risk"
    | .reduceSize => "elevated_news_risk"
    | .blockTrade => "severe_breaking_news_risk"

/-- Items by key, each at the place of the first and with the value of the last of its key. -/
def deduplicate {Key Item : Type} [DecidableEq Key] (key : Item → Key) (items : List Item) :
    List Item :=
  items.foldl (fun kept item =>
    if kept.any fun other => key other = key item then
      kept.map fun other => if key other = key item then item else other
    else kept ++ [item]) []

/-- Events by title, time and currency. -/
def deduplicateEvents (events : List CalendarEvent) : List CalendarEvent :=
  deduplicate (fun event => (event.title, event.timestamp, event.currency)) events

/-- Headlines by title without case. -/
def deduplicateHeadlines (text : TextOperations) (items : List NewsHeadline) :
    List NewsHeadline :=
  deduplicate (fun item => text.lower item.title) items

/-- What a call returned; nothing if it raised. -/
def answered {α : Type} (answer : Except Failure (List α)) : List α :=
  match answer with
  | .ok items => items
  | .error _ => []

/-- A calendar of a provider of calendars has been fetched. -/
def fetchedCalendar (answer : ProviderAnswer) : Bool :=
  match answer.calendar with
  | .ok _ => answer.providesEconomicCalendar
  | .error _ => false

/-- Replace the cache, unless it is younger than the interval. Every symbol gets all headlines. -/
def refresh (text : TextOperations) (layer : FreeNewsSafetyLayer) (now : ℚ)
    (answers : List ProviderAnswer) : FreeNewsSafetyLayer :=
  if layer.lastRefresh.any fun last => now - last < layer.checkInterval then layer
  else
    let items := answers.flatMap fun answer => answered answer.headlines
    { layer with
      calendar := deduplicateEvents (answers.flatMap fun answer => answered answer.calendar)
      headlines := symbolKeywords.map fun entry => (entry.1, deduplicateHeadlines text items)
      calendarAvailable := answers.any fetchedCalendar
      lastRefresh := some now }

/-- The keywords of a symbol. -/
def keywordsOf (symbol : String) : List String := (symbolKeywords.lookup symbol).getD []

/-- The high-impact events of a symbol's currencies in whose window a time lies. -/
def currentEvents (layer : FreeNewsSafetyLayer) (symbol : String) (now : ℚ) :
    List CalendarEvent :=
  layer.calendar.filter fun event =>
    event.impact = "HIGH" ∧ event.currency ∈ (symbolCurrencies.lookup symbol).getD [] ∧
      event.timestamp - layer.blockBefore ≤ now ∧ now ≤ event.timestamp + layer.blockAfter

/-- The headlines that match a symbol's keywords. -/
def matchedHeadlines (text : TextOperations) (layer : FreeNewsSafetyLayer) (symbol : String) :
    List NewsHeadline :=
  ((layer.headlines.lookup symbol).getD []).filter fun headline =>
    matchesKeywords text headline.title (keywordsOf symbol)

/-- How a decision names an event. -/
def eventText (text : TextOperations) (event : CalendarEvent) : String :=
  event.title ++ " (" ++ event.currency ++ ", " ++ text.isoformat event.timestamp ++ ")"

/-- The decision on a supported symbol, from the cache. -/
def cachedDecision (text : TextOperations) (layer : FreeNewsSafetyLayer) (symbol : String) (now : ℚ) :
    NewsRiskDecision :=
  if !layer.calendarAvailable then
    { newsRiskScore := 100
      newsAction := .blockTrade
      reason := "economic_calendar_unavailable_fail_closed" }
  else if layer.currentEvents symbol now ≠ [] then
    { newsRiskScore := 100
      newsAction := .blockTrade
      matchedCalendarEvents := ((layer.currentEvents symbol now).map (eventText text)).take 10
      reason := "high_impact_economic_event_window" }
  else
    let matched := layer.matchedHeadlines text symbol
    let score := ((matched.map (headlineScore text symbol)).max?).getD 0
    let action := actionForScore score
    { newsRiskScore := score
      newsAction := action
      matchedNewsHeadlines := (matched.map (·.title)).take 10
      reason := reasonForAction action (!matched.isEmpty) }

/-- Decide on a strategy signal. -/
def evaluate (text : TextOperations) (layer : FreeNewsSafetyLayer) (symbol : String)
    (strategySignal : Bool) (now : ℚ) (answers : List ProviderAnswer) :
    FreeNewsSafetyLayer × NewsRiskDecision :=
  let symbol := normaliseSymbol text symbol
  if !strategySignal then
    (layer,
      { newsRiskScore := 100, newsAction := .blockTrade, reason := "no_strategy_signal" })
  else if !layer.enabled then
    (layer,
      { newsRiskScore := 0, newsAction := .allowNormal, reason := "news_filter_disabled" })
  else if symbol ∉ symbolKeywords.map Prod.fst then
    (layer,
      { newsRiskScore := 100
        newsAction := .blockTrade
        reason := "unsupported_symbol_for_news_filter" })
  else
    let refreshed := layer.refresh text now answers
    (refreshed, refreshed.cachedDecision text symbol now)

/-- Every decision has the action of its score. -/
theorem evaluate_action (text : TextOperations) (layer : FreeNewsSafetyLayer) (symbol : String)
    (strategySignal : Bool) (now : ℚ) (answers : List ProviderAnswer) :
    (layer.evaluate text symbol strategySignal now answers).2.newsAction =
      actionForScore (layer.evaluate text symbol strategySignal now answers).2.newsRiskScore := by
  simp only [evaluate, cachedDecision]
  split_ifs <;> rfl

/-- The headlines decide on a symbol: the layer is enabled, supports the symbol, has a calendar
after the refresh, and no event blocks. -/
structure HeadlinesDecide (text : TextOperations) (layer : FreeNewsSafetyLayer)
    (symbol : String) (now : ℚ) (answers : List ProviderAnswer) : Prop where
  enabled : layer.enabled = true
  supported : symbol ∈ symbolKeywords.map Prod.fst
  calendar : (layer.refresh text now answers).calendarAvailable = true
  uneventful : (layer.refresh text now answers).currentEvents symbol now = []

/-- A strategy signal is scored by the headlines where they decide, with nothing where the
layer is disabled, and with a hundred elsewhere. -/
theorem evaluate_score (text : TextOperations) (layer : FreeNewsSafetyLayer) (symbol : String)
    (now : ℚ) (answers : List ProviderAnswer) :
    let score := (layer.evaluate text symbol true now answers).2.newsRiskScore
    let normalised := normaliseSymbol text symbol
    (layer.HeadlinesDecide text normalised now answers ∧
        score = ((((layer.refresh text now answers).matchedHeadlines text normalised).map
          (headlineScore text normalised)).max?).getD 0) ∨
      ¬ layer.HeadlinesDecide text normalised now answers ∧ (score = 0 ∨ score = 100) := by
  intro score normalised
  by_cases enabled : layer.enabled = true
  · by_cases supported : normalised ∈ symbolKeywords.map Prod.fst
    · by_cases calendar : (layer.refresh text now answers).calendarAvailable = true
      · by_cases uneventful : (layer.refresh text now answers).currentEvents normalised now = []
        · left
          refine ⟨⟨enabled, supported, calendar, uneventful⟩, ?_⟩
          simp [score, normalised, evaluate, cachedDecision, enabled, supported, calendar,
            uneventful]
        · refine Or.inr ⟨fun decides => uneventful decides.uneventful, Or.inr ?_⟩
          simp [score, normalised, evaluate, cachedDecision, enabled, supported, calendar,
            uneventful]
      · refine Or.inr ⟨fun decides => calendar decides.calendar, Or.inr ?_⟩
        simp [score, normalised, evaluate, cachedDecision, enabled, supported, calendar]
    · refine Or.inr ⟨fun decides => supported decides.supported, Or.inr ?_⟩
      simp [score, normalised, evaluate, enabled, supported]
  · refine Or.inr ⟨fun decides => enabled decides.enabled, Or.inl ?_⟩
    simp [score, evaluate, enabled]

end FreeNewsSafetyLayer

end IgTradingBot
