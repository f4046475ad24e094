import IgTradingBot.News.EconomicCalendar
import IgTradingBot.News.FreeNewsSafety

/-!
# Calendar providers

The adapters of `src/news/free_news_safety.py` that ask for an economic calendar: one reads a JSON
array, one a week's calendar in XML, and the others have none. The parsers of JSON, XML, dates and
times are those of the standard library: the adapters start from what they return. Headlines are
what the adapters' other call returns or raises.
-/

namespace IgTradingBot

/-- A JSON value. -/
inductive JsonValue where
  | null
  | boolean (value : Bool)
  | number (value : ℚ)
  | text (value : String)
  | array (items : List JsonValue)
  | object (entries : List (String × JsonValue))

namespace JsonValue

/-- A value counts as true. -/
def truthy : JsonValue → Bool
  | null => false
  | boolean value => value
  | number value => decide (value ≠ 0)
  | text value => decide (value ≠ "")
  | array items => !items.isEmpty
  | object entries => !entries.isEmpty

/-- `value or fallback`. -/
def orElse (value fallback : JsonValue) : JsonValue := if value.truthy then value else fallback

end JsonValue

/-- An element of an XML document: its tag, the text before its first child, and its children. -/
inductive XmlElement where
  | element (tag : String) (text : Option String) (children : List XmlElement)

namespace XmlElement

/-- The tag of an element. -/
def tag : XmlElement → String
  | element tag _ _ => tag

/-- The text of an element. -/
def text : XmlElement → Option String
  | element _ text _ => text

/-- The children of an element. -/
def children : XmlElement → List XmlElement
  | element _ _ children => children

mutual

/-- The elements with a tag below an element, in the order of the document. -/
def findall (name : String) : XmlElement → List XmlElement
  | element _ _ children => findallAmong name children

/-- The elements with a tag among some elements and below them. -/
def findallAmong (name : String) : List XmlElement → List XmlElement
  | [] => []
  | child :: rest =>
    (if child.tag = name then [child] else []) ++ child.findall name ++ findallAmong name rest

end

/-- The first child with a tag. -/
def find (name : String) (item : XmlElement) : Option XmlElement :=
  item.children.find? fun child => child.tag = name

end XmlElement

/-- The operations that the adapters take from their libraries: text of values, parsers of dates and
times, and the parser of XML. A date is the number of its day, a time the second of its day, and
there is none if the text has another form. -/
structure ParsingOperations extends TextOperations where
  str : JsonValue → String
  strip : String → String
  fromisoformat : String → Option DateTime
  strptimeDate : String → Option ℤ
  strptimeTime : (format : String) → String → Option ℚ
  fromstring : String → Option XmlElement

namespace CalendarProviders

/-- A time in UTC from a value, if it has one. -/
def parseDatetime (parsing : ParsingOperations) (value : JsonValue) : Option ℚ :=
  if value.truthy then
    (parsing.fromisoformat ((parsing.str value).replace "Z" "+00:00")).map DateTime.instant
  else none

/-- The code of a currency from that of a country or a currency. -/
def normaliseCurrency (parsing : ParsingOperations) (value : JsonValue) : String :=
  let currency := parsing.upper (parsing.str (value.orElse (.text "")))
  ([("US", "USD"), ("USA", "USD"), ("EU", "EUR"), ("EMU", "EUR"), ("GB", "GBP"), ("UK", "GBP"),
    ("JP", "JPY")].lookup currency).getD currency

/-- The level of an impact. -/
def normaliseImpact (parsing : ParsingOperations) (value : JsonValue) : String :=
  let impact := parsing.upper (parsing.str (value.orElse (.text "LOW")))
  if impact ∈ ["HIGH", "3", "3.0"] then "HIGH"
  else if impact ∈ ["MEDIUM", "MODERATE", "2", "2.0"] then "MEDIUM"
  else "LOW"

/-- The event of an item of a JSON calendar: none without a time. Only an object has entries. -/
def fmpEvent (parsing : ParsingOperations) : JsonValue → Except Failure (Option CalendarEvent)
  | .object entries =>
    let get := fun key => (entries.lookup key).getD .null
    match parseDatetime parsing (get "date") with
    | none => .ok none
    | some timestamp => .ok (some
        { title := parsing.str (((get "event").orElse (get "name")).orElse (.text "Economic event"))
          timestamp := timestamp
          impact := normaliseImpact parsing ((get "impact").orElse (get "importance"))
          currency := normaliseCurrency parsing ((get "currency").orElse (get "country")) })
  | _ => .error .badShape

/-- The answer of the first endpoint that answers. -/
def fmpGet : List (Except Failure JsonValue) → Except Failure JsonValue
  | [] => .error (.other "All FMP endpoints failed")
  | .ok data :: _ => .ok data
  | .error _ :: rest => fmpGet rest

/-- The items of a JSON calendar. What is no array has none. -/
def fmpItems : JsonValue → List JsonValue
  | .array items => items
  | _ => []

/-- The calendar of the JSON adapter. -/
def fmpCalendar (parsing : ParsingOperations) (apiKey : String)
    (responses : List (Except Failure JsonValue)) : Except Failure (List CalendarEvent) :=
  if apiKey = "" then .error (.other "FMP_API_KEY is not configured")
  else do
    let data ← fmpGet responses
    let events ← (fmpItems data).mapM (fmpEvent parsing)
    return events.filterMap id

/-- The text of a child. -/
def xmlChildText (parsing : ParsingOperations) (item : XmlElement) (tag : String) : String :=
  match item.find tag with
  | some child => parsing.strip (child.text.getD "")
  | none => ""

/-- The time of an event of the XML calendar: noon for one without a time of day. -/
def parseForexfactoryTimestamp (parsing : ParsingOperations) (dateValue timeValue : String) :
    Option ℚ := do
  if dateValue = "" then none
  let day ← parsing.strptimeDate (parsing.strip dateValue)
  let text := (parsing.lower (parsing.strip timeValue)).replace " " ""
  let eventTime ← if text = "" ∨ text = "allday" ∨ text = "tentative" then some (12 * 3600)
    else (parsing.strptimeTime "%I:%M%p" text).or (parsing.strptimeTime "%I%p" text)
  return day * 86400 + eventTime

/-- The event of an element of the XML calendar: none without a currency or a time. -/
def forexfactoryEvent (parsing : ParsingOperations) (item : XmlElement) : Option CalendarEvent :=
  let title := xmlChildText parsing item "title"
  let currency := normaliseCurrency parsing (.text (xmlChildText parsing item "country"))
  match parseForexfactoryTimestamp parsing (xmlChildText parsing item "date")
      (xmlChildText parsing item "time") with
  | none => none
  | some timestamp =>
    if currency = "" then none
    else some
      { title := if title = "" then "Economic event" else title
        timestamp := timestamp
        impact := normaliseImpact parsing (.text (xmlChildText parsing item "impact"))
        currency := currency
        source := "ForexFactory" }

/-- The events of the XML calendar. A text that is not XML has none. -/
def parseForexfactoryCalendar (parsing : ParsingOperations) (xmlText : String) :
    List CalendarEvent :=
  match parsing.fromstring xmlText with
  | none => []
  | some root => (root.findall "event").filterMap (forexfactoryEvent parsing)

/-- The calendar of the XML adapter, between two times. -/
def forexfactoryCalendar (parsing : ParsingOperations) (start finish : ℚ)
    (response : Except Failure String) : Except Failure (List CalendarEvent) := do
  let xmlText ← response
  return (parseForexfactoryCalendar parsing xmlText).filter fun event =>
    start ≤ event.timestamp ∧ event.timestamp ≤ finish

/-- What a provider of a kind is answered when it asks for a calendar. -/
inductive CalendarOutcome where
  | fmp (apiKey : String) (responses : List (Except Failure JsonValue))
  | forexFactory (response : Except Failure String)
  | marketaux
  | gdelt

/-- What a provider is answered during a refresh. -/
structure ProviderOutcome where
  calendar : CalendarOutcome
  headlines : Except Failure (List NewsHeadline)

/-- A provider of a kind has an economic calendar. -/
def providesEconomicCalendar : CalendarOutcome → Bool
  | .fmp _ _ => true
  | .forexFactory _ => true
  | .marketaux => false
  | .gdelt => false

/-- The events that a provider of a kind returns. -/
def fetchCalendar (parsing : ParsingOperations) (start finish : ℚ) :
    CalendarOutcome → Except Failure (List CalendarEvent)
  | .fmp apiKey responses => fmpCalendar parsing apiKey responses
  | .forexFactory response => forexfactoryCalendar parsing start finish response
  | .marketaux => .ok []
  | .gdelt => .ok []

/-- What the two calls of a provider return or raise. -/
def adapter (parsing : ParsingOperations) (start finish : ℚ) (outcome : ProviderOutcome) :
    ProviderAnswer where
  providesEconomicCalendar := providesEconomicCalendar outcome.calendar
  calendar := fetchCalendar parsing start finish outcome.calendar
  headlines := outcome.headlines

end CalendarProviders

end IgTradingBot
