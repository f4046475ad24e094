import IgTradingBot.Config.Constants
import IgTradingBot.Core.NumberText
import Mathlib.Data.List.AList

/-!
# Price stream

The subscriptions and the update lines of `src/trading/ig_stream.py`. A subscription has a number,
its table, under which the server sends the updates of its instrument; a second map leads from the
tables back to the instruments. An update line names its table and gives the fields bid, offer and
time of its instrument.
-/

namespace IgTradingBot

open NumberText

/-- State of a subscription. -/
inductive SubscriptionStatus where
  | active
  | stale
  | subscribing
  | unsubscribed
  | error
  deriving DecidableEq, Repr

/-- A subscription of an instrument. -/
structure SubscriptionState where
  epic : String
  tableKey : ℤ := 0
  status : SubscriptionStatus := .subscribing
  lastTickTime : Option ℚ := none
  subscribeTime : ℚ
  deriving DecidableEq, Repr

/-- The subscriptions by instrument, and the instruments by table. -/
structure IGStream where
  subscriptions : AList (fun _ : String => SubscriptionState) := ∅
  tableToEpic : AList (fun _ : ℤ => String) := ∅
  nextTableKey : ℤ := 1
  lastTickTimes : AList (fun _ : String => ℚ) := ∅

/-- The event that a tick publishes. -/
structure MarketTick where
  channel : String
  eventType : String := "market.tick"
  epic : String
  bid : Option FloatValue
  ask : Option FloatValue
  timestamp : ℚ
  receivedAt : ℚ
  deriving DecidableEq, Repr

/-- What an update line says: its instrument, and its bid and ask where they are numbers. -/
structure StreamUpdate where
  epic : String
  bid : Option FloatValue
  ask : Option FloatValue
  deriving DecidableEq, Repr

/-- Most attempts to subscribe. -/
def subscriptionRetryMaxAttempts : ℕ := 3

namespace IGStream

/-- The table of an instrument. -/
def tableOf (stream : IGStream) (epic : String) : Option ℤ :=
  (stream.subscriptions.lookup epic).map (·.tableKey)

/-- `self._subscriptions[epic].status = status`; an instrument that is not there is a `KeyError`. -/
def setStatus (stream : IGStream) (epic : String) (status : SubscriptionStatus) :
    Option IGStream :=
  (stream.subscriptions.lookup epic).map fun state =>
    { stream with
      subscriptions := stream.subscriptions.insert epic { state with status := status } }

/-- A subscription that needs no new attempt. -/
def isOpen (stream : IGStream) (epic : String) : Bool :=
  match stream.subscriptions.lookup epic with
  | some state => state.status = .active || state.status = .subscribing
  | none => false

/-- Enter a new subscription into both maps. -/
def addTable (stream : IGStream) (epic : String) (now : ℚ) : IGStream :=
  { stream with
    nextTableKey := stream.nextTableKey + 1
    subscriptions := stream.subscriptions.insert epic
      { epic := epic
        tableKey := stream.nextTableKey
        status := .subscribing
        subscribeTime := now }
    tableToEpic := stream.tableToEpic.insert stream.nextTableKey epic }

/-- What `unsubscribe` does once the server has answered, with the table that it had before; an
instrument that is not there any more is a `KeyError`. -/
def removeTable (stream : IGStream) (epic : String) (tableKey : ℤ) : Option IGStream :=
  (stream.subscriptions.lookup epic).map fun _ =>
    { stream with
      subscriptions := stream.subscriptions.erase epic
      tableToEpic := stream.tableToEpic.erase tableKey
      lastTickTimes := stream.lastTickTimes.erase epic }

/-- What `stop` clears. -/
def clear (stream : IGStream) : IGStream :=
  { stream with subscriptions := ∅, tableToEpic := ∅ }

/-- Mark an active instrument stale that had no tick for too long. -/
def checkStaleness (now : ℚ) (stream : IGStream) (epic : String) : IGStream :=
  match stream.subscriptions.lookup epic with
  | some state =>
    if state.status = .active ∨ state.status = .stale then
      let last := (stream.lastTickTimes.lookup epic).getD state.subscribeTime
      if Constants.tickStalenessSeconds ≤ now - last ∧ state.status ≠ .stale then
        (stream.setStatus epic .stale).getD stream
      else stream
    else stream
  | none => stream

/-- One round of the staleness monitor. -/
def staleCheck (stream : IGStream) (now : ℚ) : IGStream :=
  stream.subscriptions.keys.foldl (checkStaleness now) stream

/-- A price of an update line: empty, null and malformed fields have none. -/
def priceOf (field : List Char) : Option FloatValue :=
  if field = [] ∨ field = ['#'] ∨ field = ['$'] then none else readFloat field

/-- The table and the fields of a line `TABLE_KEY,ITEM_POS|FIELD1|FIELD2|...`. -/
def splitUpdate (line : List Char) : Option (List Char × List (List Char)) :=
  match line.span (· ≠ ',') with
  | (_, []) => none
  | (tableText, _ :: rest) =>
    match rest.span (· ≠ '|') with
    | (_, []) => none
    | (_, _ :: fieldText) => some (tableText, fieldText.splitOn '|')

/-- Parse an update line. A line of another shape, of no table or of a table without an instrument
has no update. -/
def parseUpdate (stream : IGStream) (line : List Char) : Option StreamUpdate := do
  let (tableText, fields) ← splitUpdate line
  let tableKey ← readInt tableText
  let epic ← stream.tableToEpic.lookup tableKey
  if epic = "" then none
  else some ⟨epic, priceOf (fields[0]?.getD []), priceOf (fields[1]?.getD [])⟩

/-- Process a tick and publish it. -/
def onTick (stream : IGStream) (update : StreamUpdate) (now : ℚ) : IGStream × MarketTick :=
  let ticked :=
    { stream with
      lastTickTimes := stream.lastTickTimes.insert update.epic now
      subscriptions :=
        match stream.subscriptions.lookup update.epic with
        | some state =>
          stream.subscriptions.insert update.epic
            { state with
              status := if state.status = .stale then .active else state.status
              lastTickTime := some now }
        | none => stream.subscriptions }
  (ticked,
    { channel := "market.tick." ++ update.epic
      epic := update.epic
      bid := update.bid
      ask := update.ask
      timestamp := now
      receivedAt := now })

/-- Parse an update line and dispatch a tick. -/
def handleUpdateLine (stream : IGStream) (line : List Char) (now : ℚ) :
    IGStream × Option MarketTick :=
  match stream.parseUpdate line with
  | none => (stream, none)
  | some update =>
    if update.bid.isNone && update.ask.isNone then (stream, none)
    else (fun ticked => (ticked.1, some ticked.2)) (stream.onTick update now)

/-- A line that ends the session. -/
def endsSession (line : List Char) : Bool :=
  line = "LOOP".toList || "ERROR".toList.isPrefixOf line || "SYNC ERROR".toList.isPrefixOf line ||
    "END".toList.isPrefixOf line

/-- The update line in a line after the handshake, unless it is empty, a probe or the end of the
session. -/
def updateText (line : String) : Option (List Char) :=
  let stripped := strip line.toList
  if stripped = [] || stripped = "PROBE".toList || endsSession stripped then none
  else some stripped

/-- What the listener does with a line after the handshake. -/
def receiveLine (stream : IGStream) (line : String) (now : ℚ) : IGStream × Option MarketTick :=
  match updateText line with
  | none => (stream, none)
  | some text => stream.handleUpdateLine text now

/-- The update that a line gives, if it gives one. -/
def updateOf (stream : IGStream) (line : String) : Option StreamUpdate :=
  (updateText line).bind stream.parseUpdate

/-- Nothing but the states and the times of subscriptions differs. -/
structure SameTables (before after : IGStream) : Prop where
  toEpic : after.tableToEpic = before.tableToEpic
  next : after.nextTableKey = before.nextTableKey
  table : after.tableOf = before.tableOf

section Laws

variable {stream : IGStream}

theorem SameTables.refl (stream : IGStream) : SameTables stream stream := ⟨rfl, rfl, rfl⟩

theorem SameTables.trans {first second third : IGStream} (earlier : SameTables first second)
    (later : SameTables second third) : SameTables first third :=
  ⟨later.toEpic.trans earlier.toEpic, later.next.trans earlier.next,
    later.table.trans earlier.table⟩

/-- A subscription that is replaced by one with the same table. -/
theorem table_of_insert_same {epic : String} {state : SubscriptionState}
    (found : stream.subscriptions.lookup epic = some state) {changed : SubscriptionState}
    (same : changed.tableKey = state.tableKey) (other : String) :
    ((stream.subscriptions.insert epic changed).lookup other).map (·.tableKey) =
      stream.tableOf other := by
  by_cases equal : other = epic
  · rw [equal, AList.lookup_insert, tableOf, found, Option.map_some, Option.map_some, same]
  · rw [AList.lookup_insert_ne equal, tableOf]

/-- A change of a state changes no table. -/
theorem set_status_same {epic : String} {status : SubscriptionStatus} {changed : IGStream}
    (set : stream.setStatus epic status = some changed) : SameTables stream changed := by
  obtain ⟨state, found, rfl⟩ := Option.map_eq_some_iff.mp set
  exact ⟨rfl, rfl, funext (table_of_insert_same found rfl)⟩

/-- The check of one instrument changes no table. -/
theorem check_staleness_same (now : ℚ) (stream : IGStream) (epic : String) :
    SameTables stream (stream.checkStaleness now epic) := by
  unfold checkStaleness
  split
  · split_ifs with checked
    · dsimp only
      split_ifs with old
      · cases set : stream.setStatus epic .stale with
        | none => exact .refl stream
        | some changed => exact set_status_same set
      · exact .refl stream
    · exact .refl stream
  · exact .refl stream

/-- A round of the monitor changes no table. The induction is on the instruments. -/
theorem stale_check_same (stream : IGStream) (now : ℚ) :
    SameTables stream (stream.staleCheck now) := by
  unfold staleCheck
  generalize stream.subscriptions.keys = epics
  induction epics generalizing stream with
  | nil => exact .refl stream
  | cons epic rest inductionHypothesis =>
    exact (check_staleness_same now stream epic).trans (inductionHypothesis _)

/-- A tick changes no table. -/
theorem on_tick_same (stream : IGStream) (update : StreamUpdate) (now : ℚ) :
    SameTables stream (stream.onTick update now).1 := by
  refine ⟨rfl, rfl, funext fun other => ?_⟩
  cases found : stream.subscriptions.lookup update.epic with
  | none => simp only [onTick, tableOf, found]
  | some state =>
    simp only [onTick, found]
    refine table_of_insert_same found ?_ other
    rfl

/-- A line is handled by its update: without one, or without a price in it, nothing happens. -/
theorem receive_line_eq (stream : IGStream) (line : String) (now : ℚ) :
    stream.receiveLine line now =
      match stream.updateOf line with
      | none => (stream, none)
      | some update =>
        if update.bid.isNone && update.ask.isNone then (stream, none)
        else ((stream.onTick update now).1, some (stream.onTick update now).2) := by
  unfold receiveLine updateOf
  cases updateText line with
  | none => rfl
  | some text => rfl

/-- A line that publishes a tick gives its prices. -/
theorem receive_line_tick {line : String} {now : ℚ} {tick : MarketTick}
    (published : (stream.receiveLine line now).2 = some tick) :
    ∃ update, stream.updateOf line = some update ∧ tick = (stream.onTick update now).2 ∧
      ¬ (update.bid = none ∧ update.ask = none) := by
  rw [receive_line_eq] at published
  cases given : stream.updateOf line with
  | none => simp [given] at published
  | some update =>
    simp only [given] at published
    split_ifs at published with empty
    refine ⟨update, rfl, (Option.some.inj published).symm, ?_⟩
    rintro ⟨noBid, noAsk⟩
    simp [noBid, noAsk] at empty

/-- A line changes no table. -/
theorem receive_line_same (stream : IGStream) (line : String) (now : ℚ) :
    SameTables stream (stream.receiveLine line now).1 := by
  rw [receive_line_eq]
  cases stream.updateOf line with
  | none => exact .refl stream
  | some update =>
    dsimp only
    split_ifs
    · exact .refl stream
    · exact on_tick_same stream update now

/-- An update is of an instrument to which a table leads. -/
theorem update_of_table {line : String} {update : StreamUpdate}
    (given : stream.updateOf line = some update) :
    ∃ tableKey, stream.tableToEpic.lookup tableKey = some update.epic := by
  obtain ⟨text, _, parsed⟩ := Option.bind_eq_some_iff.mp given
  simp only [parseUpdate, bind, Option.bind_eq_some_iff] at parsed
  obtain ⟨_, _, tableKey, _, epic, leads, parsed⟩ := parsed
  split_ifs at parsed
  obtain rfl := Option.some.inj parsed
  exact ⟨tableKey, leads⟩

end Laws

end IGStream

end IgTradingBot
