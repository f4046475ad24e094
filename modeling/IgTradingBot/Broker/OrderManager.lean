import IgTradingBot.Core.Values
import IgTradingBot.Library.Programs
import Mathlib.Data.List.AList

/-!
# Order manager

Placement, closing and failure handling of `src/trading/order_manager.py`. A
call works on one order object that the manager also holds in its dictionary,
so the state of a call carries the order beside the manager, and every write to
the order is a write to the dictionary.

The broker is an environment. It answers the requests of a call in order, and
each answer says apart from its body whether the broker accepted an order,
because a reply can be lost or unreadable after the acceptance. Event
publication is left out: it never raises and nothing reads it.
-/

namespace IgTradingBot

open Sequential Sequential.Program

/-- Supported order types. -/
inductive OrderType where
  | market
  | limit
  | stop
  | trailingStop
  deriving DecidableEq, Repr

/-- The string of an order type in a request. -/
def OrderType.value : OrderType → String
  | .market => "MARKET"
  | .limit => "LIMIT"
  | .stop => "STOP"
  | .trailingStop => "TRAILING_STOP"

/-- States of the order lifecycle. -/
inductive OrderStatus where
  | pending
  | submitted
  | filled
  | rejected
  | failed
  | closed
  | partiallyClosed
  deriving DecidableEq, Repr

/-- Contents of an order's error message. -/
inductive OrderError where
  /-- "Failed to retrieve market info: …" -/
  | marketInfoUnavailable (cause : Failure)
  /-- "Instrument … is not active (status: …)" -/
  | notActive (instrument status : String)
  /-- "Order size … is below minimum … for …" -/
  | belowMinimum (size minSize : ℚ) (instrument : String)
  /-- "Insufficient margin: available=…, required=…" -/
  | insufficientMargin (available required : ℚ)
  /-- the text of the exception that ended the first attempt -/
  | execution (cause : Failure)
  /-- "Close percentage must be between 0.25 and 0.75" -/
  | closePercentage (closePct : ℚ)
  /-- "Calculated close size is zero" -/
  | zeroCloseSize (totalSize closePct : ℚ)
  /-- "Trail distance must be positive" -/
  | trailDistance (trailDistance : ℚ)
  deriving DecidableEq, Repr

/-- Exceptions that leave the manager. -/
inductive OrderFailure where
  /-- `OrderValidationError` with the validation's message -/
  | validation (reason : OrderError)
  /-- `OrderExecutionError`: "Order failed after retry: …" -/
  | execution (cause : Failure)
  /-- any other exception that no handler of the manager turns into one of these -/
  | escaped (failure : Failure)
  deriving DecidableEq, Repr

/-- A trading order through its lifecycle. Times are seconds since the epoch. -/
structure Order where
  id : String
  instrument : String
  direction : String
  orderType : OrderType
  size : ℚ
  price : Option ℚ := none
  stopDistance : Option ℚ := none
  limitDistance : Option ℚ := none
  trailDistance : Option ℚ := none
  status : OrderStatus := .pending
  dealReference : Option String := none
  dealId : Option String := none
  createdAt : ℚ := 0
  filledAt : Option ℚ := none
  closedAt : Option ℚ := none
  errorMessage : Option OrderError := none
  retryCount : ℕ := 0
  entryPrice : Option ℚ := none
  deriving DecidableEq, Repr

/-- Configuration of an active trailing stop. -/
structure TrailingStopConfig where
  dealId : String
  instrument : String
  direction : String
  trailDistance : ℚ
  currentStop : ℚ
  highestPrice : ℚ
  lowestPrice : ℚ
  deriving DecidableEq, Repr

/-- The two dictionaries of the manager. -/
structure OrderManager where
  orders : AList (fun _ : String => Order) := ∅
  activeTrailingStops : AList (fun _ : String => TrailingStopConfig) := ∅

/-- Decoded market information; margin fields that are null count as absent. -/
structure MarketInfo where
  status : String := ""
  minSize : Option Numeral := none
  marginAvailable : Option Numeral := none
  marginRequired : Option Numeral := none
  deriving DecidableEq, Repr

/-- The fields of a reply that the manager reads, and the deal status that it
does not read. The entry price is `none` only when its key is absent; a null
price is malformed. -/
structure OrderReply where
  dealReference : Option String := none
  dealId : Option String := none
  dealStatus : Option String := none
  entryPrice : Option Numeral := none
  deriving DecidableEq, Repr

/-- A decoded body: a dictionary, or something without `get`. -/
inductive ReplyBody where
  | dict (reply : OrderReply)
  | notADict
  deriving DecidableEq, Repr

/-- What the broker did with an order-placing request and what came back. -/
structure PlaceReply where
  accepted : Bool
  answer : Except Failure ReplyBody
  deriving DecidableEq, Repr

/-- The messages of the manager to the notification service. -/
inductive OrderAlert where
  /-- level warning: "Order rejected for …: …" -/
  | rejected (instrument : String) (reason : OrderError)
  /-- level error: "Order failed for …: …" -/
  | failed (instrument : String) (cause : Failure)
  /-- level error: "Order retry failed for …: …" -/
  | retryFailed (instrument : String) (cause : Failure)
  deriving DecidableEq, Repr

/-- The arguments of an order-placing request. -/
structure PlaceRequest where
  instrument : String
  direction : String
  size : ℚ
  orderType : String
  price : Option ℚ
  stopDistance : Option ℚ
  limitDistance : Option ℚ
  deriving DecidableEq, Repr

/-- A request that the manager transmitted and the broker's decision on it. -/
inductive Exchange where
  | placed (request : PlaceRequest) (accepted : Bool)
  | closed (dealId direction : String) (size : ℚ)
  deriving DecidableEq, Repr

/-- Everything a call meets: the market information, the reply to its n-th
order-placing request, the reply to its close request, the notification service
if there is one, and the time after n transmitted requests. -/
structure OrderEnvironment where
  marketInfo : Except Failure MarketInfo
  placeReply : ℕ → PlaceReply
  closeReply : Except Failure ReplyBody
  sendAlert : Option (OrderAlert → Except Failure Unit) := none
  now : ℕ → ℚ := fun _ => 0

/-- State of one call: the manager, the order in work, the exchanges with the
broker, and the statuses that the order has had, latest first. -/
structure OrderCall where
  manager : OrderManager
  order : Order
  exchanges : List Exchange := []
  statuses : List OrderStatus := [order.status]

/-- Programs of the manager. -/
abbrev OrderProgram := Program OrderFailure OrderCall

/-- The broker accepted the order of this exchange. -/
def Exchange.isAccepted : Exchange → Bool
  | .placed _ accepted => accepted
  | .closed .. => false

/-- The exchange is an order-placing request. -/
def Exchange.isPlacement : Exchange → Bool
  | .placed .. => true
  | .closed .. => false

/-- Orders that the broker accepted during the call. -/
def OrderCall.acceptedOrders (call : OrderCall) : ℕ := call.exchanges.countP Exchange.isAccepted

/-- Order-placing requests transmitted during the call. -/
def OrderCall.placements (call : OrderCall) : ℕ := call.exchanges.countP Exchange.isPlacement

namespace OrderManager

/-- An order moves when its status changes. -/
def moveTo (status : OrderStatus) (statuses : List OrderStatus) : List OrderStatus :=
  if statuses.head? = some status then statuses else status :: statuses

/-- Assign attributes of the order in work, visible through the dictionary. -/
def setOrder (change : Order → Order) : OrderProgram Unit :=
  modify fun call =>
    let order := change call.order
    { call with
        order := order
        manager := { call.manager with orders := call.manager.orders.insert order.id order }
        statuses := moveTo order.status call.statuses }

/-- Send a message if there is a service. An exception of the service is caught,
but the log call of the handler passes a field named `message`, which the log
record refuses with a `KeyError`; that exception leaves the method. -/
def notify (env : OrderEnvironment) (alert : OrderAlert) : OrderProgram Unit :=
  match env.sendAlert with
  | none => pure ()
  | some sendAlert =>
    match sendAlert alert with
    | .ok () => pure ()
    | .error _ => raise (.escaped (.other "Attempt to overwrite 'message' in LogRecord"))

/-- The request for an order; a close order keeps its empty instrument. -/
def placeRequest (order : Order) : PlaceRequest :=
  ⟨order.instrument, order.direction, order.size, order.orderType.value, order.price,
    order.stopDistance, order.limitDistance⟩

/-- Transmit the order-placing request of the order in work. -/
def executeOnIg (env : OrderEnvironment) : OrderProgram ReplyBody := fun call =>
  let reply := env.placeReply call.placements
  (reply.answer.mapError .escaped,
    { call with exchanges := .placed (placeRequest call.order) reply.accepted :: call.exchanges })

/-- Transmit the close request of a deal. -/
def closeOnIg (env : OrderEnvironment) (dealId : String) : OrderProgram ReplyBody := fun call =>
  (env.closeReply.mapError .escaped,
    { call with
        exchanges := .closed dealId call.order.direction call.order.size :: call.exchanges })

/-- The cause under which a handler reports an exception of its body. -/
def causeOf : OrderFailure → Failure
  | .escaped failure => failure
  | .execution cause => cause
  | .validation _ => .orderValidation "Validation failed"

/-- Book a reply as a fill, as both the submission and its retry do: the status
is assigned before the reply is read, and a body that is no dictionary or whose
entry price is no number raises in the middle. -/
def bookFill (env : OrderEnvironment) (body : ReplyBody) : OrderProgram Unit := do
  setOrder fun order => { order with status := .filled }
  match body with
  | .notADict => raise (.escaped .badShape)
  | .dict reply => do
      let exchanged ← read fun call => call.exchanges.length
      setOrder fun order =>
        { order with
            dealReference := reply.dealReference
            dealId := reply.dealId
            filledAt := some (env.now exchanged) }
      match reply.entryPrice with
      | none => setOrder fun order => { order with entryPrice := none }
      | some numeral => do
          let price ← ofExcept (numeral.parse.mapError .escaped)
          setOrder fun order => { order with entryPrice := some price }

/-- Mark the order as failed and raise. -/
def markFailed (cause : Failure) : OrderProgram Order := do
  setOrder fun order => { order with status := .failed, errorMessage := some (.execution cause) }
  raise (.execution cause)

/-- One attempt to place the order in work: execute it and book the reply. The
submission and its retry run this block, each under a handler of its own. -/
def attemptFill (env : OrderEnvironment) : OrderProgram Order := do
  let body ← executeOnIg env
  bookFill env body
  read (·.order)

/-- Handle a failed attempt: notify, and on the first failure execute the order
once more, always as an order-placing request. -/
def handleFailure (env : OrderEnvironment) (cause : Failure) : OrderProgram Order := do
  let order ← read (·.order)
  notify env (.failed order.instrument cause)
  if order.retryCount < 1 then do
    setOrder fun order => { order with retryCount := order.retryCount + 1 }
    rescue (attemptFill env)
      (fun retryError => do
        notify env (.retryFailed order.instrument (causeOf retryError))
        markFailed cause)
  else markFailed cause

/-- Submit a validated order. -/
def submitOrder (env : OrderEnvironment) : OrderProgram Order := do
  setOrder fun order => { order with status := .submitted }
  rescue (attemptFill env) (fun failure => handleFailure env (causeOf failure))

/-- Smallest order size when the instrument information has none. -/
def defaultMinSize : ℚ := 1 / 100

/-- The margin check, made only when both fields are present. -/
def marginError (info : MarketInfo) : Except Failure (Option OrderError) :=
  match info.marginAvailable, info.marginRequired with
  | some availableField, some requiredField => do
      let available ← availableField.parse
      let required ← requiredField.parse
      if available < required then pure (some (.insufficientMargin available required))
      else pure none
  | _, _ => .ok none

/-- Check an order before submission; `none` means that it is valid. A number
field that is no number raises. -/
def validateOrder (env : OrderEnvironment) (instrument : String) (size : ℚ) :
    Except Failure (Option OrderError) :=
  match env.marketInfo with
  | .error cause => .ok (some (.marketInfoUnavailable cause))
  | .ok info =>
    if info.status ≠ "TRADEABLE" then .ok (some (.notActive instrument info.status))
    else do
      let minSize ← (info.minSize.getD (.number defaultMinSize)).parse
      if size < minSize then pure (some (.belowMinimum size minSize instrument))
      else marginError info

/-- The common body of the three placements: track the order, validate it, and
submit it or mark it as rejected. -/
def placeOrder (env : OrderEnvironment) : OrderProgram Order := do
  setOrder fun order => order
  let order ← read (·.order)
  let verdict ← ofExcept ((validateOrder env order.instrument order.size).mapError .escaped)
  match verdict with
  | some reason => do
      setOrder fun order => { order with status := .rejected, errorMessage := some reason }
      notify env (.rejected order.instrument reason)
      raise (.validation reason)
  | none => submitOrder env

/-- Validate and place a market order under a fresh identifier. -/
def placeMarketOrder (env : OrderEnvironment) (manager : OrderManager) (id : String)
    (createdAt : ℚ) (instrument direction : String) (size : ℚ)
    (stopDistance limitDistance : Option ℚ) : Except OrderFailure Order × OrderCall :=
  placeOrder env
    { manager
      order := { id, createdAt, instrument, direction, orderType := .market, size, stopDistance,
                 limitDistance } }

/-- Validate and place a limit order under a fresh identifier. -/
def placeLimitOrder (env : OrderEnvironment) (manager : OrderManager) (id : String)
    (createdAt : ℚ) (instrument direction : String) (size price : ℚ)
    (stopDistance limitDistance : Option ℚ) : Except OrderFailure Order × OrderCall :=
  placeOrder env
    { manager
      order := { id, createdAt, instrument, direction, orderType := .limit, size,
                 price := some price, stopDistance, limitDistance } }

/-- Validate and place a stop order under a fresh identifier. -/
def placeStopOrder (env : OrderEnvironment) (manager : OrderManager) (id : String)
    (createdAt : ℚ) (instrument direction : String) (size price : ℚ)
    (stopDistance limitDistance : Option ℚ) : Except OrderFailure Order × OrderCall :=
  placeOrder env
    { manager
      order := { id, createdAt, instrument, direction, orderType := .stop, size,
                 price := some price, stopDistance, limitDistance } }

/-- Forget the trailing stop of a deal. -/
def removeTrailingStop (dealId : String) : OrderProgram Unit :=
  modify fun call =>
    { call with
        manager := { call.manager with
          activeTrailingStops := call.manager.activeTrailingStops.erase dealId } }

/-- The attempt of a close: the order counts as closed as soon as any reply has
arrived, before the reply is read. -/
def attemptClose (env : OrderEnvironment) (dealId : String) : OrderProgram Order := do
  setOrder fun order => { order with status := .submitted }
  let body ← closeOnIg env dealId
  setOrder fun order => { order with status := .closed }
  match body with
  | .notADict => raise (.escaped .badShape)
  | .dict reply => do
      let exchanged ← read fun call => call.exchanges.length
      setOrder fun order =>
        { order with
            dealReference := reply.dealReference
            closedAt := some (env.now exchanged) }
      removeTrailingStop dealId
      read (·.order)

/-- Close the position of the order in work; a failed attempt goes to the
handler that is shared with the placements. -/
def closeProgram (env : OrderEnvironment) (dealId : String) : OrderProgram Order := do
  setOrder fun order => order
  rescue (attemptClose env dealId) (fun failure => handleFailure env (causeOf failure))

/-- Close a position, in full or in part, under a fresh order identifier. -/
def closeOrder (env : OrderEnvironment) (manager : OrderManager) (id : String) (createdAt : ℚ)
    (dealId direction : String) (size : ℚ) : Except OrderFailure Order × OrderCall :=
  closeProgram env dealId
    { manager
      order := { id, createdAt, instrument := "", direction, orderType := .market, size,
                 dealId := some dealId } }

end OrderManager

end IgTradingBot
