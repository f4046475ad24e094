import IgTradingBot.Broker.OrderSafety
import IgTradingBot.Library.Decimals
import IgTradingBot.Library.Machines

/-!
# Runs of the order manager

The remaining operations of `src/trading/order_manager.py`, trailing stops and the partial
take-profit, and the machine that carries the manager from one operation to the next. An
observer keeps, for every order, the statuses that it has had and whether the broker has
accepted it, and the stop levels that were sent for each deal; an update that raises was
sent as well, and the manager goes on in the same way.
-/

namespace IgTradingBot

open Sequential Sequential.Program

/-- The fields of a position that the partial take-profit reads. A direction that is not "BUY"
counts as a sale. -/
structure PositionReply where
  direction : Option String := none
  size : Option Numeral := none
  entryPrice : Option Numeral := none
  spread : Option Numeral := none
  deriving DecidableEq, Repr

/-- A decoded body: a dictionary, or something without `get`. -/
inductive PositionReplyBody where
  | dict (reply : PositionReply)
  | notADict
  deriving DecidableEq, Repr

/-- What a partial take-profit meets: the position, and the environment of its close. -/
structure PartialEnvironment where
  position : Except Failure PositionReplyBody
  orders : OrderEnvironment

/-- What a partial take-profit makes of a position. -/
structure PartialRequest where
  direction : String
  closeSize : ℚ
  breakevenStop : ℚ
  deriving DecidableEq, Repr

/-- An order is placed to open a position, or to close one. -/
inductive OrderKind where
  | opening
  | closing
  deriving DecidableEq, Repr

/-- What is kept of an order: its statuses, the latest first, and whether the broker has
accepted it. -/
structure OrderRecord where
  id : String
  kind : OrderKind
  accepted : Bool
  statuses : List OrderStatus
  deriving DecidableEq, Repr

/-- A stop level that was sent for a deal. -/
structure SentStop where
  dealId : String
  level : ℚ
  deriving DecidableEq, Repr

/-- The manager with its records; the records stand for its dictionary of orders, the latest
first, and so do the sent stops. -/
structure OrderDesk where
  manager : OrderManager := {}
  records : List OrderRecord := []
  sentStops : List SentStop := []

/-- The operations of the manager. An operation that tracks an order comes with the identifier
and the time that it generates. -/
inductive OrderOperation where
  | place (env : OrderEnvironment) (id : String) (createdAt : ℚ)
      (placement : OrderManager.Placement)
  | closeOrder (env : OrderEnvironment) (id : String) (createdAt : ℚ) (dealId direction : String)
      (size : ℚ)
  | partialTakeProfit (env : PartialEnvironment) (id : String) (createdAt : ℚ) (dealId : String)
      (closePct : ℚ)
  | setupTrailingStop (dealId : String) (trailDistance : ℚ) (direction instrument : String)
      (currentPrice currentStop : ℚ)
  | priceTick (instrument : String) (currentPrice : ℚ)
  | removeTrailingStop (dealId : String)

namespace TrailingStopConfig

/-- The most favourable price so far. -/
def track (price : ℚ) (config : TrailingStopConfig) : TrailingStopConfig :=
  if config.direction = "BUY" then
    { config with
        highestPrice := if config.highestPrice < price then price else config.highestPrice }
  else if config.direction = "SELL" then
    { config with lowestPrice := if price < config.lowestPrice then price else config.lowestPrice }
  else config

/-- The stop behind the most favourable price, when it is an advance. -/
def newStop (config : TrailingStopConfig) : Option ℚ :=
  if config.direction = "BUY" then
    if config.currentStop < config.highestPrice - config.trailDistance then
      some (config.highestPrice - config.trailDistance)
    else none
  else if config.direction = "SELL" then
    if config.lowestPrice + config.trailDistance < config.currentStop then
      some (config.lowestPrice + config.trailDistance)
    else none
  else none

end TrailingStopConfig

namespace OrderManager

/-- Close percentages that are allowed. -/
def partialTpMinPct : ℚ := 1 / 4

def partialTpMaxPct : ℚ := 3 / 4

/-- The size to close and the break-even stop, with the entry price inclusive of the spread. -/
def partialRequest (position : Except Failure PositionReplyBody) (closePct : ℚ) :
    Except OrderFailure PartialRequest :=
  if closePct < partialTpMinPct ∨ partialTpMaxPct < closePct then
    .error (.validation (.closePercentage closePct))
  else
    match position with
    | .error failure => .error (.escaped failure)
    | .ok .notADict => .error (.escaped .badShape)
    | .ok (.dict reply) => do
      let direction := reply.direction.getD "BUY"
      let totalSize ← (reply.size.getD (.number 0)).parse.mapError .escaped
      let entryPrice ← (reply.entryPrice.getD (.number 0)).parse.mapError .escaped
      let spread ← (reply.spread.getD (.number 0)).parse.mapError .escaped
      let closeSize := Decimals.quantizeHalfEven 2 (totalSize * closePct)
      if closeSize ≤ 0 then .error (.validation (.zeroCloseSize totalSize closePct))
      else
        .ok
          { direction
            closeSize
            breakevenStop :=
              if direction = "BUY" then entryPrice - spread else entryPrice + spread }

/-- Direction of the order that closes a position. -/
def closeDirection (direction : String) : String := if direction = "BUY" then "SELL" else "BUY"

end OrderManager

namespace OrderDesk

open OrderManager

/-- The order of a call joins the records. -/
def enter (kind : OrderKind) (call : OrderCall) (desk : OrderDesk) : OrderDesk :=
  { desk with
      manager := call.manager
      records := ⟨call.order.id, kind, decide (0 < call.acceptedOrders), call.statuses⟩ ::
        desk.records }

/-- Store the configuration of a trailing stop. -/
def setConfig (config : TrailingStopConfig) (desk : OrderDesk) : OrderDesk :=
  { desk with
      manager :=
        { desk.manager with
          activeTrailingStops := desk.manager.activeTrailingStops.insert config.dealId config } }

/-- Send a stop level to the broker. A failure of the update is only reported. -/
def sendStop (dealId : String) (level : ℚ) (desk : OrderDesk) : OrderDesk :=
  { desk with sentStops := ⟨dealId, level⟩ :: desk.sentStops }

/-- Check and adjust one trailing stop. The stop never moves backward. -/
def advanceStop (instrument : String) (price : ℚ) (desk : OrderDesk) (dealId : String) : OrderDesk :=
  match desk.manager.activeTrailingStops.lookup dealId with
  | none => desk
  | some config =>
    if config.instrument ≠ instrument then desk
    else
      let tracked := config.track price
      match tracked.newStop with
      | none => desk.setConfig { tracked with dealId }
      | some level =>
        (desk.setConfig { tracked with dealId, currentStop := level }).sendStop dealId level

/-- Whether a record is the one of a filled order of a deal. -/
def isFilledOf (manager : OrderManager) (dealId : String) (record : OrderRecord) : Bool :=
  match manager.orders.lookup record.id with
  | some order => order.dealId = some dealId ∧ order.status = .filled
  | none => false

/-- Mark the first filled order of a deal as partially closed. -/
def markPartiallyClosed (dealId : String) (desk : OrderDesk) : OrderDesk :=
  match desk.records.reverse.find? (isFilledOf desk.manager dealId) with
  | none => desk
  | some filled =>
    { desk with
        manager :=
          { desk.manager with
            orders :=
              match desk.manager.orders.lookup filled.id with
              | some order =>
                desk.manager.orders.insert filled.id { order with status := .partiallyClosed }
              | none => desk.manager.orders }
        records := desk.records.map fun record =>
          if record.id = filled.id then
            { record with statuses := .partiallyClosed :: record.statuses }
          else record }

/-- After the close of a part: send the break-even stop, take it over into the trailing stop if
there still is one, and mark the opening order. -/
def breakEven (dealId : String) (level : ℚ) (desk : OrderDesk) : OrderDesk :=
  let sent := desk.sendStop dealId level
  let moved := match sent.manager.activeTrailingStops.lookup dealId with
    | none => sent
    | some config => sent.setConfig { config with dealId, currentStop := level }
  moved.markPartiallyClosed dealId

/-- One operation. -/
def step (desk : OrderDesk) : OrderOperation → OrderDesk
  | .place env id createdAt placement =>
    desk.enter .opening (placement.call env desk.manager id createdAt).2
  | .closeOrder env id createdAt dealId direction size =>
    desk.enter .closing (closeOrder env desk.manager id createdAt dealId direction size).2
  | .partialTakeProfit env id createdAt dealId closePct =>
    match partialRequest env.position closePct with
    | .error _ => desk
    | .ok request =>
      let closed := closeOrder env.orders desk.manager id createdAt dealId
        (closeDirection request.direction) request.closeSize
      match closed.1 with
      | .error _ => desk.enter .closing closed.2
      | .ok _ => (desk.enter .closing closed.2).breakEven dealId request.breakevenStop
  | .setupTrailingStop dealId trailDistance direction instrument currentPrice currentStop =>
    if trailDistance ≤ 0 then desk
    else
      desk.setConfig
        { dealId, instrument, direction, trailDistance, currentStop
          highestPrice := if direction = "BUY" then currentPrice else 0
          lowestPrice := if direction = "SELL" then currentPrice else 999999 }
  | .priceTick instrument currentPrice =>
    desk.manager.activeTrailingStops.keys.foldl (advanceStop instrument currentPrice) desk
  | .removeTrailingStop dealId =>
    { desk with
        manager :=
          { desk.manager with
            activeTrailingStops := desk.manager.activeTrailingStops.erase dealId } }

end OrderDesk

end IgTradingBot
