import IgTradingBot.Broker.OrderRetry

/-!
# Duplicate orders and closes that open

Two consequences of the shared failure handler. A placement is duplicated when
the broker accepts an order whose reply cannot be booked and then accepts the
retry as well. A close that is not answered is retried as an order-placing
request. Both results are exact: they hold for every environment and say when
the manager keeps to one order, and when a close stays a close.
-/

namespace IgTradingBot.OrderManager

open Sequential Sequential.Program

/-- The arguments of a call that places an order. -/
inductive Placement where
  | market (instrument direction : String) (size : ℚ) (stopDistance limitDistance : Option ℚ)
  | limit (instrument direction : String) (size price : ℚ) (stopDistance limitDistance : Option ℚ)
  | stop (instrument direction : String) (size price : ℚ) (stopDistance limitDistance : Option ℚ)
  deriving DecidableEq, Repr

namespace Placement

/-- The order that a placement tracks. -/
def order (id : String) (createdAt : ℚ) : Placement → Order
  | market instrument direction size stopDistance limitDistance =>
      { id, createdAt, instrument, direction, orderType := .market, size, stopDistance,
        limitDistance }
  | limit instrument direction size price stopDistance limitDistance =>
      { id, createdAt, instrument, direction, orderType := .limit, size, price := some price,
        stopDistance, limitDistance }
  | stop instrument direction size price stopDistance limitDistance =>
      { id, createdAt, instrument, direction, orderType := .stop, size, price := some price,
        stopDistance, limitDistance }

/-- Call the method that a placement is for. -/
def call (env : OrderEnvironment) (manager : OrderManager) (id : String) (createdAt : ℚ) :
    Placement → Except OrderFailure Order × OrderCall
  | market instrument direction size stopDistance limitDistance =>
      placeMarketOrder env manager id createdAt instrument direction size stopDistance
        limitDistance
  | limit instrument direction size price stopDistance limitDistance =>
      placeLimitOrder env manager id createdAt instrument direction size price stopDistance
        limitDistance
  | stop instrument direction size price stopDistance limitDistance =>
      placeStopOrder env manager id createdAt instrument direction size price stopDistance
        limitDistance

/-- The three methods differ only in the order they build. -/
theorem call_eq (env : OrderEnvironment) (manager : OrderManager) (id : String) (createdAt : ℚ)
    (placement : Placement) :
    placement.call env manager id createdAt =
      placeOrder env { manager, order := placement.order id createdAt } := by
  cases placement <;> rfl

end Placement

/-- The broker accepts the order twice: it accepts a valid order whose answer
cannot be booked, the failure message is taken, and it accepts the retry. -/
def AcceptedTwice (env : OrderEnvironment) (order : Order) : Prop :=
  validateOrder env order.instrument order.size = .ok none ∧ (env.placeReply 0).accepted = true ∧
    (∃ cause, bookingFailure (env.placeReply 0).answer = some cause ∧
      alertDelivered env (.failed order.instrument cause) = true) ∧
    (env.placeReply 1).accepted = true

/-- Submitting a new order leads to a second acceptance exactly when the broker
accepts both the attempt and its retry. -/
theorem accepted_orders_submit (env : OrderEnvironment) (call : OrderCall)
    (fresh : call.order.retryCount = 0) (first : call.exchanges = []) :
    (final (submitOrder env) call).acceptedOrders ≤ 1 ↔
      ¬ ((env.placeReply 0).accepted = true ∧
        (∃ cause, bookingFailure (env.placeReply 0).answer = some cause ∧
          alertDelivered env (.failed call.order.instrument cause) = true) ∧
        (env.placeReply 1).accepted = true) := by
  have none_placed : call.placements = 0 := by
    rw [OrderCall.placements, first, List.countP_nil]
  have exchanges := submit_order_exchanges env call fresh
  rw [none_placed, Nat.zero_add] at exchanges
  have one : transmitted env call =
      [.placed (placeRequest call.order) (env.placeReply 0).accepted] := by
    rw [transmitted, none_placed, first]
  rw [OrderCall.acceptedOrders, exchanges, one]
  cases failed : bookingFailure (env.placeReply 0).answer with
  | none =>
    cases (env.placeReply 0).accepted <;> simp [Exchange.isAccepted]
  | some cause =>
    by_cases delivered : alertDelivered env (.failed call.order.instrument cause) = true
    · cases (env.placeReply 0).accepted <;> cases (env.placeReply 1).accepted <;>
        simp [delivered, List.countP_cons, Exchange.isAccepted]
    · cases (env.placeReply 0).accepted <;>
        simp [delivered, List.countP_cons, Exchange.isAccepted]

/-- One call of a placement leads to at most one accepted order, except when the
broker accepts a valid order whose answer cannot be booked and the retry too.

Proof: a refused order transmits nothing. A valid order transmits one request,
and a second one only through the failure handler, which runs exactly when the
answer cannot be booked. -/
theorem placement_accepted_once_iff (env : OrderEnvironment) (manager : OrderManager)
    (id : String) (createdAt : ℚ) (placement : Placement) :
    (placement.call env manager id createdAt).2.acceptedOrders ≤ 1 ↔
      ¬ AcceptedTwice env (placement.order id createdAt) := by
  rw [Placement.call_eq]
  have exchanges := place_order_exchanges env { manager, order := placement.order id createdAt }
  have fresh : (placement.order id createdAt).retryCount = 0 := by
    cases placement <;> rfl
  unfold final at exchanges
  rw [OrderCall.acceptedOrders, exchanges, AcceptedTwice]
  rcases validated : validateOrder env (placement.order id createdAt).instrument
      (placement.order id createdAt).size with failure | verdict
  · simp
  · cases verdict with
    | some reason => simp
    | none =>
      have submitted := accepted_orders_submit env
        (setOrder (fun order => order)
          { manager, order := placement.order id createdAt }).2 fresh rfl
      simp only [true_and]
      exact submitted

/-- A reply of an accepted order whose entry price is null. -/
def nullPriceReply : PlaceReply where
  accepted := true
  answer := .ok (.dict
    { dealReference := some "REF-1"
      dealId := some "DEAL-1"
      dealStatus := some "ACCEPTED"
      entryPrice := some .malformed })

/-- A tradeable market at which every order is accepted with a null price. -/
def nullPriceEnvironment : OrderEnvironment where
  marketInfo := .ok { status := "TRADEABLE" }
  placeReply := fun _ => nullPriceReply
  closeReply := .error (.other "Close failed")

/-- One market order is accepted twice when the entry price of an accepted order
is null. -/
theorem null_price_accepted_twice :
    ¬ ∀ (env : OrderEnvironment) (manager : OrderManager) (id : String) (createdAt : ℚ)
      (placement : Placement), (placement.call env manager id createdAt).2.acceptedOrders ≤ 1 := by
  intro accepted_once
  have counted := accepted_once nullPriceEnvironment {} "ORD-1" 0
    (.market "CS.D.EURUSD.CFD.IP" "BUY" 1 none none)
  revert counted
  decide +kernel

/-- A close transmits no placement and ends with status CLOSED or
PARTIALLY_CLOSED only on an acknowledgement. -/
def ClosesOnly (env : OrderEnvironment) (call : OrderCall) : Prop :=
  call.placements = 0 ∧
    (call.order.status = .closed ∨ call.order.status = .partiallyClosed →
      acknowledges env.closeReply = true)

/-- A close stays a close exactly when it is acknowledged, or when its request
raises and the failure message is not taken, so that the handler stops before
its retry. -/
theorem close_order_closes_only_iff (env : OrderEnvironment) (manager : OrderManager)
    (id : String) (createdAt : ℚ) (dealId direction : String) (size : ℚ) :
    ClosesOnly env (closeOrder env manager id createdAt dealId direction size).2 ↔
      acknowledges env.closeReply = true ∨
        ∃ cause, env.closeReply = .error cause ∧
          alertDelivered env (.failed "" cause) = false := by
  have spec := close_program_spec env dealId
    { manager
      order := { id, createdAt, instrument := "", direction, orderType := .market, size,
                 dealId := some dealId } } rfl
  change ClosesOnly env (final (closeProgram env dealId) _) ↔ _
  generalize final (closeProgram env dealId) _ = closed at spec ⊢
  rcases answered : env.closeReply with cause | ⟨reply⟩ | _
  · -- nothing came back: the status is SUBMITTED unless the handler goes on
    simp only [answered, closeFailure] at spec
    by_cases delivered : alertDelivered env (.failed "" cause) = true
    · simp only [delivered, if_true] at spec
      simp [ClosesOnly, answered, acknowledges, delivered, spec]
    · simp only [delivered] at spec
      have unplaced : closed.placements = 0 := spec.2
      simp [ClosesOnly, answered, acknowledges, delivered, spec.1, unplaced]
  · simp only [answered, closeFailure] at spec
    have unplaced : closed.placements = 0 := spec.2
    simp [ClosesOnly, answered, spec.1, unplaced]
  · -- the status is CLOSED before the body turns out to be unreadable
    simp only [answered, closeFailure] at spec
    by_cases delivered : alertDelivered env (.failed "" .badShape) = true
    · simp only [delivered, if_true] at spec
      simp [ClosesOnly, answered, acknowledges, spec]
    · simp only [delivered] at spec
      simp [ClosesOnly, answered, acknowledges, spec.1]

/-- A close whose request fails places an order without an instrument. -/
theorem failed_close_places_order :
    ¬ ∀ (env : OrderEnvironment) (manager : OrderManager) (id : String) (createdAt : ℚ)
      (dealId direction : String) (size : ℚ),
      ClosesOnly env (closeOrder env manager id createdAt dealId direction size).2 := by
  intro closes_only
  have unplaced := (closes_only nullPriceEnvironment {} "ORD-2" 0 "DEAL-1" "SELL" 1).1
  revert unplaced
  decide +kernel

end IgTradingBot.OrderManager
