import IgTradingBot.Broker.OrderManager

/-!
# What one call of the order manager transmits

Each function of the manager gets one lemma about the exchanges it adds and
about how it ends. An attempt is booked unless its answer is an exception, no
dictionary, or a dictionary whose entry price is no number; in these cases the
failure handler places the order once more, whatever the broker has done with
the first request and whatever the order was for.
-/

namespace IgTradingBot.OrderManager

open Sequential Sequential.Program

/-- The exception that an answer causes in an attempt, if it causes one. -/
def bookingFailure : Except Failure ReplyBody → Option Failure
  | .error failure => some failure
  | .ok .notADict => some .badShape
  | .ok (.dict reply) =>
    match reply.entryPrice with
    | some .malformed => some .notANumber
    | _ => none

/-- The notification service, if there is one, takes the message. -/
def alertDelivered (env : OrderEnvironment) (alert : OrderAlert) : Bool :=
  match env.sendAlert with
  | none => true
  | some sendAlert => (sendAlert alert).isOk

/-- Assigning attributes changes no exchange. -/
@[simp] theorem set_order_run (change : Order → Order) (call : OrderCall) :
    setOrder change call =
      (.ok (), { call with
        order := change call.order
        manager := { call.manager with
          orders := call.manager.orders.insert (change call.order).id (change call.order) }
        statuses := moveTo (change call.order).status call.statuses }) := rfl

/-- Executing an order adds one placement, answered by the environment. -/
theorem execute_on_ig_run (env : OrderEnvironment) (call : OrderCall) :
    executeOnIg env call =
      ((env.placeReply call.placements).answer.mapError .escaped,
        { call with
          exchanges := .placed (placeRequest call.order) (env.placeReply call.placements).accepted
            :: call.exchanges }) := rfl

/-- A notification changes nothing; it raises exactly when it is not taken. -/
theorem notify_run (env : OrderEnvironment) (alert : OrderAlert) (call : OrderCall) :
    notify env alert call =
      (if alertDelivered env alert then .ok ()
        else .error (.escaped (.other "Attempt to overwrite 'message' in LogRecord")), call) := by
  unfold notify alertDelivered
  cases env.sendAlert with
  | none => rfl
  | some sendAlert =>
    cases delivered : sendAlert alert with
    | ok answer => simp [delivered, Except.isOk, Except.toBool]
    | error failure => simp [delivered, Except.isOk, Except.toBool]

/-- The parts of a call that booking a reply leaves alone: the retry count, the
request that the order in work makes, and the exchanges. -/
def SameRequest (retryCount : ℕ) (request : PlaceRequest) (exchanges : List Exchange)
    (call : OrderCall) : Prop :=
  call.order.retryCount = retryCount ∧ placeRequest call.order = request ∧
    call.exchanges = exchanges

/-- Booking a body assigns neither the retry count nor a field of the request,
and it transmits nothing, whether or not it raises. -/
theorem book_fill_keeps (env : OrderEnvironment) (body : ReplyBody) (retryCount : ℕ)
    (request : PlaceRequest) (exchanges : List Exchange) :
    Keeps (SameRequest retryCount request exchanges) (bookFill env body) := by
  refine keeps_bind (keeps_modify fun call entry => entry) ?_
  intro assigned
  cases body with
  | notADict => exact keeps_raise _
  | dict reply =>
    refine keeps_bind (keeps_read _) ?_
    intro exchanged
    refine keeps_bind (keeps_modify fun call entry => entry) ?_
    intro referenced
    cases reply.entryPrice with
    | none => exact keeps_modify fun call entry => entry
    | some numeral =>
      refine keeps_bind (keeps_ofExcept _) ?_
      intro price
      exact keeps_modify fun call entry => entry

/-- Booking a body raises exactly the failure of the body. -/
theorem book_fill_outcome (env : OrderEnvironment) (body : ReplyBody) (call : OrderCall) :
    outcome (bookFill env body) call =
      match bookingFailure (.ok body) with
      | none => .ok ()
      | some failure => .error (.escaped failure) := by
  cases body with
  | notADict => rfl
  | dict reply =>
    unfold outcome bookFill bookingFailure
    rcases price : reply.entryPrice with _ | ⟨value⟩ | _
    · simp [bind_run, price]
    · simp [bind_run, price, Numeral.parse, Except.mapError]
    · simp [bind_run, price, Numeral.parse, Except.mapError]

/-- The call after one more placement of the order in work. -/
def transmitted (env : OrderEnvironment) (call : OrderCall) : List Exchange :=
  .placed (placeRequest call.order) (env.placeReply call.placements).accepted :: call.exchanges

/-- A transmitted placement is the next one counted. -/
theorem count_transmitted (env : OrderEnvironment) (call : OrderCall) :
    (transmitted env call).countP Exchange.isPlacement = call.placements + 1 :=
  List.countP_cons_of_pos rfl

/-- Placing the same order again transmits the same request. -/
theorem transmitted_again (env : OrderEnvironment) (call after : OrderCall) {retryCount : ℕ}
    (kept : SameRequest retryCount (placeRequest call.order) (transmitted env call) after) :
    transmitted env after =
      .placed (placeRequest call.order) (env.placeReply (call.placements + 1)).accepted
        :: transmitted env call := by
  have placements : after.placements = call.placements + 1 := by
    rw [OrderCall.placements, kept.2.2, count_transmitted]
  rw [transmitted, kept.2.1, kept.2.2, placements]

/-- An attempt transmits one placement and raises exactly the failure of the
answer to it. -/
theorem attempt_fill_spec (env : OrderEnvironment) (call : OrderCall) :
    (match bookingFailure (env.placeReply call.placements).answer with
      | none => ∃ order, outcome (attemptFill env) call = .ok order
      | some failure => outcome (attemptFill env) call = .error (.escaped failure)) ∧
      SameRequest call.order.retryCount (placeRequest call.order) (transmitted env call)
        (final (attemptFill env) call) := by
  unfold outcome final attemptFill
  rw [bind_run, execute_on_ig_run]
  rcases answered : (env.placeReply call.placements).answer with failure | body
  · exact ⟨rfl, rfl, rfl, rfl⟩
  · change _ ∧ SameRequest _ _ _ ((bookFill env body >>= fun _ => read (·.order))
      { call with exchanges := transmitted env call }).2
    have booked := book_fill_outcome env body { call with exchanges := transmitted env call }
    have kept := (book_fill_keeps env body call.order.retryCount (placeRequest call.order)
      (transmitted env call)).final (s := { call with exchanges := transmitted env call })
        ⟨rfl, rfl, rfl⟩
    change (match bookingFailure (.ok body) with
      | none => ∃ order, ((bookFill env body >>= fun _ => read (·.order))
          { call with exchanges := transmitted env call }).1 = .ok order
      | some failure => ((bookFill env body >>= fun _ => read (·.order))
          { call with exchanges := transmitted env call }).1 = .error (.escaped failure)) ∧ _
    unfold outcome at booked
    rw [bind_run]
    rcases ended : bookFill env body { call with exchanges := transmitted env call } with
      ⟨answer, after⟩
    rw [ended] at booked kept
    cases failed : bookingFailure (.ok body) with
    | none =>
      obtain rfl : answer = .ok () := by simpa only [failed] using booked
      exact ⟨⟨after.order, rfl⟩, kept⟩
    | some failure =>
      obtain rfl : answer = .error (.escaped failure) := by simpa only [failed] using booked
      exact ⟨rfl, kept⟩

/-- A message that is not taken ends the failure handler where it started. -/
theorem handle_failure_undelivered (env : OrderEnvironment) (cause : Failure) (call : OrderCall)
    (refused : alertDelivered env (.failed call.order.instrument cause) = false) :
    final (handleFailure env cause) call = call := by
  simp [final, handleFailure, bind_run, notify_run, refused]

/-- On the first failure the handler places the order exactly once more. -/
theorem handle_failure_retried (env : OrderEnvironment) (cause : Failure) (call : OrderCall)
    (delivered : alertDelivered env (.failed call.order.instrument cause) = true)
    (first : call.order.retryCount < 1) :
    (final (handleFailure env cause) call).exchanges = transmitted env call := by
  unfold final handleFailure
  simp only [bind_run, read_run, notify_run, delivered, if_true, first, set_order_run, rescue_run]
  generalize retrying : ({ call with order := _, manager := _, statuses := _ } : OrderCall) = retried
  have sameRequest : transmitted env retried = transmitted env call := by
    subst retrying
    rfl
  have kept := (attempt_fill_spec env retried).2
  rw [sameRequest] at kept
  unfold final at kept
  rcases ended : attemptFill env retried with ⟨answer, after⟩
  rw [ended] at kept
  cases answer with
  | ok order => exact kept.2.2
  | error failure =>
    by_cases reported :
        alertDelivered env (.retryFailed call.order.instrument (causeOf failure)) = true
    · simp only [reported, if_true]
      exact kept.2.2
    · simp only [reported]
      exact kept.2.2

/-- A submission transmits one placement, and a second one exactly when the
answer to the first cannot be booked and the failure message is taken. -/
theorem submit_order_exchanges (env : OrderEnvironment) (call : OrderCall)
    (fresh : call.order.retryCount = 0) :
    (final (submitOrder env) call).exchanges =
      match bookingFailure (env.placeReply call.placements).answer with
      | none => transmitted env call
      | some cause =>
        if alertDelivered env (.failed call.order.instrument cause) then
          .placed (placeRequest call.order) (env.placeReply (call.placements + 1)).accepted
            :: transmitted env call
        else transmitted env call := by
  unfold final submitOrder
  rw [bind_run, set_order_run]
  simp only [rescue_run]
  generalize submitting : ({ call with order := _, manager := _, statuses := _ } : OrderCall) = submitted
  have samePlacements : submitted.placements = call.placements := by
    subst submitting
    rfl
  have sameTransmitted : transmitted env submitted = transmitted env call := by
    subst submitting
    rfl
  have sameRequest : placeRequest submitted.order = placeRequest call.order := by
    subst submitting
    rfl
  have sameRetryCount : submitted.order.retryCount = call.order.retryCount := by
    subst submitting
    rfl
  have spec := attempt_fill_spec env submitted
  rw [samePlacements, sameTransmitted] at spec
  obtain ⟨ending, kept⟩ := spec
  unfold outcome at ending
  unfold final at kept
  rcases ended : attemptFill env submitted with ⟨answer, after⟩
  rw [ended] at ending kept
  cases failed : bookingFailure (env.placeReply call.placements).answer with
  | none =>
    rw [failed] at ending
    obtain ⟨order, rfl⟩ := ending
    exact kept.2.2
  | some cause =>
    rw [failed] at ending
    obtain rfl : answer = .error (.escaped cause) := ending
    change (final (handleFailure env cause) after).exchanges = _
    have sameInstrument : after.order.instrument = call.order.instrument :=
      congrArg PlaceRequest.instrument (kept.2.1.trans sameRequest)
    by_cases delivered : alertDelivered env (.failed call.order.instrument cause) = true
    · have firstFailure : after.order.retryCount < 1 := by
        rw [kept.1, sameRetryCount, fresh]
        exact Nat.lt_one_iff.mpr rfl
      rw [handle_failure_retried env cause after (by rwa [sameInstrument]) firstFailure]
      simp only [delivered, if_true]
      rw [sameRequest] at kept
      exact transmitted_again env call after kept
    · have unchanged := handle_failure_undelivered env cause after (by
        rw [sameInstrument]; exact Bool.eq_false_iff.mpr delivered)
      rw [unchanged]
      simp only [delivered]
      exact kept.2.2

/-- Placing a valid order is submitting it; a refused order transmits nothing. -/
theorem place_order_exchanges (env : OrderEnvironment) (call : OrderCall) :
    (final (placeOrder env) call).exchanges =
      match validateOrder env call.order.instrument call.order.size with
      | .ok none => (final (submitOrder env) (final (setOrder fun order => order) call)).exchanges
      | _ => call.exchanges := by
  unfold final placeOrder
  simp only [bind_run, set_order_run, read_run, ofExcept_run]
  rcases validated : validateOrder env call.order.instrument call.order.size with failure | verdict
  · simp [Except.mapError]
  · cases verdict with
    | none => simp [Except.mapError]
    | some reason =>
      simp only [Except.mapError, bind_run, notify_run, set_order_run]
      by_cases reported : alertDelivered env (.rejected call.order.instrument reason) = true
      · simp [reported]
      · simp [reported]

/-- The acknowledgement of a close: a dictionary that does not report a
rejection. The replies of the tests carry a deal reference only. -/
def acknowledges : Except Failure ReplyBody → Bool
  | .ok (.dict reply) => reply.dealStatus ≠ some "REJECTED"
  | _ => false

/-- The exception that the answer to a close causes, if it causes one, with the
status the order has by then: any answer at all is followed by `CLOSED`. -/
def closeFailure : Except Failure ReplyBody → Option (Failure × OrderStatus)
  | .error cause => some (cause, .submitted)
  | .ok .notADict => some (.badShape, .closed)
  | .ok (.dict _) => none

/-- An attempt to close transmits no placement. A dictionary as answer leaves
the order closed; otherwise the attempt raises with the order as it was, apart
from its status. -/
theorem attempt_close_spec (env : OrderEnvironment) (dealId : String) (call : OrderCall) :
    (match closeFailure env.closeReply with
      | none =>
          (∃ order, outcome (attemptClose env dealId) call = .ok order) ∧
            (final (attemptClose env dealId) call).order.status = .closed
      | some (cause, status) =>
          outcome (attemptClose env dealId) call = .error (.escaped cause) ∧
            (final (attemptClose env dealId) call).order = { call.order with status := status }) ∧
      (final (attemptClose env dealId) call).placements = call.placements := by
  rcases answered : env.closeReply with cause | ⟨reply⟩ | _
  all_goals
    simp [closeFailure, outcome, final, attemptClose, bind_run, closeOnIg, removeTrailingStop,
      answered, Except.mapError, OrderCall.placements, Exchange.isPlacement]

/-- How a close ends. After a failed attempt the handler places the order,
unless the failure message is not taken. -/
theorem close_program_spec (env : OrderEnvironment) (dealId : String) (call : OrderCall)
    (fresh : call.order.retryCount = 0) :
    match closeFailure env.closeReply with
    | none =>
        (final (closeProgram env dealId) call).order.status = .closed ∧
          (final (closeProgram env dealId) call).placements = call.placements
    | some (cause, status) =>
        if alertDelivered env (.failed call.order.instrument cause) then
          (final (closeProgram env dealId) call).placements = call.placements + 1
        else
          (final (closeProgram env dealId) call).order.status = status ∧
            (final (closeProgram env dealId) call).placements = call.placements := by
  unfold final closeProgram
  rw [bind_run, set_order_run]
  simp only [rescue_run]
  generalize tracking : ({ call with order := call.order, manager := _, statuses := _ } : OrderCall) = tracked
  have sameOrder : tracked.order = call.order := by
    subst tracking
    rfl
  have samePlacements : tracked.placements = call.placements := by
    subst tracking
    rfl
  have spec := attempt_close_spec env dealId tracked
  unfold outcome final at spec
  rcases ended : attemptClose env dealId tracked with ⟨answer, after⟩
  rw [ended, sameOrder, samePlacements] at spec
  obtain ⟨ending, placements⟩ := spec
  rcases failed : closeFailure env.closeReply with _ | ⟨cause, status⟩
  · rw [failed] at ending
    obtain ⟨⟨order, rfl⟩, closed⟩ := ending
    exact ⟨closed, placements⟩
  · rw [failed] at ending
    obtain ⟨rfl, left⟩ : answer = .error (.escaped cause) ∧ _ := ending
    have sameInstrument : after.order.instrument = call.order.instrument := by
      rw [left]
    have firstFailure : after.order.retryCount < 1 := by
      rw [left]
      exact Nat.lt_one_iff.mpr fresh
    by_cases delivered : alertDelivered env (.failed call.order.instrument cause) = true
    · simp only [delivered, if_true]
      have retried := handle_failure_retried env cause after (by rwa [sameInstrument]) firstFailure
      unfold final at retried
      change (handleFailure env cause after).2.placements = _
      rw [OrderCall.placements, retried, count_transmitted, placements]
    · simp only [delivered]
      have unchanged := handle_failure_undelivered env cause after (by
        rw [sameInstrument]; exact Bool.eq_false_iff.mpr delivered)
      unfold final at unchanged
      change (handleFailure env cause after).2.order.status = status ∧
        (handleFailure env cause after).2.placements = _
      rw [unchanged, left]
      exact ⟨rfl, placements⟩

end IgTradingBot.OrderManager
