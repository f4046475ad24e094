import IgTradingBot.Broker.OrderDesk

/-!
# How far a call has come with its order

A progress says how far a call has come: the statuses so far, the retries, the requests and
whether one of them was accepted. Each function of the manager takes a progress to the next
one, which the answers of the environment determine; so the statuses of a whole call can be
read off.
-/

namespace IgTradingBot

open Sequential Sequential.Program

/-- How far a call has come with its order. -/
structure OrderProgress where
  statuses : List OrderStatus
  retries : ℕ := 0
  placements : ℕ := 0
  accepted : Bool := false

namespace OrderProgress

/-- The order moves to a status. -/
def move (status : OrderStatus) (progress : OrderProgress) : OrderProgress :=
  { progress with statuses := OrderManager.moveTo status progress.statuses }

/-- The order was placed once more; any answer fills it. -/
def attempted (env : OrderEnvironment) (progress : OrderProgress) : OrderProgress :=
  { progress with
      statuses :=
        if (env.placeReply progress.placements).answer.isOk then
          OrderManager.moveTo .filled progress.statuses
        else progress.statuses
      placements := progress.placements + 1
      accepted := progress.accepted || (env.placeReply progress.placements).accepted }

/-- The failure handler returns: its message is taken and its retry is booked. -/
def isRetried (env : OrderEnvironment) (instrument : String) (cause : Failure)
    (progress : OrderProgress) : Bool :=
  OrderManager.alertDelivered env (.failed instrument cause) &&
    (OrderManager.bookingFailure (env.placeReply progress.placements).answer).isNone

/-- The failure handler is over. -/
def handled (env : OrderEnvironment) (instrument : String) (cause : Failure)
    (progress : OrderProgress) : OrderProgress :=
  if OrderManager.alertDelivered env (.failed instrument cause) then
    let retried := { progress with retries := 1 }.attempted env
    match OrderManager.bookingFailure (env.placeReply progress.placements).answer with
    | none => retried
    | some retryCause =>
      if OrderManager.alertDelivered env (.retryFailed instrument retryCause) then
        retried.move .failed
      else retried
  else progress

/-- The order was submitted. -/
def submitted (env : OrderEnvironment) (instrument : String) (progress : OrderProgress) :
    OrderProgress :=
  let attempt := (progress.move .submitted).attempted env
  match OrderManager.bookingFailure (env.placeReply progress.placements).answer with
  | none => attempt
  | some cause => attempt.handled env instrument cause

/-- A call that places an order is over. -/
def placed (env : OrderEnvironment) (order : Order) : OrderProgress :=
  match OrderManager.validateOrder env order.instrument order.size with
  | .error _ => { statuses := [.pending] }
  | .ok (some _) => { statuses := [.rejected, .pending] }
  | .ok none => ({ statuses := [.pending] } : OrderProgress).submitted env order.instrument

/-- A close returns: it is answered, or the order that is placed in its stead is booked. -/
def closeReturns (env : OrderEnvironment) : Bool :=
  match OrderManager.closeFailure env.closeReply with
  | none => true
  | some (cause, _) => ({ statuses := [] } : OrderProgress).isRetried env "" cause

/-- A call that closes a deal is over. -/
def closed (env : OrderEnvironment) : OrderProgress :=
  match OrderManager.closeFailure env.closeReply with
  | none => { statuses := [.closed, .submitted, .pending] }
  | some (cause, status) =>
    ({ statuses := OrderManager.moveTo status [.submitted, .pending] } : OrderProgress).handled env
      "" cause

end OrderProgress

namespace OrderManager

/-- A call stands at a progress: the order in work and its entry in the dictionary are as the
progress says, and the other orders are as they were. -/
structure Standing (before : OrderManager) (id : String) (request : PlaceRequest)
    (progress : OrderProgress) (call : OrderCall) : Prop where
  idEq : call.order.id = id
  requested : placeRequest call.order = request
  statusesEq : call.statuses = progress.statuses
  current : progress.statuses.head? = some call.order.status
  retried : call.order.retryCount = progress.retries
  placed : call.placements = progress.placements
  acceptedEq : decide (0 < call.acceptedOrders) = progress.accepted
  tracked : call.manager.orders.lookup id = some call.order
  others : ∀ other, other ≠ id → call.manager.orders.lookup other = before.orders.lookup other

section Calls

variable {before : OrderManager} {id : String} {request : PlaceRequest}
  {progress : OrderProgress} {call : OrderCall}

/-- After a move the order has the status. -/
theorem head_move_to (status : OrderStatus) (statuses : List OrderStatus) :
    (moveTo status statuses).head? = some status := by
  unfold moveTo
  split_ifs with same
  · exact same
  · rfl

/-- A second move to the same status is none. -/
theorem move_to_again (status : OrderStatus) (statuses : List OrderStatus) :
    moveTo status (moveTo status statuses) = moveTo status statuses :=
  if_pos (head_move_to status statuses)

/-- An assignment moves the order to the status it assigns. -/
theorem Standing.assigned (standing : Standing before id request progress call)
    (change : Order → Order) (sameId : (change call.order).id = call.order.id)
    (sameRequest : placeRequest (change call.order) = placeRequest call.order) :
    Standing before id request
      { progress.move (change call.order).status with retries := (change call.order).retryCount }
      (setOrder change call).2 where
  idEq := sameId.trans standing.idEq
  requested := sameRequest.trans standing.requested
  statusesEq := by
    simp only [set_order_run, OrderProgress.move, standing.statusesEq]
  current := head_move_to _ _
  retried := rfl
  placed := standing.placed
  acceptedEq := standing.acceptedEq
  tracked := by
    simp only [set_order_run, sameId, standing.idEq, AList.lookup_insert]
  others other different := by
    simp only [set_order_run, sameId, standing.idEq, AList.lookup_insert_ne different]
    exact standing.others other different

/-- An assignment of other attributes leaves the progress as it is. -/
theorem Standing.kept (standing : Standing before id request progress call)
    {change : Order → Order} (sameId : (change call.order).id = call.order.id)
    (sameRequest : placeRequest (change call.order) = placeRequest call.order)
    (sameStatus : (change call.order).status = call.order.status)
    (sameRetries : (change call.order).retryCount = call.order.retryCount) :
    Standing before id request progress (setOrder change call).2 := by
  have same : { progress.move (change call.order).status with
      retries := (change call.order).retryCount } = progress := by
    simp only [OrderProgress.move, moveTo, sameStatus, standing.current, if_true, sameRetries,
      standing.retried]
  exact same ▸ standing.assigned change sameId sameRequest

/-- An assignment of the status is a move. -/
theorem Standing.moved (standing : Standing before id request progress call)
    (status : OrderStatus) {change : Order → Order}
    (sameId : (change call.order).id = call.order.id)
    (sameRequest : placeRequest (change call.order) = placeRequest call.order)
    (assigns : (change call.order).status = status)
    (sameRetries : (change call.order).retryCount = call.order.retryCount) :
    Standing before id request (progress.move status) (setOrder change call).2 := by
  have same : { progress.move (change call.order).status with
      retries := (change call.order).retryCount } = progress.move status := by
    simp only [OrderProgress.move, assigns, sameRetries, standing.retried]
  exact same ▸ standing.assigned change sameId sameRequest

/-- A request was transmitted. -/
def transmittedProgress (env : OrderEnvironment) (progress : OrderProgress) : OrderProgress :=
  { progress with
      placements := progress.placements + 1
      accepted := progress.accepted || (env.placeReply progress.placements).accepted }

theorem Standing.executed (standing : Standing before id request progress call)
    (env : OrderEnvironment) :
    Standing before id request (transmittedProgress env progress) (executeOnIg env call).2 :=
  { standing with
    placed := by
      have counted := count_transmitted env call
      simp only [execute_on_ig_run, OrderCall.placements, transmittedProgress] at counted ⊢
      rw [← standing.placed]
      exact counted
    acceptedEq := by
      have before := standing.acceptedEq
      simp only [OrderCall.acceptedOrders] at before
      simp only [execute_on_ig_run, OrderCall.acceptedOrders, transmittedProgress,
        standing.placed]
      rw [← before, List.countP_cons]
      cases (env.placeReply progress.placements).accepted <;> simp [Exchange.isAccepted] }

/-- An assignment establishes what the assigned call satisfies. -/
theorem ensures_set_order {entry : OrderCall → Prop} {after : Unit → OrderCall → Prop}
    {raised : OrderFailure → OrderCall → Prop} (change : Order → Order)
    (holds : ∀ call, entry call → after () (setOrder change call).2) :
    Ensures entry (setOrder change) after raised :=
  ensures_modify _ holds

/-- A message leaves the call as it is, and raises exactly when it is not taken. -/
theorem ensures_notify {entry : OrderCall → Prop} {after : Unit → OrderCall → Prop}
    {raised : OrderFailure → OrderCall → Prop} (env : OrderEnvironment) (alert : OrderAlert)
    (taken : alertDelivered env alert = true → ∀ call, entry call → after () call)
    (refused : alertDelivered env alert = false → ∀ failure call, entry call →
      raised failure call) :
    Ensures entry (notify env alert) after raised := by
  intro call holds
  rw [notify_run]
  cases delivered : alertDelivered env alert with
  | true => exact taken delivered call holds
  | false => exact refused delivered _ call holds

/-- Assigning attributes that no request and no status has keeps the standing. -/
theorem keeps_standing_kept {change : Order → Order}
    (sameId : ∀ order, (change order).id = order.id)
    (sameRequest : ∀ order, placeRequest (change order) = placeRequest order)
    (sameStatus : ∀ order, (change order).status = order.status)
    (sameRetries : ∀ order, (change order).retryCount = order.retryCount) :
    Keeps (Standing before id request progress) (setOrder change) :=
  ensures_set_order change fun _ standing =>
    standing.kept (sameId _) (sameRequest _) (sameStatus _) (sameRetries _)

/-- Booking an answer fills the order, whether or not the answer can be read. -/
theorem book_fill_standing (env : OrderEnvironment) (body : ReplyBody) :
    Ensures (Standing before id request progress) (bookFill env body)
      (fun _ => Standing before id request (progress.move .filled))
      (fun _ => Standing before id request (progress.move .filled)) := by
  have filled : Ensures (Standing before id request progress)
      (setOrder fun order => { order with status := .filled })
      (fun _ => Standing before id request (progress.move .filled))
      (fun _ => Standing before id request (progress.move .filled)) :=
    ensures_set_order _ fun _ standing => standing.moved .filled rfl rfl rfl rfl
  apply ensures_bind filled
  intro _
  cases body with
  | notADict => exact keeps_raise _
  | dict reply =>
    apply keeps_bind (keeps_read _)
    intro exchanged
    apply keeps_bind
    · exact keeps_standing_kept (fun _ => rfl) (fun _ => rfl) (fun _ => rfl) fun _ => rfl
    intro _
    cases reply.entryPrice with
    | none => exact keeps_standing_kept (fun _ => rfl) (fun _ => rfl) (fun _ => rfl) fun _ => rfl
    | some numeral =>
      apply keeps_bind (keeps_ofExcept _)
      intro price
      exact keeps_standing_kept (fun _ => rfl) (fun _ => rfl) (fun _ => rfl) fun _ => rfl

/-- The final state of an attempt. -/
theorem Standing.attempted (standing : Standing before id request progress call)
    (env : OrderEnvironment) :
    Standing before id request (progress.attempted env) (final (attemptFill env) call) := by
  have executed := standing.executed env
  cases answered : (env.placeReply progress.placements).answer with
  | error failure =>
    have raised : executeOnIg env call =
        (.error (.escaped failure), (executeOnIg env call).2) := by
      simp [execute_on_ig_run, standing.placed, answered, Except.mapError]
    have ended : final (attemptFill env) call = (executeOnIg env call).2 :=
      congrArg Prod.snd (bind_error raised)
    rw [ended]
    simpa [OrderProgress.attempted, transmittedProgress, answered, Except.isOk, Except.toBool]
      using executed
  | ok body =>
    have returned : executeOnIg env call = (.ok body, (executeOnIg env call).2) := by
      simp [execute_on_ig_run, standing.placed, answered, Except.mapError]
    have ended : final (attemptFill env) call =
        final (bookFill env body >>= fun _ => read (·.order)) (executeOnIg env call).2 :=
      congrArg Prod.snd (bind_ok returned)
    have booked : Ensures (Standing before id request (transmittedProgress env progress))
        (bookFill env body >>= fun _ => read (·.order) : OrderProgram Order)
        (fun _ => Standing before id request ((transmittedProgress env progress).move .filled))
        (fun _ => Standing before id request ((transmittedProgress env progress).move .filled)) :=
      ensures_bind (book_fill_standing env body) fun _ => keeps_read _
    rw [ended]
    have reached := booked.final executed
    unfold final
    simpa [OrderProgress.attempted, transmittedProgress, OrderProgress.move, answered, Except.isOk,
      Except.toBool] using reached

/-- An attempt raises exactly when its answer cannot be booked. -/
theorem attempt_fill_standing (env : OrderEnvironment) :
    Ensures (Standing before id request progress) (attemptFill env)
      (fun _ call => bookingFailure (env.placeReply progress.placements).answer = none ∧
        Standing before id request (progress.attempted env) call)
      (fun failure call =>
        (∃ cause, failure = .escaped cause ∧
          bookingFailure (env.placeReply progress.placements).answer = some cause) ∧
        Standing before id request (progress.attempted env) call) := by
  intro call standing
  have answer := (attempt_fill_spec env call).1
  have reached := standing.attempted env
  rw [standing.placed] at answer
  unfold outcome at answer
  unfold final at reached
  rcases ended : attemptFill env call with ⟨ending, last⟩
  rw [ended] at answer reached
  cases failed : bookingFailure (env.placeReply progress.placements).answer with
  | none =>
    rw [failed] at answer
    obtain ⟨order, rfl⟩ := answer
    exact ⟨rfl, reached⟩
  | some cause =>
    rw [failed] at answer
    obtain rfl : ending = .error (.escaped cause) := answer
    exact ⟨⟨cause, rfl, rfl⟩, reached⟩

/-- Marking an order as failed is its last move. -/
theorem mark_failed_standing (cause : Failure) :
    Ensures (Standing before id request progress) (markFailed cause) (fun _ _ => False)
      (fun _ => Standing before id request (progress.move .failed)) := by
  have marked : Ensures (Standing before id request progress)
      (setOrder fun order =>
        { order with status := .failed, errorMessage := some (.execution cause) })
      (fun _ => Standing before id request (progress.move .failed))
      (fun _ => Standing before id request (progress.move .failed)) :=
    ensures_set_order _ fun _ standing => standing.moved .failed rfl rfl rfl rfl
  exact ensures_bind marked fun _ => ensures_raise _ fun _ standing => standing

/-- How a failure handler ends: with the retry booked or not, and the order where that leaves it. -/
def FailureHandled (env : OrderEnvironment) (before : OrderManager) (id : String)
    (request : PlaceRequest) (progress : OrderProgress) (cause : Failure) (retried : Bool)
    (call : OrderCall) : Prop :=
  progress.isRetried env request.instrument cause = retried ∧
    Standing before id request (progress.handled env request.instrument cause) call

/-- The end of a failed retry: it is reported, and the order is marked as failed if the report
was taken. -/
theorem retry_failed_standing (env : OrderEnvironment) (cause retryCause : Failure)
    (delivered : alertDelivered env (.failed request.instrument cause) = true)
    (failed : bookingFailure (env.placeReply progress.placements).answer = some retryCause) :
    Ensures (Standing before id request ({ progress with retries := 1 }.attempted env))
      (do
        notify env (.retryFailed request.instrument retryCause)
        markFailed cause)
      (fun _ _ => False)
      (fun _ => FailureHandled env before id request progress cause false) := by
  have unretried : progress.isRetried env request.instrument cause = false := by
    simp only [OrderProgress.isRetried, failed, Option.isNone_some, Bool.and_false]
  have reported : Ensures (Standing before id request ({ progress with retries := 1 }.attempted env))
      (notify env (.retryFailed request.instrument retryCause))
      (fun _ call => alertDelivered env (.retryFailed request.instrument retryCause) = true ∧
        Standing before id request ({ progress with retries := 1 }.attempted env) call)
      (fun _ => FailureHandled env before id request progress cause false) := by
    apply ensures_notify
    · exact fun taken _ holds => ⟨taken, holds⟩
    · intro refused _ call holds
      refine ⟨unretried, ?_⟩
      simpa only [OrderProgress.handled, delivered, if_true, failed, refused, Bool.false_eq_true,
        if_false] using holds
  apply ensures_bind reported
  intro _
  apply ensures_of_known
    (alertDelivered env (.retryFailed request.instrument retryCause) = true)
  · exact fun _ holds => holds.1
  intro taken
  have marked : progress.handled env request.instrument cause =
      ({ progress with retries := 1 }.attempted env).move .failed := by
    simp only [OrderProgress.handled, delivered, if_true, failed, taken]
  have ended : Ensures (Standing before id request ({ progress with retries := 1 }.attempted env))
      (markFailed cause) (fun _ _ => False)
      (fun _ => Standing before id request
        (({ progress with retries := 1 }.attempted env).move .failed)) :=
    mark_failed_standing cause
  refine ended.weaken (fun _ holds => holds.2) (fun _ _ impossible => impossible) ?_
  refine fun _ _ standing => ⟨unretried, ?_⟩
  rw [marked]
  exact standing

/-- The end of the failure handler, which marks the order as failed only after both messages
were taken. -/
theorem handle_failure_standing (env : OrderEnvironment) (cause : Failure)
    (first : progress.retries = 0) :
    Ensures (Standing before id request progress) (handleFailure env cause)
      (fun _ => FailureHandled env before id request progress cause true)
      (fun _ => FailureHandled env before id request progress cause false) := by
  apply ensures_read_bind
  intro order
  apply ensures_of_known (order.instrument = request.instrument ∧ order.retryCount = 0)
  · rintro call ⟨standing, rfl⟩
    exact ⟨congrArg PlaceRequest.instrument standing.requested, standing.retried.trans first⟩
  rintro ⟨instrument, unretried⟩
  rw [instrument]
  have told : Ensures (fun call => Standing before id request progress call ∧ call.order = order)
      (notify env (.failed request.instrument cause))
      (fun _ call => alertDelivered env (.failed request.instrument cause) = true ∧
        Standing before id request progress call ∧ call.order = order)
      (fun _ => FailureHandled env before id request progress cause false) := by
    apply ensures_notify
    · exact fun delivered _ holds => ⟨delivered, holds⟩
    · intro refused _ call holds
      simpa only [FailureHandled, OrderProgress.isRetried, OrderProgress.handled, refused,
        Bool.false_and, Bool.false_eq_true, if_false, true_and] using holds.1
  apply ensures_bind told
  intro _
  apply ensures_of_known (alertDelivered env (.failed request.instrument cause) = true)
  · exact fun _ holds => holds.1
  intro delivered
  rw [if_pos (show order.retryCount < 1 by rw [unretried]; exact Nat.one_pos)]
  have counted : Ensures
      (fun call => alertDelivered env (.failed request.instrument cause) = true ∧
        Standing before id request progress call ∧ call.order = order)
      (setOrder fun order => { order with retryCount := order.retryCount + 1 })
      (fun _ => Standing before id request { progress with retries := 1 })
      (fun _ => FailureHandled env before id request progress cause false) := by
    apply ensures_set_order
    rintro call ⟨_, standing, rfl⟩
    have assigned := standing.assigned
      (fun order => { order with retryCount := order.retryCount + 1 }) rfl rfl
    simpa only [OrderProgress.move, moveTo, standing.current, if_true, unretried, Nat.zero_add]
      using assigned
  apply ensures_bind counted
  intro _
  have retried : Ensures (Standing before id request { progress with retries := 1 })
      (attemptFill env)
      (fun _ => FailureHandled env before id request progress cause true)
      (fun failure call =>
        (∃ retryCause, failure = .escaped retryCause ∧
          bookingFailure (env.placeReply progress.placements).answer = some retryCause) ∧
        Standing before id request ({ progress with retries := 1 }.attempted env) call) := by
    refine (attempt_fill_standing env).weaken (fun _ holds => holds) ?_ fun _ _ holds => holds
    rintro _ call ⟨booked, standing⟩
    simpa only [FailureHandled, OrderProgress.isRetried, OrderProgress.handled, delivered, if_true,
      booked, Option.isNone_none, Bool.and_self, true_and] using standing
  apply ensures_rescue retried
  intro failure
  apply ensures_of_known (∃ retryCause, failure = .escaped retryCause ∧
    bookingFailure (env.placeReply progress.placements).answer = some retryCause)
  · exact fun _ holds => holds.1
  rintro ⟨retryCause, rfl, failed⟩
  exact (retry_failed_standing env cause retryCause delivered failed).weaken
    (fun _ holds => holds.2) (fun _ _ impossible => impossible.elim) fun _ _ holds => holds

/-- The end of a submission. -/
theorem submit_order_standing (env : OrderEnvironment) (first : progress.retries = 0) :
    Ensures (Standing before id request progress) (submitOrder env)
      (fun _ => Standing before id request (progress.submitted env request.instrument))
      (fun _ => Standing before id request (progress.submitted env request.instrument)) := by
  have submitted : Ensures (Standing before id request progress)
      (setOrder fun order => { order with status := .submitted })
      (fun _ => Standing before id request (progress.move .submitted))
      (fun _ => Standing before id request (progress.submitted env request.instrument)) :=
    ensures_set_order _ fun _ standing => standing.moved .submitted rfl rfl rfl rfl
  apply ensures_bind submitted
  intro _
  have attempted : Ensures (Standing before id request (progress.move .submitted))
      (attemptFill env)
      (fun _ => Standing before id request (progress.submitted env request.instrument))
      (fun failure call =>
        (∃ cause, failure = .escaped cause ∧
          bookingFailure (env.placeReply progress.placements).answer = some cause) ∧
        Standing before id request ((progress.move .submitted).attempted env) call) := by
    refine (attempt_fill_standing env).weaken (fun _ holds => holds) ?_ fun _ _ holds => holds
    rintro _ call ⟨booked, standing⟩
    have same : (env.placeReply (progress.move .submitted).placements).answer =
        (env.placeReply progress.placements).answer := rfl
    rw [same] at booked
    simpa only [OrderProgress.submitted, booked] using standing
  apply ensures_rescue attempted
  intro failure
  apply ensures_of_known (∃ cause, failure = .escaped cause ∧
    bookingFailure (env.placeReply progress.placements).answer = some cause)
  · exact fun _ holds => holds.1
  rintro ⟨cause, rfl, failed⟩
  have handled : progress.submitted env request.instrument =
      ((progress.move .submitted).attempted env).handled env request.instrument cause := by
    simp only [OrderProgress.submitted, failed]
  rw [handled]
  have unretried : ((progress.move .submitted).attempted env).retries = 0 := first
  refine (handle_failure_standing env cause unretried).weaken (fun _ holds => holds.2) ?_ ?_
  · exact fun _ _ ended => ended.2
  · exact fun _ _ ended => ended.2

/-- A rejection leaves the order rejected, whether or not its message is taken. -/
theorem reject_standing (env : OrderEnvironment) (instrument : String) (reason : OrderError) :
    Ensures (Standing before id request progress)
      (do
        setOrder fun order => { order with status := .rejected, errorMessage := some reason }
        notify env (.rejected instrument reason)
        raise (.validation reason) : OrderProgram Order)
      (fun _ => Standing before id request (progress.move .rejected))
      (fun _ => Standing before id request (progress.move .rejected)) := by
  have rejected : Ensures (Standing before id request progress)
      (setOrder fun order => { order with status := .rejected, errorMessage := some reason })
      (fun _ => Standing before id request (progress.move .rejected))
      (fun _ => Standing before id request (progress.move .rejected)) :=
    ensures_set_order _ fun _ standing => standing.moved .rejected rfl rfl rfl rfl
  apply ensures_bind rejected
  intro _
  apply keeps_bind
  · exact ensures_notify env _ (fun _ _ holds => holds) fun _ _ _ holds => holds
  · exact fun _ => keeps_raise _

/-- A new order is tracked as pending. -/
theorem Standing.tracked_new {order : Order} (sameId : order.id = id)
    (unretried : order.retryCount = 0) (pending : order.status = .pending) :
    Standing before id (placeRequest order) { statuses := [.pending] }
      (setOrder (fun order => order) { manager := before, order }).2 where
  idEq := sameId
  requested := rfl
  statusesEq := by simp [set_order_run, moveTo, pending]
  current := by simp [set_order_run, pending]
  retried := unretried
  placed := rfl
  acceptedEq := rfl
  tracked := by simp [set_order_run, sameId]
  others other different := by simp [set_order_run, sameId, AList.lookup_insert_ne different]

/-- The end of a placement. -/
theorem place_order_standing (env : OrderEnvironment) (order : Order) (sameId : order.id = id)
    (unretried : order.retryCount = 0) (pending : order.status = .pending) :
    Standing before id (placeRequest order) (OrderProgress.placed env order)
      (placeOrder env { manager := before, order }).2 := by
  have placed : Ensures (· = ({ manager := before, order } : OrderCall)) (placeOrder env)
      (fun _ => Standing before id (placeRequest order) (OrderProgress.placed env order))
      (fun _ => Standing before id (placeRequest order) (OrderProgress.placed env order)) := by
    have tracked : Ensures (· = ({ manager := before, order } : OrderCall))
        (setOrder fun order => order)
        (fun _ call => Standing before id (placeRequest order) { statuses := [.pending] } call ∧
          call.order = order)
        (fun _ => Standing before id (placeRequest order) (OrderProgress.placed env order)) := by
      apply ensures_set_order
      rintro _ rfl
      exact ⟨Standing.tracked_new sameId unretried pending, rfl⟩
    apply ensures_bind tracked
    intro _
    apply ensures_read_bind
    intro current
    apply ensures_of_known (current = order)
    · rintro call ⟨⟨_, same⟩, rfl⟩
      exact same
    rintro rfl
    cases validated : validateOrder env current.instrument current.size with
    | error failure =>
      have unmoved : OrderProgress.placed env current = { statuses := [.pending] } := by
        simp only [OrderProgress.placed, validated]
      rw [unmoved]
      exact (keeps_raise _).enter fun _ holds => holds.1.1
    | ok verdict =>
      cases verdict with
      | some reason =>
        have rejected : OrderProgress.placed env current =
            ({ statuses := [.pending] } : OrderProgress).move .rejected := by
          simp only [OrderProgress.placed, validated]
          rfl
        rw [rejected]
        exact (reject_standing env current.instrument reason).enter fun _ holds => holds.1.1
      | none =>
        have submitted : OrderProgress.placed env current =
            ({ statuses := [.pending] } : OrderProgress).submitted env
              (placeRequest current).instrument := by
          simp only [OrderProgress.placed, validated]
          rfl
        rw [submitted]
        exact (submit_order_standing env rfl).enter fun _ holds => holds.1.1
  exact placed.final rfl

/-- A close request is no placement. -/
theorem close_on_ig_standing (env : OrderEnvironment) (dealId : String) :
    Ensures (Standing before id request progress) (closeOnIg env dealId)
      (fun body call => env.closeReply = .ok body ∧ Standing before id request progress call)
      (fun failure call => (∃ cause, failure = .escaped cause ∧ env.closeReply = .error cause) ∧
        Standing before id request progress call) := by
  intro call standing
  have kept : Standing before id request progress (closeOnIg env dealId call).2 :=
    { standing with }
  cases answered : env.closeReply with
  | error cause =>
    have raised : (closeOnIg env dealId call).1 = .error (.escaped cause) := by
      simp [closeOnIg, answered, Except.mapError]
    rcases ended : closeOnIg env dealId call with ⟨ending, last⟩
    rw [ended] at kept raised
    obtain rfl : ending = .error (.escaped cause) := raised
    exact ⟨⟨cause, rfl, rfl⟩, kept⟩
  | ok body =>
    have returned : (closeOnIg env dealId call).1 = .ok body := by
      simp [closeOnIg, answered, Except.mapError]
    rcases ended : closeOnIg env dealId call with ⟨ending, last⟩
    rw [ended] at kept returned
    obtain rfl : ending = .ok body := returned
    exact ⟨rfl, kept⟩

/-- How an attempt to close raises: with the order at the status that belongs to the cause. -/
def ClosingFailed (env : OrderEnvironment) (before : OrderManager) (id : String)
    (request : PlaceRequest) (progress : OrderProgress) (failure : OrderFailure)
    (call : OrderCall) : Prop :=
  ∃ cause status, failure = .escaped cause ∧ closeFailure env.closeReply = some (cause, status) ∧
    Standing before id request ((progress.move .submitted).move status) call

/-- A close request leaves the order submitted. -/
theorem close_requested_standing (env : OrderEnvironment) (dealId : String) :
    Ensures (Standing before id request (progress.move .submitted)) (closeOnIg env dealId)
      (fun body call => env.closeReply = .ok body ∧
        Standing before id request (progress.move .submitted) call)
      (ClosingFailed env before id request progress) := by
  refine (close_on_ig_standing env dealId).weaken (fun _ holds => holds) (fun _ _ holds => holds) ?_
  rintro _ call ⟨⟨cause, rfl, answered⟩, standing⟩
  have unmoved : (progress.move .submitted).move .submitted = progress.move .submitted := by
    simp only [OrderProgress.move, move_to_again]
  refine ⟨cause, .submitted, rfl, by rw [answered]; rfl, ?_⟩
  rw [unmoved]
  exact standing

/-- What is noted of a closed order does not move it. -/
theorem keeps_standing_closed (env : OrderEnvironment) (dealId : String)
    (dealReference : Option String) :
    Keeps (Standing before id request progress)
      (do
        let exchanged ← read fun call => call.exchanges.length
        setOrder fun order => { order with dealReference, closedAt := some (env.now exchanged) }
        removeTrailingStop dealId
        read (·.order) : OrderProgram Order) := by
  apply keeps_bind (keeps_read _)
  intro exchanged
  apply keeps_bind
  · exact keeps_standing_kept (fun _ => rfl) (fun _ => rfl) (fun _ => rfl) fun _ => rfl
  intro _
  apply keeps_bind
  · exact keeps_modify fun _ standing => { standing with }
  exact fun _ => keeps_read _

/-- An attempt to close moves the order to CLOSED as soon as anything came back. -/
theorem attempt_close_standing (env : OrderEnvironment) (dealId : String) :
    Ensures (Standing before id request progress) (attemptClose env dealId)
      (fun _ call => closeFailure env.closeReply = none ∧
        Standing before id request ((progress.move .submitted).move .closed) call)
      (ClosingFailed env before id request progress) := by
  have submitted : Ensures (Standing before id request progress)
      (setOrder fun order => { order with status := .submitted })
      (fun _ => Standing before id request (progress.move .submitted))
      (ClosingFailed env before id request progress) :=
    ensures_set_order _ fun _ standing => standing.moved .submitted rfl rfl rfl rfl
  apply ensures_bind submitted
  intro _
  apply ensures_bind (close_requested_standing env dealId)
  intro body
  apply ensures_of_known (env.closeReply = .ok body)
  · exact fun _ holds => holds.1
  intro answered
  have closed : Ensures
      (fun call => env.closeReply = .ok body ∧
        Standing before id request (progress.move .submitted) call)
      (setOrder fun order => { order with status := .closed })
      (fun _ => Standing before id request ((progress.move .submitted).move .closed))
      (ClosingFailed env before id request progress) :=
    ensures_set_order _ fun _ holds => holds.2.moved .closed rfl rfl rfl rfl
  apply ensures_bind closed
  intro _
  cases body with
  | notADict =>
    exact ensures_raise _ fun _ standing => ⟨_, .closed, rfl, by rw [answered]; rfl, standing⟩
  | dict reply =>
    refine ((keeps_standing_closed env dealId reply.dealReference).of_returns
      fun _ => ⟨_, _, rfl⟩).weaken (fun _ standing => standing) ?_ fun _ _ impossible => impossible
    exact fun _ _ standing => ⟨by rw [answered]; rfl, standing⟩

/-- The order that a close tracks. -/
def closingOrder (id : String) (createdAt : ℚ) (dealId direction : String) (size : ℚ) : Order :=
  { id, createdAt, instrument := "", direction, orderType := .market, size, dealId := some dealId }

/-- The end of a close. -/
theorem close_program_standing (env : OrderEnvironment) (before : OrderManager) (id : String)
    (createdAt : ℚ) (dealId direction : String) (size : ℚ) :
    Ensures (· = ({ manager := before, order := closingOrder id createdAt dealId direction size } :
        OrderCall))
      (closeProgram env dealId)
      (fun _ call => OrderProgress.closeReturns env = true ∧
        Standing before id (placeRequest (closingOrder id createdAt dealId direction size))
          (OrderProgress.closed env) call)
      (fun _ call => OrderProgress.closeReturns env = false ∧
        Standing before id (placeRequest (closingOrder id createdAt dealId direction size))
          (OrderProgress.closed env) call) := by
  generalize tracked : closingOrder id createdAt dealId direction size = order
  have pending : Ensures (· = ({ manager := before, order } : OrderCall))
      (setOrder fun order => order)
      (fun _ => Standing before id (placeRequest order) { statuses := [.pending] })
      (fun _ call => OrderProgress.closeReturns env = false ∧
        Standing before id (placeRequest order) (OrderProgress.closed env) call) := by
    apply ensures_set_order
    rintro _ rfl
    subst tracked
    exact Standing.tracked_new rfl rfl rfl
  apply ensures_bind pending
  intro _
  have attempted : Ensures (Standing before id (placeRequest order) { statuses := [.pending] })
      (attemptClose env dealId)
      (fun _ call => OrderProgress.closeReturns env = true ∧
        Standing before id (placeRequest order) (OrderProgress.closed env) call)
      (fun failure call => ∃ cause status, failure = .escaped cause ∧
        closeFailure env.closeReply = some (cause, status) ∧
        Standing before id (placeRequest order)
          { statuses := moveTo status [.submitted, .pending] } call) := by
    refine (attempt_close_standing env dealId).weaken (fun _ holds => holds) ?_
      fun _ _ holds => holds
    rintro _ call ⟨answered, standing⟩
    simp only [OrderProgress.closeReturns, OrderProgress.closed, answered, true_and]
    exact standing
  apply ensures_rescue attempted
  rintro failure call ⟨cause, status, rfl, failed, standing⟩
  have handled : OrderProgress.closed env =
      ({ statuses := moveTo status [.submitted, .pending] } : OrderProgress).handled env
        (placeRequest order).instrument cause := by
    subst tracked
    simp only [OrderProgress.closed, failed]
    rfl
  have returns : OrderProgress.closeReturns env =
      ({ statuses := moveTo status [.submitted, .pending] } : OrderProgress).isRetried env
        (placeRequest order).instrument cause := by
    subst tracked
    simp only [OrderProgress.closeReturns, failed]
    rfl
  rw [handled, returns]
  exact handle_failure_standing env cause rfl call standing

theorem close_order_standing (env : OrderEnvironment) (before : OrderManager) (id : String)
    (createdAt : ℚ) (dealId direction : String) (size : ℚ) :
    Standing before id (placeRequest (closingOrder id createdAt dealId direction size))
      (OrderProgress.closed env)
      (closeOrder env before id createdAt dealId direction size).2 := by
  have ended := (close_program_standing env before id createdAt dealId direction size).weaken
    (fun _ entry => entry) (fun _ _ ended => ended.2) (fun _ _ ended => ended.2)
  exact ended.final rfl

/-- A close returns exactly when it is answered or its retry is booked. -/
theorem close_order_returns (env : OrderEnvironment) (before : OrderManager) (id : String)
    (createdAt : ℚ) (dealId direction : String) (size : ℚ) :
    (closeOrder env before id createdAt dealId direction size).1.isOk =
      OrderProgress.closeReturns env := by
  have ended := close_program_standing env before id createdAt dealId direction size _ rfl
  rcases result : closeOrder env before id createdAt dealId direction size with ⟨ending, last⟩
  have same : closeProgram env dealId
      { manager := before, order := closingOrder id createdAt dealId direction size } =
        (ending, last) := result
  rw [same] at ended
  cases ending with
  | error failure => exact ended.1.symm
  | ok order => exact ended.1.symm

/-- The end of a placement of any of the three types. -/
theorem placement_standing (env : OrderEnvironment) (before : OrderManager) (id : String)
    (createdAt : ℚ) (placement : Placement) :
    Standing before id (placeRequest (placement.order id createdAt))
      (OrderProgress.placed env (placement.order id createdAt))
      (placement.call env before id createdAt).2 := by
  rw [Placement.call_eq]
  apply place_order_standing
  · cases placement <;> rfl
  · cases placement <;> rfl
  · cases placement <;> rfl

end Calls

end OrderManager

end IgTradingBot
