import IgTradingBot.Broker.OrderProgress

/-!
# The lifecycle of an order

An order keeps to its lifecycle when each of its statuses may follow the one before it. A
placement or a close breaks it for exact reasons, which its answers decide; in a run of the
manager that meets none of them every order keeps to its lifecycle. The failure handler is
behind all of the reasons: it marks an order as failed whatever was answered before, and it
places an order for a close.
-/

namespace IgTradingBot

open Sequential Sequential.Program

/-- The statuses that may follow each other: a closing order is never filled, and REJECTED,
FAILED and CLOSED are never left. -/
def OrderStatus.mayBecome : OrderKind → OrderStatus → OrderStatus → Bool
  | .opening, .pending, .rejected | .opening, .pending, .submitted => true
  | .opening, .submitted, .filled | .opening, .submitted, .failed => true
  | .opening, .filled, .partiallyClosed | .opening, .filled, .closed => true
  | .opening, .partiallyClosed, .partiallyClosed | .opening, .partiallyClosed, .closed => true
  | .closing, .pending, .submitted => true
  | .closing, .submitted, .closed | .closing, .submitted, .failed => true
  | _, _, _ => false

/-- Statuses keep to the lifecycle of a kind of order: they begin with PENDING, and each one may
follow the one before it. -/
def KeepsLifecycle (kind : OrderKind) : List OrderStatus → Prop
  | [] => False
  | [first] => first = .pending
  | later :: earlier :: past =>
    earlier.mayBecome kind later = true ∧ KeepsLifecycle kind (earlier :: past)

instance decidableKeepsLifecycle (kind : OrderKind) :
    (statuses : List OrderStatus) → Decidable (KeepsLifecycle kind statuses)
  | [] => inferInstanceAs (Decidable False)
  | [first] => inferInstanceAs (Decidable (first = .pending))
  | later :: earlier :: past =>
    have := decidableKeepsLifecycle kind (earlier :: past)
    inferInstanceAs (Decidable (earlier.mayBecome kind later = true ∧ _))

/-- An order keeps to its lifecycle, and an opening order that was accepted never fails. -/
def OrderRecord.Lawful (record : OrderRecord) : Prop :=
  KeepsLifecycle record.kind record.statuses ∧
    (record.kind = .opening → record.accepted = true → .failed ∉ record.statuses)

instance (record : OrderRecord) : Decidable record.Lawful := inferInstanceAs (Decidable (_ ∧ _))

namespace OrderProgress

/-- A progress keeps to the lifecycle. -/
def Lawful (kind : OrderKind) (progress : OrderProgress) : Prop :=
  KeepsLifecycle kind progress.statuses ∧
    (kind = .opening → progress.accepted = true → .failed ∉ progress.statuses)

/-- The manager gives an opening order up after a first request and a retry that it could not
book, although the broker accepted one of them or one was answered. -/
def GivesUpAnswered (env : OrderEnvironment) (order : Order) : Prop :=
  OrderManager.validateOrder env order.instrument order.size = .ok none ∧
    (∃ cause, OrderManager.bookingFailure (env.placeReply 0).answer = some cause ∧
      OrderManager.alertDelivered env (.failed order.instrument cause) = true) ∧
    (∃ cause, OrderManager.bookingFailure (env.placeReply 1).answer = some cause ∧
      OrderManager.alertDelivered env (.retryFailed order.instrument cause) = true) ∧
    ((env.placeReply 0).accepted = true ∨ (env.placeReply 1).accepted = true ∨
      (env.placeReply 0).answer.isOk = true ∨ (env.placeReply 1).answer.isOk = true)

/-- The manager places an order for a close that failed, and an answer comes back; or it gives
a close up whose answer it had already taken for the end. -/
def ReopensClose (env : OrderEnvironment) : Prop :=
  ∃ cause status, OrderManager.closeFailure env.closeReply = some (cause, status) ∧
    OrderManager.alertDelivered env (.failed "" cause) = true ∧
    ((env.placeReply 0).answer.isOk = true ∨
      status = .closed ∧ ∃ retryCause,
        OrderManager.bookingFailure (env.placeReply 0).answer = some retryCause ∧
          OrderManager.alertDelivered env (.retryFailed "" retryCause) = true)

/-- An answer that can be booked is one. -/
theorem is_ok_of_booked {answer : Except Failure ReplyBody}
    (booked : OrderManager.bookingFailure answer = none) : answer.isOk = true := by
  cases answer with
  | error failure => cases booked
  | ok body => rfl

/-- A placement keeps to the lifecycle unless it is given up after an answer. -/
theorem placed_lawful_iff (env : OrderEnvironment) (order : Order) :
    (placed env order).Lawful .opening ↔ ¬ GivesUpAnswered env order := by
  unfold placed GivesUpAnswered Lawful
  cases validated : OrderManager.validateOrder env order.instrument order.size with
  | error failure => simp [KeepsLifecycle]
  | ok verdict =>
    cases verdict with
    | some reason => simp [KeepsLifecycle, OrderStatus.mayBecome]
    | none =>
      cases failed : OrderManager.bookingFailure (env.placeReply 0).answer with
      | none =>
        simp [submitted, attempted, move, failed, is_ok_of_booked failed, OrderManager.moveTo,
          KeepsLifecycle, OrderStatus.mayBecome]
      | some cause =>
        cases delivered : OrderManager.alertDelivered env (.failed order.instrument cause) with
        | false =>
          cases answered : (env.placeReply 0).answer.isOk <;>
            simp [submitted, handled, attempted, move, failed, delivered, answered,
              OrderManager.moveTo, KeepsLifecycle, OrderStatus.mayBecome]
        | true =>
          cases refused : OrderManager.bookingFailure (env.placeReply 1).answer with
          | none =>
            cases answered : (env.placeReply 0).answer.isOk <;>
              simp [submitted, handled, attempted, move, failed, delivered, answered, refused,
                is_ok_of_booked refused, OrderManager.moveTo, KeepsLifecycle,
                OrderStatus.mayBecome]
          | some retryCause =>
            cases reported : OrderManager.alertDelivered env
                (.retryFailed order.instrument retryCause) with
            | false =>
              cases answered : (env.placeReply 0).answer.isOk <;>
              cases retried : (env.placeReply 1).answer.isOk <;>
                simp [submitted, handled, attempted, move, failed, delivered, answered, refused,
                  reported, retried, OrderManager.moveTo, KeepsLifecycle, OrderStatus.mayBecome]
            | true =>
              cases answered : (env.placeReply 0).answer.isOk <;>
              cases retried : (env.placeReply 1).answer.isOk <;>
                simp [submitted, handled, attempted, move, failed, delivered, answered, refused,
                  reported, retried, OrderManager.moveTo, KeepsLifecycle, OrderStatus.mayBecome]

/-- A close keeps to the lifecycle unless it is reopened. -/
theorem closed_lawful_iff (env : OrderEnvironment) :
    (closed env).Lawful .closing ↔ ¬ ReopensClose env := by
  unfold closed ReopensClose Lawful
  cases failed : OrderManager.closeFailure env.closeReply with
  | none => simp [KeepsLifecycle, OrderStatus.mayBecome]
  | some failure =>
    obtain ⟨cause, status⟩ := failure
    have ended : status = .submitted ∨ status = .closed := by
      unfold OrderManager.closeFailure at failed
      grind
    cases delivered : OrderManager.alertDelivered env (.failed "" cause) with
    | false =>
      rcases ended with rfl | rfl <;>
        simp [handled, delivered, OrderManager.moveTo, KeepsLifecycle, OrderStatus.mayBecome]
    | true =>
      cases refused : OrderManager.bookingFailure (env.placeReply 0).answer with
      | none =>
        rcases ended with rfl | rfl <;>
          simp [handled, attempted, delivered, refused, is_ok_of_booked refused,
            OrderManager.moveTo, KeepsLifecycle, OrderStatus.mayBecome]
      | some retryCause =>
        cases reported : OrderManager.alertDelivered env (.retryFailed "" retryCause) <;>
        cases retried : (env.placeReply 0).answer.isOk <;>
        rcases ended with rfl | rfl <;>
          simp [handled, attempted, move, delivered, refused, reported, retried,
            OrderManager.moveTo, KeepsLifecycle, OrderStatus.mayBecome]

end OrderProgress

/-- A filled order that keeps to its lifecycle is an opening one, and it may be closed in
part. -/
theorem OrderRecord.Lawful.partially_closed {record : OrderRecord} (lawful : record.Lawful)
    (filled : record.statuses.head? = some .filled) :
    ({ record with statuses := .partiallyClosed :: record.statuses } : OrderRecord).Lawful := by
  obtain ⟨id, kind, accepted, statuses⟩ := record
  cases statuses with
  | nil => exact absurd filled (by simp)
  | cons current past =>
    obtain rfl : current = .filled := by simpa using filled
    have opening : kind = .opening := by
      cases kind with
      | opening => rfl
      | closing =>
        cases past with
        | nil => exact absurd lawful.1 (by simp [KeepsLifecycle])
        | cons earlier past =>
          have follows := lawful.1.1
          cases earlier <;> simp [OrderStatus.mayBecome] at follows
    subst opening
    refine ⟨⟨rfl, lawful.1⟩, fun opening accepted => ?_⟩
    have unfailed := lawful.2 opening accepted
    simpa using unfailed

namespace OrderDesk

open OrderManager

/-- Every record shows the present status of its order. -/
def Recorded (desk : OrderDesk) : Prop :=
  ∀ record ∈ desk.records, ∃ order,
    desk.manager.orders.lookup record.id = some order ∧
      record.statuses.head? = some order.status

/-- Every order keeps to its lifecycle. -/
def Lawful (desk : OrderDesk) : Prop := ∀ record ∈ desk.records, record.Lawful

instance (desk : OrderDesk) : Decidable desk.Lawful := inferInstanceAs (Decidable (∀ _ ∈ _, _))

/-- No order has the identifier. -/
def New (desk : OrderDesk) (id : String) : Prop := ∀ record ∈ desk.records, record.id ≠ id

instance (desk : OrderDesk) (id : String) : Decidable (desk.New id) :=
  inferInstanceAs (Decidable (∀ _ ∈ _, _))

/-- The condition on an operation: its generated identifier is new, a placement is not given up
after an answer, and a close is not reopened. -/
def SettlesOrder (desk : OrderDesk) : OrderOperation → Prop
  | .place env id createdAt placement =>
    desk.New id ∧ ¬ OrderProgress.GivesUpAnswered env (placement.order id createdAt)
  | .closeOrder env id _ _ _ _ => desk.New id ∧ ¬ OrderProgress.ReopensClose env
  | .partialTakeProfit env id _ _ closePct =>
    (partialRequest env.position closePct).isOk = true →
      desk.New id ∧ ¬ OrderProgress.ReopensClose env.orders
  | _ => True

/-- The invariant of the run. -/
def Kept (desk : OrderDesk) : Prop := desk.Recorded ∧ desk.Lawful

/-- A change of the trailing stops concerns no order. -/
theorem Kept.congr {desk changed : OrderDesk} (kept : desk.Kept)
    (sameRecords : changed.records = desk.records)
    (sameOrders : changed.manager.orders = desk.manager.orders) : changed.Kept := by
  unfold Kept Recorded Lawful
  rw [sameRecords, sameOrders]
  exact kept

/-- The order of a call that keeps to the lifecycle joins the others. -/
theorem Kept.enter {desk : OrderDesk} {kind : OrderKind} {id : String} {request : PlaceRequest}
    {progress : OrderProgress} {call : OrderCall} (kept : desk.Kept) (new : desk.New id)
    (standing : Standing desk.manager id request progress call) (lawful : progress.Lawful kind) :
    (desk.enter kind call).Kept := by
  constructor
  · intro record member
    rcases List.mem_cons.mp member with rfl | earlier
    · refine ⟨call.order, ?_, ?_⟩
      · change call.manager.orders.lookup call.order.id = _
        rw [standing.idEq]
        exact standing.tracked
      · change call.statuses.head? = _
        rw [standing.statusesEq]
        exact standing.current
    · obtain ⟨order, tracked, current⟩ := kept.1 record earlier
      refine ⟨order, ?_, current⟩
      exact (standing.others record.id (new record earlier)).trans tracked
  · intro record member
    rcases List.mem_cons.mp member with rfl | earlier
    · constructor
      · change KeepsLifecycle kind call.statuses
        rw [standing.statusesEq]
        exact lawful.1
      · intro opening accepted
        change .failed ∉ call.statuses
        rw [standing.statusesEq]
        exact lawful.2 opening (standing.acceptedEq.symm.trans accepted)
    · exact kept.2 record earlier

/-- One price concerns no order. -/
theorem Kept.advance_stop {desk : OrderDesk} (kept : desk.Kept) (instrument : String) (price : ℚ)
    (dealId : String) : (desk.advanceStop instrument price dealId).Kept := by
  unfold advanceStop
  split
  · exact kept
  · split_ifs
    · exact kept
    · dsimp only
      split
      · exact kept.congr rfl rfl
      · exact kept.congr rfl rfl

/-- The induction is on the deals with a trailing stop. -/
theorem Kept.advance_stops {desk : OrderDesk} (kept : desk.Kept) (instrument : String) (price : ℚ)
    (deals : List String) : (deals.foldl (advanceStop instrument price) desk).Kept := by
  induction deals generalizing desk with
  | nil => exact kept
  | cons dealId rest inductionHypothesis =>
    exact inductionHypothesis (kept.advance_stop instrument price dealId)

/-- Marking an order as partially closed keeps the invariant: it was filled. -/
theorem Kept.mark_partially_closed {desk : OrderDesk} (kept : desk.Kept) (dealId : String) :
    (desk.markPartiallyClosed dealId).Kept := by
  unfold markPartiallyClosed
  cases found : desk.records.reverse.find? (isFilledOf desk.manager dealId) with
  | none => exact kept
  | some filled =>
    have isFilled := List.find?_some found
    unfold isFilledOf at isFilled
    cases tracked : desk.manager.orders.lookup filled.id with
    | none => simp [tracked] at isFilled
    | some order =>
      have status : order.status = .filled := by
        rw [tracked] at isFilled
        exact (of_decide_eq_true isFilled).2
      simp only [tracked]
      constructor
      · intro record member
        obtain ⟨earlier, present, rfl⟩ := List.mem_map.mp member
        by_cases same : earlier.id = filled.id
        · rw [if_pos same]
          refine ⟨{ order with status := .partiallyClosed }, ?_, rfl⟩
          rw [← same]
          exact AList.lookup_insert _
        · rw [if_neg same]
          obtain ⟨other, lookup, current⟩ := kept.1 earlier present
          exact ⟨other, (AList.lookup_insert_ne same).trans lookup, current⟩
      · intro record member
        obtain ⟨earlier, present, rfl⟩ := List.mem_map.mp member
        by_cases same : earlier.id = filled.id
        · obtain ⟨other, lookup, current⟩ := kept.1 earlier present
          rw [same, tracked] at lookup
          obtain rfl : order = other := Option.some.inj lookup
          rw [if_pos same]
          exact (kept.2 earlier present).partially_closed (current.trans (congrArg some status))
        · rw [if_neg same]
          exact kept.2 earlier present

/-- Moving the stop to break-even keeps the invariant. -/
theorem Kept.break_even {desk : OrderDesk} (kept : desk.Kept) (dealId : String) (level : ℚ) :
    (desk.breakEven dealId level).Kept := by
  unfold breakEven
  apply mark_partially_closed
  split
  · exact kept.congr rfl rfl
  · exact kept.congr rfl rfl

/-- An operation that meets the condition keeps the invariant. -/
theorem step_keeps (desk : OrderDesk) (operation : OrderOperation) (kept : desk.Kept)
    (settles : desk.SettlesOrder operation) : (desk.step operation).Kept := by
  cases operation with
  | place env id createdAt placement =>
    obtain ⟨new, answered⟩ := settles
    exact kept.enter new (placement_standing env desk.manager id createdAt placement)
      ((OrderProgress.placed_lawful_iff env _).mpr answered)
  | closeOrder env id createdAt dealId direction size =>
    obtain ⟨new, settled⟩ := settles
    exact kept.enter new
      (close_order_standing env desk.manager id createdAt dealId direction size)
      ((OrderProgress.closed_lawful_iff env).mpr settled)
  | partialTakeProfit env id createdAt dealId closePct =>
    simp only [step]
    cases requested : partialRequest env.position closePct with
    | error failure => exact kept
    | ok request =>
      obtain ⟨new, settled⟩ := settles (by rw [requested]; rfl)
      have entered := kept.enter new
        (close_order_standing env.orders desk.manager id createdAt dealId
          (closeDirection request.direction) request.closeSize)
        ((OrderProgress.closed_lawful_iff env.orders).mpr settled)
      simp only
      split
      · exact entered
      · exact entered.break_even dealId request.breakevenStop
  | setupTrailingStop dealId trailDistance direction instrument currentPrice currentStop =>
    simp only [step]
    split
    · exact kept
    · exact kept.congr rfl rfl
  | priceTick instrument currentPrice => exact kept.advance_stops instrument currentPrice _
  | removeTrailingStop dealId => exact kept.congr rfl rfl

/-- In every run whose operations meet the condition, every order keeps to its lifecycle in
every state that is reached, and no opening order that was accepted is failed.

Proof: the records show the present statuses, so an order that is marked as partially closed
was filled; every other status is assigned in the call that tracks the order. -/
theorem orders_keep_lifecycle (operations reached : List OrderOperation)
    (conforms : Machines.Conforms step SettlesOrder {} operations)
    (earlier : reached <+: operations) : (Machines.after step {} reached).Lawful := by
  have initial : ({} : OrderDesk).Kept := ⟨fun _ member => absurd member (by simp),
    fun _ member => absurd member (by simp)⟩
  exact (Machines.reached_keeps step_keeps initial conforms earlier).2

/-- A market at which orders and closes are answered with the deal. -/
def answeredEnvironment : OrderEnvironment where
  marketInfo := .ok { status := "TRADEABLE" }
  placeReply := fun _ =>
    { accepted := true
      answer := .ok (.dict
        { dealReference := some "REF-1", dealId := some "DEAL-1"
          entryPrice := some (.number (11 / 10)) }) }
  closeReply := .ok (.dict { dealReference := some "REF-2" })

/-- A long position that was opened at 1.1000 with a spread of one point. -/
def longPosition : Except Failure PositionReplyBody :=
  .ok (.dict
    { direction := some "BUY", size := some (.number 2)
      entryPrice := some (.number (11 / 10)), spread := some (.number (1 / 10000)) })

/-- A position is opened, half of it is closed and then the rest. -/
def answeredRun : List OrderOperation :=
  [ .place answeredEnvironment "ORD-1" 0 (.market "CS.D.EURUSD.CFD.IP" "BUY" 2 none none),
    .partialTakeProfit { position := longPosition, orders := answeredEnvironment } "ORD-2" 60
      "DEAL-1" (1 / 2),
    .closeOrder answeredEnvironment "ORD-3" 120 "DEAL-1" "SELL" 1 ]

/-- Its orders keep to their lifecycles: the opening order ends partially closed and the other two
closed. -/
theorem answered_orders_keep_lifecycle :
    (Machines.after step {} answeredRun).Lawful ∧
      (Machines.after step {} answeredRun).records.map (·.statuses) =
        [[.closed, .submitted, .pending], [.closed, .submitted, .pending],
          [.partiallyClosed, .filled, .submitted, .pending]] := by
  have booked : ¬ ∃ cause, bookingFailure (answeredEnvironment.placeReply 0).answer = some cause ∧
      alertDelivered answeredEnvironment (.failed "CS.D.EURUSD.CFD.IP" cause) = true := by
    rintro ⟨cause, failed, _⟩
    cases failed
  have closed : ¬ OrderProgress.ReopensClose answeredEnvironment := by
    rintro ⟨cause, status, failed, _⟩
    cases failed
  have conforms : Machines.Conforms step SettlesOrder {} answeredRun :=
    ⟨⟨by decide +kernel, fun givesUp => booked givesUp.2.1⟩,
      fun _ => ⟨by decide +kernel, closed⟩, ⟨by decide +kernel, closed⟩, trivial⟩
  exact ⟨orders_keep_lifecycle answeredRun answeredRun conforms (List.prefix_refl _),
    by decide +kernel⟩

/-- A market at which an order is accepted with a null price and its retry fails. -/
def unreadablePrice : OrderEnvironment where
  marketInfo := .ok { status := "TRADEABLE" }
  placeReply
    | 0 => nullPriceReply
    | _ => { accepted := false, answer := .error (.other "Timeout") }
  closeReply := .error (.other "Timeout")

/-- An accepted order is filled and then failed when its price cannot be read, and a close whose
request fails is filled when the order that is placed in its stead is answered. -/
theorem orders_leave_lifecycle :
    ¬ ∀ operations : List OrderOperation, (Machines.after step {} operations).Lawful := by
  intro lawful
  have kept := lawful
    [ .place unreadablePrice "ORD-1" 0 (.market "CS.D.EURUSD.CFD.IP" "BUY" 1 none none),
      .closeOrder { answeredEnvironment with closeReply := .error (.other "Timeout") } "ORD-2" 60
        "DEAL-1" "SELL" 1 ]
  revert kept
  decide +kernel

end OrderDesk

end IgTradingBot
