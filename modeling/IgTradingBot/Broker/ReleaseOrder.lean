import IgTradingBot.Broker.OrderConservation

/-!
# The order of releases

An order that is handed in takes a token that was refilled even while others wait, and in a pass
over the queue a token may be refilled behind an order that found none. Where neither happens to
an order that is still within the threshold, orders are released as they were handed in.
-/

namespace IgTradingBot

open Rulings

namespace HFTRateLimiter

/-- The answers of the bucket to a number of attempts in a pass. -/
def attempts : TokenBucket → ℚ → List ℚ → ℕ → List Bool
  | _, _, _, 0 => []
  | bucket, clock, delays, orders + 1 =>
    let consumed := bucket.consume (clock + delays.headD 0)
    consumed.2 :: attempts consumed.1 (clock + delays.headD 0) delays.tail orders

/-- Orders that have not waited too long at a reading of the clock. -/
def patient (threshold measuredAt : ℚ) (queue : List QueuedOrder) : ℕ :=
  queue.countP fun order => (measuredAt - order.enqueueTime) * 1000 ≤ threshold

/-- An order has waited too long. -/
def Stale (threshold clock : ℚ) (order : QueuedOrder) : Prop :=
  threshold < (clock - order.enqueueTime) * 1000

instance (threshold clock : ℚ) (order : QueuedOrder) : Decidable (Stale threshold clock order) :=
  inferInstanceAs (Decidable (_ < _))

/-- An order that has waited too long has also done so later. -/
theorem Stale.later {threshold clock later : ℚ} {order : QueuedOrder}
    (stale : Stale threshold clock order) (forward : clock ≤ later) :
    Stale threshold later order := by
  refine lt_of_lt_of_le stale ?_
  linarith

section Passes

variable {measuredAt clock : ℚ} {delays : List ℚ} {limiter : HFTRateLimiter}

/-- An order of a pass that has waited too long is cancelled without an attempt; any other makes
the next attempt and gets a ruling when it finds a token. -/
theorem rulings_cases (measuredAt clock : ℚ) (delays : List ℚ) (limiter : HFTRateLimiter)
    (order : QueuedOrder) (rest : List QueuedOrder) :
    (∃ result next, result.status = .cancelled ∧
      rulings measuredAt limiter clock delays (order :: rest) =
        some result :: rulings measuredAt next clock delays rest ∧
      attempts limiter.tokenBucket clock delays
          (patient limiter.latencyThresholdMs measuredAt (order :: rest)) =
        attempts next.tokenBucket clock delays
          (patient next.latencyThresholdMs measuredAt rest)) ∨
    ∃ ruling next,
      rulings measuredAt limiter clock delays (order :: rest) =
        ruling :: rulings measuredAt next (clock + delays.headD 0) delays.tail rest ∧
      attempts limiter.tokenBucket clock delays
          (patient limiter.latencyThresholdMs measuredAt (order :: rest)) =
        ruling.isSome :: attempts next.tokenBucket (clock + delays.headD 0) delays.tail
          (patient next.latencyThresholdMs measuredAt rest) := by
  by_cases stale : limiter.latencyThresholdMs < (measuredAt - order.enqueueTime) * 1000
  · have fewer : patient limiter.latencyThresholdMs measuredAt (order :: rest) =
        patient limiter.latencyThresholdMs measuredAt rest :=
      List.countP_cons_of_neg (by simpa using stale)
    left
    rw [fewer]
    simp only [rulings, processOne, if_pos stale]
    exact ⟨_, _, rfl, rfl, rfl⟩
  · have more : patient limiter.latencyThresholdMs measuredAt (order :: rest) =
        patient limiter.latencyThresholdMs measuredAt rest + 1 :=
      List.countP_cons_of_pos (by simpa using not_lt.mp stale)
    right
    rw [more, attempts]
    by_cases found : (limiter.tokenBucket.consume (clock + delays.headD 0)).2 = true
    · simp only [rulings, processOne, if_neg stale, found, if_true]
      exact ⟨_, _, rfl, rfl⟩
    · simp only [rulings, processOne, if_neg stale, found, Bool.false_eq_true, if_false]
      exact ⟨_, _, rfl, rfl⟩

/-- A pass in which no attempt finds a token submits nothing. The induction is on the queue. -/
theorem rulings_without_token (queue : List QueuedOrder)
    (barren : ∀ found ∈ attempts limiter.tokenBucket clock delays
      (patient limiter.latencyThresholdMs measuredAt queue), found = false) :
    ∀ ruling ∈ rulings measuredAt limiter clock delays queue, ∀ result, ruling = some result →
      result.status ≠ .submitted := by
  induction queue generalizing limiter clock delays with
  | nil => exact fun _ member => absurd member List.not_mem_nil
  | cons order rest inductionHypothesis =>
    obtain ⟨cancelled, next, status, ruled, tried⟩ | ⟨first, next, ruled, tried⟩ :=
      rulings_cases measuredAt clock delays limiter order rest
    · rw [tried] at barren
      rw [ruled, List.forall_mem_cons]
      refine ⟨?_, inductionHypothesis barren⟩
      intro result same
      obtain rfl := Option.some.inj same
      simp [status]
    · rw [tried] at barren
      obtain ⟨missed, later⟩ := List.forall_mem_cons.mp barren
      rw [ruled, List.forall_mem_cons]
      refine ⟨?_, inductionHypothesis later⟩
      intro result given
      simp [given] at missed

/-- When no attempt of a pass succeeds after one that failed, nothing is submitted behind an order
that is kept. The induction is on the queue. -/
theorem rulings_in_turn (queue : List QueuedOrder)
    (inTurn : (attempts limiter.tokenBucket clock delays
      (patient limiter.latencyThresholdMs measuredAt queue)).Pairwise
        fun earlier later => later = true → earlier = true) :
    (rulings measuredAt limiter clock delays queue).Pairwise fun earlier later =>
      earlier = none → ∀ result, later = some result → ¬ result.status = .submitted := by
  induction queue generalizing limiter clock delays with
  | nil => exact List.Pairwise.nil
  | cons order rest inductionHypothesis =>
    obtain ⟨cancelled, next, _, ruled, tried⟩ | ⟨first, next, ruled, tried⟩ :=
      rulings_cases measuredAt clock delays limiter order rest
    · rw [tried] at inTurn
      rw [ruled]
      refine List.Pairwise.cons ?_ (inductionHypothesis inTurn)
      intro ruling _ impossible
      cases impossible
    · rw [tried] at inTurn
      obtain ⟨found, later⟩ := List.pairwise_cons.mp inTurn
      rw [ruled]
      refine List.Pairwise.cons ?_ (inductionHypothesis later)
      intro ruling member missed result same
      -- the first order finds no token, so no later one does
      have barren : ∀ attempt ∈ attempts next.tokenBucket (clock + delays.headD 0) delays.tail
          (patient next.latencyThresholdMs measuredAt rest), attempt = false := by
        intro attempt isAttempt
        refine Bool.eq_false_iff.mpr fun succeeded => ?_
        have given := found attempt isAttempt succeeded
        rw [missed] at given
        cases given
      exact rulings_without_token rest barren ruling member result same

end Passes

end HFTRateLimiter

namespace OrderLedger

open HFTRateLimiter

/-- No order takes a token past one that still waits and has not waited too long: neither as it
is handed in, nor behind an order of the same pass that found none. -/
def InTurn (ledger : OrderLedger) : LimiterMove → Prop
  | .orderSubmitted now _ =>
    (ledger.run.limiter.tokenBucket.consume now).2 = true →
      ∀ waiting ∈ ledger.run.limiter.queue,
        Stale ledger.run.limiter.latencyThresholdMs now waiting
  | .queueProcessed now delays =>
    (attempts ledger.run.limiter.tokenBucket now delays
      (patient ledger.run.limiter.latencyThresholdMs now ledger.run.limiter.queue)).Pairwise
        fun earlier later => later = true → earlier = true
  | .queueSwept _ => True

instance (ledger : OrderLedger) (move : LimiterMove) : Decidable (ledger.InTurn move) :=
  match move with
  | .orderSubmitted _ _ => inferInstanceAs (Decidable (_ → ∀ _ ∈ _, _))
  | .queueProcessed _ _ => inferInstanceAs (Decidable (List.Pairwise _ _))
  | .queueSwept _ => inferInstanceAs (Decidable True)

/-- The clock does not run backwards. -/
def Forward (ledger : OrderLedger) (move : LimiterMove) : Prop := ledger.run.Forward move

instance (ledger : OrderLedger) (move : LimiterMove) : Decidable (ledger.Forward move) :=
  inferInstanceAs (Decidable (ledger.run.Forward move))

/-- Places of the submitted orders, in the order of their release. -/
def released (ledger : OrderLedger) : List ℕ :=
  (ledger.finals.filter (·.result.status = .submitted)).map FinalAnswer.place

/-- Places of the orders that a call submits. -/
def releasedBy (ledger : OrderLedger) (move : LimiterMove) : List ℕ :=
  ((ledger.settled move).filter (·.result.status = .submitted)).map FinalAnswer.place

/-- The queue is in the order in which its orders were handed in, and an order of the queue was
handed in after the released ones, unless it has waited too long. -/
structure Orderly (threshold : ℚ) (ledger : OrderLedger) : Prop where
  released : ledger.released.Pairwise (· < ·)
  ahead : ∀ entry ∈ ledger.waiting,
    Stale threshold ledger.run.clock entry.2 ∨ ∀ place ∈ ledger.released, place < entry.1

section Steps

variable {threshold : ℚ} {ledger : OrderLedger}

/-- The orders that a call submits are released after the earlier ones. -/
theorem released_step (ledger : OrderLedger) (move : LimiterMove) :
    (ledger.step move).released = ledger.released ++ ledger.releasedBy move := by
  change ((ledger.finals ++ ledger.settled move).filter _).map _ = _
  rw [List.filter_append, List.map_append]
  rfl

/-- Every place of a run is below the number of orders that were handed in. -/
theorem Conserved.place_lt (conserved : Conserved threshold ledger) {place : ℕ}
    (member : place ∈ ledger.finals.map FinalAnswer.place ++ ledger.waiting.map Prod.fst) :
    place < ledger.handedIn.length :=
  List.mem_range.mp (conserved.once.subset member)

/-- Released places are places of final answers. -/
theorem released_subset (ledger : OrderLedger) :
    ledger.released ⊆ ledger.finals.map FinalAnswer.place :=
  List.map_subset _ (List.filter_subset_self _)

/-- The queue is in the order in which its orders were handed in. -/
def QueueInOrder (ledger : OrderLedger) : Prop :=
  (ledger.waiting.map Prod.fst).Pairwise (· < ·)

/-- A new order gets a place behind all others. -/
theorem Conserved.places_in_order (conserved : Conserved threshold ledger)
    (inOrder : ledger.QueueInOrder) (move : LimiterMove) :
    ((ledger.places move).map Prod.fst).Pairwise (· < ·) := by
  have places : (ledger.places move).map Prod.fst =
      ledger.waiting.map Prod.fst ++ move.handedIn.map fun _ => ledger.handedIn.length := by
    rw [OrderLedger.places, List.map_append, List.map_map]
    rfl
  have single : (move.handedIn.map fun _ => ledger.handedIn.length).Pairwise (· < ·) := by
    cases move with
    | orderSubmitted now order => exact List.pairwise_singleton _ _
    | queueProcessed now delays => exact List.Pairwise.nil
    | queueSwept now => exact List.Pairwise.nil
  rw [places]
  refine List.pairwise_append.mpr ⟨inOrder, single, ?_⟩
  intro place waits new isNew
  obtain ⟨_, _, rfl⟩ := List.mem_map.mp isNew
  exact conserved.place_lt (List.mem_append_right _ waits)

/-- Every call keeps the queue in order. -/
theorem QueueInOrder.step (inOrder : ledger.QueueInOrder)
    (conserved : Conserved threshold ledger) (move : LimiterMove) :
    (ledger.step move).QueueInOrder :=
  (conserved.places_in_order inOrder move).sublist ((kept_sublist _ _).map Prod.fst)

/-- Every call submits its orders as they were handed in. -/
theorem Conserved.released_by_in_order (conserved : Conserved threshold ledger)
    (inOrder : ledger.QueueInOrder) (move : LimiterMove) :
    (ledger.releasedBy move).Pairwise (· < ·) := by
  have places : (ledger.settled move).map FinalAnswer.place =
      ((given (ledger.places move) (move.verdicts ledger.run.limiter)).map Prod.fst).map
        Prod.fst := by
    rw [settled, List.map_map, List.map_map]
    rfl
  have listed : (ledger.releasedBy move).Sublist ((ledger.places move).map Prod.fst) := by
    refine (List.filter_sublist.map FinalAnswer.place).trans ?_
    rw [places]
    exact (given_sublist _ _).map Prod.fst
  exact (conserved.places_in_order inOrder move).sublist listed

/-- A verdict on an order that is handed in leaves the waiting orders as they are. -/
theorem Conserved.submission_verdict (conserved : Conserved threshold ledger) {now : ℚ}
    {order : QueuedOrder} {verdict : Option SubmissionResult}
    (answer : LimiterMove.verdicts ledger.run.limiter (.orderSubmitted now order) =
      (ledger.run.limiter.queue.map fun _ => none) ++ [verdict]) :
    (ledger.step (.orderSubmitted now order)).waiting =
        ledger.waiting ++ kept [(ledger.handedIn.length, order)] [verdict] ∧
      given (ledger.places (.orderSubmitted now order))
          (LimiterMove.verdicts ledger.run.limiter (.orderSubmitted now order)) =
        given [(ledger.handedIn.length, order)] [verdict] := by
  have waits : ledger.waiting.length =
      (ledger.waiting.map fun _ => (none : Option SubmissionResult)).length :=
    (List.length_map _).symm
  rw [conserved.queue, List.map_map] at answer
  constructor
  · change kept (ledger.waiting ++ _) _ = _
    rw [answer]
    exact (kept_append waits _ _).trans (congrArg (· ++ _) (kept_all _))
  · rw [answer]
    exact (given_append waits _ _).trans (congrArg (· ++ _) (given_none _))

/-- An order that finds a token leaves the queue as it is. -/
theorem Conserved.submission_with_token (conserved : Conserved threshold ledger) {now : ℚ}
    (order : QueuedOrder) (found : (ledger.run.limiter.tokenBucket.consume now).2 = true) :
    (ledger.step (.orderSubmitted now order)).waiting = ledger.waiting ∧
      ledger.releasedBy (.orderSubmitted now order) = [ledger.handedIn.length] := by
  obtain ⟨stays, taken⟩ := conserved.submission_verdict
    (LimiterMove.verdicts_with_token ledger.run.limiter order found)
  have status : (ledger.run.limiter.submitOrder now order).2.status = .submitted := by
    simp [submitOrder, found, HFTRateLimiter.submitted]
  refine ⟨stays.trans (List.append_nil _), ?_⟩
  rw [releasedBy, settled, taken]
  simp [given, status]

/-- An order that finds none waits behind the others. -/
theorem Conserved.submission_without_token (conserved : Conserved threshold ledger) {now : ℚ}
    (order : QueuedOrder) (missed : ¬ (ledger.run.limiter.tokenBucket.consume now).2 = true) :
    (ledger.step (.orderSubmitted now order)).waiting =
        ledger.waiting ++ [(ledger.handedIn.length, order)] ∧
      ledger.releasedBy (.orderSubmitted now order) = [] := by
  obtain ⟨stays, taken⟩ := conserved.submission_verdict
    (LimiterMove.verdicts_without_token ledger.run.limiter order missed)
  refine ⟨stays, ?_⟩
  rw [releasedBy, settled, taken]
  rfl

/-- A sweep submits nothing. -/
theorem Conserved.sweep_releases_nothing (conserved : Conserved threshold ledger) (now : ℚ) :
    ledger.releasedBy (.queueSwept now) = [] := by
  have none : (ledger.settled (.queueSwept now)).filter (·.result.status = .submitted) = [] := by
    apply List.filter_eq_nil_iff.mpr
    intro final member
    obtain ⟨entry, _, rfl⟩ := List.mem_map.mp member
    have cancelled : entry.2.status = .cancelled := (conserved.settled_settles _ member).2
    simp [cancelled]
  rw [releasedBy, none, List.map_nil]

/-- A pass submits only orders that have not waited too long. -/
theorem Conserved.pass_releases_patient (conserved : Conserved threshold ledger) {now : ℚ}
    {delays : List ℚ} {place : ℕ}
    (member : place ∈ ledger.releasedBy (.queueProcessed now delays)) :
    ∃ order result, ((place, order), result) ∈ given ledger.waiting
        (rulings now ledger.run.limiter now delays ledger.run.limiter.queue) ∧
      result.status = .submitted ∧ ¬ Stale threshold now order := by
  obtain ⟨final, isReleased, rfl⟩ := List.mem_map.mp member
  obtain ⟨taken, isSubmitted⟩ := List.mem_filter.mp isReleased
  have settles := conserved.settled_settles _ taken
  obtain ⟨⟨⟨place, order⟩, result⟩, isGiven, rfl⟩ := List.mem_map.mp taken
  have status : result.status = .submitted := of_decide_eq_true isSubmitted
  obtain ⟨_, measured, ⟨_, within⟩ | ⟨cancelled, _⟩⟩ := settles
  · refine ⟨order, result, ?_, status, ?_⟩
    · simpa [places, LimiterMove.handedIn, LimiterMove.verdicts] using isGiven
    · exact not_lt.mpr (measured ▸ within)
  · exact absurd (status.symm.trans cancelled) (by decide)

/-- Released orders were handed in. -/
theorem Conserved.released_place_lt (conserved : Conserved threshold ledger) :
    ∀ place ∈ ledger.released, place < ledger.handedIn.length :=
  fun _ member => conserved.place_lt (List.mem_append_left _ (ledger.released_subset member))

/-- A call that leaves the queue or shortens it, and releases nothing, keeps the releases in
order. -/
theorem Orderly.without_release (orderly : Orderly threshold ledger) {move : LimiterMove}
    (later : ledger.run.clock ≤ (ledger.step move).run.clock)
    (releases : ledger.releasedBy move = [])
    (stays : ∀ entry ∈ (ledger.step move).waiting,
      entry ∈ ledger.waiting ∨ ∀ place ∈ ledger.released, place < entry.1) :
    Orderly threshold (ledger.step move) := by
  have same : (ledger.step move).released = ledger.released := by
    rw [released_step, releases, List.append_nil]
  constructor
  · rw [same]
    exact orderly.released
  · intro entry waits
    rw [same]
    obtain old | ahead := stays entry waits
    · exact (orderly.ahead entry old).imp_left fun stale => stale.later later
    · exact .inr ahead

/-- A submission that takes no token past a waiting order keeps the releases in order. -/
theorem Orderly.submission (orderly : Orderly threshold ledger)
    (conserved : Conserved threshold ledger) {now : ℚ} {order : QueuedOrder}
    (later : ledger.run.clock ≤ now) (inTurn : ledger.InTurn (.orderSubmitted now order)) :
    Orderly threshold (ledger.step (.orderSubmitted now order)) := by
  by_cases found : (ledger.run.limiter.tokenBucket.consume now).2 = true
  · obtain ⟨unchanged, releases⟩ := conserved.submission_with_token order found
    constructor
    · rw [released_step, releases]
      refine List.pairwise_append.mpr ⟨orderly.released, List.pairwise_singleton _ _, ?_⟩
      intro place earlier new isNew
      obtain rfl := List.mem_singleton.mp isNew
      exact conserved.released_place_lt place earlier
    · -- every order that is passed has waited too long
      intro entry waits
      rw [unchanged] at waits
      left
      have queued : entry.2 ∈ ledger.run.limiter.queue := by
        rw [conserved.queue]
        exact List.mem_map_of_mem waits
      exact conserved.latency ▸ inTurn found entry.2 queued
  · obtain ⟨extended, releases⟩ := conserved.submission_without_token order found
    refine orderly.without_release later releases fun entry waits => ?_
    rw [extended] at waits
    refine (List.mem_append.mp waits).imp_right fun new => ?_
    obtain rfl := List.mem_singleton.mp new
    exact conserved.released_place_lt

/-- A pass that takes its tokens in turn keeps the releases in order. -/
theorem Orderly.pass (orderly : Orderly threshold ledger) (conserved : Conserved threshold ledger)
    (inOrder : ledger.QueueInOrder) {now : ℚ} {delays : List ℚ} (later : ledger.run.clock ≤ now)
    (nonneg : ∀ delay ∈ delays, 0 ≤ delay) (inTurn : ledger.InTurn (.queueProcessed now delays)) :
    Orderly threshold (ledger.step (.queueProcessed now delays)) := by
  have finished : now ≤ now + delays.sum := le_add_of_nonneg_right (List.sum_nonneg nonneg)
  constructor
  · rw [released_step]
    refine List.pairwise_append.mpr
      ⟨orderly.released, conserved.released_by_in_order inOrder _, ?_⟩
    intro place earlier new isNew
    obtain ⟨order, result, isGiven, _, patient⟩ := conserved.pass_releases_patient isNew
    have waits : (new, order) ∈ ledger.waiting :=
      (given_sublist _ _).subset (List.mem_map_of_mem isGiven)
    obtain stale | ahead := orderly.ahead _ waits
    · exact absurd (stale.later later) patient
    · exact ahead place earlier
  · intro entry stays
    have isKept : entry ∈ kept ledger.waiting
        (rulings now ledger.run.limiter now delays ledger.run.limiter.queue) := by
      simpa [OrderLedger.step, places, LimiterMove.handedIn, LimiterMove.verdicts] using stays
    refine (orderly.ahead entry ((kept_sublist _ _).subset isKept)).imp
      (fun stale => stale.later (later.trans finished)) ?_
    intro ahead place member
    rw [released_step] at member
    obtain earlier | new := List.mem_append.mp member
    · exact ahead place earlier
    · obtain ⟨order, result, isGiven, submitted, _⟩ := conserved.pass_releases_patient new
      have sameLength := conserved.same_length (.queueProcessed now delays)
      exact given_before_kept (List.pairwise_map.mp inOrder)
        (rulings_in_turn ledger.run.limiter.queue inTurn) isKept isGiven submitted
        (by simpa [places, LimiterMove.handedIn, LimiterMove.verdicts] using sameLength)

/-- A move that takes no token past a waiting order keeps the releases in order. -/
theorem Orderly.step (orderly : Orderly threshold ledger) (conserved : Conserved threshold ledger)
    (inOrder : ledger.QueueInOrder) {move : LimiterMove} (forward : ledger.Forward move)
    (inTurn : ledger.InTurn move) : Orderly threshold (ledger.step move) := by
  cases move with
  | orderSubmitted now order => exact orderly.submission conserved forward inTurn
  | queueProcessed now delays => exact orderly.pass conserved inOrder forward.1 forward.2 inTurn
  | queueSwept now =>
    refine orderly.without_release forward (conserved.sweep_releases_nothing now) ?_
    intro entry stays
    have isPlace := (kept_sublist _ _).subset stays
    left
    simpa [places, LimiterMove.handedIn] using isPlace

end Steps

/-- In every run whose clock does not run backwards the queue is in the order in which its orders
were handed in. Where no order takes a token past one that still waits and has not waited too
long, the orders are released in the order in which they were handed in. -/
theorem orders_are_released_in_turn (clock : ℚ) (maxOrdersPerSecond : ℤ)
    (latencyThresholdMs : ℚ) (moves : List LimiterMove)
    (forward : Machines.Conforms step Forward
      (opened clock maxOrdersPerSecond latencyThresholdMs) moves) :
    (ledgerAfter clock maxOrdersPerSecond latencyThresholdMs moves).QueueInOrder ∧
      (Machines.Conforms step InTurn (opened clock maxOrdersPerSecond latencyThresholdMs) moves →
        (ledgerAfter clock maxOrdersPerSecond latencyThresholdMs moves).released.Pairwise
          (· < ·)) := by
  have always : ∀ ledger move, (Conserved latencyThresholdMs ledger ∧ ledger.QueueInOrder) →
      Conserved latencyThresholdMs (ledger.step move) ∧ (ledger.step move).QueueInOrder :=
    fun _ move kept => ⟨kept.1.step move, kept.2.step kept.1 move⟩
  have start : Conserved latencyThresholdMs (opened clock maxOrdersPerSecond latencyThresholdMs) ∧
      (opened clock maxOrdersPerSecond latencyThresholdMs).QueueInOrder :=
    ⟨conserved_opened clock maxOrdersPerSecond latencyThresholdMs, List.Pairwise.nil⟩
  refine ⟨(Machines.after_keeps_always always moves start).2, ?_⟩
  intro inTurn
  have kept : ∀ ledger move, ((Conserved latencyThresholdMs ledger ∧ ledger.QueueInOrder) ∧
        Orderly latencyThresholdMs ledger) → ledger.Forward move ∧ ledger.InTurn move →
      (Conserved latencyThresholdMs (ledger.step move) ∧ (ledger.step move).QueueInOrder) ∧
        Orderly latencyThresholdMs (ledger.step move) :=
    fun ledger move kept good => ⟨always ledger move kept.1,
      kept.2.step kept.1.1 kept.1.2 good.1 good.2⟩
  have orderly : Orderly latencyThresholdMs (opened clock maxOrdersPerSecond latencyThresholdMs) :=
    ⟨List.Pairwise.nil, fun _ member => absurd member List.not_mem_nil⟩
  exact (Machines.after_keeps kept ⟨start, orderly⟩
    (Machines.conforms_and.mpr ⟨forward, inTurn⟩)).2.released

/-- An order of some size with an identifier, at a reading of the clock. -/
def numberedOrder (orderId : String) (enqueueTime : ℚ) : QueuedOrder where
  orderId := orderId
  instrument := "EURUSD"
  direction := "BUY"
  size := 1
  enqueueTime := enqueueTime

/-- One order a second: the second order waits and is released by a pass, the third is handed
in afterwards. -/
theorem waiting_order_goes_first :
    (ledgerAfter 0 1 5000 [.orderSubmitted 0 (numberedOrder "HFT-1" 0),
        .orderSubmitted 0 (numberedOrder "HFT-2" 0), .queueProcessed 1 [0],
        .orderSubmitted 2 (numberedOrder "HFT-3" 2)]).QueueInOrder ∧
      (ledgerAfter 0 1 5000 [.orderSubmitted 0 (numberedOrder "HFT-1" 0),
        .orderSubmitted 0 (numberedOrder "HFT-2" 0), .queueProcessed 1 [0],
        .orderSubmitted 2 (numberedOrder "HFT-3" 2)]).released.Pairwise (· < ·) :=
  have turns := orders_are_released_in_turn 0 1 5000
    [.orderSubmitted 0 (numberedOrder "HFT-1" 0), .orderSubmitted 0 (numberedOrder "HFT-2" 0),
      .queueProcessed 1 [0], .orderSubmitted 2 (numberedOrder "HFT-3" 2)] (by decide +kernel)
  ⟨turns.1, turns.2 (by decide +kernel)⟩

/-- With four orders a second, a fifth waits, and the sixth takes the token that is refilled a
quarter of a second later. The pass after another quarter releases the fifth. -/
theorem refilled_token_passes_the_queue :
    ¬ ∀ (clock : ℚ) (maxOrdersPerSecond : ℤ) (latencyThresholdMs : ℚ) (moves : List LimiterMove),
      Machines.Conforms step Forward (opened clock maxOrdersPerSecond latencyThresholdMs) moves →
        (ledgerAfter clock maxOrdersPerSecond latencyThresholdMs moves).released.Pairwise
          (· < ·) := by
  intro always
  have inOrder := always 0 4 500
    [.orderSubmitted 0 (numberedOrder "HFT-1" 0), .orderSubmitted 0 (numberedOrder "HFT-2" 0),
      .orderSubmitted 0 (numberedOrder "HFT-3" 0), .orderSubmitted 0 (numberedOrder "HFT-4" 0),
      .orderSubmitted 0 (numberedOrder "HFT-5" 0),
      .orderSubmitted (1 / 4) (numberedOrder "HFT-6" (1 / 4)), .queueProcessed (1 / 2) [0]]
    (by decide +kernel)
  revert inOrder
  decide +kernel

end OrderLedger

end IgTradingBot
