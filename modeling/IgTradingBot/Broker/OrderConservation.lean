import IgTradingBot.Broker.SubmissionRates
import IgTradingBot.Library.Rulings

/-!
# Conservation of orders

Runs of the high-frequency rate limiter with a ledger: the orders that were handed in, the
places of those that wait, and the final answers. Every order is known by the place at which it
was handed in. A pass over the queue is a list of rulings, one for each order, so an order
either gets its one answer in the pass or stays in the queue.
-/

namespace IgTradingBot

open Rulings

/-- Final answers submit or cancel an order. -/
def SubmissionStatus.isFinal : SubmissionStatus → Bool
  | .submitted | .cancelled => true
  | .queued => false

namespace HFTRateLimiter

/-- The limiter, the clock and the delays behind an order of a pass, and the answer about the
order if it is final. -/
structure Ruled where
  limiter : HFTRateLimiter
  clock : ℚ
  delays : List ℚ
  ruling : Option SubmissionResult

/-- What a pass over the queue does with one order. -/
def processOne (measuredAt : ℚ) (limiter : HFTRateLimiter) (clock : ℚ) (delays : List ℚ)
    (order : QueuedOrder) : Ruled :=
  let queueTimeMs := (measuredAt - order.enqueueTime) * 1000
  if limiter.latencyThresholdMs < queueTimeMs then
    let cancelled := limiter.cancelOrderLatency order queueTimeMs
    ⟨cancelled.1, clock, delays, some cancelled.2⟩
  else
    let now := clock + delays.headD 0
    let consumed := limiter.tokenBucket.consume now
    let limiter := { limiter with tokenBucket := consumed.1 }
    if consumed.2 then
      let booked := limiter.submitted now order queueTimeMs
      ⟨booked.1, now, delays.tail, some booked.2⟩
    else ⟨limiter, now, delays.tail, none⟩

/-- The rulings of a pass. -/
def rulings (measuredAt : ℚ) :
    HFTRateLimiter → ℚ → List ℚ → List QueuedOrder → List (Option SubmissionResult)
  | _, _, _, [] => []
  | limiter, clock, delays, order :: rest =>
    let ruled := processOne measuredAt limiter clock delays order
    ruled.ruling :: rulings measuredAt ruled.limiter ruled.clock ruled.delays rest

/-- What a sweep does with one order. -/
def sweepRuling (now latencyThresholdMs : ℚ) (order : QueuedOrder) : Option SubmissionResult :=
  let queueTimeMs := (now - order.enqueueTime) * 1000
  if latencyThresholdMs < queueTimeMs then
    some
      { status := .cancelled
        orderId := order.orderId
        instrument := order.instrument
        direction := order.direction
        queueTimeMs := queueTimeMs
        reason := some "latency_rejection" }
  else none

/-- The answer is about the order. -/
def Names (order : QueuedOrder) (result : SubmissionResult) : Prop :=
  result.orderId = order.orderId ∧ result.instrument = order.instrument ∧
    result.direction = order.direction

/-- An order that is ruled on in a pass or sweep has its waiting time in the answer. It is
cancelled when that exceeds the threshold and submitted otherwise. -/
def Judged (threshold measuredAt : ℚ) (order : QueuedOrder) (result : SubmissionResult) : Prop :=
  Names order result ∧ result.queueTimeMs = (measuredAt - order.enqueueTime) * 1000 ∧
    (result.status = .submitted ∧ result.queueTimeMs ≤ threshold ∨
      result.status = .cancelled ∧ threshold < result.queueTimeMs)

/-- Answers with a status. -/
def countOf (status : SubmissionStatus) (results : List SubmissionResult) : ℕ :=
  results.countP fun result => result.status = status

/-- The counters of a limiter have counted the answers that were given since. -/
structure Counted (before after : HFTRateLimiter) (results : List SubmissionResult) : Prop where
  threshold : after.latencyThresholdMs = before.latencyThresholdMs
  submitted : after.ordersSubmitted = before.ordersSubmitted + countOf .submitted results
  cancelled :
    after.ordersCancelledLatency = before.ordersCancelledLatency + countOf .cancelled results

/-- Counted answers one after the other. -/
theorem Counted.append {before between after : HFTRateLimiter}
    {first second : List SubmissionResult} (counted : Counted before between first)
    (then_counted : Counted between after second) : Counted before after (first ++ second) where
  threshold := then_counted.threshold.trans counted.threshold
  submitted := by
    rw [then_counted.submitted, counted.submitted, countOf, countOf, countOf, List.countP_append]
    omega
  cancelled := by
    rw [then_counted.cancelled, counted.cancelled, countOf, countOf, countOf, List.countP_append]
    omega

section Passes

variable {measuredAt clock now : ℚ} {delays : List ℚ} {limiter : HFTRateLimiter}
  {order : QueuedOrder} {queue rest : List QueuedOrder}

/-- The loop does with the first order what is done with one order, and goes on with the
rest. -/
theorem process_orders_cons :
    processOrders measuredAt limiter clock delays (order :: rest) =
      let ruled := processOne measuredAt limiter clock delays order
      let processed := processOrders measuredAt ruled.limiter ruled.clock ruled.delays rest
      (processed.1, kept [order] [ruled.ruling] ++ processed.2.1,
        ruled.ruling.toList ++ processed.2.2) := by
  simp only [processOrders, processOne]
  split_ifs with stale consumed <;> rfl

/-- An order is counted as it is answered. -/
theorem process_one_counted (measuredAt : ℚ) (limiter : HFTRateLimiter) (clock : ℚ)
    (delays : List ℚ) (order : QueuedOrder) :
    Counted limiter (processOne measuredAt limiter clock delays order).limiter
      (processOne measuredAt limiter clock delays order).ruling.toList := by
  simp only [processOne]
  split_ifs with stale consumed
  · exact ⟨rfl, rfl, rfl⟩
  · exact ⟨rfl, rfl, rfl⟩
  · exact ⟨rfl, rfl, rfl⟩

/-- An order that is answered is judged by its waiting time. -/
theorem process_one_judged {result : SubmissionResult}
    (answered : (processOne measuredAt limiter clock delays order).ruling = some result) :
    Judged limiter.latencyThresholdMs measuredAt order result := by
  simp only [processOne] at answered
  split_ifs at answered with stale consumed
  · obtain rfl := Option.some.inj answered
    exact ⟨⟨rfl, rfl, rfl⟩, rfl, .inr ⟨rfl, stale⟩⟩
  · obtain rfl := Option.some.inj answered
    exact ⟨⟨rfl, rfl, rfl⟩, rfl, .inl ⟨rfl, not_lt.mp stale⟩⟩

/-- A pass keeps the orders without a ruling and answers with the rulings. -/
theorem process_orders_rulings (measuredAt : ℚ) (limiter : HFTRateLimiter) (clock : ℚ)
    (delays : List ℚ) (queue : List QueuedOrder) :
    (processOrders measuredAt limiter clock delays queue).2 =
      (kept queue (rulings measuredAt limiter clock delays queue),
        (rulings measuredAt limiter clock delays queue).reduceOption) := by
  induction queue generalizing limiter clock delays with
  | nil => rfl
  | cons order rest inductionHypothesis =>
    rw [process_orders_cons]
    dsimp only
    rw [inductionHypothesis, rulings]
    cases (processOne measuredAt limiter clock delays order).ruling <;> rfl

/-- A pass counts its answers. -/
theorem process_orders_counted (measuredAt : ℚ) (limiter : HFTRateLimiter) (clock : ℚ)
    (delays : List ℚ) (queue : List QueuedOrder) :
    Counted limiter (processOrders measuredAt limiter clock delays queue).1
      (processOrders measuredAt limiter clock delays queue).2.2 := by
  induction queue generalizing limiter clock delays with
  | nil => exact ⟨rfl, rfl, rfl⟩
  | cons order rest inductionHypothesis =>
    rw [process_orders_cons]
    exact (process_one_counted measuredAt limiter clock delays order).append
      (inductionHypothesis _ _ _)

/-- Every order of a pass that is answered is judged by its waiting time. -/
theorem rulings_judged (measuredAt : ℚ) (limiter : HFTRateLimiter) (clock : ℚ)
    (delays : List ℚ) (queue : List QueuedOrder) :
    List.Forall₂ (fun order ruling => ∀ result, ruling = some result →
        Judged limiter.latencyThresholdMs measuredAt order result)
      queue (rulings measuredAt limiter clock delays queue) := by
  induction queue generalizing limiter clock delays with
  | nil => exact List.Forall₂.nil
  | cons order rest inductionHypothesis =>
    have same := (process_one_counted measuredAt limiter clock delays order).threshold
    refine List.Forall₂.cons (fun result => process_one_judged) ?_
    rw [← same]
    exact inductionHypothesis _ _ _

/-- A sweep keeps the orders without a ruling and answers with the rulings. -/
theorem sweep_orders_rulings (now : ℚ) (limiter : HFTRateLimiter) (queue : List QueuedOrder) :
    (sweepOrders now limiter queue).2 =
      (kept queue (queue.map (sweepRuling now limiter.latencyThresholdMs)),
        (queue.map (sweepRuling now limiter.latencyThresholdMs)).reduceOption) := by
  induction queue generalizing limiter with
  | nil => rfl
  | cons order rest inductionHypothesis =>
    simp only [sweepOrders, List.map_cons, sweepRuling]
    split_ifs with stale
    · rw [inductionHypothesis]
      rfl
    · rw [inductionHypothesis]
      rfl

/-- A sweep counts its answers. -/
theorem sweep_orders_counted (now : ℚ) (limiter : HFTRateLimiter) (queue : List QueuedOrder) :
    Counted limiter (sweepOrders now limiter queue).1 (sweepOrders now limiter queue).2.2 := by
  induction queue generalizing limiter with
  | nil => exact ⟨rfl, rfl, rfl⟩
  | cons order rest inductionHypothesis =>
    simp only [sweepOrders]
    split_ifs with stale
    · have first : Counted limiter (limiter.cancelOrderLatency order
          ((now - order.enqueueTime) * 1000)).1 [(limiter.cancelOrderLatency order
            ((now - order.enqueueTime) * 1000)).2] := ⟨rfl, rfl, rfl⟩
      exact first.append (inductionHypothesis _)
    · exact inductionHypothesis _

/-- An order that a sweep answers is judged by its waiting time, and cancelled. -/
theorem sweep_ruling_judged {threshold : ℚ} {result : SubmissionResult}
    (answered : sweepRuling now threshold order = some result) :
    Judged threshold now order result ∧ result.status = .cancelled := by
  simp only [sweepRuling] at answered
  split_ifs at answered with stale
  obtain rfl := Option.some.inj answered
  exact ⟨⟨⟨rfl, rfl, rfl⟩, rfl, .inr ⟨rfl, stale⟩⟩, rfl⟩

end Passes

end HFTRateLimiter

namespace LimiterMove

open HFTRateLimiter

/-- The orders that a call hands in. -/
def handedIn : LimiterMove → List QueuedOrder
  | .orderSubmitted _ order => [order]
  | .queueProcessed _ _ | .queueSwept _ => []

/-- What a call returns. -/
def answers (limiter : HFTRateLimiter) : LimiterMove → List SubmissionResult
  | .orderSubmitted now order => [(limiter.submitOrder now order).2]
  | .queueProcessed now delays => (limiter.processQueue now delays).2
  | .queueSwept now => (limiter.sweepStaleOrders now).2

/-- The final answer of a call about every order of the queue and every order it hands in. -/
def verdicts (limiter : HFTRateLimiter) : LimiterMove → List (Option SubmissionResult)
  | .orderSubmitted now order =>
    limiter.queue.map (fun _ => none) ++
      [some (limiter.submitOrder now order).2 |>.filter (·.status.isFinal)]
  | .queueProcessed now delays => rulings now limiter now delays limiter.queue
  | .queueSwept now => limiter.queue.map (sweepRuling now limiter.latencyThresholdMs)

/-- The final answer about an order fits the call that gave it: an order is submitted as it is
handed in, or judged by its waiting time, and a sweep submits none. -/
def Settles (threshold : ℚ) (order : QueuedOrder) (result : SubmissionResult) :
    LimiterMove → Prop
  | .orderSubmitted _ submitted =>
    order = submitted ∧ Names order result ∧ result.status = .submitted ∧ result.queueTimeMs = 0
  | .queueProcessed now _ => Judged threshold now order result
  | .queueSwept now => Judged threshold now order result ∧ result.status = .cancelled

/-- What a call does: it keeps the orders about which it gives no final answer, gives the others
one, and counts them. -/
structure Passed (run : LimiterRun) (move : LimiterMove) : Prop where
  sameLength :
    (run.limiter.queue ++ move.handedIn).length = (move.verdicts run.limiter).length
  queue : (run.step move).limiter.queue =
    kept (run.limiter.queue ++ move.handedIn) (move.verdicts run.limiter)
  answered : (move.answers run.limiter).filter (·.status.isFinal) =
    (move.verdicts run.limiter).reduceOption
  counted : Counted run.limiter (run.step move).limiter (move.answers run.limiter)
  settled : List.Forall₂
    (fun order verdict => ∀ result, verdict = some result →
      Settles run.limiter.latencyThresholdMs order result move)
    (run.limiter.queue ++ move.handedIn) (move.verdicts run.limiter)

/-- Answers that are judged by the waiting time are final. -/
theorem judged_answers_final {threshold measuredAt : ℚ} {queue : List QueuedOrder}
    {verdicts : List (Option SubmissionResult)}
    (judged : List.Forall₂ (fun order ruling => ∀ result, ruling = some result →
      Judged threshold measuredAt order result) queue verdicts) :
    verdicts.reduceOption.filter (·.status.isFinal) = verdicts.reduceOption := by
  apply List.filter_eq_self.mpr
  intro result answered
  rw [← given_rulings judged.length_eq] at answered
  obtain ⟨⟨order, ruling⟩, member, rfl⟩ := List.mem_map.mp answered
  obtain ⟨_, _, submitted | cancelled⟩ := given_related judged member ruling rfl
  · simp only [submitted.1, SubmissionStatus.isFinal]
  · simp only [cancelled.1, SubmissionStatus.isFinal]

/-- An order that finds a token is answered at once. -/
theorem verdicts_with_token (limiter : HFTRateLimiter) {now : ℚ} (order : QueuedOrder)
    (found : (limiter.tokenBucket.consume now).2 = true) :
    verdicts limiter (.orderSubmitted now order) =
      (limiter.queue.map fun _ => none) ++ [some (limiter.submitOrder now order).2] := by
  simp [verdicts, submitOrder, found, submitted, SubmissionStatus.isFinal]

/-- An order that finds none has to wait. -/
theorem verdicts_without_token (limiter : HFTRateLimiter) {now : ℚ} (order : QueuedOrder)
    (missed : ¬ (limiter.tokenBucket.consume now).2 = true) :
    verdicts limiter (.orderSubmitted now order) =
      (limiter.queue.map fun _ => none) ++ [none] := by
  simp [verdicts, submitOrder, missed, SubmissionStatus.isFinal]

/-- An order that is handed in is submitted at once or queued behind the others. -/
theorem passed_submission (run : LimiterRun) (now : ℚ) (order : QueuedOrder) :
    Passed run (.orderSubmitted now order) := by
  have waits : run.limiter.queue.length =
      (run.limiter.queue.map fun _ => (none : Option SubmissionResult)).length :=
    (List.length_map _).symm
  have undecided : List.Forall₂ (fun (waiting : QueuedOrder) (verdict : Option SubmissionResult) =>
      ∀ result, verdict = some result → Settles run.limiter.latencyThresholdMs waiting result
        (.orderSubmitted now order)) run.limiter.queue
      (run.limiter.queue.map fun _ => none) := by
    apply List.forall₂_map_right_iff.mpr
    apply List.forall₂_same.mpr
    intro waiting _ result impossible
    cases impossible
  have decided (verdict : Option SubmissionResult)
      (settles : ∀ result, verdict = some result → Settles run.limiter.latencyThresholdMs order
        result (.orderSubmitted now order)) :=
    List.rel_append undecided (List.Forall₂.cons settles List.Forall₂.nil)
  by_cases found : (run.limiter.tokenBucket.consume now).2 = true
  · have answer := verdicts_with_token run.limiter order found
    constructor
    · rw [answer, List.length_append, List.length_append, ← waits]
      rfl
    · rw [answer, kept_append waits, kept_all]
      simp [LimiterRun.step, submitOrder, found, submitted, recordQueueTime, handedIn, kept]
    · rw [answer, List.reduceOption_append]
      simp [answers, submitOrder, found, submitted, SubmissionStatus.isFinal, List.reduceOption]
    · constructor <;>
        simp [LimiterRun.step, answers, submitOrder, found, submitted, recordQueueTime, countOf]
    · rw [answer]
      refine decided _ ?_
      intro result same
      obtain rfl := Option.some.inj same
      simp [Settles, Names, submitOrder, found, submitted]
  · have answer := verdicts_without_token run.limiter order found
    constructor
    · rw [answer, List.length_append, List.length_append, ← waits]
      rfl
    · rw [answer, kept_append waits, kept_all]
      simp [LimiterRun.step, submitOrder, found, handedIn, kept]
    · rw [answer, List.reduceOption_append]
      simp [answers, submitOrder, found, SubmissionStatus.isFinal, List.reduceOption]
    · constructor <;> simp [LimiterRun.step, answers, submitOrder, found, countOf]
    · rw [answer]
      refine decided _ ?_
      intro result impossible
      cases impossible

/-- Every call does what a call does. -/
theorem passed (run : LimiterRun) (move : LimiterMove) : Passed run move := by
  cases move with
  | orderSubmitted now order => exact passed_submission run now order
  | queueProcessed now delays =>
    have judged := rulings_judged now run.limiter now delays run.limiter.queue
    have pass := process_orders_rulings now run.limiter now delays run.limiter.queue
    constructor
    · simpa only [handedIn, verdicts, List.append_nil] using judged.length_eq
    · simpa only [LimiterRun.step, processQueue, handedIn, verdicts, List.append_nil] using
        congrArg Prod.fst pass
    · simp only [answers, processQueue, verdicts, pass]
      exact judged_answers_final judged
    · have counted := process_orders_counted now run.limiter now delays run.limiter.queue
      exact ⟨counted.threshold, counted.submitted, counted.cancelled⟩
    · simpa only [handedIn, verdicts, Settles, List.append_nil] using judged
  | queueSwept now =>
    have judged : List.Forall₂ (fun order ruling => ∀ result, ruling = some result →
          Settles run.limiter.latencyThresholdMs order result (.queueSwept now))
        run.limiter.queue
        (run.limiter.queue.map (sweepRuling now run.limiter.latencyThresholdMs)) := by
      apply List.forall₂_map_right_iff.mpr
      apply List.forall₂_same.mpr
      exact fun order _ result => sweep_ruling_judged
    have sweep := sweep_orders_rulings now run.limiter run.limiter.queue
    constructor
    · simpa only [handedIn, verdicts, List.append_nil] using judged.length_eq
    · simpa only [LimiterRun.step, sweepStaleOrders, handedIn, verdicts, List.append_nil] using
        congrArg Prod.fst sweep
    · simp only [answers, sweepStaleOrders, verdicts, sweep]
      exact judged_answers_final (judged.imp fun _ _ settles result same => (settles result same).1)
    · have counted := sweep_orders_counted now run.limiter run.limiter.queue
      exact ⟨counted.threshold, counted.submitted, counted.cancelled⟩
    · simpa only [handedIn, verdicts, List.append_nil] using judged

end LimiterMove

/-- A final answer, with the order, the place at which it was handed in, and the call. -/
structure FinalAnswer where
  place : ℕ
  order : QueuedOrder
  call : LimiterMove
  result : SubmissionResult

/-- A run with its ledger: the orders that were handed in, those that wait with their places, the
final answers, and all that was returned. -/
structure OrderLedger where
  run : LimiterRun
  handedIn : List QueuedOrder := []
  waiting : List (ℕ × QueuedOrder) := []
  finals : List FinalAnswer := []
  answers : List SubmissionResult := []

namespace OrderLedger

open HFTRateLimiter

/-- The orders that wait, and behind them those that a call hands in, with their places. -/
def places (ledger : OrderLedger) (move : LimiterMove) : List (ℕ × QueuedOrder) :=
  ledger.waiting ++ move.handedIn.map (ledger.handedIn.length, ·)

/-- The final answers of a call. -/
def settled (ledger : OrderLedger) (move : LimiterMove) : List FinalAnswer :=
  (given (ledger.places move) (move.verdicts ledger.run.limiter)).map fun entry =>
    ⟨entry.1.1, entry.1.2, move, entry.2⟩

/-- One move. -/
def step (ledger : OrderLedger) (move : LimiterMove) : OrderLedger :=
  { run := ledger.run.step move
    handedIn := ledger.handedIn ++ move.handedIn
    waiting := kept (ledger.places move) (move.verdicts ledger.run.limiter)
    finals := ledger.finals ++ ledger.settled move
    answers := ledger.answers ++ move.answers ledger.run.limiter }

/-- A new limiter with an empty ledger. -/
def opened (clock : ℚ) (maxOrdersPerSecond : ℤ) (latencyThresholdMs : ℚ) : OrderLedger :=
  { run := LimiterRun.constructed clock maxOrdersPerSecond latencyThresholdMs }

/-- The ledger of a run. -/
def ledgerAfter (clock : ℚ) (maxOrdersPerSecond : ℤ) (latencyThresholdMs : ℚ)
    (moves : List LimiterMove) : OrderLedger :=
  Machines.after step (opened clock maxOrdersPerSecond latencyThresholdMs) moves

/-- No order is lost, and none is answered twice. The limiter's queue and counters agree with the
ledger, whose final answers are those that were returned. -/
structure Conserved (threshold : ℚ) (ledger : OrderLedger) : Prop where
  latency : ledger.run.limiter.latencyThresholdMs = threshold
  queue : ledger.run.limiter.queue = ledger.waiting.map Prod.snd
  orders : ∀ entry ∈ ledger.waiting ++ ledger.finals.map fun final => (final.place, final.order),
    ledger.handedIn[entry.1]? = some entry.2
  once : (ledger.finals.map FinalAnswer.place ++ ledger.waiting.map Prod.fst).Perm
    (List.range ledger.handedIn.length)
  returned : ledger.finals.map FinalAnswer.result = ledger.answers.filter (·.status.isFinal)
  settles : ∀ final ∈ ledger.finals,
    LimiterMove.Settles threshold final.order final.result final.call
  submitted : ledger.run.limiter.ordersSubmitted = countOf .submitted ledger.answers
  cancelled : ledger.run.limiter.ordersCancelledLatency = countOf .cancelled ledger.answers

section Steps

variable {threshold : ℚ} {ledger : OrderLedger}

/-- Answers of two lists are counted together. -/
theorem count_of_append (status : SubmissionStatus) (first second : List SubmissionResult) :
    countOf status (first ++ second) = countOf status first + countOf status second :=
  List.countP_append

/-- A call hands in at most one order, at the next place. -/
theorem places_after (move : LimiterMove) (handed : ℕ) :
    List.range handed ++ move.handedIn.map (fun _ => handed) =
      List.range (handed + move.handedIn.length) := by
  cases move with
  | orderSubmitted now order => exact List.range_succ.symm
  | queueProcessed now delays => exact List.append_nil _
  | queueSwept now => exact List.append_nil _

/-- The orders at the places are those of the limiter's queue and the new one. -/
theorem Conserved.places_orders (conserved : Conserved threshold ledger) (move : LimiterMove) :
    (ledger.places move).map Prod.snd = ledger.run.limiter.queue ++ move.handedIn := by
  rw [places, List.map_append, conserved.queue, List.map_map]
  exact congrArg _ (List.map_id' _)

/-- Every place gets a verdict. -/
theorem Conserved.same_length (conserved : Conserved threshold ledger) (move : LimiterMove) :
    (ledger.places move).length = (move.verdicts ledger.run.limiter).length := by
  rw [← (LimiterMove.passed ledger.run move).sameLength, ← conserved.places_orders move,
    List.length_map]

/-- Every place belongs to an order that was handed in. -/
theorem Conserved.places_handed_in (conserved : Conserved threshold ledger) (move : LimiterMove)
    {entry : ℕ × QueuedOrder} (member : entry ∈ ledger.places move) :
    (ledger.handedIn ++ move.handedIn)[entry.1]? = some entry.2 := by
  obtain waits | new := List.mem_append.mp member
  · have earlier := conserved.orders entry (List.mem_append_left _ waits)
    rw [List.getElem?_append_left (List.getElem?_eq_some_iff.mp earlier).1]
    exact earlier
  · obtain ⟨order, handed, rfl⟩ := List.mem_map.mp new
    cases move with
    | orderSubmitted now given =>
      obtain rfl := List.mem_singleton.mp handed
      exact List.getElem?_concat_length
    | queueProcessed now delays => exact absurd handed List.not_mem_nil
    | queueSwept now => exact absurd handed List.not_mem_nil

/-- The final answers of a call fit it. -/
theorem Conserved.settled_settles (conserved : Conserved threshold ledger) (move : LimiterMove)
    {final : FinalAnswer} (member : final ∈ ledger.settled move) :
    LimiterMove.Settles threshold final.order final.result final.call := by
  obtain ⟨entry, taken, rfl⟩ := List.mem_map.mp member
  have settled := (LimiterMove.passed ledger.run move).settled
  rw [← conserved.places_orders move, List.forall₂_map_left_iff, conserved.latency] at settled
  exact given_related settled taken entry.2 rfl

/-- Every call conserves the orders. -/
theorem Conserved.step (conserved : Conserved threshold ledger) (move : LimiterMove) :
    Conserved threshold (ledger.step move) := by
  have passed := LimiterMove.passed ledger.run move
  have orders := conserved.places_orders move
  have sameLength := conserved.same_length move
  have places : (ledger.settled move).map (fun final => (final.place, final.order)) =
      (given (ledger.places move) (move.verdicts ledger.run.limiter)).map Prod.fst :=
    List.map_map
  have results : (ledger.settled move).map FinalAnswer.result =
      (given (ledger.places move) (move.verdicts ledger.run.limiter)).map Prod.snd :=
    List.map_map
  constructor
  · exact passed.counted.threshold.trans conserved.latency
  · change (ledger.run.step move).limiter.queue = (kept _ _).map Prod.snd
    rw [passed.queue, ← orders, kept_map]
  · intro entry member
    change entry ∈ kept _ _ ++ (ledger.finals ++ ledger.settled move).map _ at member
    rw [List.map_append, places] at member
    obtain waits | old | new := by simpa only [List.mem_append] using member
    · exact conserved.places_handed_in move ((kept_sublist _ _).subset waits)
    · have earlier := conserved.orders entry (List.mem_append_right _ old)
      change (ledger.handedIn ++ move.handedIn)[entry.1]? = some entry.2
      rw [List.getElem?_append_left (List.getElem?_eq_some_iff.mp earlier).1]
      exact earlier
    · exact conserved.places_handed_in move ((given_sublist _ _).subset new)
  · -- the places of the call are taken or kept, the older ones stay where they are
    have moved := (given_append_kept (ledger.places move)
      (move.verdicts ledger.run.limiter)).map Prod.fst
    have taken : (ledger.settled move).map FinalAnswer.place =
        ((given (ledger.places move) (move.verdicts ledger.run.limiter)).map Prod.fst).map
          Prod.fst := by
      rw [← places, List.map_map]
      rfl
    have current : (ledger.places move).map Prod.fst =
        ledger.waiting.map Prod.fst ++ move.handedIn.map fun _ => ledger.handedIn.length := by
      rw [OrderLedger.places, List.map_append, List.map_map]
      rfl
    rw [List.map_append, ← taken, current] at moved
    change ((ledger.finals ++ ledger.settled move).map FinalAnswer.place ++
      (kept _ _).map Prod.fst).Perm (List.range (ledger.handedIn ++ move.handedIn).length)
    rw [List.length_append, ← places_after, List.map_append, List.append_assoc]
    refine (moved.append_left _).trans ?_
    rw [← List.append_assoc]
    exact conserved.once.append_right _
  · change (ledger.finals ++ ledger.settled move).map FinalAnswer.result =
      (ledger.answers ++ move.answers ledger.run.limiter).filter _
    rw [List.map_append, List.filter_append, conserved.returned, results,
      given_rulings sameLength, passed.answered]
  · intro final member
    obtain old | new := List.mem_append.mp member
    · exact conserved.settles final old
    · exact conserved.settled_settles move new
  · change (ledger.run.step move).limiter.ordersSubmitted = countOf .submitted (_ ++ _)
    rw [passed.counted.submitted, conserved.submitted, count_of_append]
  · change (ledger.run.step move).limiter.ordersCancelledLatency = countOf .cancelled (_ ++ _)
    rw [passed.counted.cancelled, conserved.cancelled, count_of_append]

/-- A new limiter has nothing to conserve. -/
theorem conserved_opened (clock : ℚ) (maxOrdersPerSecond : ℤ) (latencyThresholdMs : ℚ) :
    Conserved latencyThresholdMs (opened clock maxOrdersPerSecond latencyThresholdMs) where
  latency := rfl
  queue := rfl
  orders _ member := absurd member List.not_mem_nil
  once := List.Perm.refl []
  returned := rfl
  settles _ member := absurd member List.not_mem_nil
  submitted := rfl
  cancelled := rfl

/-- Every run conserves the orders. -/
theorem conserved_run (clock : ℚ) (maxOrdersPerSecond : ℤ) (latencyThresholdMs : ℚ)
    (moves : List LimiterMove) : Conserved latencyThresholdMs
      (ledgerAfter clock maxOrdersPerSecond latencyThresholdMs moves) :=
  Machines.after_keeps_always (fun _ move conserved => conserved.step move) moves
    (conserved_opened clock maxOrdersPerSecond latencyThresholdMs)

/-- Final answers submit or cancel. -/
theorem final_answers_counted (results : List SubmissionResult) :
    (results.filter (·.status.isFinal)).length =
      countOf .submitted results + countOf .cancelled results := by
  induction results with
  | nil => rfl
  | cons result rest inductionHypothesis =>
    unfold countOf at inductionHypothesis ⊢
    rw [List.filter_cons, List.countP_cons, List.countP_cons]
    cases status : result.status with
    | submitted =>
      simp only [show SubmissionStatus.submitted.isFinal = true from rfl, if_true, List.length_cons,
        decide_true, reduceCtorEq, decide_false, Bool.false_eq_true, if_false]
      omega
    | queued =>
      simpa only [show SubmissionStatus.queued.isFinal = false from rfl, Bool.false_eq_true,
        if_false, reduceCtorEq, decide_false, Nat.add_zero] using inductionHypothesis
    | cancelled =>
      simp only [show SubmissionStatus.cancelled.isFinal = true from rfl, if_true, List.length_cons,
        decide_true, reduceCtorEq, decide_false, Bool.false_eq_true, if_false]
      omega

/-- The orders that were handed in are submitted, cancelled or queued. -/
theorem Conserved.balance (conserved : Conserved threshold ledger) :
    ledger.handedIn.length = ledger.run.limiter.ordersSubmitted +
      ledger.run.limiter.ordersCancelledLatency + ledger.run.limiter.queue.length := by
  have once := conserved.once.length_eq
  have returned := congrArg List.length conserved.returned
  rw [List.length_map, final_answers_counted] at returned
  rw [List.length_append, List.length_map, List.length_map, List.length_range] at once
  rw [conserved.submitted, conserved.cancelled, conserved.queue, List.length_map]
  omega

/-- After every run, whatever the clock reads, the orders that were handed in are as many as the
submitted, the cancelled and the queued ones. Each has one final answer or one place in the queue.
The final answers are those that were returned: an order is submitted as it is handed in, or a
pass or sweep measured its waiting time and submitted it only up to the threshold and cancelled
it only beyond. -/
theorem orders_are_conserved (clock : ℚ) (maxOrdersPerSecond : ℤ) (latencyThresholdMs : ℚ)
    (moves : List LimiterMove) :
    (ledgerAfter clock maxOrdersPerSecond latencyThresholdMs moves).handedIn.length =
        (ledgerAfter clock maxOrdersPerSecond latencyThresholdMs
          moves).run.limiter.ordersSubmitted +
        (ledgerAfter clock maxOrdersPerSecond latencyThresholdMs
          moves).run.limiter.ordersCancelledLatency +
        (ledgerAfter clock maxOrdersPerSecond latencyThresholdMs moves).run.limiter.queue.length ∧
      Conserved latencyThresholdMs
        (ledgerAfter clock maxOrdersPerSecond latencyThresholdMs moves) :=
  have conserved := conserved_run clock maxOrdersPerSecond latencyThresholdMs moves
  ⟨conserved.balance, conserved⟩

end Steps

end OrderLedger

end IgTradingBot
