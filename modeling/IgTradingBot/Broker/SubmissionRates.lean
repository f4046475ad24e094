import IgTradingBot.Broker.HftRateLimiter
import IgTradingBot.Library.Machines
import IgTradingBot.Library.TokenBuckets
import Mathlib.Algebra.Order.BigOperators.Group.List

/-!
# Submission rates

Runs of the high-frequency rate limiter: orders that are handed in, passes over the queue, and
sweeps. A bucket that holds what is added in a second lets a full bucket pass at once and as
much again, but for one order, before the second is over.
-/

namespace IgTradingBot

open SlidingWindows TokenBuckets

/-- The calls of a run. The readings of a pass over the queue follow each other after the given
delays. -/
inductive LimiterMove where
  | orderSubmitted (now : ℚ) (order : QueuedOrder)
  | queueProcessed (now : ℚ) (delays : List ℚ)
  | queueSwept (now : ℚ)

/-- The limiter and the last reading of the clock. -/
structure LimiterRun where
  clock : ℚ
  limiter : HFTRateLimiter

namespace LimiterRun

open HFTRateLimiter

/-- One move. -/
def step (run : LimiterRun) : LimiterMove → LimiterRun
  | .orderSubmitted now order => ⟨now, (run.limiter.submitOrder now order).1⟩
  | .queueProcessed now delays => ⟨now + delays.sum, (run.limiter.processQueue now delays).1⟩
  | .queueSwept now => ⟨now, (run.limiter.sweepStaleOrders now).1⟩

/-- The clock does not run backwards. -/
def Forward (run : LimiterRun) : LimiterMove → Prop
  | .orderSubmitted now _ | .queueSwept now => run.clock ≤ now
  | .queueProcessed now delays => run.clock ≤ now ∧ ∀ delay ∈ delays, 0 ≤ delay

instance (run : LimiterRun) (move : LimiterMove) : Decidable (run.Forward move) :=
  match move with
  | .orderSubmitted _ _ | .queueSwept _ => inferInstanceAs (Decidable (_ ≤ _))
  | .queueProcessed _ _ => inferInstanceAs (Decidable (_ ∧ _))

/-- A new limiter at a reading of the clock. -/
def constructed (clock : ℚ) (maxOrdersPerSecond : ℤ) (latencyThresholdMs : ℚ) : LimiterRun :=
  ⟨clock, HFTRateLimiter.create clock maxOrdersPerSecond latencyThresholdMs⟩

/-- A property of the bucket, the clock and the times of submission that time and the taking of
tokens preserve. -/
structure BucketRules (invariant : TokenBucket → ℚ → List ℚ → Prop) : Prop where
  wait : ∀ {bucket clock later times}, invariant bucket clock times → clock ≤ later →
    invariant bucket later times
  consume : ∀ {bucket clock now times}, invariant bucket clock times → clock ≤ now →
    invariant (bucket.consume now).1 now
      (if (bucket.consume now).2 then times ++ [now] else times)

/-- The property holds of a limiter at a reading of the clock. -/
def Holds (invariant : TokenBucket → ℚ → List ℚ → Prop) (limiter : HFTRateLimiter)
    (clock : ℚ) : Prop :=
  invariant limiter.tokenBucket clock limiter.submittedAt

section Rules

variable {invariant : TokenBucket → ℚ → List ℚ → Prop} {limiter : HFTRateLimiter} {clock : ℚ}

/-- A cancellation changes neither the bucket nor the times of submission. -/
theorem Holds.cancel (holds : Holds invariant limiter clock) (order : QueuedOrder)
    (queueTimeMs : ℚ) :
    Holds invariant (limiter.cancelOrderLatency order queueTimeMs).1 clock := holds

/-- The loop over the queue keeps the property. The induction is on the orders of the queue. -/
theorem BucketRules.process_orders (rules : BucketRules invariant) (measuredAt : ℚ)
    (queue : List QueuedOrder) {delays : List ℚ} (holds : Holds invariant limiter clock)
    (nonneg : ∀ delay ∈ delays, 0 ≤ delay) :
    Holds invariant (processOrders measuredAt limiter clock delays queue).1
      (clock + delays.sum) := by
  induction queue generalizing limiter clock delays with
  | nil => exact rules.wait holds (le_add_of_nonneg_right (List.sum_nonneg nonneg))
  | cons order rest inductionHypothesis =>
    simp only [processOrders]
    split_ifs with stale consumed
    · exact inductionHypothesis (holds.cancel order _) nonneg
    all_goals
      -- the next delay comes before the attempt to take a token
      have split : clock + delays.sum = clock + delays.headD 0 + delays.tail.sum := by
        cases delays <;> simp [add_assoc]
      have delayed : clock ≤ clock + delays.headD 0 := by
        cases delays with
        | nil => simp
        | cons delay _ => simpa using nonneg delay List.mem_cons_self
      have attempted := rules.consume holds delayed
      rw [split]
      refine inductionHypothesis ?_ fun delay member => nonneg delay (List.mem_of_mem_tail member)
      simpa only [Holds, submitted, recordQueueTime, consumed, if_true, if_false,
        Bool.false_eq_true] using attempted

/-- The loop of the sweep keeps the property. -/
theorem sweep_orders_holds (now : ℚ) (queue : List QueuedOrder)
    (holds : Holds invariant limiter clock) :
    Holds invariant (sweepOrders now limiter queue).1 clock := by
  induction queue generalizing limiter with
  | nil => exact holds
  | cons order rest inductionHypothesis =>
    simp only [sweepOrders]
    split_ifs with stale
    · exact inductionHypothesis (holds.cancel order _)
    · exact inductionHypothesis holds

/-- Every move keeps the property. -/
theorem BucketRules.step (rules : BucketRules invariant) {run : LimiterRun} {move : LimiterMove}
    (holds : Holds invariant run.limiter run.clock) (forward : run.Forward move) :
    Holds invariant (run.step move).limiter (run.step move).clock := by
  cases move with
  | orderSubmitted now order =>
    have attempted := rules.consume holds forward
    simp only [LimiterRun.step, submitOrder]
    split_ifs with consumed
    all_goals
      simpa only [Holds, submitted, recordQueueTime, consumed, if_true, if_false,
        Bool.false_eq_true] using attempted
  | queueProcessed now delays =>
    exact rules.process_orders now run.limiter.queue (rules.wait holds forward.1) forward.2
  | queueSwept now =>
    exact sweep_orders_holds now run.limiter.queue (rules.wait holds forward)

/-- What the rules preserve holds after every run. -/
theorem BucketRules.run (rules : BucketRules invariant) {initial : LimiterRun}
    {moves : List LimiterMove} (holds : Holds invariant initial.limiter initial.clock)
    (forward : Machines.Conforms LimiterRun.step Forward initial moves) :
    Holds invariant (Machines.after LimiterRun.step initial moves).limiter
      (Machines.after LimiterRun.step initial moves).clock := by
  induction moves generalizing initial with
  | nil => exact holds
  | cons move rest inductionHypothesis =>
    exact inductionHypothesis (rules.step holds forward.1) forward.2

end Rules

/-- The bucket adds and holds the maximal number of orders, and the submissions have spent its
tokens. -/
structure Metered (maxOrders : ℚ) (bucket : TokenBucket) (clock : ℚ) (times : List ℚ) :
    Prop where
  rate : bucket.rate = maxOrders
  capacity : bucket.capacity = maxOrders
  refilled : bucket.lastRefill ≤ clock
  spent : Spent maxOrders maxOrders bucket.tokens bucket.lastRefill times

/-- A bucket with a positive rate is metered. -/
theorem metered_rules {maxOrders : ℚ} (positive : 0 < maxOrders) :
    BucketRules (Metered maxOrders) where
  wait metered later := { metered with refilled := metered.refilled.trans later }
  consume {bucket clock now times} metered later := by
    have refilled := metered.spent.refill positive (metered.refilled.trans later)
    have tokens : (bucket.refill now).tokens =
        min maxOrders (bucket.tokens + (now - bucket.lastRefill) * maxOrders) := by
      simp only [TokenBucket.refill, metered.rate, metered.capacity]
    rw [← tokens] at refilled
    by_cases whole : 1 ≤ (bucket.refill now).tokens
    · simp only [TokenBucket.consume, if_pos whole, if_true]
      exact ⟨metered.rate, metered.capacity, le_refl now, refilled.spend positive whole⟩
    · simp only [TokenBucket.consume, if_neg whole, if_false, Bool.false_eq_true]
      exact ⟨metered.rate, metered.capacity, le_refl now, refilled⟩

/-- A bucket that holds nothing lets nothing pass. -/
theorem empty_rules :
    BucketRules fun bucket _ times => bucket.capacity ≤ 0 ∧ times = [] where
  wait holds _ := holds
  consume {bucket _ now _} holds _ := by
    have noToken : ¬ 1 ≤ (bucket.refill now).tokens := by
      have held := min_le_left bucket.capacity
        (bucket.tokens + (now - bucket.lastRefill) * bucket.rate)
      exact not_le.mpr (lt_of_le_of_lt (held.trans holds.1) one_pos)
    simp only [TokenBucket.consume, if_neg noToken]
    exact holds

/-- In every run, every half-open window of one second has fewer than twice the maximal number
of submissions. A maximum that is not positive admits none. -/
theorem submissions_below_twice_the_maximum (clock : ℚ) (maxOrdersPerSecond : ℤ)
    (latencyThresholdMs : ℚ) (moves : List LimiterMove)
    (forward : Machines.Conforms step Forward
      (constructed clock maxOrdersPerSecond latencyThresholdMs) moves) (start : ℚ) :
    ((within id 1 start (Machines.after step
      (constructed clock maxOrdersPerSecond latencyThresholdMs) moves).limiter.submittedAt).length :
        ℤ) ≤ max 0 (2 * maxOrdersPerSecond - 1) := by
  obtain nonpos | positive := le_or_gt maxOrdersPerSecond 0
  · have barred : (maxOrdersPerSecond : ℚ) ≤ 0 := by exact_mod_cast nonpos
    have none := (empty_rules.run ⟨barred, rfl⟩ forward).2
    rw [none]
    exact le_max_left 0 _
  · have rate : (0 : ℚ) < maxOrdersPerSecond := by exact_mod_cast positive
    have metered := (metered_rules rate).run ⟨rfl, rfl, le_refl clock,
      spent_nothing rate.le rate clock⟩ forward
    have bounded := metered.spent.windows start 1 one_pos
    have whole : ((within id 1 start (Machines.after step (constructed clock maxOrdersPerSecond
        latencyThresholdMs) moves).limiter.submittedAt).length : ℤ) <
          maxOrdersPerSecond + maxOrdersPerSecond * 1 := by
      exact_mod_cast bounded
    omega

/-- An order of some size. -/
def smallOrder : QueuedOrder where
  orderId := "HFT-1"
  instrument := "EURUSD"
  direction := "BUY"
  size := 1
  enqueueTime := 0

/-- With at most two orders a second, a run of four orders and one pass over the queue submits
fewer than four in the first second. -/
theorem two_a_second_below_four :
    ((within id 1 0 (Machines.after step (constructed 0 2 500)
      [.orderSubmitted 0 smallOrder, .orderSubmitted 0 smallOrder, .orderSubmitted 0 smallOrder,
        .queueProcessed (1 / 4) [1 / 4]]).limiter.submittedAt).length : ℤ) ≤ 3 :=
  submissions_below_twice_the_maximum 0 2 500
    [.orderSubmitted 0 smallOrder, .orderSubmitted 0 smallOrder, .orderSubmitted 0 smallOrder,
      .queueProcessed (1 / 4) [1 / 4]] (by decide +kernel) 0

/-- With at most two orders a second, two are submitted at once and a third half a second
later. -/
theorem burst_exceeds_the_maximum :
    ¬ ∀ (clock : ℚ) (maxOrdersPerSecond : ℤ) (latencyThresholdMs : ℚ) (moves : List LimiterMove),
      Machines.Conforms step Forward (constructed clock maxOrdersPerSecond latencyThresholdMs)
          moves →
        ∀ start, ((within id 1 start (Machines.after step
          (constructed clock maxOrdersPerSecond latencyThresholdMs)
            moves).limiter.submittedAt).length : ℤ) ≤ maxOrdersPerSecond := by
  intro always
  have exceeded := always 0 2 500
    [.orderSubmitted 0 smallOrder, .orderSubmitted 0 smallOrder,
      .orderSubmitted (1 / 2) smallOrder] (by decide +kernel) 0
  revert exceeded
  decide +kernel

end LimiterRun

end IgTradingBot
