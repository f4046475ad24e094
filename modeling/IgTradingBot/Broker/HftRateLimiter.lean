import IgTradingBot.Config.Constants
import Mathlib.Algebra.BigOperators.Group.List.Basic
import Mathlib.Data.Rat.Defs
import Mathlib.Algebra.Order.Ring.Rat

/-!
# High-frequency rate limiter

The token bucket, the queue of orders and the cancellation of stale orders of
`src/trading/hft_rate_limiter.py`. No call is suspended while it holds the lock of the queue,
so every call is one atomic change. Times are seconds of the monotonic clock.
-/

namespace IgTradingBot

/-- An order that the limiter is given; its creation is its time of enqueuing. -/
structure QueuedOrder where
  orderId : String
  instrument : String
  direction : String
  size : ℚ
  enqueueTime : ℚ
  deriving DecidableEq, Repr

/-- Record of an order that was cancelled because it had waited too long. -/
structure LatencyRejection where
  orderId : String
  instrument : String
  direction : String
  size : ℚ
  queueTimeMs : ℚ
  reason : String := "latency_rejection"
  deriving DecidableEq, Repr

/-- Counts and the average waiting time of the limiter. -/
structure RateLimiterMetrics where
  ordersQueued : ℕ
  ordersCancelledLatency : ℕ
  avgQueueTimeMs : ℚ
  ordersSubmitted : ℕ
  currentQueueDepth : ℕ
  deriving DecidableEq, Repr

/-- What became of an order. -/
inductive SubmissionStatus where
  | submitted
  | queued
  | cancelled
  deriving DecidableEq, Repr

/-- The answer about an order. -/
structure SubmissionResult where
  status : SubmissionStatus
  orderId : String
  instrument : String
  direction : String
  queueTimeMs : ℚ
  reason : Option String := none
  deriving DecidableEq, Repr

/-- Tokens that are added at a rate up to a capacity. -/
structure TokenBucket where
  rate : ℚ
  capacity : ℚ
  tokens : ℚ
  lastRefill : ℚ
  deriving DecidableEq, Repr

namespace TokenBucket

/-- A full bucket; without a capacity of its own it holds what is added in a second. -/
def create (now rate : ℚ) (capacity : Option ℚ := none) : TokenBucket :=
  { rate := rate
    capacity := capacity.getD rate
    tokens := capacity.getD rate
    lastRefill := now }

/-- Add what the elapsed time is worth. -/
def refill (bucket : TokenBucket) (now : ℚ) : TokenBucket :=
  { bucket with
    tokens := min bucket.capacity (bucket.tokens + (now - bucket.lastRefill) * bucket.rate)
    lastRefill := now }

/-- Take a token if there is a whole one. -/
def consume (bucket : TokenBucket) (now : ℚ) : TokenBucket × Bool :=
  let refilled := bucket.refill now
  if 1 ≤ refilled.tokens then ({ refilled with tokens := refilled.tokens - 1 }, true)
  else (refilled, false)

end TokenBucket

/-- Thresholds, bucket, queue, counts and logs. The last field is the history of the times at
which orders were submitted, which the source does not keep. -/
structure HFTRateLimiter where
  maxOrdersPerSecond : ℤ
  latencyThresholdMs : ℚ
  tokenBucket : TokenBucket
  queue : List QueuedOrder := []
  ordersQueued : ℕ := 0
  ordersCancelledLatency : ℕ := 0
  ordersSubmitted : ℕ := 0
  queueTimes : List ℚ := []
  rejections : List LatencyRejection := []
  submittedAt : List ℚ := []
  deriving DecidableEq, Repr

namespace HFTRateLimiter

/-- Waiting times that are kept. -/
def maxQueueTimeSamples : ℕ := 1000

/-- Rejections that are kept. -/
def maxRejectionLog : ℕ := 10000

/-- A limiter whose bucket adds and holds the maximal number of orders of a second. -/
def create (now : ℚ) (maxOrdersPerSecond : ℤ := Constants.hftMaxOrderRateDefault)
    (latencyThresholdMs : ℚ := Constants.hftLatencyRejectionMs) : HFTRateLimiter :=
  { maxOrdersPerSecond := maxOrdersPerSecond
    latencyThresholdMs := latencyThresholdMs
    tokenBucket := TokenBucket.create now maxOrdersPerSecond (some maxOrdersPerSecond) }

/-- The last entries of a log that has grown beyond its length. -/
def trimmed {α : Type} (length : ℕ) (log : List α) : List α :=
  if length < log.length then log.drop (log.length - length) else log

/-- Keep a waiting time. -/
def recordQueueTime (limiter : HFTRateLimiter) (queueTimeMs : ℚ) : HFTRateLimiter :=
  { limiter with
    queueTimes := trimmed maxQueueTimeSamples (limiter.queueTimes ++ [queueTimeMs]) }

/-- Average of the kept waiting times. -/
def calculateAvgQueueTime (limiter : HFTRateLimiter) : ℚ :=
  if limiter.queueTimes = [] then 0 else limiter.queueTimes.sum / limiter.queueTimes.length

/-- Cancel an order that has waited too long. -/
def cancelOrderLatency (limiter : HFTRateLimiter) (order : QueuedOrder) (queueTimeMs : ℚ) :
    HFTRateLimiter × SubmissionResult :=
  let rejection : LatencyRejection :=
    { orderId := order.orderId
      instrument := order.instrument
      direction := order.direction
      size := order.size
      queueTimeMs := queueTimeMs }
  let counted :=
    { limiter with ordersCancelledLatency := limiter.ordersCancelledLatency + 1 }.recordQueueTime
      queueTimeMs
  ({ counted with rejections := trimmed maxRejectionLog (limiter.rejections ++ [rejection]) },
    { status := .cancelled
      orderId := order.orderId
      instrument := order.instrument
      direction := order.direction
      queueTimeMs := queueTimeMs
      reason := some "latency_rejection" })

/-- Book an order whose token was taken at a reading of the clock. -/
def submitted (limiter : HFTRateLimiter) (now : ℚ) (order : QueuedOrder) (queueTimeMs : ℚ) :
    HFTRateLimiter × SubmissionResult :=
  ({ limiter with
      ordersSubmitted := limiter.ordersSubmitted + 1
      submittedAt := limiter.submittedAt ++ [now] }.recordQueueTime queueTimeMs,
    { status := .submitted
      orderId := order.orderId
      instrument := order.instrument
      direction := order.direction
      queueTimeMs := queueTimeMs })

/-- Submit an order at once if there is a token for it, and queue it otherwise. -/
def submitOrder (limiter : HFTRateLimiter) (now : ℚ) (order : QueuedOrder) :
    HFTRateLimiter × SubmissionResult :=
  let consumed := limiter.tokenBucket.consume now
  let limiter := { limiter with tokenBucket := consumed.1 }
  if consumed.2 then limiter.submitted now order 0
  else
    ({ limiter with
        queue := limiter.queue ++ [order]
        ordersQueued := limiter.ordersQueued + 1 },
      { status := .queued
        orderId := order.orderId
        instrument := order.instrument
        direction := order.direction
        queueTimeMs := 0 })

/-- The loop over the queue. The waiting times are measured at one reading of the clock; every
attempt to take a token reads it again, after the next of the given delays. The orders that
have to wait on are collected. -/
def processOrders (measuredAt : ℚ) :
    HFTRateLimiter → ℚ → List ℚ → List QueuedOrder →
      HFTRateLimiter × List QueuedOrder × List SubmissionResult
  | limiter, _, _, [] => (limiter, [], [])
  | limiter, clock, delays, order :: rest =>
    let queueTimeMs := (measuredAt - order.enqueueTime) * 1000
    if limiter.latencyThresholdMs < queueTimeMs then
      let cancelled := limiter.cancelOrderLatency order queueTimeMs
      let processed := processOrders measuredAt cancelled.1 clock delays rest
      (processed.1, processed.2.1, cancelled.2 :: processed.2.2)
    else
      let now := clock + delays.headD 0
      let consumed := limiter.tokenBucket.consume now
      let limiter := { limiter with tokenBucket := consumed.1 }
      if consumed.2 then
        let booked := limiter.submitted now order queueTimeMs
        let processed := processOrders measuredAt booked.1 now delays.tail rest
        (processed.1, processed.2.1, booked.2 :: processed.2.2)
      else
        let processed := processOrders measuredAt limiter now delays.tail rest
        (processed.1, order :: processed.2.1, processed.2.2)

/-- Submit what the bucket allows of the queue, and cancel what has waited too long. -/
def processQueue (limiter : HFTRateLimiter) (now : ℚ) (delays : List ℚ) :
    HFTRateLimiter × List SubmissionResult :=
  let processed := processOrders now limiter now delays limiter.queue
  ({ processed.1 with queue := processed.2.1 }, processed.2.2)

/-- The loop of the sweep: cancel what has waited too long and collect the rest. -/
def sweepOrders (now : ℚ) : HFTRateLimiter → List QueuedOrder →
    HFTRateLimiter × List QueuedOrder × List SubmissionResult
  | limiter, [] => (limiter, [], [])
  | limiter, order :: rest =>
    let queueTimeMs := (now - order.enqueueTime) * 1000
    if limiter.latencyThresholdMs < queueTimeMs then
      let cancelled := limiter.cancelOrderLatency order queueTimeMs
      let swept := sweepOrders now cancelled.1 rest
      (swept.1, swept.2.1, cancelled.2 :: swept.2.2)
    else
      let swept := sweepOrders now limiter rest
      (swept.1, order :: swept.2.1, swept.2.2)

/-- Cancel the orders that have waited too long. -/
def sweepStaleOrders (limiter : HFTRateLimiter) (now : ℚ) :
    HFTRateLimiter × List SubmissionResult :=
  let swept := sweepOrders now limiter limiter.queue
  ({ swept.1 with queue := swept.2.1 }, swept.2.2)

/-- The limiter's metrics. -/
def getMetrics (limiter : HFTRateLimiter) : RateLimiterMetrics :=
  { ordersQueued := limiter.ordersQueued
    ordersCancelledLatency := limiter.ordersCancelledLatency
    avgQueueTimeMs := limiter.calculateAvgQueueTime
    ordersSubmitted := limiter.ordersSubmitted
    currentQueueDepth := limiter.queue.length }

end HFTRateLimiter

end IgTradingBot
