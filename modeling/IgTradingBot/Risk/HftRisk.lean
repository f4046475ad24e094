import IgTradingBot.Config.Constants
import IgTradingBot.Library.Windows
import Mathlib.Algebra.Order.Ring.Rat
import Mathlib.Data.List.AList

/-!
# High-frequency risk manager

Trade limits, order rates and the circuit breaker of `src/risk/hft_risk.py`. The rates read
the monotonic clock and the circuit breaker reads the calendar clock; both are seconds. A
call reads its clock once, except where an activation takes a second reading.
-/

namespace IgTradingBot

open SlidingWindows

/-- Result of a check of the order rates. -/
structure RateLimitStatus where
  allowed : Bool
  reason : String := ""
  globalCount : ℕ := 0
  instrumentCount : ℕ := 0
  deriving DecidableEq, Repr

/-- Record of one activation of the circuit breaker. -/
structure CircuitBreakerEvent where
  timestamp : ℚ
  pnlAtActivation : ℚ
  equityAtActivation : ℚ
  deriving DecidableEq, Repr

/-- Times of the events in a trailing window. -/
structure SlidingWindowCounter where
  windowSeconds : ℚ := 1
  timestamps : List ℚ := []
  deriving DecidableEq, Repr

namespace SlidingWindowCounter

/-- Drop the times outside the window. -/
def prune (counter : SlidingWindowCounter) (now : ℚ) : SlidingWindowCounter :=
  { counter with timestamps := recent id counter.windowSeconds now counter.timestamps }

/-- Enter an event. -/
def record (counter : SlidingWindowCounter) (now : ℚ) : SlidingWindowCounter :=
  { counter with timestamps := counter.timestamps ++ [now] }.prune now

/-- Number of events in the window. -/
def count (counter : SlidingWindowCounter) (now : ℚ) : SlidingWindowCounter × ℕ :=
  (counter.prune now, (counter.prune now).timestamps.length)

end SlidingWindowCounter

/-- Rates, circuit breaker, the profits of the last minute, and the counters. -/
structure HFTRiskManager where
  maxOrderRate : ℤ
  maxPerInstrumentRate : ℤ
  circuitBreakerActive : Bool := false
  circuitBreakerActivatedAt : Option ℚ := none
  circuitBreakerCount : ℕ := 0
  circuitBreakerEvents : List CircuitBreakerEvent := []
  hftDisabled : Bool := false
  pnlWindow : List (ℚ × ℚ) := []
  globalRateCounter : SlidingWindowCounter := {}
  instrumentRateCounters : AList (fun _ : String => SlidingWindowCounter) := ∅
  rejectionCounter : SlidingWindowCounter := { windowSeconds := 10 }
  totalOrderCounter : SlidingWindowCounter := { windowSeconds := 10 }

/-- What the manager reports about itself. -/
structure HftStatus where
  hftAllowed : Bool
  hftDisabled : Bool
  circuitBreakerActive : Bool
  circuitBreakerCount : ℕ
  globalOrderRate : ℕ
  rejectionRate : ℚ
  shouldThrottle : Bool
  deriving DecidableEq, Repr

namespace HFTRiskManager

/-- A manager with its configured rates; the global one is clamped. -/
def create (maxOrderRate : ℤ := Constants.hftMaxOrderRateDefault)
    (maxPerInstrumentRate : ℤ := Constants.hftMaxPerInstrumentRate) : HFTRiskManager :=
  { maxOrderRate := max 10 (min 500 maxOrderRate), maxPerInstrumentRate := maxPerInstrumentRate }

/-- Whether a trade is within the limits of size and exposure. -/
def validateHftTrade (tradeSize accountEquity currentHftExposure : ℚ) : Bool :=
  if accountEquity ≤ 0 then false
  else if accountEquity * Constants.hftMaxTradeSizePct < tradeSize then false
  else if accountEquity * Constants.hftMaxExposurePct < currentHftExposure + tradeSize then false
  else true

/-- Start the pause. Too many within the window disable high-frequency trading. -/
def activateCircuitBreaker (manager : HFTRiskManager) (now : ℚ) (pnlAtActivation : ℚ := 0)
    (equityAtActivation : ℚ := 0) : HFTRiskManager :=
  let events := manager.circuitBreakerEvents ++ [⟨now, pnlAtActivation, equityAtActivation⟩]
  let windowStart := now - Constants.hftCircuitBreakerWindowHours * 3600
  let recentEvents := events.filter fun event => windowStart < event.timestamp
  { manager with
    circuitBreakerActive := true
    circuitBreakerActivatedAt := some now
    circuitBreakerEvents := events
    circuitBreakerCount := recentEvents.length
    hftDisabled := manager.hftDisabled ||
      decide (Constants.hftCircuitBreakerMaxActivations ≤ recentEvents.length) }

/-- The entries of the last minute after a profit is entered. -/
def enteredPnl (manager : HFTRiskManager) (now pnl : ℚ) : List (ℚ × ℚ) :=
  recent Prod.fst 60 now (manager.pnlWindow ++ [(now, pnl)])

/-- Profit below which the last minute has lost too much. -/
def pnlThreshold (accountEquity : ℚ) : ℚ := accountEquity * Constants.hftCircuitBreakerPnlPct

/-- Enter a profit, and start the pause when the last minute has lost too much and no pause is
marked as active. The pause starts at a reading of its own. -/
def updatePnl (manager : HFTRiskManager) (now activationNow pnl accountEquity : ℚ) :
    HFTRiskManager :=
  let entered := { manager with pnlWindow := manager.enteredPnl now pnl }
  let cumulativePnl := (entered.pnlWindow.map Prod.snd).sum
  if cumulativePnl < pnlThreshold accountEquity ∧ manager.circuitBreakerActive = false then
    entered.activateCircuitBreaker activationNow cumulativePnl accountEquity
  else entered

/-- End the pause by hand. -/
def deactivateCircuitBreaker (manager : HFTRiskManager) : HFTRiskManager :=
  { manager with circuitBreakerActive := false, circuitBreakerActivatedAt := none }

/-- Whether high-frequency trading is allowed. A pause that has lasted long enough is ended
here, and only here. -/
def isHftAllowed (manager : HFTRiskManager) (now : ℚ) : HFTRiskManager × Bool :=
  if manager.hftDisabled then (manager, false)
  else if manager.circuitBreakerActive then
    match manager.circuitBreakerActivatedAt with
    | some activatedAt =>
      if Constants.hftCircuitBreakerDurationSeconds ≤ now - activatedAt then
        ({ manager with circuitBreakerActive := false, circuitBreakerActivatedAt := none }, true)
      else (manager, false)
    | none => (manager, true)
  else (manager, true)

/-- Enable high-frequency trading again by hand. -/
def reEnableHft (manager : HFTRiskManager) : HFTRiskManager :=
  { manager with
    hftDisabled := false
    circuitBreakerActive := false
    circuitBreakerActivatedAt := none
    circuitBreakerCount := 0 }

/-- Whether the global rate has room. -/
def checkGlobalRate (manager : HFTRiskManager) (now : ℚ) : HFTRiskManager × Bool :=
  let counted := manager.globalRateCounter.count now
  ({ manager with globalRateCounter := counted.1 }, decide ((counted.2 : ℤ) < manager.maxOrderRate))

/-- Number of orders for an instrument in the last second; an instrument without a counter has
none. -/
def countInstrument (manager : HFTRiskManager) (now : ℚ) (instrument : String) :
    HFTRiskManager × ℕ :=
  match manager.instrumentRateCounters.lookup instrument with
  | none => (manager, 0)
  | some counter =>
    ({ manager with
        instrumentRateCounters :=
          manager.instrumentRateCounters.insert instrument (counter.count now).1 },
      (counter.count now).2)

/-- Whether the rate of an instrument has room. -/
def checkInstrumentRate (manager : HFTRiskManager) (now : ℚ) (instrument : String) :
    HFTRiskManager × Bool :=
  if instrument ∉ manager.instrumentRateCounters then (manager, true)
  else
    let counted := manager.countInstrument now instrument
    (counted.1, decide ((counted.2 : ℤ) < manager.maxPerInstrumentRate))

/-- Enter an order into the counters. -/
def recordOrder (manager : HFTRiskManager) (now : ℚ) (instrument : String) : HFTRiskManager :=
  let counter := (manager.instrumentRateCounters.lookup instrument).getD {}
  { manager with
    globalRateCounter := manager.globalRateCounter.record now
    instrumentRateCounters :=
      manager.instrumentRateCounters.insert instrument (counter.record now)
    totalOrderCounter := manager.totalOrderCounter.record now }

/-- Enter a rejection. -/
def recordRejection (manager : HFTRiskManager) (now : ℚ) : HFTRiskManager :=
  { manager with rejectionCounter := manager.rejectionCounter.record now }

/-- Share of rejections in the last ten seconds. -/
def getRejectionRate (manager : HFTRiskManager) (now : ℚ) : HFTRiskManager × ℚ :=
  let total := manager.totalOrderCounter.count now
  let counted := { manager with totalOrderCounter := total.1 }
  if total.2 = 0 then (counted, 0)
  else
    let rejections := manager.rejectionCounter.count now
    ({ counted with rejectionCounter := rejections.1 }, (rejections.2 : ℚ) / total.2)

/-- Whether too many orders are rejected. -/
def shouldThrottle (manager : HFTRiskManager) (now : ℚ) : HFTRiskManager × Bool :=
  let rate := manager.getRejectionRate now
  (rate.1, decide (Constants.hftThrottleRejectionRatePct < rate.2))

/-- Check both rates before an order; a refusal is entered as a rejection. -/
def checkRateLimit (manager : HFTRiskManager) (now : ℚ) (instrument : String) :
    HFTRiskManager × RateLimitStatus :=
  let globalCounted := manager.globalRateCounter.count now
  let globalCount := globalCounted.2
  let counted := { manager with globalRateCounter := globalCounted.1 }.countInstrument now instrument
  let instrumentCount := counted.2
  if manager.maxOrderRate ≤ globalCount then
    (counted.1.recordRejection now,
      { allowed := false
        reason := "Global rate limit exceeded: " ++ toString globalCount ++ "/" ++
          toString manager.maxOrderRate
        globalCount := globalCount
        instrumentCount := instrumentCount })
  else if manager.maxPerInstrumentRate ≤ instrumentCount then
    (counted.1.recordRejection now,
      { allowed := false
        reason := "Per-instrument rate limit exceeded for " ++ instrument ++ ": " ++
          toString instrumentCount ++ "/" ++ toString manager.maxPerInstrumentRate
        globalCount := globalCount
        instrumentCount := instrumentCount })
  else
    (counted.1,
      { allowed := true, globalCount := globalCount, instrumentCount := instrumentCount })

/-- The manager's report, which asks the questions above one after the other. -/
def getStatus (manager : HFTRiskManager) (now calendarNow : ℚ) : HFTRiskManager × HftStatus :=
  let allowed := manager.isHftAllowed calendarNow
  let orders := allowed.1.globalRateCounter.count now
  let rate := { allowed.1 with globalRateCounter := orders.1 }.getRejectionRate now
  let throttle := rate.1.shouldThrottle now
  (throttle.1,
    { hftAllowed := allowed.2
      hftDisabled := allowed.1.hftDisabled
      circuitBreakerActive := allowed.1.circuitBreakerActive
      circuitBreakerCount := allowed.1.circuitBreakerCount
      globalOrderRate := orders.2
      rejectionRate := rate.2
      shouldThrottle := throttle.2 })

end HFTRiskManager

end IgTradingBot
