import IgTradingBot.Risk.OrderRates
import Mathlib.Tactic.Linarith
import Mathlib.Tactic.NormNum

/-!
# Rejection rates

Runs of order attempts, each of which the high-frequency risk manager checks and records exactly when
it is allowed. The rejections and the recorded orders are counted in two windows of ten seconds. A
rejected attempt is no recorded order, so the quotient of the counts is not the share of the rejected
attempts, unless there is none.
-/

namespace IgTradingBot

open SlidingWindows

/-- An attempt to order, with the time at which it was entered. -/
structure OrderAttempt where
  enteredAt : ℚ
  allowed : Bool
  deriving DecidableEq, Repr

/-- Moves of a run. An attempt takes one reading for its check and, when it is allowed, one for its
record. -/
inductive AttemptMove where
  | attempted (checkedAt recordedAt : ℚ) (instrument : String)
  | rateAsked (now : ℚ)

/-- The manager, the last reading of the clock, and the attempts. -/
structure AttemptedOrders where
  clock : ℚ
  manager : HFTRiskManager
  attempts : List OrderAttempt := []

/-- Share of the rejected attempts among some attempts. -/
def rejectedShare (attempts : List OrderAttempt) : ℚ :=
  attempts.countP (!·.allowed) / attempts.length

/-- The times of the attempts with an outcome. -/
def timesOf (allowed : Bool) (attempts : List OrderAttempt) : List ℚ :=
  (attempts.filter (·.allowed == allowed)).map (·.enteredAt)

theorem times_of_append (allowed : Bool) (attempts : List OrderAttempt) (attempt : OrderAttempt) :
    timesOf allowed (attempts ++ [attempt]) =
      timesOf allowed attempts ++ if attempt.allowed = allowed then [attempt.enteredAt] else [] := by
  by_cases same : attempt.allowed = allowed
  · simp [timesOf, same]
  · simp [timesOf, same]

/-- Counting the attempts of a window with an outcome is counting their times. -/
theorem length_recent_times_of (allowed : Bool) (now : ℚ) (attempts : List OrderAttempt) :
    (recent id 10 now (timesOf allowed attempts)).length =
      (recent OrderAttempt.enteredAt 10 now attempts).countP (·.allowed == allowed) := by
  rw [recent, recent, timesOf, List.filter_map, List.length_map, List.countP_filter,
    List.filter_filter, List.countP_eq_length_filter]
  simp [Bool.and_comm]

/-- Every attempt of a window is rejected or allowed. -/
theorem count_attempts (attempts : List OrderAttempt) :
    attempts.length = attempts.countP (!·.allowed) + attempts.countP (·.allowed) := by
  rw [List.length_eq_countP_add_countP (!·.allowed) (l := attempts)]
  congr 1
  apply List.countP_congr
  simp

namespace HFTRiskManager

variable {manager : HFTRiskManager} {now : ℚ} {instrument : String}

/-- Counting the orders of an instrument leaves the counters of ten seconds alone. -/
theorem count_instrument_frame (manager : HFTRiskManager) (now : ℚ) (instrument : String) :
    (manager.countInstrument now instrument).1.rejectionCounter = manager.rejectionCounter ∧
      (manager.countInstrument now instrument).1.totalOrderCounter = manager.totalOrderCounter := by
  unfold countInstrument
  split <;> exact ⟨rfl, rfl⟩

/-- A check leaves the recorded orders of ten seconds alone and enters a rejection exactly when it
rejects. -/
theorem check_rate_limit_frame (manager : HFTRiskManager) (now : ℚ) (instrument : String) :
    (manager.checkRateLimit now instrument).1.totalOrderCounter = manager.totalOrderCounter ∧
      (manager.checkRateLimit now instrument).1.rejectionCounter =
        if (manager.checkRateLimit now instrument).2.allowed then manager.rejectionCounter
        else manager.rejectionCounter.record now := by
  obtain ⟨sameRejections, sameTotal⟩ := count_instrument_frame
    { manager with globalRateCounter := (manager.globalRateCounter.count now).1 } now instrument
  by_cases globalFull : manager.maxOrderRate ≤ (manager.globalRateCounter.count now).2
  · simp only [checkRateLimit, if_pos globalFull]
    exact ⟨sameTotal, congrArg (·.record now) sameRejections⟩
  · by_cases instrumentFull : manager.maxPerInstrumentRate ≤ ({ manager with
        globalRateCounter := (manager.globalRateCounter.count now).1 }.countInstrument now
          instrument).2
    · simp only [checkRateLimit, if_neg globalFull, if_pos instrumentFull]
      exact ⟨sameTotal, congrArg (·.record now) sameRejections⟩
    · simp only [checkRateLimit, if_neg globalFull, if_neg instrumentFull]
      exact ⟨sameTotal, sameRejections⟩

end HFTRiskManager

namespace AttemptedOrders

open HFTRiskManager

/-- One move. An attempt is recorded exactly when it is allowed. -/
def step (run : AttemptedOrders) : AttemptMove → AttemptedOrders
  | .attempted checkedAt recordedAt instrument =>
    let checked := run.manager.checkRateLimit checkedAt instrument
    if checked.2.allowed then
      { clock := recordedAt
        manager := checked.1.recordOrder recordedAt instrument
        attempts := run.attempts ++ [⟨recordedAt, true⟩] }
    else
      { clock := checkedAt, manager := checked.1, attempts := run.attempts ++ [⟨checkedAt, false⟩] }
  | .rateAsked now =>
    { run with clock := now, manager := (run.manager.getRejectionRate now).1 }

/-- The clock does not run backwards. -/
def Forward (run : AttemptedOrders) : AttemptMove → Prop
  | .attempted checkedAt recordedAt _ => run.clock ≤ checkedAt ∧ checkedAt ≤ recordedAt
  | .rateAsked now => run.clock ≤ now

instance (run : AttemptedOrders) (move : AttemptMove) : Decidable (run.Forward move) :=
  match move with
  | .attempted _ _ _ => inferInstanceAs (Decidable (_ ∧ _))
  | .rateAsked _ => inferInstanceAs (Decidable (_ ≤ _))

/-- A new manager at a reading of the clock. -/
def constructed (clock : ℚ) (maxOrderRate maxPerInstrumentRate : ℤ) : AttemptedOrders :=
  { clock := clock, manager := create maxOrderRate maxPerInstrumentRate }

/-- The attempts of the last ten seconds. -/
def lastAttempts (run : AttemptedOrders) (now : ℚ) : List OrderAttempt :=
  recent OrderAttempt.enteredAt 10 now run.attempts

/-- The rate is the share of the rejected attempts of the last ten seconds, hence a share, and
throttling is called for when they were all rejected. -/
structure RateTruthful (run : AttemptedOrders) (now : ℚ) : Prop where
  share : (run.manager.getRejectionRate now).2 = rejectedShare (run.lastAttempts now)
  nonnegative : 0 ≤ (run.manager.getRejectionRate now).2
  atMostOne : (run.manager.getRejectionRate now).2 ≤ 1
  throttles : run.lastAttempts now ≠ [] → (∀ attempt ∈ run.lastAttempts now, ¬ attempt.allowed) →
    (run.manager.shouldThrottle now).2 = true

/-- The two counters of ten seconds show the attempts by their outcome. -/
structure ShowsAttempts (run : AttemptedOrders) : Prop where
  rejected : run.manager.rejectionCounter.ShowsWindow 10 run.clock (timesOf false run.attempts)
  recorded : run.manager.totalOrderCounter.ShowsWindow 10 run.clock (timesOf true run.attempts)

section Steps

variable {run : AttemptedOrders} {now : ℚ}

/-- An attempt joins the counter of its outcome. -/
theorem ShowsAttempts.attempted {checkedAt recordedAt : ℚ} {instrument : String}
    (shows : run.ShowsAttempts) (forward : run.Forward (.attempted checkedAt recordedAt instrument)) :
    (run.step (.attempted checkedAt recordedAt instrument)).ShowsAttempts := by
  obtain ⟨later, recordedLater⟩ := forward
  obtain ⟨sameTotal, rejections⟩ := check_rate_limit_frame run.manager checkedAt instrument
  simp only [step]
  split_ifs at rejections ⊢ with allowed
  · constructor
    · rw [times_of_append, if_neg (by simp), List.append_nil]
      change (run.manager.checkRateLimit checkedAt instrument).1.rejectionCounter.ShowsWindow _ _ _
      rw [rejections]
      exact shows.rejected.wait (later.trans recordedLater)
    · rw [times_of_append, if_pos rfl]
      change ((run.manager.checkRateLimit checkedAt instrument).1.totalOrderCounter.record
        recordedAt).ShowsWindow _ _ _
      rw [sameTotal]
      exact shows.recorded.record (later.trans recordedLater)
  · constructor
    · rw [times_of_append, if_pos rfl]
      change (run.manager.checkRateLimit checkedAt instrument).1.rejectionCounter.ShowsWindow _ _ _
      rw [rejections]
      exact shows.rejected.record later
    · rw [times_of_append, if_neg (by simp), List.append_nil]
      change (run.manager.checkRateLimit checkedAt instrument).1.totalOrderCounter.ShowsWindow _ _ _
      rw [sameTotal]
      exact shows.recorded.wait later

/-- Asking for the rate drops old times only. -/
theorem ShowsAttempts.rate_asked (shows : run.ShowsAttempts) (forward : run.Forward (.rateAsked now)) :
    (run.step (.rateAsked now)).ShowsAttempts := by
  have recorded := shows.recorded.prune forward
  simp only [step, getRejectionRate]
  split_ifs
  · exact ⟨shows.rejected.wait forward, recorded⟩
  · exact ⟨shows.rejected.prune forward, recorded⟩

/-- Every move keeps what the counters show. -/
theorem ShowsAttempts.step {move : AttemptMove} (shows : run.ShowsAttempts)
    (forward : run.Forward move) : (run.step move).ShowsAttempts := by
  cases move with
  | attempted checkedAt recordedAt instrument => exact shows.attempted forward
  | rateAsked now => exact shows.rate_asked forward

/-- Every run keeps what the counters show. -/
theorem run_shows_attempts (clock : ℚ) (maxOrderRate maxPerInstrumentRate : ℤ)
    {moves : List AttemptMove}
    (forward : Machines.Conforms AttemptedOrders.step Forward
      (constructed clock maxOrderRate maxPerInstrumentRate) moves) :
    (Machines.after AttemptedOrders.step (constructed clock maxOrderRate maxPerInstrumentRate)
      moves).ShowsAttempts := by
  apply Machines.after_keeps (fun _ _ shows => ShowsAttempts.step shows) ?_ forward
  exact ⟨⟨rfl, mirrors_nil clock⟩, ⟨rfl, mirrors_nil clock⟩⟩

/-- The rate is the quotient of the rejected and the allowed attempts of the last ten seconds. -/
theorem ShowsAttempts.get_rejection_rate (shows : run.ShowsAttempts) (later : run.clock ≤ now) :
    (run.manager.getRejectionRate now).2 =
      ((run.lastAttempts now).countP (!·.allowed) : ℚ) / (run.lastAttempts now).countP (·.allowed) := by
  have recorded := shows.recorded.count later
  have rejected := shows.rejected.count later
  rw [length_recent_times_of] at recorded rejected
  simp only [beq_true] at recorded
  simp only [beq_false] at rejected
  simp only [getRejectionRate, recorded, rejected, lastAttempts]
  split_ifs with none
  · rw [none, Nat.cast_zero, div_zero]
  · rfl

/-- With a rejection in the window the quotient is another number than the share. -/
theorem quotient_ne_share {rejected allowed : ℕ} (some : 0 < rejected) :
    (rejected : ℚ) / allowed ≠ rejected / ((rejected + allowed : ℕ) : ℚ) := by
  have positive : (0 : ℚ) < rejected := Nat.cast_pos.mpr some
  have attempted : (0 : ℚ) < ((rejected + allowed : ℕ) : ℚ) := Nat.cast_pos.mpr (by omega)
  intro same
  rcases Nat.eq_zero_or_pos allowed with none | any
  · have zero : (rejected : ℚ) / ((rejected + allowed : ℕ) : ℚ) = 0 := by
      rw [← same, none, Nat.cast_zero, div_zero]
    exact (div_pos positive attempted).ne' zero
  · have counted : (0 : ℚ) < allowed := Nat.cast_pos.mpr any
    rw [div_eq_div_iff counted.ne' attempted.ne', mul_right_inj' positive.ne', Nat.cast_add] at same
    linarith

/-- In every run of order attempts at times that do not decrease, each checked and recorded exactly
when it is allowed, and at every later reading of the clock: the rejection rate is truthful exactly
when no attempt of the last ten seconds was rejected. -/
theorem rejection_rate_truthful_iff (clock : ℚ) (maxOrderRate maxPerInstrumentRate : ℤ)
    (moves : List AttemptMove)
    (forward : Machines.Conforms AttemptedOrders.step Forward
      (constructed clock maxOrderRate maxPerInstrumentRate) moves) (now : ℚ)
    (later : (Machines.after AttemptedOrders.step
      (constructed clock maxOrderRate maxPerInstrumentRate) moves).clock ≤ now) :
    let run := Machines.after AttemptedOrders.step
      (constructed clock maxOrderRate maxPerInstrumentRate) moves
    run.RateTruthful now ↔ ∀ attempt ∈ run.lastAttempts now, attempt.allowed := by
  intro run
  have rate := (run_shows_attempts clock maxOrderRate maxPerInstrumentRate forward).get_rejection_rate
    later
  change (run.manager.getRejectionRate now).2 = _ at rate
  have counted := count_attempts (run.lastAttempts now)
  have noneRejected : (run.lastAttempts now).countP (!·.allowed) = 0 ↔
      ∀ attempt ∈ run.lastAttempts now, attempt.allowed := by
    rw [List.countP_eq_zero]
    simp
  rw [← noneRejected]
  constructor
  · intro truthful
    by_contra some
    have same := truthful.share
    rw [rate, rejectedShare, counted] at same
    exact quotient_ne_share (Nat.pos_of_ne_zero some) same
  · intro none
    have zero : (run.manager.getRejectionRate now).2 = 0 := by
      rw [rate, none, Nat.cast_zero, zero_div]
    refine ⟨?_, zero.ge, zero.le.trans zero_le_one, ?_⟩
    · rw [zero, rejectedShare, none, Nat.cast_zero, zero_div]
    · intro attempted allRejected
      obtain ⟨attempt, member⟩ := List.exists_mem_of_ne_nil _ attempted
      exact absurd (noneRejected.mp none attempt member) (allRejected attempt member)

end Steps

/-- Two orders for different instruments, where one per instrument is allowed. -/
theorem allowed_orders_truthful :
    let run := Machines.after AttemptedOrders.step (constructed 0 100 1)
      [.attempted 0 0 "EURUSD", .rateAsked 1, .attempted 2 3 "GBPUSD"]
    run.RateTruthful 4 ↔ ∀ attempt ∈ run.lastAttempts 4, attempt.allowed :=
  rejection_rate_truthful_iff 0 100 1
    [.attempted 0 0 "EURUSD", .rateAsked 1, .attempted 2 3 "GBPUSD"] (by decide +kernel) 4
    (by decide +kernel)

/-- Three attempts at once for an instrument. -/
def burst : List AttemptMove := List.replicate 3 (.attempted 0 0 "EURUSD")

/-- Where one order per instrument is allowed, the rate of three attempts at once is two instead of
two thirds. -/
theorem rejected_burst_untruthful :
    Machines.Conforms AttemptedOrders.step Forward (constructed 0 100 1) burst ∧
      let run := Machines.after AttemptedOrders.step (constructed 0 100 1) burst
      (run.manager.getRejectionRate 0).2 = 2 ∧ rejectedShare (run.lastAttempts 0) = 2 / 3 ∧
        ¬ run.RateTruthful 0 := by
  have rate : ((Machines.after AttemptedOrders.step (constructed 0 100 1)
      burst).manager.getRejectionRate 0).2 = 2 := by decide +kernel
  refine ⟨by decide +kernel, rate, by decide +kernel, fun truthful => ?_⟩
  have share := truthful.atMostOne
  rw [rate] at share
  norm_num at share

/-- An instrument without orders allowed: every attempt is rejected and the rate is zero. -/
example :
    let run := Machines.after AttemptedOrders.step (constructed 0 100 0) [.attempted 0 0 "EURUSD"]
    (run.manager.shouldThrottle 5).2 = false ∧ rejectedShare (run.lastAttempts 5) = 1 := by
  decide +kernel

end AttemptedOrders

end IgTradingBot
