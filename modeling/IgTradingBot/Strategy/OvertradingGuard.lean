import IgTradingBot.Config.Constants
import IgTradingBot.Core.Values
import IgTradingBot.Library.Decimals
import IgTradingBot.Library.Machines
import Mathlib.Data.List.AList

/-!
# Overtrading guard

The frequency rules of `src/strategy/overtrading_guard.py`, and runs of its calls. An instrument
cools down from its third loss in a row on. The end of the cooldown is noticed by the question
whether trading is allowed, which forgets the losses and the cooldown together.
-/

namespace IgTradingBot

/-- A moment in seconds. A moment with a time zone cannot be compared with one without. -/
structure Moment where
  seconds : ℚ
  aware : Bool := false
  deriving DecidableEq, Repr

namespace Moment

/-- Seconds from one moment to another. -/
def since (later earlier : Moment) : Except Failure ℚ :=
  if later.aware = earlier.aware then .ok (later.seconds - earlier.seconds) else .error .badShape

/-- A moment after a number of seconds. -/
def plus (moment : Moment) (seconds : ℚ) : Moment :=
  { moment with seconds := moment.seconds + seconds }

end Moment

/-- Verdict about a trade, with the confidence that is required of it. -/
structure OvertradingGuard.TradeDecision where
  allowed : Bool
  reason : Option String := none
  elevatedThreshold : Option ℤ := none
  deriving DecidableEq, Repr

/-- Limits, counts of trades by strategy and instrument, and losses by instrument. -/
structure OvertradingGuard where
  maxTradesPerDay : ℤ
  minInterval : ℚ
  cooldownDuration : ℚ
  tradeCounts : AList (fun _ : String => AList fun _ : String => ℕ) := ∅
  lastTradeTimes : AList (fun _ : String => Moment) := ∅
  consecutiveLosses : AList (fun _ : String => ℕ) := ∅
  cooldownStart : AList (fun _ : String => Moment) := ∅

namespace OvertradingGuard

/-- A guard without history. The daily limit is kept between one and a hundred. -/
def create (maxTradesPerDay : ℤ := Constants.maxTradesPerDayDefault)
    (minIntervalMinutes : ℚ := Constants.minTradeIntervalMinutes)
    (consecutiveLossCooldownHours : ℚ := Constants.consecutiveLossCooldownHours) :
    OvertradingGuard :=
  { maxTradesPerDay := max 1 (min maxTradesPerDay 100)
    minInterval := minIntervalMinutes * 60
    cooldownDuration := consecutiveLossCooldownHours * 3600 }

/-- Trades of a strategy on an instrument today. -/
def getTradeCount (tradeGuard : OvertradingGuard) (strategyName instrument : String) : ℕ :=
  (((tradeGuard.tradeCounts.lookup strategyName).getD ∅).lookup instrument).getD 0

/-- Losses in a row on an instrument. -/
def losses (tradeGuard : OvertradingGuard) (instrument : String) : ℕ :=
  (tradeGuard.consecutiveLosses.lookup instrument).getD 0

/-- Seconds without decimals. -/
def wholeSeconds (seconds : ℚ) : String := toString (Decimals.roundHalfEven seconds)

/-- The daily limit, and the confidence that is required: few winning trades halve the first and
raise the second. -/
def effectiveLimit (tradeGuard : OvertradingGuard) (recentWinRate : ℚ) : ℤ × Option ℤ :=
  if recentWinRate < Constants.winRateThrottleThreshold then
    (max 1 (tradeGuard.maxTradesPerDay / 2), some Constants.confidenceThresholdElevated)
  else (tradeGuard.maxTradesPerDay, none)

/-- The rule of the minimal interval: the reason why a trade comes too early. -/
def intervalReason (tradeGuard : OvertradingGuard) (instrument : String) (currentTime : Moment) :
    Except Failure (Option String) :=
  match tradeGuard.lastTradeTimes.lookup instrument with
  | none => .ok none
  | some lastTime =>
    (currentTime.since lastTime).map fun elapsed =>
      if elapsed < tradeGuard.minInterval then
        some ("Minimum interval not met: " ++ wholeSeconds (tradeGuard.minInterval - elapsed) ++
          "s remaining for " ++ instrument)
      else none

/-- Forget the losses and the cooldown of an instrument. -/
def clearLosses (tradeGuard : OvertradingGuard) (instrument : String) : OvertradingGuard :=
  { tradeGuard with
    consecutiveLosses := tradeGuard.consecutiveLosses.insert instrument 0
    cooldownStart := tradeGuard.cooldownStart.erase instrument }

/-- Losses of an instrument that are forgotten leave no cooldown of it. -/
theorem lookup_clear_losses (tradeGuard : OvertradingGuard) (instrument : String) :
    (tradeGuard.clearLosses instrument).cooldownStart.lookup instrument = none :=
  AList.lookup_erase _ _

/-- Losses of an instrument that are forgotten are not counted. -/
theorem losses_clear_losses (tradeGuard : OvertradingGuard) (instrument : String) :
    (tradeGuard.clearLosses instrument).losses instrument = 0 := by
  rw [losses, clearLosses, AList.lookup_insert]
  rfl

/-- Losses of an instrument that are forgotten leave the other instruments alone. -/
theorem clear_losses_other (tradeGuard : OvertradingGuard) {instrument cleared : String}
    (other : instrument ≠ cleared) :
    (tradeGuard.clearLosses cleared).losses instrument = tradeGuard.losses instrument ∧
      (tradeGuard.clearLosses cleared).cooldownStart.lookup instrument =
        tradeGuard.cooldownStart.lookup instrument := by
  refine ⟨?_, AList.lookup_erase_ne other⟩
  unfold losses clearLosses
  dsimp only
  rw [AList.lookup_insert_ne other]

/-- The rule of the cooldown: a cooldown that is over is forgotten. -/
def cooldownRule (tradeGuard : OvertradingGuard) (instrument : String) (currentTime : Moment)
    (elevatedThreshold : Option ℤ) : OvertradingGuard × Except Failure TradeDecision :=
  let allowed : TradeDecision := { allowed := true, elevatedThreshold := elevatedThreshold }
  if Constants.consecutiveLossThreshold ≤ tradeGuard.losses instrument then
    match tradeGuard.cooldownStart.lookup instrument with
    | none => (tradeGuard, .ok allowed)
    | some started =>
      match (started.plus tradeGuard.cooldownDuration).since currentTime with
      | .error failure => (tradeGuard, .error failure)
      | .ok remaining =>
        if 0 < remaining then
          (tradeGuard, .ok
            { allowed := false
              reason := some ("Consecutive loss cooldown active: " ++
                toString (tradeGuard.losses instrument) ++ " losses on " ++ instrument ++ ", " ++
                wholeSeconds remaining ++ "s remaining") })
        else (tradeGuard.clearLosses instrument, .ok allowed)
  else (tradeGuard, .ok allowed)

/-- Whether a trade is allowed. A signal of high-frequency trading passes every rule. -/
def canTrade (tradeGuard : OvertradingGuard) (strategyName instrument : String)
    (currentTime : Moment) (recentWinRate : ℚ) (isHftSignal : Bool) :
    OvertradingGuard × Except Failure TradeDecision :=
  if isHftSignal then (tradeGuard, .ok { allowed := true })
  else
    let count := tradeGuard.getTradeCount strategyName instrument
    let limit := tradeGuard.effectiveLimit recentWinRate
    if limit.1 ≤ count then
      (tradeGuard, .ok
        { allowed := false
          reason := some ("Daily trade limit reached: " ++ toString count ++ "/" ++
            toString limit.1 ++ " trades for strategy '" ++ strategyName ++ "' on " ++
            instrument) })
    else
      match tradeGuard.intervalReason instrument currentTime with
      | .error failure => (tradeGuard, .error failure)
      | .ok (some reason) => (tradeGuard, .ok { allowed := false, reason := some reason })
      | .ok none => tradeGuard.cooldownRule instrument currentTime limit.2

/-- The daily limit and the minimal interval leave room for a trade. -/
def FrequencyAllows (tradeGuard : OvertradingGuard) (strategyName instrument : String)
    (currentTime : Moment) (recentWinRate : ℚ) : Prop :=
  tradeGuard.getTradeCount strategyName instrument < (tradeGuard.effectiveLimit recentWinRate).1 ∧
    tradeGuard.intervalReason instrument currentTime = .ok none

/-- Count a trade and note its time. -/
def recordTrade (tradeGuard : OvertradingGuard) (strategyName instrument : String)
    (time : Moment) : OvertradingGuard :=
  let strategyCounts := (tradeGuard.tradeCounts.lookup strategyName).getD ∅
  { tradeGuard with
    tradeCounts := tradeGuard.tradeCounts.insert strategyName
      (strategyCounts.insert instrument ((strategyCounts.lookup instrument).getD 0 + 1))
    lastTradeTimes := tradeGuard.lastTradeTimes.insert instrument time }

/-- Count a loss. The last one that is needed starts a cooldown, unless there is one. The start
is a reading of the clock without a time zone. -/
def recordLoss (tradeGuard : OvertradingGuard) (instrument : String) (utcnow : ℚ) :
    OvertradingGuard :=
  let current := tradeGuard.losses instrument + 1
  let counted :=
    { tradeGuard with
      consecutiveLosses := tradeGuard.consecutiveLosses.insert instrument current }
  if Constants.consecutiveLossThreshold ≤ current ∧ instrument ∉ tradeGuard.cooldownStart then
    { counted with cooldownStart := tradeGuard.cooldownStart.insert instrument ⟨utcnow, false⟩ }
  else counted

/-- A winning trade ends the losses in a row. -/
def recordWin (tradeGuard : OvertradingGuard) (instrument : String) : OvertradingGuard :=
  tradeGuard.clearLosses instrument

/-- Forget the counts of the day, and neither losses nor cooldowns. -/
def resetDaily (tradeGuard : OvertradingGuard) : OvertradingGuard :=
  { tradeGuard with tradeCounts := ∅ }

/-- Exactly the instruments with enough losses in a row are in the cooldown table. -/
def Cooling (tradeGuard : OvertradingGuard) : Prop :=
  ∀ instrument, instrument ∈ tradeGuard.cooldownStart ↔
    Constants.consecutiveLossThreshold ≤ tradeGuard.losses instrument

section Laws

variable {tradeGuard : OvertradingGuard}

/-- The table depends on the losses and the starts of cooldowns only. -/
theorem Cooling.of_same {other : OvertradingGuard} (cooling : tradeGuard.Cooling)
    (sameLosses : other.consecutiveLosses = tradeGuard.consecutiveLosses)
    (sameStarts : other.cooldownStart = tradeGuard.cooldownStart) : other.Cooling := by
  intro instrument
  rw [losses, sameLosses, sameStarts]
  exact cooling instrument

/-- Forgetting the losses of an instrument takes it out of the table. -/
theorem Cooling.clear_losses (cooling : tradeGuard.Cooling) (cleared : String) :
    (tradeGuard.clearLosses cleared).Cooling := by
  intro instrument
  by_cases same : instrument = cleared
  · subst same
    simp [clearLosses, losses, AList.mem_erase, Constants.consecutiveLossThreshold]
  · have others := cooling instrument
    simpa [clearLosses, losses, AList.mem_erase, AList.lookup_insert_ne same, same] using others

/-- A loss counts for its instrument and for no other. -/
theorem record_loss_losses (tradeGuard : OvertradingGuard) (lost : String) (utcnow : ℚ)
    (instrument : String) :
    (tradeGuard.recordLoss lost utcnow).losses instrument =
      if instrument = lost then tradeGuard.losses lost + 1 else tradeGuard.losses instrument := by
  have counted : (tradeGuard.recordLoss lost utcnow).consecutiveLosses =
      tradeGuard.consecutiveLosses.insert lost (tradeGuard.losses lost + 1) := by
    unfold recordLoss
    dsimp only
    split_ifs <;> rfl
  rw [losses, counted]
  by_cases same : instrument = lost
  · rw [if_pos same, same, AList.lookup_insert, Option.getD_some]
  · rw [if_neg same, AList.lookup_insert_ne same, losses]

/-- A loss that reaches the limit puts its instrument into the table. -/
theorem mem_record_loss (tradeGuard : OvertradingGuard) (lost : String) (utcnow : ℚ)
    (instrument : String) :
    instrument ∈ (tradeGuard.recordLoss lost utcnow).cooldownStart ↔
      instrument ∈ tradeGuard.cooldownStart ∨ instrument = lost ∧
        Constants.consecutiveLossThreshold ≤ tradeGuard.losses lost + 1 := by
  unfold recordLoss
  dsimp only
  split_ifs with starts
  · rw [AList.mem_insert, or_comm]
    exact or_congr_right (and_iff_left starts.1).symm
  · constructor
    · exact .inl
    · rintro (present | ⟨rfl, reached⟩)
      · exact present
      · by_contra absent
        exact starts ⟨reached, absent⟩

/-- A loss keeps the table exact. -/
theorem Cooling.record_loss (cooling : tradeGuard.Cooling) (lost : String) (utcnow : ℚ) :
    (tradeGuard.recordLoss lost utcnow).Cooling := by
  intro instrument
  rw [mem_record_loss, record_loss_losses, cooling instrument]
  by_cases same : instrument = lost
  · subst same
    rw [if_pos rfl]
    constructor
    · rintro (present | ⟨_, reached⟩)
      -- an instrument that has reached the limit stays beyond it
      · exact present.trans (Nat.le_succ _)
      · exact reached
    · exact fun reached => .inr ⟨rfl, reached⟩
  · rw [if_neg same]
    simp only [same, false_and, or_false]

/-- A question at a later time finds the cooldown of an instrument over. -/
def Expired (tradeGuard : OvertradingGuard) (instrument : String) (currentTime : Moment) : Prop :=
  ∃ started ∈ tradeGuard.cooldownStart.lookup instrument, started.aware = currentTime.aware ∧
    started.seconds + tradeGuard.cooldownDuration ≤ currentTime.seconds

/-- The rule of the cooldown leaves everything as it is, or forgets the losses of its
instrument after a cooldown that is over. -/
theorem cooldown_rule_cases (tradeGuard : OvertradingGuard) (instrument : String)
    (currentTime : Moment) (elevatedThreshold : Option ℤ) :
    (tradeGuard.cooldownRule instrument currentTime elevatedThreshold).1 = tradeGuard ∨
      tradeGuard.Expired instrument currentTime ∧
        (tradeGuard.cooldownRule instrument currentTime elevatedThreshold).1 =
          tradeGuard.clearLosses instrument := by
  unfold cooldownRule
  dsimp only
  split_ifs
  · split
    · exact .inl rfl
    · rename_i started noted
      split
      · exact .inl rfl
      · rename_i remaining left
        split_ifs with running
        · exact .inl rfl
        · refine .inr ⟨⟨started, noted, ?_⟩, rfl⟩
          unfold Moment.since Moment.plus at left
          split_ifs at left with same
          have value := Except.ok.inj left
          exact ⟨same, by linarith only [value, not_lt.mp running]⟩
  · exact .inl rfl

/-- A question leaves the losses and cooldowns as they are, or forgets those of its
instrument after a cooldown that is over. -/
theorem can_trade_cases (tradeGuard : OvertradingGuard) (strategyName instrument : String)
    (currentTime : Moment) (recentWinRate : ℚ) (isHftSignal : Bool) :
    (tradeGuard.canTrade strategyName instrument currentTime recentWinRate isHftSignal).1 =
        tradeGuard ∨
      tradeGuard.Expired instrument currentTime ∧
        (tradeGuard.canTrade strategyName instrument currentTime recentWinRate isHftSignal).1 =
          tradeGuard.clearLosses instrument := by
  unfold canTrade
  by_cases hft : isHftSignal = true
  · rw [if_pos hft]
    exact .inl rfl
  · rw [if_neg hft]
    dsimp only
    split_ifs
    · exact .inl rfl
    · split
      · exact .inl rfl
      · exact .inl rfl
      · exact tradeGuard.cooldown_rule_cases instrument currentTime _

end Laws

/-- The calls of a run. -/
inductive Call where
  | recordTrade (strategyName instrument : String) (time : Moment)
  | recordLoss (instrument : String) (utcnow : ℚ)
  | recordWin (instrument : String)
  | canTrade (strategyName instrument : String) (currentTime : Moment) (recentWinRate : ℚ)
      (isHftSignal : Bool)
  | resetDaily

/-- The guard after a call. -/
def step (tradeGuard : OvertradingGuard) : Call → OvertradingGuard
  | .recordTrade strategyName instrument time =>
    tradeGuard.recordTrade strategyName instrument time
  | .recordLoss instrument utcnow => tradeGuard.recordLoss instrument utcnow
  | .recordWin instrument => tradeGuard.recordWin instrument
  | .canTrade strategyName instrument currentTime recentWinRate isHftSignal =>
    (tradeGuard.canTrade strategyName instrument currentTime recentWinRate isHftSignal).1
  | .resetDaily => tradeGuard.resetDaily

/-- Every call keeps the table exact. -/
theorem Cooling.step {tradeGuard : OvertradingGuard} (cooling : tradeGuard.Cooling)
    (call : Call) : (tradeGuard.step call).Cooling := by
  cases call with
  | recordTrade strategyName instrument time => exact cooling.of_same rfl rfl
  | recordLoss instrument utcnow => exact cooling.record_loss instrument utcnow
  | recordWin instrument => exact cooling.clear_losses instrument
  | canTrade strategyName instrument currentTime recentWinRate isHftSignal =>
    change (tradeGuard.canTrade strategyName instrument currentTime recentWinRate
      isHftSignal).1.Cooling
    obtain unchanged | ⟨-, cleared⟩ := tradeGuard.can_trade_cases strategyName instrument currentTime
      recentWinRate isHftSignal
    · rwa [unchanged]
    · rw [cleared]
      exact cooling.clear_losses instrument
  | resetDaily => exact cooling.of_same rfl rfl

/-- A guard without history has an empty table and no losses. -/
theorem cooling_create (maxTradesPerDay : ℤ) (minIntervalMinutes cooldownHours : ℚ) :
    (create maxTradesPerDay minIntervalMinutes cooldownHours).Cooling := by
  intro instrument
  simp [create, losses, Constants.consecutiveLossThreshold]

/-- After every run of calls, exactly the instruments whose counter of losses in a row has
reached the limit are in the cooldown table. -/
theorem cooldown_table_matches_losses (maxTradesPerDay : ℤ)
    (minIntervalMinutes cooldownHours : ℚ) (calls : List Call) (instrument : String) :
    instrument ∈ (Machines.after step
        (create maxTradesPerDay minIntervalMinutes cooldownHours) calls).cooldownStart ↔
      Constants.consecutiveLossThreshold ≤ (Machines.after step
        (create maxTradesPerDay minIntervalMinutes cooldownHours) calls).losses instrument := by
  have kept : ∀ (guard : OvertradingGuard) (call : Call), Cooling guard →
      Cooling (guard.step call) := fun _ call cooling => cooling.step call
  exact Machines.after_keeps_always kept calls
    (cooling_create maxTradesPerDay minIntervalMinutes cooldownHours) instrument

end OvertradingGuard

end IgTradingBot
