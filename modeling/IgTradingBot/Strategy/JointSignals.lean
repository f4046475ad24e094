import IgTradingBot.Strategy.LosingStreaks
import IgTradingBot.Strategy.StrategyEngine
import IgTradingBot.Strategy.TradeFrequency

/-!
# Signals that are traded together

The strategy engine asks the guard about each signal before any of the others is recorded. What it
returns is traded one signal after the other, and then the guard counts the earlier ones: two signals
on one instrument keep its minimal interval, and those of one strategy its daily limit, or the later
one is refused.
-/

namespace IgTradingBot

namespace OvertradingGuard

section Questions

variable {tradeGuard : OvertradingGuard} {strategyName instrument : String} {currentTime : Moment}
  {recentWinRate : ℚ}

/-- No cooldown closes an instrument, whatever the time. -/
def Open (tradeGuard : OvertradingGuard) (instrument : String) : Prop :=
  tradeGuard.losses instrument < Constants.consecutiveLossThreshold ∨
    tradeGuard.cooldownStart.lookup instrument = none

instance : Decidable (tradeGuard.Open instrument) := inferInstanceAs (Decidable (_ ∨ _))

instance : Decidable (tradeGuard.Expired instrument currentTime) :=
  inferInstanceAs (Decidable (∃ _ ∈ tradeGuard.cooldownStart.lookup instrument, _))

instance : Decidable (tradeGuard.FrequencyAllows strategyName instrument currentTime recentWinRate) :=
  inferInstanceAs (Decidable (_ ∧ _))

theorem cooldown_rule_open (isOpen : tradeGuard.Open instrument) (elevatedThreshold : Option ℤ) :
    tradeGuard.cooldownRule instrument currentTime elevatedThreshold =
      (tradeGuard, .ok { allowed := true, elevatedThreshold := elevatedThreshold }) := by
  unfold cooldownRule
  dsimp only
  obtain few | unnoted := isOpen
  · rw [if_neg (not_le.mpr few)]
  · rw [unnoted]
    split <;> rfl

theorem cooldown_rule_expired (closed : ¬tradeGuard.Open instrument)
    (expired : tradeGuard.Expired instrument currentTime) (elevatedThreshold : Option ℤ) :
    tradeGuard.cooldownRule instrument currentTime elevatedThreshold =
      (tradeGuard.clearLosses instrument,
        .ok { allowed := true, elevatedThreshold := elevatedThreshold }) := by
  obtain ⟨started, noted, same, elapsed⟩ := expired
  rw [Option.mem_def] at noted
  have enough : Constants.consecutiveLossThreshold ≤ tradeGuard.losses instrument :=
    not_lt.mp fun few => closed (.inl few)
  have left : ¬0 < started.seconds + tradeGuard.cooldownDuration - currentTime.seconds := by
    linarith only [elapsed]
  simp only [cooldownRule, enough, noted, Moment.since, Moment.plus, same, if_true, if_neg left]

theorem cooldown_rule_running (closed : ¬tradeGuard.Open instrument)
    (running : ¬tradeGuard.Expired instrument currentTime) (elevatedThreshold : Option ℤ) :
    (tradeGuard.cooldownRule instrument currentTime elevatedThreshold).1 = tradeGuard ∧
      allowed (tradeGuard.cooldownRule instrument currentTime elevatedThreshold).2 = false := by
  have enough : Constants.consecutiveLossThreshold ≤ tradeGuard.losses instrument :=
    not_lt.mp fun few => closed (.inl few)
  unfold cooldownRule
  dsimp only
  rw [if_pos enough]
  cases noted : tradeGuard.cooldownStart.lookup instrument with
  | none => exact absurd (.inr noted) closed
  | some started =>
    by_cases same : started.aware = currentTime.aware
    · have left : 0 < started.seconds + tradeGuard.cooldownDuration - currentTime.seconds := by
        by_contra elapsed
        exact running ⟨started, noted, same, by linarith only [elapsed]⟩
      simp only [Moment.since, Moment.plus, same, if_true, if_pos left]
      exact ⟨trivial, rfl⟩
    · simp only [Moment.since, Moment.plus, same, if_false]
      exact ⟨trivial, rfl⟩

/-- A trade that the frequency allows is up to the rule of the cooldown. -/
theorem can_trade_frequent
    (frequent : tradeGuard.FrequencyAllows strategyName instrument currentTime recentWinRate) :
    tradeGuard.canTrade strategyName instrument currentTime recentWinRate false =
      tradeGuard.cooldownRule instrument currentTime (tradeGuard.effectiveLimit recentWinRate).2 := by
  obtain ⟨room, measured⟩ := frequent
  simp only [canTrade, Bool.false_eq_true, if_false, if_neg (not_le.mpr room), measured]

/-- A trade that the frequency does not allow is refused and changes nothing. -/
theorem can_trade_infrequent
    (infrequent : ¬tradeGuard.FrequencyAllows strategyName instrument currentTime recentWinRate) :
    (tradeGuard.canTrade strategyName instrument currentTime recentWinRate false).1 = tradeGuard ∧
      allowed (tradeGuard.canTrade strategyName instrument currentTime recentWinRate false).2 =
        false := by
  have refused : allowed (tradeGuard.canTrade strategyName instrument currentTime recentWinRate
      false).2 = false :=
    Bool.eq_false_iff.mpr fun accepted => infrequent (tradeGuard.frequency_allows _ _ accepted)
  refine ⟨?_, refused⟩
  unfold canTrade
  rw [if_neg Bool.false_ne_true]
  dsimp only
  split_ifs with full
  · rfl
  · cases measured : tradeGuard.intervalReason instrument currentTime with
    | error failure => rfl
    | ok verdict =>
      cases verdict with
      | none => exact absurd ⟨not_le.mp full, measured⟩ infrequent
      | some reason => rfl

/-- A trade is allowed exactly when the frequency allows it and no cooldown is running. -/
theorem can_trade_allowed_iff :
    allowed (tradeGuard.canTrade strategyName instrument currentTime recentWinRate false).2 = true ↔
      tradeGuard.FrequencyAllows strategyName instrument currentTime recentWinRate ∧
        (tradeGuard.Open instrument ∨ tradeGuard.Expired instrument currentTime) := by
  by_cases frequent : tradeGuard.FrequencyAllows strategyName instrument currentTime recentWinRate
  · rw [can_trade_frequent frequent, and_iff_right frequent]
    by_cases isOpen : tradeGuard.Open instrument
    · rw [cooldown_rule_open isOpen]
      exact iff_of_true rfl (.inl isOpen)
    · by_cases expired : tradeGuard.Expired instrument currentTime
      · rw [cooldown_rule_expired isOpen expired]
        exact iff_of_true rfl (.inr expired)
      · rw [(cooldown_rule_running isOpen expired _).2]
        exact iff_of_false Bool.false_ne_true (not_or.mpr ⟨isOpen, expired⟩)
  · rw [(can_trade_infrequent frequent).2]
    exact iff_of_false Bool.false_ne_true fun both => frequent both.1

/-- What a question does to the guard: a cooldown that is over is forgotten. -/
theorem can_trade_guard :
    (tradeGuard.canTrade strategyName instrument currentTime recentWinRate false).1 =
      if tradeGuard.FrequencyAllows strategyName instrument currentTime recentWinRate ∧
          ¬tradeGuard.Open instrument ∧ tradeGuard.Expired instrument currentTime then
        tradeGuard.clearLosses instrument
      else tradeGuard := by
  by_cases frequent : tradeGuard.FrequencyAllows strategyName instrument currentTime recentWinRate
  · rw [can_trade_frequent frequent]
    by_cases isOpen : tradeGuard.Open instrument
    · rw [cooldown_rule_open isOpen, if_neg fun all => all.2.1 isOpen]
    · by_cases expired : tradeGuard.Expired instrument currentTime
      · rw [cooldown_rule_expired isOpen expired, if_pos ⟨frequent, isOpen, expired⟩]
      · rw [(cooldown_rule_running isOpen expired _).1, if_neg fun all => expired all.2.2]
  · rw [(can_trade_infrequent frequent).1, if_neg fun all => frequent all.1]

/-- The minimal interval is kept exactly when it lies between the last trade and now. -/
theorem interval_reason_none_iff :
    tradeGuard.intervalReason instrument currentTime = .ok none ↔
      ∀ last ∈ tradeGuard.lastTradeTimes.lookup instrument,
        Apart tradeGuard.minInterval currentTime last := by
  constructor
  · exact fun measured last noted => apart_of_interval _ _ measured noted
  · intro apart
    unfold intervalReason
    cases noted : tradeGuard.lastTradeTimes.lookup instrument with
    | none => rfl
    | some last =>
      obtain ⟨elapsed, measured, long⟩ := apart last noted
      simp [measured, Except.map, not_lt.mpr long]

end Questions

end OvertradingGuard

namespace StrategyEngine

open OvertradingGuard

/-- The guard admits some signals that are executed and recorded one after the other. -/
def Admits : OvertradingGuard → List TradeSignal → Prop
  | _, [] => True
  | overtradingGuard, signal :: rest =>
    allowed (askGuard overtradingGuard signal).2 = true ∧
      Admits ((askGuard overtradingGuard signal).1.recordTrade signal.strategyName
        signal.instrument signal.timestamp) rest

instance decidableAdmits : ∀ (overtradingGuard : OvertradingGuard) (signals : List TradeSignal),
    Decidable (Admits overtradingGuard signals)
  | _, [] => inferInstanceAs (Decidable True)
  | overtradingGuard, signal :: rest =>
    have := decidableAdmits ((askGuard overtradingGuard signal).1.recordTrade signal.strategyName
      signal.instrument signal.timestamp) rest
    inferInstanceAs (Decidable (_ ∧ _))

/-- The daily limit and the minimal interval of a guard leave room for the trade of a signal. -/
def Frequent (before : OvertradingGuard) (signal : TradeSignal) : Prop :=
  before.FrequencyAllows signal.strategyName signal.instrument signal.timestamp defaultWinRate

instance (before : OvertradingGuard) (signal : TradeSignal) : Decidable (Frequent before signal) :=
  inferInstanceAs (Decidable (before.FrequencyAllows _ _ _ _))

variable (shouldReject : ℤ → Bool)

/-- The question about one of some signals finds the cooldown of an instrument over, which ends it. -/
def Reopened (before : OvertradingGuard) (signals : List TradeSignal) (instrument : String) : Prop :=
  ∃ asked ∈ signals, asked.instrument = instrument ∧ shouldReject asked.confidence = false ∧
    Frequent before asked ∧ before.Expired instrument asked.timestamp

instance (before : OvertradingGuard) (signals : List TradeSignal) (instrument : String) :
    Decidable (Reopened shouldReject before signals instrument) :=
  inferInstanceAs (Decidable (∃ asked ∈ signals, _))

/-- A signal that is handled after some others passes on its own: it has enough confidence, its trade
is frequent enough, and no cooldown is running that neither it nor an earlier signal finds over. -/
def Passes (before : OvertradingGuard) (earlier : List TradeSignal) (signal : TradeSignal) : Prop :=
  shouldReject signal.confidence = false ∧ Frequent before signal ∧
    (before.Open signal.instrument ∨
      Reopened shouldReject before (earlier ++ [signal]) signal.instrument)

instance (before : OvertradingGuard) (earlier : List TradeSignal) (signal : TradeSignal) :
    Decidable (Passes shouldReject before earlier signal) := inferInstanceAs (Decidable (_ ∧ _ ∧ _))

/-- The signals among some later ones that pass on their own. -/
def passing (before : OvertradingGuard) : List TradeSignal → List TradeSignal → List TradeSignal
  | _, [] => []
  | earlier, signal :: rest =>
    if Passes shouldReject before earlier signal then
      signal :: passing before (earlier ++ [signal]) rest
    else passing before (earlier ++ [signal]) rest

/-- The trade of a signal fits after those of some others, the newest first. -/
structure Fits (before : OvertradingGuard) (traded : List TradeSignal) (signal : TradeSignal) : Prop
    where
  limit : ((before.getTradeCount signal.strategyName signal.instrument +
    traded.countP fun other => other.strategyName = signal.strategyName ∧
      other.instrument = signal.instrument : ℕ) : ℤ) < before.maxTradesPerDay
  interval : ∀ last ∈ traded.find? fun other => other.instrument = signal.instrument,
    Apart before.minInterval signal.timestamp last.timestamp

/-- The trades of some signals fit one after the other, after those of some others. -/
def FitTogether (before : OvertradingGuard) : List TradeSignal → List TradeSignal → Prop
  | _, [] => True
  | traded, signal :: rest =>
    Fits before traded signal ∧ FitTogether before (signal :: traded) rest

section Validation

variable {shouldReject} {before overtradingGuard : OvertradingGuard}
  {earlier more : List TradeSignal} {signal : TradeSignal} {instrument : String}

theorem Reopened.append (reopened : Reopened shouldReject before earlier instrument)
    (more : List TradeSignal) : Reopened shouldReject before (earlier ++ more) instrument := by
  obtain ⟨asked, among, found⟩ := reopened
  exact ⟨asked, List.mem_append_left _ among, found⟩

/-- A question about one more signal reopens the instrument of the signal, if any. -/
theorem reopened_append_one :
    Reopened shouldReject before (earlier ++ [signal]) instrument ↔
      Reopened shouldReject before earlier instrument ∨
        signal.instrument = instrument ∧ shouldReject signal.confidence = false ∧
          Frequent before signal ∧ before.Expired instrument signal.timestamp := by
  constructor
  · rintro ⟨asked, among, found⟩
    rcases List.mem_append.mp among with past | now
    · exact .inl ⟨asked, past, found⟩
    · obtain rfl := List.mem_singleton.mp now
      exact .inr found
  · rintro (reopened | found)
    · exact reopened.append [signal]
    · exact ⟨signal, by simp, found⟩

/-- What the questions about some signals have made of a guard. -/
structure Asked (shouldReject : ℤ → Bool) (before : OvertradingGuard) (earlier : List TradeSignal)
    (overtradingGuard : OvertradingGuard) : Prop where
  same : before.SameFrequency overtradingGuard
  sameDuration : overtradingGuard.cooldownDuration = before.cooldownDuration
  reopened : ∀ instrument, Reopened shouldReject before earlier instrument →
    overtradingGuard.Open instrument
  untouched : ∀ instrument, ¬Reopened shouldReject before earlier instrument →
    overtradingGuard.losses instrument = before.losses instrument ∧
      overtradingGuard.cooldownStart.lookup instrument = before.cooldownStart.lookup instrument

theorem Asked.frequent_iff (asked : Asked shouldReject before earlier overtradingGuard) :
    Frequent overtradingGuard signal ↔ Frequent before signal := by
  obtain ⟨sameLimit, sameInterval, counts, times⟩ := asked.same
  simp only [Frequent, FrequencyAllows, getTradeCount, effectiveLimit, intervalReason, sameLimit,
    sameInterval, counts, times]

theorem Asked.open_iff (asked : Asked shouldReject before earlier overtradingGuard)
    (unasked : ¬Reopened shouldReject before earlier instrument) :
    overtradingGuard.Open instrument ↔ before.Open instrument := by
  obtain ⟨sameLosses, sameStart⟩ := asked.untouched instrument unasked
  rw [OvertradingGuard.Open, OvertradingGuard.Open, sameLosses, sameStart]

theorem Asked.expired_iff (asked : Asked shouldReject before earlier overtradingGuard)
    (unasked : ¬Reopened shouldReject before earlier instrument) {currentTime : Moment} :
    overtradingGuard.Expired instrument currentTime ↔ before.Expired instrument currentTime := by
  obtain ⟨_, sameStart⟩ := asked.untouched instrument unasked
  rw [Expired, Expired, sameStart, asked.sameDuration]

/-- The questions about earlier signals decide about a signal as `Passes` says. -/
theorem Asked.allowed_iff (asked : Asked shouldReject before earlier overtradingGuard)
    (confident : shouldReject signal.confidence = false) :
    allowed (askGuard overtradingGuard signal).2 = true ↔
      Passes shouldReject before earlier signal := by
  have verdict : allowed (askGuard overtradingGuard signal).2 = true ↔
      Frequent overtradingGuard signal ∧ (overtradingGuard.Open signal.instrument ∨
        overtradingGuard.Expired signal.instrument signal.timestamp) := can_trade_allowed_iff
  rw [verdict, asked.frequent_iff, Passes, and_iff_right confident, reopened_append_one]
  apply and_congr_right
  intro frequent
  by_cases past : Reopened shouldReject before earlier signal.instrument
  · exact iff_of_true (.inl (asked.reopened _ past)) (.inr (.inl past))
  · rw [asked.open_iff past, asked.expired_iff past, or_iff_right past]
    simp only [confident, frequent, true_and]

/-- A signal without enough confidence is not asked about. -/
theorem Asked.skip (asked : Asked shouldReject before earlier overtradingGuard)
    (rejected : shouldReject signal.confidence = true) :
    Asked shouldReject before (earlier ++ [signal]) overtradingGuard := by
  have none : ∀ instrument, Reopened shouldReject before (earlier ++ [signal]) instrument ↔
      Reopened shouldReject before earlier instrument := by
    intro instrument
    rw [reopened_append_one, rejected]
    simp
  exact ⟨asked.same, asked.sameDuration, fun instrument found =>
    asked.reopened instrument ((none instrument).mp found), fun instrument unasked =>
    asked.untouched instrument fun found => unasked ((none instrument).mpr found)⟩

/-- What a question leaves of a guard. -/
theorem ask_guard_left : (askGuard overtradingGuard signal).1 =
    if Frequent overtradingGuard signal ∧ ¬overtradingGuard.Open signal.instrument ∧
        overtradingGuard.Expired signal.instrument signal.timestamp then
      overtradingGuard.clearLosses signal.instrument else overtradingGuard := can_trade_guard

/-- What an earlier question has opened stays open. -/
theorem Asked.still_open (asked : Asked shouldReject before earlier overtradingGuard)
    (past : Reopened shouldReject before earlier instrument) :
    (askGuard overtradingGuard signal).1.Open instrument := by
  have openBefore := asked.reopened instrument past
  rw [ask_guard_left]
  split_ifs with ended
  · by_cases same : instrument = signal.instrument
    · exact absurd (same ▸ openBefore) ended.2.1
    · obtain ⟨sameLosses, sameStart⟩ := overtradingGuard.clear_losses_other same
      rw [OvertradingGuard.Open, sameLosses, sameStart]
      exact openBefore
  · exact openBefore

/-- A question about a frequent enough signal after the end of a cooldown leaves its instrument
open. -/
theorem Asked.opens (asked : Asked shouldReject before earlier overtradingGuard)
    (frequent : Frequent before signal)
    (expired : before.Expired signal.instrument signal.timestamp) :
    (askGuard overtradingGuard signal).1.Open signal.instrument := by
  rw [ask_guard_left]
  split_ifs with ended
  · exact .inr (lookup_clear_losses _ _)
  -- a cooldown that is not over here was ended by an earlier question
  · by_contra closed
    have unasked : ¬Reopened shouldReject before earlier signal.instrument :=
      fun past => closed (asked.reopened _ past)
    exact ended ⟨asked.frequent_iff.mpr frequent, closed, (asked.expired_iff unasked).mpr expired⟩

/-- A question leaves an instrument alone whose cooldown no question has ended. -/
theorem Asked.leaves (asked : Asked shouldReject before earlier overtradingGuard)
    (confident : shouldReject signal.confidence = false)
    (unasked : ¬Reopened shouldReject before (earlier ++ [signal]) instrument) :
    (askGuard overtradingGuard signal).1.losses instrument = before.losses instrument ∧
      (askGuard overtradingGuard signal).1.cooldownStart.lookup instrument =
        before.cooldownStart.lookup instrument := by
  have unaskedBefore : ¬Reopened shouldReject before earlier instrument :=
    fun past => unasked (past.append [signal])
  rw [ask_guard_left]
  split_ifs with ended
  · by_cases same : instrument = signal.instrument
    · subst same
      obtain ⟨frequent, _, expired⟩ := ended
      exact absurd (reopened_append_one.mpr (.inr ⟨rfl, confident, asked.frequent_iff.mp frequent,
        (asked.expired_iff unaskedBefore).mp expired⟩)) unasked
    · obtain ⟨sameLosses, sameStart⟩ := overtradingGuard.clear_losses_other same
      rw [sameLosses, sameStart]
      exact asked.untouched instrument unaskedBefore
  · exact asked.untouched instrument unaskedBefore

/-- One more question. -/
theorem Asked.next (asked : Asked shouldReject before earlier overtradingGuard)
    (confident : shouldReject signal.confidence = false) :
    Asked shouldReject before (earlier ++ [signal]) (askGuard overtradingGuard signal).1 := by
  have same := can_trade_same overtradingGuard signal.strategyName signal.instrument signal.timestamp
    defaultWinRate false
  have kept := asked.same
  refine ⟨⟨same.sameLimit.trans kept.sameLimit, same.sameInterval.trans kept.sameInterval,
    same.counts.trans kept.counts, same.times.trans kept.times⟩, ?_, ?_, ?_⟩
  · rw [ask_guard_left]
    split_ifs <;> exact asked.sameDuration
  · intro instrument found
    rcases reopened_append_one.mp found with past | ⟨rfl, _, frequent, expired⟩
    · exact asked.still_open past
    · exact asked.opens frequent expired
  · intro instrument unasked
    exact asked.leaves confident unasked

/-- The engine returns the signals that pass on their own. The induction is on the signals. -/
theorem Asked.validate_signals {signals returned : List TradeSignal}
    (asked : Asked shouldReject before earlier overtradingGuard)
    (validated : (validateSignals shouldReject signals overtradingGuard).2 = .ok returned) :
    returned = passing shouldReject before earlier signals ∧
      Asked shouldReject before (earlier ++ signals)
        (validateSignals shouldReject signals overtradingGuard).1 := by
  induction signals generalizing earlier overtradingGuard returned with
  | nil =>
    obtain rfl := Except.ok.inj validated
    rw [List.append_nil]
    exact ⟨rfl, asked⟩
  | cons signal rest inductionHypothesis =>
    rw [validateSignals] at validated ⊢
    rw [passing, show earlier ++ signal :: rest = earlier ++ [signal] ++ rest by simp]
    by_cases rejected : shouldReject signal.confidence = true
    · rw [if_pos rejected] at validated ⊢
      rw [if_neg fun passes : Passes shouldReject before earlier signal =>
        Bool.false_ne_true (passes.1.symm.trans rejected)]
      exact inductionHypothesis (asked.skip rejected) validated
    · have confident : shouldReject signal.confidence = false := by simpa using rejected
      have verdict := asked.allowed_iff confident
      have next := asked.next confident
      rw [if_neg rejected] at validated ⊢
      rcases question : askGuard overtradingGuard signal with ⟨after, failure | decision⟩
      · rw [question] at validated
        exact absurd validated (by simp)
      · rw [question] at validated verdict next
        dsimp only at validated verdict next ⊢
        cases later : (validateSignals shouldReject rest after).2 with
        | error failure =>
          rw [later] at validated
          exact absurd validated (by simp [Except.map])
        | ok signals =>
          rw [later] at validated
          obtain ⟨rfl, kept⟩ := inductionHypothesis next later
          refine ⟨?_, kept⟩
          obtain rfl := Except.ok.inj validated
          by_cases passes : Passes shouldReject before earlier signal
          · have permitted : decision.allowed = true := verdict.mpr passes
            simp only [if_pos passes, if_pos permitted]
          · have refused : ¬decision.allowed = true := fun permitted => passes (verdict.mp permitted)
            simp only [if_neg passes, if_neg refused]

/-- A signal that passes is frequent enough, and its instrument is open in the end. -/
theorem Asked.of_mem_passing {signals : List TradeSignal}
    (asked : Asked shouldReject before (earlier ++ signals) overtradingGuard)
    (among : signal ∈ passing shouldReject before earlier signals) :
    Frequent before signal ∧ overtradingGuard.Open signal.instrument := by
  induction signals generalizing earlier with
  | nil => simp [passing] at among
  | cons first rest inductionHypothesis =>
    rw [show earlier ++ first :: rest = earlier ++ [first] ++ rest by simp] at asked
    rw [passing] at among
    split_ifs at among with passes
    · rcases List.mem_cons.mp among with rfl | later
      · refine ⟨passes.2.1, ?_⟩
        by_cases found : Reopened shouldReject before (earlier ++ [signal] ++ rest) signal.instrument
        · exact asked.reopened _ found
        · refine (asked.open_iff found).mpr ?_
          exact passes.2.2.resolve_right fun now => found (now.append rest)
      · exact inductionHypothesis asked later
    · exact inductionHypothesis asked among

end Validation

section Trading

variable {before overtradingGuard : OvertradingGuard} {traded : List TradeSignal}
  {signal : TradeSignal}

/-- A guard after the trades of some signals, the newest first, that were recorded since. -/
structure Recorded (before : OvertradingGuard) (traded : List TradeSignal)
    (overtradingGuard : OvertradingGuard) : Prop where
  sameLimit : overtradingGuard.maxTradesPerDay = before.maxTradesPerDay
  sameInterval : overtradingGuard.minInterval = before.minInterval
  counts : ∀ strategyName instrument, overtradingGuard.getTradeCount strategyName instrument =
    before.getTradeCount strategyName instrument +
      traded.countP fun other => other.strategyName = strategyName ∧ other.instrument = instrument
  times : ∀ instrument, overtradingGuard.lastTradeTimes.lookup instrument =
    ((traded.find? fun other => other.instrument = instrument).map (·.timestamp)).or
      (before.lastTradeTimes.lookup instrument)

/-- The trade of a signal that was frequent enough still is, exactly when it fits. -/
theorem Recorded.frequent_iff (recorded : Recorded before traded overtradingGuard)
    (frequent : Frequent before signal) :
    Frequent overtradingGuard signal ↔ Fits before traded signal := by
  have limit : ∀ tradeGuard : OvertradingGuard,
      (tradeGuard.effectiveLimit defaultWinRate).1 = tradeGuard.maxTradesPerDay := by
    intro tradeGuard
    rw [effectiveLimit, if_neg (by norm_num [defaultWinRate, Constants.winRateThrottleThreshold])]
  have apart := interval_reason_none_iff.mp frequent.2
  rw [Frequent, FrequencyAllows, limit, interval_reason_none_iff, recorded.sameLimit,
    recorded.counts, recorded.times, recorded.sameInterval]
  cases last : traded.find? fun other => other.instrument = signal.instrument with
  | none =>
    exact ⟨fun both => ⟨both.1, by simp [last]⟩, fun fits => ⟨fits.limit, by simpa using apart⟩⟩
  | some newest =>
    refine ⟨fun both => ⟨both.1, ?_⟩, fun fits => ⟨fits.limit, ?_⟩⟩
    · simpa [last] using both.2
    · simpa [last] using fits.interval

/-- One more trade is recorded. -/
theorem Recorded.record (recorded : Recorded before traded overtradingGuard)
    (signal : TradeSignal) : Recorded before (signal :: traded)
      (overtradingGuard.recordTrade signal.strategyName signal.instrument signal.timestamp) := by
  refine ⟨recorded.sameLimit, recorded.sameInterval, ?_, ?_⟩
  · intro strategyName instrument
    rw [record_trade_count, recorded.counts, List.countP_cons, Nat.add_assoc]
    simp
  · intro instrument
    by_cases same : instrument = signal.instrument
    · subst same
      simp [recordTrade]
    · rw [List.find?_cons_of_neg (by simpa using fun equal => same equal.symm), ← recorded.times]
      exact AList.lookup_insert_ne same

/-- The guard admits signals, each of which is frequent enough alone and finds its instrument open,
exactly when their trades fit together. The induction is on the signals. -/
theorem Recorded.admits_iff {signals : List TradeSignal}
    (recorded : Recorded before traded overtradingGuard)
    (alone : ∀ signal ∈ signals, Frequent before signal ∧ overtradingGuard.Open signal.instrument) :
    Admits overtradingGuard signals ↔ FitTogether before traded signals := by
  induction signals generalizing traded overtradingGuard with
  | nil => exact Iff.rfl
  | cons signal rest inductionHypothesis =>
    obtain ⟨frequent, isOpen⟩ := alone signal List.mem_cons_self
    have verdict : allowed (askGuard overtradingGuard signal).2 = true ↔
        Frequent overtradingGuard signal ∧ (overtradingGuard.Open signal.instrument ∨
          overtradingGuard.Expired signal.instrument signal.timestamp) := can_trade_allowed_iff
    have unchanged : (askGuard overtradingGuard signal).1 = overtradingGuard :=
      can_trade_guard.trans (if_neg fun ended => ended.2.1 isOpen)
    rw [Admits, FitTogether, verdict, and_iff_left (Or.inl isOpen), recorded.frequent_iff frequent,
      unchanged]
    apply and_congr_right
    intro _
    apply inductionHypothesis (recorded.record signal)
    exact fun other later => alone other (List.mem_cons_of_mem signal later)

end Trading

variable {Regime : Type} [DecidableEq Regime]

/-- For every engine, guard and snapshot for which signals are generated and some of them returned:
the guard admits the returned signals one after the other exactly when the trades of the generated
signals that pass on their own fit together. -/
theorem returned_signals_admitted_iff (engine : StrategyEngine Regime) (marketData : MarketData)
    (accountState : AccountState) (signals returned : List TradeSignal)
    (generated : (engine.signalsFor marketData accountState).2 = .ok signals)
    (ended : (engine.processMarketData marketData accountState).2 = .ok returned) :
    Admits (engine.processMarketData marketData accountState).1.overtradingGuard returned ↔
      FitTogether engine.overtradingGuard []
        (passing engine.shouldReject engine.overtradingGuard [] signals) := by
  obtain ⟨sameGuard, sameScorer⟩ := engine.signals_for_frame marketData accountState
  rcases pipeline : engine.signalsFor marketData accountState with ⟨updated, outcome⟩
  rw [pipeline] at generated sameGuard sameScorer
  obtain rfl : outcome = .ok signals := generated
  dsimp only at sameGuard sameScorer
  simp only [processMarketData, pipeline] at ended ⊢
  rw [sameGuard, sameScorer] at ended ⊢
  have unasked : Asked engine.shouldReject engine.overtradingGuard [] engine.overtradingGuard :=
    ⟨⟨rfl, rfl, rfl, rfl⟩, rfl, fun _ found => by simp [Reopened] at found, fun _ _ => ⟨rfl, rfl⟩⟩
  obtain ⟨rfl, asked⟩ := unasked.validate_signals ended
  have frequency := asked.same
  have untraded : Recorded engine.overtradingGuard []
      (validateSignals engine.shouldReject signals engine.overtradingGuard).1 := by
    refine ⟨frequency.sameLimit, frequency.sameInterval, fun strategyName instrument => ?_,
      fun instrument => ?_⟩
    · rw [getTradeCount, frequency.counts]
      rfl
    · rw [frequency.times]
      rfl
  exact untraded.admits_iff fun signal among => asked.of_mem_passing among

/-- A strategy that always buys the instrument of the snapshot, with its signal. -/
def buySignal (name : String) (marketData : MarketData) : TradeSignal where
  instrument := marketData.instrument
  direction := "LONG"
  entryPrice := marketData.ask
  stopLoss := marketData.bid * (99 / 100)
  takeProfit := marketData.ask * (102 / 100)
  confidence := 80
  strategyName := name
  timestamp := marketData.timestamp

def buyer (name : String) : BaseStrategy Unit where
  name := name
  generateSignal marketData _ := .ok (some (buySignal name marketData))
  getBacktestSharpe _ := .ok 1

/-- An engine with some buyers and a new guard. -/
def buyers (names : List String) : StrategyEngine Unit :=
  create (names.map buyer) (fun _ _ _ => ()) (· < 60) OvertradingGuard.create ()

/-- A snapshot at noon. -/
def noon : MarketData :=
  { instrument := "EURUSD", bid := 11 / 10, ask := 11 / 10, timestamp := ⟨43200, false⟩ }

/-- The only signal at noon is admitted. -/
theorem single_signal_admitted :
    Admits ((buyers ["momentum"]).processMarketData noon ⟨20000, 0⟩).1.overtradingGuard
        [buySignal "momentum" noon] ↔
      FitTogether (buyers ["momentum"]).overtradingGuard []
        (passing (buyers ["momentum"]).shouldReject (buyers ["momentum"]).overtradingGuard []
          [buySignal "momentum" noon]) :=
  returned_signals_admitted_iff (buyers ["momentum"]) noon ⟨20000, 0⟩ [buySignal "momentum" noon]
    [buySignal "momentum" noon] (by decide +kernel) (by decide +kernel)

/-- Two strategies buy at noon. Both signals are returned, and the guard refuses the second once the
first is recorded. -/
theorem second_signal_refused :
    ((buyers ["momentum", "breakout"]).processMarketData noon ⟨20000, 0⟩).2 =
        .ok [buySignal "momentum" noon, buySignal "breakout" noon] ∧
      ¬Admits ((buyers ["momentum", "breakout"]).processMarketData noon
        ⟨20000, 0⟩).1.overtradingGuard
          [buySignal "momentum" noon, buySignal "breakout" noon] := by
  decide +kernel

end StrategyEngine

end IgTradingBot
