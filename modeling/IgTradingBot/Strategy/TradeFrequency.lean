import IgTradingBot.Strategy.OvertradingGuard
import Mathlib.Data.List.Basic
import Mathlib.Tactic.Linarith

/-!
# Frequency of trades

Runs in which a trade is recorded only right after the guard allowed it, as a signal that is not
one of high-frequency trading and at the same time. The ledger keeps the trades themselves, next
to the counts of the day and the last times that the guard keeps.
-/

namespace IgTradingBot

namespace OvertradingGuard

/-- A trade was allowed. -/
def allowed : Except Failure TradeDecision → Bool
  | .ok decision => decision.allowed
  | .error _ => false

/-- A trade that was recorded, with the win rate of its check. -/
structure CheckedTrade where
  strategyName : String
  instrument : String
  time : Moment
  recentWinRate : ℚ

/-- Moves of a run: a trade with its check, a question without a trade, a result, or the end of
the day. -/
inductive Move where
  | trade (strategyName instrument : String) (time : Moment) (recentWinRate : ℚ)
  | canTrade (strategyName instrument : String) (currentTime : Moment) (recentWinRate : ℚ)
      (isHftSignal : Bool)
  | recordLoss (instrument : String) (utcnow : ℚ)
  | recordWin (instrument : String)
  | resetDaily

/-- A guard, the trades since the last reset and those before it, the newest first. -/
structure Ledger where
  tradeGuard : OvertradingGuard
  today : List CheckedTrade := []
  before : List CheckedTrade := []

namespace Ledger

/-- All trades, the newest first. -/
def trades (ledger : Ledger) : List CheckedTrade := ledger.today ++ ledger.before

/-- The trades of a strategy on an instrument since the last reset. -/
def todayOf (ledger : Ledger) (strategyName instrument : String) : List CheckedTrade :=
  ledger.today.filter fun trade =>
    trade.strategyName = strategyName ∧ trade.instrument = instrument

/-- A trade is recorded when its check allows it. -/
def step (ledger : Ledger) : Move → Ledger
  | .trade strategyName instrument time recentWinRate =>
    let answer := ledger.tradeGuard.canTrade strategyName instrument time recentWinRate false
    if allowed answer.2 then
      { ledger with
        tradeGuard := answer.1.recordTrade strategyName instrument time
        today := ⟨strategyName, instrument, time, recentWinRate⟩ :: ledger.today }
    else { ledger with tradeGuard := answer.1 }
  | .canTrade strategyName instrument currentTime recentWinRate isHftSignal =>
    { ledger with
      tradeGuard := (ledger.tradeGuard.canTrade strategyName instrument currentTime recentWinRate
        isHftSignal).1 }
  | .recordLoss instrument utcnow =>
    { ledger with tradeGuard := ledger.tradeGuard.recordLoss instrument utcnow }
  | .recordWin instrument => { ledger with tradeGuard := ledger.tradeGuard.recordWin instrument }
  | .resetDaily =>
    { tradeGuard := ledger.tradeGuard.resetDaily
      today := []
      before := ledger.trades }

end Ledger

/-- The time of a trade that is tried. -/
def Move.time : Move → Option Moment
  | .trade _ _ time _ => some time
  | _ => none

/-- Two moments that can be compared are in order. -/
def InOrder (first second : Moment) : Prop :=
  first.aware = second.aware → first.seconds ≤ second.seconds

instance (first second : Moment) : Decidable (InOrder first second) :=
  inferInstanceAs (Decidable (_ → _))

/-- At least an interval lies between two moments. -/
def Apart (interval : ℚ) (later earlier : Moment) : Prop :=
  ∃ elapsed, later.since earlier = .ok elapsed ∧ interval ≤ elapsed

section Checks

variable (tradeGuard : OvertradingGuard) (strategyName instrument : String)

/-- A trade that is allowed keeps to the daily limit and the minimal interval. -/
theorem frequency_allows {currentTime : Moment} {recentWinRate : ℚ}
    (accepted : allowed (tradeGuard.canTrade strategyName instrument currentTime recentWinRate
      false).2 = true) :
    tradeGuard.FrequencyAllows strategyName instrument currentTime recentWinRate := by
  unfold canTrade at accepted
  rw [if_neg Bool.false_ne_true] at accepted
  dsimp only at accepted
  by_cases full : (tradeGuard.effectiveLimit recentWinRate).1 ≤
      tradeGuard.getTradeCount strategyName instrument
  · rw [if_pos full] at accepted
    exact absurd accepted (by simp [allowed])
  · rw [if_neg full] at accepted
    refine ⟨not_le.mp full, ?_⟩
    cases measured : tradeGuard.intervalReason instrument currentTime with
    | error failure => simp [measured, allowed] at accepted
    | ok verdict =>
      cases verdict with
      | none => rfl
      | some reason => simp [measured, allowed] at accepted

/-- The minimal interval lies between the last trade of the instrument and now. -/
theorem apart_of_interval {currentTime last : Moment}
    (measured : tradeGuard.intervalReason instrument currentTime = .ok none)
    (noted : tradeGuard.lastTradeTimes.lookup instrument = some last) :
    Apart tradeGuard.minInterval currentTime last := by
  unfold intervalReason at measured
  rw [noted] at measured
  dsimp only at measured
  cases elapsed : currentTime.since last with
  | error failure => simp [elapsed, Except.map] at measured
  | ok seconds =>
    refine ⟨seconds, elapsed, ?_⟩
    by_contra early
    simp [elapsed, Except.map, not_le.mp early] at measured

/-- A trade counts for its strategy and instrument and for no others. -/
theorem record_trade_count (time : Moment) (otherStrategy otherInstrument : String) :
    (tradeGuard.recordTrade strategyName instrument time).getTradeCount otherStrategy
        otherInstrument =
      tradeGuard.getTradeCount otherStrategy otherInstrument +
        if strategyName = otherStrategy ∧ instrument = otherInstrument then 1 else 0 := by
  unfold recordTrade getTradeCount
  dsimp only
  by_cases sameStrategy : strategyName = otherStrategy
  · subst sameStrategy
    rw [AList.lookup_insert, Option.getD_some]
    by_cases sameInstrument : instrument = otherInstrument
    · subst sameInstrument
      rw [AList.lookup_insert, Option.getD_some, if_pos ⟨rfl, rfl⟩]
    · rw [AList.lookup_insert_ne fun eq => sameInstrument eq.symm,
        if_neg fun both => sameInstrument both.2, Nat.add_zero]
  · rw [AList.lookup_insert_ne fun eq => sameStrategy eq.symm,
      if_neg fun both => sameStrategy both.1, Nat.add_zero]

end Checks

/-- Two guards with the same limits, counts and times of trades. -/
structure SameFrequency (tradeGuard other : OvertradingGuard) : Prop where
  sameLimit : other.maxTradesPerDay = tradeGuard.maxTradesPerDay
  sameInterval : other.minInterval = tradeGuard.minInterval
  counts : other.tradeCounts = tradeGuard.tradeCounts
  times : other.lastTradeTimes = tradeGuard.lastTradeTimes

/-- A question leaves the counts and times of trades alone. -/
theorem can_trade_same (tradeGuard : OvertradingGuard) (strategyName instrument : String)
    (currentTime : Moment) (recentWinRate : ℚ) (isHftSignal : Bool) :
    tradeGuard.SameFrequency
      (tradeGuard.canTrade strategyName instrument currentTime recentWinRate isHftSignal).1 := by
  obtain unchanged | ⟨-, cleared⟩ := tradeGuard.can_trade_cases strategyName instrument
    currentTime recentWinRate isHftSignal
  · rw [unchanged]
    exact ⟨rfl, rfl, rfl, rfl⟩
  · rw [cleared]
    exact ⟨rfl, rfl, rfl, rfl⟩

/-- A loss leaves the counts and times of trades alone. -/
theorem record_loss_same_frequency (tradeGuard : OvertradingGuard) (instrument : String)
    (utcnow : ℚ) : tradeGuard.SameFrequency (tradeGuard.recordLoss instrument utcnow) := by
  unfold recordLoss
  dsimp only
  split_ifs <;> exact ⟨rfl, rfl, rfl, rfl⟩

namespace Ledger

/-- The counts of the guard are those of the trades of the day and keep to the limits. The last
time of an instrument is that of its newest trade, and every older one is an interval apart. -/
structure Balanced (limit : ℤ) (interval : ℚ) (ledger : Ledger) : Prop where
  sameLimit : ledger.tradeGuard.maxTradesPerDay = limit
  sameInterval : ledger.tradeGuard.minInterval = interval
  counts : ∀ strategyName instrument, ledger.tradeGuard.getTradeCount strategyName instrument =
    (ledger.todayOf strategyName instrument).length
  limited : ∀ strategyName instrument,
    ((ledger.todayOf strategyName instrument).length : ℤ) ≤ limit
  throttled : ∀ strategyName instrument,
    (∀ trade ∈ ledger.todayOf strategyName instrument,
      trade.recentWinRate < Constants.winRateThrottleThreshold) →
    ((ledger.todayOf strategyName instrument).length : ℤ) ≤ max 1 (limit / 2)
  newest : ∀ trade ∈ ledger.trades,
    ∃ last ∈ ledger.tradeGuard.lastTradeTimes.lookup trade.instrument,
      last = trade.time ∨ Apart interval last trade.time
  spaced : ledger.trades.Pairwise fun later earlier =>
    later.instrument = earlier.instrument → Apart interval later.time earlier.time

variable {limit : ℤ} {interval : ℚ} {ledger : Ledger}

/-- The accounts read the counts and times of trades only. -/
theorem Balanced.of_same (balanced : ledger.Balanced limit interval) {other : OvertradingGuard}
    (same : ledger.tradeGuard.SameFrequency other) :
    Balanced limit interval { ledger with tradeGuard := other } where
  sameLimit := same.sameLimit.trans balanced.sameLimit
  sameInterval := same.sameInterval.trans balanced.sameInterval
  counts strategyName instrument := by
    unfold getTradeCount
    rw [same.counts]
    exact balanced.counts strategyName instrument
  limited := balanced.limited
  throttled := balanced.throttled
  newest := by
    rw [same.times]
    exact balanced.newest
  spaced := balanced.spaced

/-- A trade after the minimal interval is apart from every trade of its instrument. -/
theorem Balanced.apart_from_all (balanced : ledger.Balanced limit interval)
    {instrument : String} {time : Moment}
    (measured : ledger.tradeGuard.intervalReason instrument time = .ok none)
    {trade : CheckedTrade} (among : trade ∈ ledger.trades) (same : trade.instrument = instrument)
    (ordered : InOrder trade.time time) : Apart interval time trade.time := by
  subst same
  obtain ⟨last, noted, isTrade | afterTrade⟩ := balanced.newest trade among
  · rw [← isTrade, ← balanced.sameInterval]
    exact apart_of_interval _ _ measured noted
  · obtain ⟨first, firstElapsed, firstLong⟩ := apart_of_interval _ _ measured noted
    obtain ⟨second, secondElapsed, secondLong⟩ := afterTrade
    rw [balanced.sameInterval] at firstLong
    unfold Moment.since at firstElapsed secondElapsed
    split_ifs at firstElapsed secondElapsed with sameFirst sameSecond
    have firstValue := Except.ok.inj firstElapsed
    have secondValue := Except.ok.inj secondElapsed
    have alike : time.aware = trade.time.aware := sameFirst.trans sameSecond
    have forward := ordered alike.symm
    refine ⟨time.seconds - trade.time.seconds, if_pos alike, ?_⟩
    -- two intervals are one at least, unless the interval is negative
    obtain nonneg | negative := le_or_gt 0 interval
    · linarith only [firstValue, secondValue, firstLong, secondLong, nonneg]
    · linarith only [forward, negative]

/-- The effective limit is the daily one or the half of it. -/
theorem effective_limit_cases (tradeGuard : OvertradingGuard) (recentWinRate : ℚ) :
    recentWinRate < Constants.winRateThrottleThreshold ∧
        (tradeGuard.effectiveLimit recentWinRate).1 = max 1 (tradeGuard.maxTradesPerDay / 2) ∨
      ¬recentWinRate < Constants.winRateThrottleThreshold ∧
        (tradeGuard.effectiveLimit recentWinRate).1 = tradeGuard.maxTradesPerDay := by
  unfold effectiveLimit
  by_cases low : recentWinRate < Constants.winRateThrottleThreshold
  · rw [if_pos low]
    exact .inl ⟨low, rfl⟩
  · rw [if_neg low]
    exact .inr ⟨low, rfl⟩

/-- The trades of the day after one more. -/
theorem today_of_cons (trade : CheckedTrade) (tradeGuard : OvertradingGuard)
    (strategyName instrument : String) :
    todayOf { ledger with tradeGuard := tradeGuard, today := trade :: ledger.today } strategyName
        instrument =
      if trade.strategyName = strategyName ∧ trade.instrument = instrument then
        trade :: ledger.todayOf strategyName instrument
      else ledger.todayOf strategyName instrument := by
  unfold todayOf
  dsimp only
  rw [List.filter_cons]
  simp only [decide_eq_true_eq]

/-- A trade that its check allows finds room below the limit, and below the half of it where its
win rate is low. -/
theorem Balanced.room (balanced : ledger.Balanced limit interval) (positive : 1 ≤ limit)
    {strategyName instrument : String} {time : Moment} {recentWinRate : ℚ}
    (allows : ledger.tradeGuard.FrequencyAllows strategyName instrument time recentWinRate) :
    ((ledger.todayOf strategyName instrument).length : ℤ) + 1 ≤ limit ∧
      (recentWinRate < Constants.winRateThrottleThreshold →
        ((ledger.todayOf strategyName instrument).length : ℤ) + 1 ≤ max 1 (limit / 2)) := by
  have room := allows.1
  rw [balanced.counts] at room
  obtain ⟨-, half⟩ | ⟨high, whole⟩ := effective_limit_cases ledger.tradeGuard recentWinRate
  · rw [half, balanced.sameLimit] at room
    exact ⟨by omega, fun _ => room⟩
  · rw [whole, balanced.sameLimit] at room
    exact ⟨room, fun low => absurd low high⟩

/-- A trade that its check allows keeps the accounts. -/
theorem Balanced.record (balanced : ledger.Balanced limit interval) (positive : 1 ≤ limit)
    {strategyName instrument : String} {time : Moment} {recentWinRate : ℚ}
    (allows : ledger.tradeGuard.FrequencyAllows strategyName instrument time recentWinRate)
    (ordered : ∀ trade ∈ ledger.trades, InOrder trade.time time) :
    Balanced limit interval
      { ledger with
        tradeGuard := ledger.tradeGuard.recordTrade strategyName instrument time
        today := ⟨strategyName, instrument, time, recentWinRate⟩ :: ledger.today } where
  sameLimit := balanced.sameLimit
  sameInterval := balanced.sameInterval
  counts otherStrategy otherInstrument := by
    rw [record_trade_count, balanced.counts, today_of_cons]
    split_ifs
    · rw [List.length_cons]
    · rw [Nat.add_zero]
  limited otherStrategy otherInstrument := by
    rw [today_of_cons]
    split_ifs with same
    · obtain ⟨rfl, rfl⟩ := same
      rw [List.length_cons, Nat.cast_succ]
      exact (balanced.room positive allows).1
    · exact balanced.limited otherStrategy otherInstrument
  throttled otherStrategy otherInstrument := by
    rw [today_of_cons]
    split_ifs with same
    · obtain ⟨rfl, rfl⟩ := same
      intro low
      rw [List.length_cons, Nat.cast_succ]
      exact (balanced.room positive allows).2 (low _ List.mem_cons_self)
    · exact balanced.throttled otherStrategy otherInstrument
  newest := by
    intro trade among
    change trade ∈ _ :: ledger.trades at among
    change ∃ last ∈ (ledger.tradeGuard.lastTradeTimes.insert instrument time).lookup
      trade.instrument, _
    obtain rfl | older := List.mem_cons.mp among
    · exact ⟨time, AList.lookup_insert _, .inl rfl⟩
    · by_cases same : trade.instrument = instrument
      · rw [same, AList.lookup_insert]
        exact ⟨time, rfl, .inr (balanced.apart_from_all allows.2 older same (ordered trade older))⟩
      · rw [AList.lookup_insert_ne same]
        exact balanced.newest trade older
  spaced := by
    change List.Pairwise _ (_ :: ledger.trades)
    refine List.pairwise_cons.mpr ⟨fun trade older same => ?_, balanced.spaced⟩
    exact balanced.apart_from_all allows.2 older same.symm (ordered trade older)

/-- The end of a day leaves all trades, and no counts. -/
theorem Balanced.reset (balanced : ledger.Balanced limit interval) (positive : 1 ≤ limit) :
    (ledger.step .resetDaily).Balanced limit interval where
  sameLimit := balanced.sameLimit
  sameInterval := balanced.sameInterval
  counts _ _ := rfl
  limited _ _ := le_trans (by simp [step, todayOf]) positive
  throttled _ _ _ := le_trans (by simp [step, todayOf]) (le_max_left 1 (limit / 2))
  newest := balanced.newest
  spaced := balanced.spaced

/-- Every move keeps the accounts, where it does not go back behind a trade. -/
theorem Balanced.step (balanced : ledger.Balanced limit interval) (positive : 1 ≤ limit)
    (move : Move)
    (ordered : ∀ trade ∈ ledger.trades, ∀ time ∈ move.time, InOrder trade.time time) :
    (ledger.step move).Balanced limit interval := by
  cases move with
  | trade strategyName instrument time recentWinRate =>
    have same := can_trade_same ledger.tradeGuard strategyName instrument time recentWinRate false
    have checked := balanced.of_same same
    unfold Ledger.step
    dsimp only
    split_ifs with accepted
    · have allows := frequency_allows ledger.tradeGuard strategyName instrument accepted
      refine checked.record positive ⟨?_, ?_⟩ fun trade among => ordered trade among time rfl
      · have room := allows.1
        unfold effectiveLimit getTradeCount at room ⊢
        rwa [same.counts, same.sameLimit]
      · have measured := allows.2
        unfold intervalReason at measured ⊢
        rwa [same.times, same.sameInterval]
    · exact checked
  | canTrade strategyName instrument currentTime recentWinRate isHftSignal =>
    exact balanced.of_same (can_trade_same _ _ _ _ _ _)
  | recordLoss instrument utcnow => exact balanced.of_same (record_loss_same_frequency _ _ _)
  | recordWin instrument => exact balanced.of_same ⟨rfl, rfl, rfl, rfl⟩
  | resetDaily => exact balanced.reset positive

/-- A move adds no trade but the one that it tries. -/
theorem trades_step (ledger : Ledger) (move : Move) {trade : CheckedTrade}
    (among : trade ∈ (ledger.step move).trades) :
    trade ∈ ledger.trades ∨ move.time = some trade.time := by
  cases move with
  | trade strategyName instrument time recentWinRate =>
    unfold step at among
    dsimp only at among
    split_ifs at among
    · obtain rfl | older := List.mem_cons.mp among
      · exact .inr rfl
      · exact .inl older
    · exact .inl among
  | canTrade strategyName instrument currentTime recentWinRate isHftSignal => exact .inl among
  | recordLoss instrument utcnow => exact .inl among
  | recordWin instrument => exact .inl among
  | resetDaily => exact .inl among

/-- A run whose times do not go back keeps the accounts. The induction is on the moves. -/
theorem Balanced.run (balanced : ledger.Balanced limit interval) (positive : 1 ≤ limit)
    {moves : List Move}
    (behind : ∀ trade ∈ ledger.trades, ∀ time ∈ moves.filterMap Move.time,
      InOrder trade.time time)
    (ordered : (moves.filterMap Move.time).Pairwise InOrder) :
    (Machines.after Ledger.step ledger moves).Balanced limit interval := by
  induction moves generalizing ledger with
  | nil => exact balanced
  | cons move rest inductionHypothesis =>
    have ofMove : ∀ time ∈ move.time, time ∈ (move :: rest).filterMap Move.time :=
      fun time tried => List.mem_filterMap.mpr ⟨move, List.mem_cons_self, tried⟩
    have ofRest : ∀ time ∈ rest.filterMap Move.time, time ∈ (move :: rest).filterMap Move.time := by
      intro time among
      obtain ⟨later, isLater, tried⟩ := List.mem_filterMap.mp among
      exact List.mem_filterMap.mpr ⟨later, List.mem_cons_of_mem _ isLater, tried⟩
    have kept := balanced.step positive move fun trade among time tried =>
      behind trade among time (ofMove time tried)
    refine inductionHypothesis kept ?_ ?_
    · intro trade among time later
      obtain old | tried := trades_step ledger move among
      · exact behind trade old time (ofRest time later)
      · rw [List.filterMap_cons_some tried] at ordered
        exact (List.pairwise_cons.mp ordered).1 time later
    · cases tried : move.time with
      | none => rwa [List.filterMap_cons_none tried] at ordered
      | some time =>
        rw [List.filterMap_cons_some tried] at ordered
        exact (List.pairwise_cons.mp ordered).2

/-- A guard without history has no trades. -/
theorem balanced_create (maxTradesPerDay : ℤ) (minIntervalMinutes cooldownHours : ℚ) :
    Balanced (max 1 (min maxTradesPerDay 100)) (minIntervalMinutes * 60)
      { tradeGuard := create maxTradesPerDay minIntervalMinutes cooldownHours } where
  sameLimit := rfl
  sameInterval := rfl
  counts _ _ := by simp [create, getTradeCount, todayOf]
  limited _ _ := by simp [todayOf]
  throttled _ _ _ := by simp [todayOf]
  newest := by simp [trades]
  spaced := by simp [trades]

end Ledger

/-- In every run in which a trade is recorded only right after its check, and in which times do
not go back: the trades of a strategy on an instrument since the last reset are at most the daily
limit, and at most the half of it, but one at least, where all their checks had a win rate below
the throttle; and any two trades of one instrument are at least the minimal interval apart. -/
theorem frequency_is_limited (maxTradesPerDay : ℤ) (minIntervalMinutes cooldownHours : ℚ)
    (moves : List Move) (ordered : (moves.filterMap Move.time).Pairwise InOrder) :
    let ledger := Machines.after Ledger.step
      { tradeGuard := create maxTradesPerDay minIntervalMinutes cooldownHours } moves
    let limit := max 1 (min maxTradesPerDay 100)
    (∀ strategyName instrument,
      ((ledger.todayOf strategyName instrument).length : ℤ) ≤ limit ∧
        ((∀ trade ∈ ledger.todayOf strategyName instrument,
            trade.recentWinRate < Constants.winRateThrottleThreshold) →
          ((ledger.todayOf strategyName instrument).length : ℤ) ≤ max 1 (limit / 2))) ∧
      ledger.trades.Pairwise fun later earlier => later.instrument = earlier.instrument →
        Apart (minIntervalMinutes * 60) later.time earlier.time := by
  have balanced := (Ledger.balanced_create maxTradesPerDay minIntervalMinutes cooldownHours).run
    (le_max_left 1 _) (by simp [Ledger.trades]) ordered
  exact ⟨fun strategyName instrument => ⟨balanced.limited strategyName instrument,
    balanced.throttled strategyName instrument⟩, balanced.spaced⟩

/-- Of three trades that are tried within five minutes, the one in between is not recorded. -/
theorem second_trade_waits :
    (Machines.after Ledger.step { tradeGuard := create 10 5 1 }
        [.trade "scalping" "EURUSD" ⟨0, false⟩ (1 / 2), .trade "swing" "EURUSD" ⟨60, false⟩ (1 / 2),
          .trade "scalping" "EURUSD" ⟨300, false⟩ (3 / 10)]).trades.length = 2 ∧
      (((Machines.after Ledger.step { tradeGuard := create 10 5 1 }
        [.trade "scalping" "EURUSD" ⟨0, false⟩ (1 / 2), .trade "swing" "EURUSD" ⟨60, false⟩ (1 / 2),
          .trade "scalping" "EURUSD" ⟨300, false⟩ (3 / 10)]).todayOf "scalping"
            "EURUSD").length : ℤ) ≤ max 1 (min 10 100) :=
  ⟨by decide +kernel, ((frequency_is_limited 10 5 1
    [.trade "scalping" "EURUSD" ⟨0, false⟩ (1 / 2), .trade "swing" "EURUSD" ⟨60, false⟩ (1 / 2),
      .trade "scalping" "EURUSD" ⟨300, false⟩ (3 / 10)] (by decide +kernel)).1 "scalping"
    "EURUSD").1⟩

end OvertradingGuard

end IgTradingBot
