import IgTradingBot.Strategy.OvertradingGuard
import Mathlib.Tactic.Linarith

/-!
# Losing streaks and cooldowns

Three losses in a row should close an instrument for the duration of the cooldown. The guard
starts a cooldown with the third loss only. Later losses do not renew it, and a cooldown that is
over stays noted until a question finds it, so losses that come in between are counted for the
old cooldown and forgotten with it.
-/

namespace IgTradingBot

/-- The second moment is not before the first, on the same clock. -/
def Moment.NotAfter (first second : Moment) : Prop :=
  first.aware = second.aware ∧ first.seconds ≤ second.seconds

instance (first second : Moment) : Decidable (first.NotAfter second) :=
  inferInstanceAs (Decidable (_ ∧ _))

namespace OvertradingGuard

/-- The time of a call. A loss reads the clock, without a time zone. -/
def Call.moment : Call → Option Moment
  | .recordTrade _ _ time => some time
  | .recordLoss _ utcnow => some ⟨utcnow, false⟩
  | .canTrade _ _ currentTime _ _ => some currentTime
  | .recordWin _ => none
  | .resetDaily => none

/-- The calls were made on one clock that did not go back, and now is not before them. -/
def OneClock (calls : List Call) (now : ℚ) : Prop :=
  List.Pairwise Moment.NotAfter (calls.filterMap Call.moment ++ [⟨now, false⟩])

instance (calls : List Call) (now : ℚ) : Decidable (OneClock calls now) :=
  inferInstanceAs (Decidable (List.Pairwise _ _))

/-- A trade was not allowed. -/
def refused : Except Failure TradeDecision → Bool
  | .ok decision => !decision.allowed
  | .error _ => false

/-- A loss: its time, and the cooldown that was noted for its instrument when it came. -/
structure Loss where
  time : ℚ
  noted : Option Moment
  deriving DecidableEq

/-- A guard, and the losses of one instrument since its last win, the newest first. -/
structure Chronicle where
  tradeGuard : OvertradingGuard
  lossesInRow : List Loss := []

namespace Chronicle

/-- What a call adds to the losses in a row. -/
def lossesAfter (instrument : String) (chronicle : Chronicle) : Call → List Loss
  | .recordLoss lost utcnow =>
    if lost = instrument then
      ⟨utcnow, chronicle.tradeGuard.cooldownStart.lookup instrument⟩ :: chronicle.lossesInRow
    else chronicle.lossesInRow
  | .recordWin won => if won = instrument then [] else chronicle.lossesInRow
  | _ => chronicle.lossesInRow

/-- The guard makes a call, and the losses of the instrument are noted. -/
def step (instrument : String) (chronicle : Chronicle) (call : Call) : Chronicle :=
  { tradeGuard := chronicle.tradeGuard.step call
    lossesInRow := chronicle.lossesAfter instrument call }

/-- The chronicle of an instrument over the calls of a guard without history. -/
def of (maxTradesPerDay : ℤ) (minIntervalMinutes cooldownHours : ℚ)
    (instrument : String) (calls : List Call) : Chronicle :=
  Machines.after (step instrument)
    { tradeGuard := create maxTradesPerDay minIntervalMinutes cooldownHours } calls

/-- As many of the newest losses as make a streak. -/
def lastLosses (chronicle : Chronicle) : List Loss :=
  chronicle.lossesInRow.take Constants.consecutiveLossThreshold

/-- The losses in a row that the guard still counts are the newest ones, and were noted under the
present cooldown. The newest loss that it has forgotten came under a cooldown that is over, or
began one. -/
structure Accounted (instrument : String) (duration now : ℚ) (chronicle : Chronicle) : Prop where
  cooling : chronicle.tradeGuard.Cooling
  sameDuration : chronicle.tradeGuard.cooldownDuration = duration
  naiveStarts : ∀ started ∈ chronicle.tradeGuard.cooldownStart.lookup instrument,
    started.aware = false
  naiveTrades : ∀ traded, ∀ last ∈ chronicle.tradeGuard.lastTradeTimes.lookup traded,
    last.aware = false
  newest : ∀ started ∈ chronicle.tradeGuard.cooldownStart.lookup instrument,
    ∃ loss ∈ chronicle.lossesInRow[0]?, loss.noted = some started ∨ loss.time = started.seconds
  counted : ∀ loss ∈ chronicle.lossesInRow.take (chronicle.tradeGuard.losses instrument),
    ∀ started ∈ loss.noted,
      chronicle.tradeGuard.cooldownStart.lookup instrument = some started
  forgotten : ∀ loss ∈ chronicle.lossesInRow[chronicle.tradeGuard.losses instrument]?,
    (∃ started ∈ loss.noted, started.seconds + duration ≤ now) ∨ loss.time + duration ≤ now

variable {instrument : String} {duration now : ℚ} {chronicle : Chronicle}

/-- The accounts read the losses and cooldowns of the instrument only. -/
theorem Accounted.of_same {other : Chronicle}
    (accounted : Accounted instrument duration now chronicle)
    (cooling : other.tradeGuard.Cooling)
    (sameDuration : other.tradeGuard.cooldownDuration = chronicle.tradeGuard.cooldownDuration)
    (naiveTrades : ∀ traded, ∀ last ∈ other.tradeGuard.lastTradeTimes.lookup traded,
      last.aware = false)
    (sameStart : other.tradeGuard.cooldownStart.lookup instrument =
      chronicle.tradeGuard.cooldownStart.lookup instrument)
    (sameCount : other.tradeGuard.losses instrument = chronicle.tradeGuard.losses instrument)
    (sameLosses : other.lossesInRow = chronicle.lossesInRow) :
    Accounted instrument duration now other where
  cooling := cooling
  sameDuration := sameDuration.trans accounted.sameDuration
  naiveStarts := sameStart ▸ accounted.naiveStarts
  naiveTrades := naiveTrades
  newest := by
    rw [sameStart, sameLosses]
    exact accounted.newest
  counted := by
    rw [sameStart, sameLosses, sameCount]
    exact accounted.counted
  forgotten := by
    rw [sameLosses, sameCount]
    exact accounted.forgotten

/-- The losses of another instrument may be forgotten. -/
theorem Accounted.clear_other (accounted : Accounted instrument duration now chronicle)
    {cleared : String} (other : instrument ≠ cleared) :
    Accounted instrument duration now
      { chronicle with tradeGuard := chronicle.tradeGuard.clearLosses cleared } := by
  obtain ⟨sameLosses, sameStart⟩ := chronicle.tradeGuard.clear_losses_other other
  exact accounted.of_same (accounted.cooling.clear_losses cleared) rfl accounted.naiveTrades
    sameStart sameLosses rfl

/-- A win forgets the losses in a row. -/
theorem Accounted.win (accounted : Accounted instrument duration now chronicle) :
    Accounted instrument duration now
      { tradeGuard := chronicle.tradeGuard.clearLosses instrument } where
  cooling := accounted.cooling.clear_losses instrument
  sameDuration := accounted.sameDuration
  naiveStarts := by simp [lookup_clear_losses]
  naiveTrades := accounted.naiveTrades
  newest := by simp [lookup_clear_losses]
  counted := by simp
  forgotten := by simp

/-- A question that finds the cooldown over leaves all losses in a row to the forgotten ones. -/
theorem Accounted.expire (accounted : Accounted instrument duration now chronicle)
    {started : Moment}
    (noted : started ∈ chronicle.tradeGuard.cooldownStart.lookup instrument)
    (ended : started.seconds + duration ≤ now) :
    Accounted instrument duration now
      { chronicle with tradeGuard := chronicle.tradeGuard.clearLosses instrument } where
  cooling := accounted.cooling.clear_losses instrument
  sameDuration := accounted.sameDuration
  naiveStarts := by simp [lookup_clear_losses]
  naiveTrades := accounted.naiveTrades
  newest := by simp [lookup_clear_losses]
  counted := by simp [losses_clear_losses]
  forgotten := by
    rw [losses_clear_losses]
    intro loss first
    obtain ⟨head, isHead, under | began⟩ := accounted.newest started noted
    all_goals
      have same : head = loss := Option.some.inj (isHead.symm.trans first)
      subst same
    · exact .inl ⟨started, under, ended⟩
    · exact .inr (began ▸ ended)

/-- A loss changes the cooldown of its instrument only, and only where there is none. -/
theorem lookup_record_loss (tradeGuard : OvertradingGuard) (lost : String) (utcnow : ℚ)
    (instrument : String) :
    (tradeGuard.recordLoss lost utcnow).cooldownStart.lookup instrument =
      if instrument = lost ∧ lost ∉ tradeGuard.cooldownStart ∧
          Constants.consecutiveLossThreshold ≤ tradeGuard.losses lost + 1 then
        some ⟨utcnow, false⟩
      else tradeGuard.cooldownStart.lookup instrument := by
  unfold recordLoss
  dsimp only
  by_cases starts : Constants.consecutiveLossThreshold ≤ tradeGuard.losses lost + 1 ∧
      lost ∉ tradeGuard.cooldownStart
  · rw [if_pos starts]
    by_cases same : instrument = lost
    · rw [if_pos ⟨same, starts.2, starts.1⟩, same, AList.lookup_insert]
    · rw [if_neg fun both => same both.1, AList.lookup_insert_ne same]
  · rw [if_neg starts, if_neg fun all => starts ⟨all.2.2, all.2.1⟩]

/-- A cooldown that is noted stays with a loss. -/
theorem record_loss_keeps_cooldown {tradeGuard : OvertradingGuard} {instrument : String}
    {started : Moment} (utcnow : ℚ)
    (noted : started ∈ tradeGuard.cooldownStart.lookup instrument) :
    (tradeGuard.recordLoss instrument utcnow).cooldownStart.lookup instrument = some started := by
  have present := AList.lookup_isSome.mp (Option.isSome_of_mem noted)
  rw [lookup_record_loss, if_neg fun all => all.2.1 present]
  exact noted

/-- A cooldown that is noted after a loss begins with it, or was noted before. -/
theorem record_loss_cooldown_origin {tradeGuard : OvertradingGuard} {instrument : String}
    {utcnow : ℚ} {started : Moment}
    (noted : started ∈ (tradeGuard.recordLoss instrument utcnow).cooldownStart.lookup instrument) :
    started = ⟨utcnow, false⟩ ∨ started ∈ tradeGuard.cooldownStart.lookup instrument := by
  rw [lookup_record_loss] at noted
  split_ifs at noted
  · exact .inl (Option.some.inj noted).symm
  · exact .inr noted

/-- A loss leaves the duration and the times of trades alone. -/
theorem record_loss_same (tradeGuard : OvertradingGuard) (lost : String) (utcnow : ℚ) :
    (tradeGuard.recordLoss lost utcnow).cooldownDuration = tradeGuard.cooldownDuration ∧
      (tradeGuard.recordLoss lost utcnow).lastTradeTimes = tradeGuard.lastTradeTimes := by
  unfold recordLoss
  dsimp only
  split_ifs <;> exact ⟨rfl, rfl⟩

/-- A loss of the instrument is counted, and is noted under the cooldown that it finds. -/
theorem Accounted.lose (accounted : Accounted instrument duration now chronicle) (utcnow : ℚ) :
    Accounted instrument duration now
      { tradeGuard := chronicle.tradeGuard.recordLoss instrument utcnow
        lossesInRow := ⟨utcnow, chronicle.tradeGuard.cooldownStart.lookup instrument⟩ ::
          chronicle.lossesInRow } := by
  have same := record_loss_same chronicle.tradeGuard instrument utcnow
  have count : (chronicle.tradeGuard.recordLoss instrument utcnow).losses instrument =
      chronicle.tradeGuard.losses instrument + 1 := by
    rw [record_loss_losses, if_pos rfl]
  refine
    { cooling := accounted.cooling.record_loss instrument utcnow
      sameDuration := same.1.trans accounted.sameDuration
      naiveStarts := ?_
      naiveTrades := same.2 ▸ accounted.naiveTrades
      newest := ?_
      counted := ?_
      forgotten := ?_ }
  · intro started noted
    obtain rfl | before := record_loss_cooldown_origin noted
    · rfl
    · exact accounted.naiveStarts started before
  · intro started noted
    refine ⟨_, rfl, ?_⟩
    obtain rfl | before := record_loss_cooldown_origin noted
    · exact .inr rfl
    · exact .inl before
  · rw [count, List.take_succ_cons]
    intro loss among started noted
    obtain rfl | older := List.mem_cons.mp among
    · exact record_loss_keeps_cooldown utcnow noted
    · exact record_loss_keeps_cooldown utcnow (accounted.counted loss older started noted)
  · rw [count, List.getElem?_cons_succ]
    exact accounted.forgotten

/-- The last losses are noted, and the calls leave the clock. -/
theorem Accounted.step (accounted : Accounted instrument duration now chronicle) (call : Call)
    (onClock : ∀ moment ∈ call.moment, moment.NotAfter ⟨now, false⟩) :
    Accounted instrument duration now (chronicle.step instrument call) := by
  cases call with
  | recordTrade strategyName traded time =>
    refine accounted.of_same (accounted.cooling.of_same rfl rfl) rfl ?_ rfl rfl rfl
    intro other last noted
    change last ∈ AList.lookup other
      (AList.insert traded time chronicle.tradeGuard.lastTradeTimes) at noted
    by_cases same : other = traded
    · rw [same, AList.lookup_insert] at noted
      exact Option.some.inj noted ▸ (onClock time rfl).1
    · rw [AList.lookup_insert_ne same] at noted
      exact accounted.naiveTrades other last noted
  | recordLoss lost utcnow =>
    by_cases same : lost = instrument
    · subst same
      simpa [Chronicle.step, lossesAfter, OvertradingGuard.step] using accounted.lose utcnow
    · have others := record_loss_same chronicle.tradeGuard lost utcnow
      refine accounted.of_same (accounted.cooling.record_loss lost utcnow) others.1
        (others.2 ▸ accounted.naiveTrades) ?_ ?_ (if_neg same)
      · exact (lookup_record_loss _ _ _ _).trans (if_neg fun all => same all.1.symm)
      · exact (record_loss_losses _ _ _ _).trans (if_neg fun eq => same eq.symm)
  | recordWin won =>
    by_cases same : won = instrument
    · subst same
      simpa [Chronicle.step, lossesAfter, OvertradingGuard.step, recordWin] using accounted.win
    · simpa [Chronicle.step, lossesAfter, OvertradingGuard.step, recordWin, same] using
        accounted.clear_other fun eq => same eq.symm
  | canTrade strategyName asked currentTime recentWinRate isHftSignal =>
    obtain unchanged | ⟨expired, cleared⟩ := chronicle.tradeGuard.can_trade_cases strategyName
      asked currentTime recentWinRate isHftSignal
    · simpa [Chronicle.step, lossesAfter, OvertradingGuard.step, unchanged] using accounted
    · by_cases same : asked = instrument
      · subst same
        obtain ⟨started, noted, -, ended⟩ := expired
        rw [accounted.sameDuration] at ended
        simpa [Chronicle.step, lossesAfter, OvertradingGuard.step, cleared] using
          accounted.expire noted (ended.trans (onClock currentTime rfl).2)
      · simpa [Chronicle.step, lossesAfter, OvertradingGuard.step, cleared] using
          accounted.clear_other fun eq => same eq.symm
  | resetDaily =>
    exact accounted.of_same (accounted.cooling.of_same rfl rfl) rfl accounted.naiveTrades rfl rfl
      rfl

/-- A guard without history has nothing to account for. -/
theorem accounted_create (maxTradesPerDay : ℤ) (minIntervalMinutes cooldownHours : ℚ) :
    Accounted instrument (cooldownHours * 3600) now
      { tradeGuard := create maxTradesPerDay minIntervalMinutes cooldownHours } where
  cooling := cooling_create maxTradesPerDay minIntervalMinutes cooldownHours
  sameDuration := rfl
  naiveStarts := by simp [create]
  naiveTrades := by simp [create]
  newest := by simp [create]
  counted := by simp
  forgotten := by simp

/-- Every run on one clock can be accounted for. -/
theorem accounted_run (maxTradesPerDay : ℤ) (minIntervalMinutes cooldownHours : ℚ)
    (instrument : String) {calls : List Call} (clock : OneClock calls now) :
    Accounted instrument (cooldownHours * 3600) now
      (Chronicle.of maxTradesPerDay minIntervalMinutes cooldownHours instrument calls) := by
  have onClock : ∀ call ∈ calls, ∀ moment ∈ call.moment, moment.NotAfter ⟨now, false⟩ := by
    intro call among moment time
    exact (List.pairwise_append.mp clock).2.2 moment
      (List.mem_filterMap.mpr ⟨call, among, time⟩) _ List.mem_cons_self
  have kept : ∀ (current : Chronicle) (call : Call), Accounted instrument (cooldownHours * 3600)
      now current → (∀ moment ∈ call.moment, moment.NotAfter ⟨now, false⟩) →
      Accounted instrument (cooldownHours * 3600) now (current.step instrument call) :=
    fun _ call accounted => accounted.step call
  exact Machines.after_keeps kept
    (accounted_create maxTradesPerDay minIntervalMinutes cooldownHours)
    (Machines.conforms_of_forall fun call among _ => onClock call among)

end Chronicle

/-- Where times have no time zone, the rule of the cooldown refuses exactly while it runs. -/
theorem cooldown_rule_refused_iff (tradeGuard : OvertradingGuard) (instrument : String)
    (now : ℚ) (elevatedThreshold : Option ℤ)
    (naive : ∀ started ∈ tradeGuard.cooldownStart.lookup instrument, started.aware = false) :
    refused (tradeGuard.cooldownRule instrument ⟨now, false⟩ elevatedThreshold).2 = true ↔
      Constants.consecutiveLossThreshold ≤ tradeGuard.losses instrument ∧
        ∃ started ∈ tradeGuard.cooldownStart.lookup instrument,
          now < started.seconds + tradeGuard.cooldownDuration := by
  unfold cooldownRule
  dsimp only
  by_cases enough : Constants.consecutiveLossThreshold ≤ tradeGuard.losses instrument
  · rw [if_pos enough]
    cases noted : tradeGuard.cooldownStart.lookup instrument with
    | none => simp [refused]
    | some started =>
      have same : started.aware = false := naive started noted
      simp only [Moment.since, Moment.plus, same, if_true, Option.mem_some_iff, enough, true_and,
        exists_eq_left']
      by_cases running : now < started.seconds + tradeGuard.cooldownDuration
      · rw [if_pos (sub_pos.mpr running)]
        exact iff_of_true rfl running
      · rw [if_neg fun left => running (sub_pos.mp left)]
        exact iff_of_false (by simp [refused]) running
  · rw [if_neg enough]
    exact iff_of_false (by simp [refused]) fun both => enough both.1

/-- Where times have no time zone, a signal that is not one of high-frequency trading is refused
by the daily limit, by the minimal interval, or by a cooldown that is running. -/
theorem can_trade_refused_iff (tradeGuard : OvertradingGuard) (strategyName instrument : String)
    (now recentWinRate : ℚ)
    (naive : ∀ started ∈ tradeGuard.cooldownStart.lookup instrument, started.aware = false)
    (naiveTrades : ∀ last ∈ tradeGuard.lastTradeTimes.lookup instrument, last.aware = false) :
    refused (tradeGuard.canTrade strategyName instrument ⟨now, false⟩ recentWinRate false).2 =
        true ↔
      ¬tradeGuard.FrequencyAllows strategyName instrument ⟨now, false⟩ recentWinRate ∨
        Constants.consecutiveLossThreshold ≤ tradeGuard.losses instrument ∧
          ∃ started ∈ tradeGuard.cooldownStart.lookup instrument,
            now < started.seconds + tradeGuard.cooldownDuration := by
  unfold canTrade
  rw [if_neg Bool.false_ne_true]
  dsimp only
  by_cases full : (tradeGuard.effectiveLimit recentWinRate).1 ≤
      tradeGuard.getTradeCount strategyName instrument
  · rw [if_pos full]
    exact iff_of_true rfl (.inl fun allows => absurd full (not_le.mpr allows.1))
  · rw [if_neg full]
    -- the interval is measured between times of one kind, so it gives a verdict
    obtain ⟨verdict, measured⟩ : ∃ verdict,
        tradeGuard.intervalReason instrument ⟨now, false⟩ = .ok verdict := by
      unfold intervalReason
      cases noted : tradeGuard.lastTradeTimes.lookup instrument with
      | none => exact ⟨none, rfl⟩
      | some last =>
        have same : last.aware = false := naiveTrades last noted
        simp only [Moment.since, same, if_true]
        exact ⟨_, rfl⟩
    rw [measured]
    cases verdict with
    | some reason =>
      refine iff_of_true rfl (.inl fun allows => ?_)
      rw [FrequencyAllows, measured] at allows
      exact absurd allows.2 (by simp)
    | none =>
      dsimp only
      rw [cooldown_rule_refused_iff _ _ _ _ naive, or_iff_right]
      exact not_not.mpr ⟨not_le.mp full, measured⟩

/-- The chronicle only watches the guard. -/
theorem chronicle_guard (instrument : String) (calls : List Call) (chronicle : Chronicle) :
    (Machines.after (Chronicle.step instrument) chronicle calls).tradeGuard =
      Machines.after step chronicle.tradeGuard calls := by
  induction calls generalizing chronicle with
  | nil => rfl
  | cons call rest inductionHypothesis => exact inductionHypothesis (chronicle.step instrument call)

/-- Where the last losses all came within the duration of the cooldown, the guard has a cooldown
that is running exactly when none of them was noted under an older cooldown that is over. -/
theorem Chronicle.Accounted.cooling_iff {instrument : String} {duration now : ℚ}
    {chronicle : Chronicle} (accounted : Chronicle.Accounted instrument duration now chronicle)
    (streak : chronicle.lastLosses.length = Constants.consecutiveLossThreshold)
    (recent : ∀ loss ∈ chronicle.lastLosses, now < loss.time + duration) :
    (Constants.consecutiveLossThreshold ≤ chronicle.tradeGuard.losses instrument ∧
        ∃ started ∈ chronicle.tradeGuard.cooldownStart.lookup instrument,
          now < started.seconds + duration) ↔
      ∀ loss ∈ chronicle.lastLosses, ∀ started ∈ loss.noted, now < started.seconds + duration := by
  have long : Constants.consecutiveLossThreshold ≤ chronicle.lossesInRow.length := by
    rw [lastLosses, List.length_take] at streak
    omega
  have isLast : ∀ index, index < Constants.consecutiveLossThreshold →
      ∀ loss ∈ chronicle.lossesInRow[index]?, loss ∈ chronicle.lastLosses := by
    intro index early loss found
    refine List.mem_iff_getElem?.mpr ⟨index, ?_⟩
    rwa [lastLosses, List.getElem?_take_of_lt early]
  constructor
  · rintro ⟨enough, started, noted, running⟩ loss among earlier under
    have stillCounted : loss ∈ chronicle.lossesInRow.take
        (chronicle.tradeGuard.losses instrument) :=
      (List.take_prefix_take_left enough).subset among
    have same := accounted.counted loss stillCounted earlier under
    obtain rfl : started = earlier := Option.some.inj (noted.symm.trans same)
    exact running
  · intro fresh
    by_cases enough : Constants.consecutiveLossThreshold ≤ chronicle.tradeGuard.losses instrument
    · refine ⟨enough, ?_⟩
      have present := (accounted.cooling instrument).mpr enough
      obtain ⟨started, noted⟩ := Option.isSome_iff_exists.mp (AList.lookup_isSome.mpr present)
      obtain ⟨head, first, under | began⟩ := accounted.newest started noted
      · exact ⟨started, noted, fresh head (isLast 0 (by decide) head first) started under⟩
      · refine ⟨started, noted, ?_⟩
        rw [← began]
        exact recent head (isLast 0 (by decide) head first)
    · -- one of the last losses was forgotten, which needs a cooldown that is over
      exfalso
      have few := not_le.mp enough
      have found := List.getElem?_eq_getElem (few.trans_le long)
      have last := isLast _ few _ found
      obtain ⟨started, under, ended⟩ | ended := accounted.forgotten _ found
      · exact absurd (fresh _ last started under) (not_lt.mpr ended)
      · exact absurd (recent _ last) (not_lt.mpr ended)

/-- After every history of calls on one clock: where the last three results of an instrument are
losses within the duration of the cooldown, a signal that is not one of high-frequency trading is
refused exactly when the daily limit or the minimal interval refuses it, or none of these losses
came while an older cooldown was noted that is over by now. -/
theorem last_losses_refused_iff (maxTradesPerDay : ℤ) (minIntervalMinutes cooldownHours : ℚ)
    (calls : List Call) (strategyName instrument : String) (now recentWinRate : ℚ)
    (clock : OneClock calls now)
    (streak : (Chronicle.of maxTradesPerDay minIntervalMinutes cooldownHours instrument
      calls).lastLosses.length = Constants.consecutiveLossThreshold)
    (recent : ∀ loss ∈ (Chronicle.of maxTradesPerDay minIntervalMinutes cooldownHours instrument
      calls).lastLosses, now < loss.time + cooldownHours * 3600) :
    refused ((Machines.after step (create maxTradesPerDay minIntervalMinutes cooldownHours)
        calls).canTrade strategyName instrument ⟨now, false⟩ recentWinRate false).2 = true ↔
      ¬(Machines.after step (create maxTradesPerDay minIntervalMinutes cooldownHours)
          calls).FrequencyAllows strategyName instrument ⟨now, false⟩ recentWinRate ∨
        ∀ loss ∈ (Chronicle.of maxTradesPerDay minIntervalMinutes cooldownHours instrument
          calls).lastLosses, ∀ started ∈ loss.noted,
            now < started.seconds + cooldownHours * 3600 := by
  have accounted := Chronicle.accounted_run maxTradesPerDay
    minIntervalMinutes cooldownHours instrument clock
  have watched := chronicle_guard instrument calls
    { tradeGuard := create maxTradesPerDay minIntervalMinutes cooldownHours }
  have answer := can_trade_refused_iff _ strategyName instrument now recentWinRate
    accounted.naiveStarts (accounted.naiveTrades instrument)
  rw [accounted.sameDuration, accounted.cooling_iff streak recent, Chronicle.of, watched] at answer
  exact answer

/-- Three losses within three seconds close the instrument. -/
theorem three_losses_close_an_instrument :
    refused ((Machines.after step (create 10 5 1)
      [.recordLoss "EURUSD" 0, .recordLoss "EURUSD" 1, .recordLoss "EURUSD" 2]).canTrade
      "scalping" "EURUSD" ⟨60, false⟩ (1 / 2) false).2 = true :=
  (last_losses_refused_iff 10 5 1
    [.recordLoss "EURUSD" 0, .recordLoss "EURUSD" 1, .recordLoss "EURUSD" 2] "scalping" "EURUSD"
    60 (1 / 2) (by decide +kernel) (by decide +kernel) (by decide +kernel)).mpr
    (.inr (by decide +kernel))

/-- Without a question in between, three losses after an hour are not refused: they are counted
for the cooldown of the first three. -/
theorem fresh_streak_is_forgotten :
    ¬∀ (maxTradesPerDay : ℤ) (minIntervalMinutes cooldownHours : ℚ) (calls : List Call)
      (strategyName instrument : String) (now recentWinRate : ℚ), OneClock calls now →
      (Chronicle.of maxTradesPerDay minIntervalMinutes cooldownHours instrument
        calls).lastLosses.length = Constants.consecutiveLossThreshold →
      (∀ loss ∈ (Chronicle.of maxTradesPerDay minIntervalMinutes cooldownHours instrument
        calls).lastLosses, now < loss.time + cooldownHours * 3600) →
      refused ((Machines.after step (create maxTradesPerDay minIntervalMinutes cooldownHours)
        calls).canTrade strategyName instrument ⟨now, false⟩ recentWinRate false).2 = true := by
  intro claim
  have isRefused := claim 10 5 1
    [.recordLoss "EURUSD" 0, .recordLoss "EURUSD" 1, .recordLoss "EURUSD" 2,
      .recordLoss "EURUSD" 3700, .recordLoss "EURUSD" 3701, .recordLoss "EURUSD" 3702]
    "scalping" "EURUSD" 3703 (1 / 2) (by decide +kernel) (by decide +kernel) (by decide +kernel)
  exact absurd isRefused (by decide +kernel)

end OvertradingGuard

end IgTradingBot
