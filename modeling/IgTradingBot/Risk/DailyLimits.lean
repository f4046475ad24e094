import IgTradingBot.Library.Machines
import IgTradingBot.Library.PeriodTotals
import IgTradingBot.Risk.DrawdownMonitor
import Mathlib.Tactic.Linarith

/-!
# Daily limits

Runs of the drawdown monitor over any number of days. The account's equity is a function of
time, which the moves of a run read at their own reading of the clock. The lazy roll-over
clears the loss of the day before and keeps the equity that the limit is a percentage of, so
every day is held to the limit of the day on which the monitor was created.
-/

namespace IgTradingBot

open PeriodTotals

/-- What happens to the monitor, each with its reading of the clock. -/
inductive MonitorMove where
  | equityUpdated (now : ℚ)
  | tradeClosed (now pnl : ℚ)
  | dailyLossChecked (now : ℚ)
  | tradeChecked (now : ℚ)

/-- The clock reading of a move. -/
def MonitorMove.now : MonitorMove → ℚ
  | .equityUpdated now | .tradeClosed now _ | .dailyLossChecked now | .tradeChecked now => now

/-- The monitor, the last reading of the clock, and the realized losses by day. -/
structure MonitoredAccount where
  clock : ℚ
  monitor : DrawdownMonitor
  losses : List (ℤ × ℚ) := []

/-- The first reading of a day on which the monitor exists: midnight, or the creation of the
monitor on its first day. -/
def dayStart (created now : ℚ) : ℚ := max created (utcDay now * 86400)

namespace DrawdownMonitor

/-- A monitor with its own thresholds. -/
def configured (initialEquity dailyMaxLossPct drawdownReductionPct killSwitchPct now : ℚ) :
    DrawdownMonitor :=
  { create initialEquity now with
    dailyMaxLossPct := dailyMaxLossPct
    drawdownReductionPct := drawdownReductionPct
    killSwitchPct := killSwitchPct }

/-- The limit that the checks of a reading compare the realized loss with. -/
def enforcedLimit (monitor : DrawdownMonitor) (now : ℚ) : ℚ :=
  (monitor.resetDailyIfNeeded now).dailyLimit

/-- Rolling over leaves the limit as it is. -/
@[simp] theorem reset_daily_limit (monitor : DrawdownMonitor) (now : ℚ) :
    (monitor.resetDailyIfNeeded now).dailyLimit = monitor.dailyLimit := by
  by_cases later : monitor.currentDay < utcDay now <;>
    simp [resetDailyIfNeeded, later, dailyLimit]

/-- Raising the peak leaves everything but the peak as it is. -/
theorem update_equity_keeps (monitor : DrawdownMonitor) (equity : ℚ) :
    monitor.updateEquity equity = { monitor with
      peakEquity := (monitor.updateEquity equity).peakEquity } := by
  by_cases higher : monitor.peakEquity < equity <;> simp [updateEquity, higher]

/-- Every check of a trade leaves the monitor rolled over, with its peak raised. -/
theorem check_trade_allowed_after (monitor : DrawdownMonitor) (now equity : ℚ) :
    (monitor.checkTradeAllowed now equity).1 =
      (monitor.resetDailyIfNeeded now).updateEquity equity := by
  have rolled : ((monitor.resetDailyIfNeeded now).updateEquity equity).resetDailyIfNeeded now =
      (monitor.resetDailyIfNeeded now).updateEquity equity := by
    rw [reset_after_update, reset_daily_if_needed_idem]
  simp only [checkTradeAllowed, checkDailyLossLimit, rolled]
  split_ifs <;> rfl

/-- A trade is rejected when it does not trigger the kill switch and the loss of the day has
reached the limit, now or at a close before. -/
theorem check_trade_allowed_reject_iff (monitor : DrawdownMonitor) (now equity : ℚ) :
    (monitor.checkTradeAllowed now equity).2.decision = .reject ↔
      (monitor.checkTradeAllowed now equity).2.decision ≠ .killSwitch ∧
        ((monitor.resetDailyIfNeeded now).dailyLossLimitHit = true ∨
          monitor.dailyLimit ≤ (monitor.resetDailyIfNeeded now).dailyRealizedLoss) := by
  have rolled : ((monitor.resetDailyIfNeeded now).updateEquity equity).resetDailyIfNeeded now =
      (monitor.resetDailyIfNeeded now).updateEquity equity := by
    rw [reset_after_update, reset_daily_if_needed_idem]
  have peakOnly := update_equity_keeps (monitor.resetDailyIfNeeded now) equity
  have sameLimit : ((monitor.resetDailyIfNeeded now).updateEquity equity).dailyLimit =
      monitor.dailyLimit := by
    rw [peakOnly]
    exact reset_daily_limit monitor now
  have sameLoss : ((monitor.resetDailyIfNeeded now).updateEquity equity).dailyRealizedLoss =
      (monitor.resetDailyIfNeeded now).dailyRealizedLoss := by
    rw [peakOnly]
  have sameHit : ((monitor.resetDailyIfNeeded now).updateEquity equity).dailyLossLimitHit =
      (monitor.resetDailyIfNeeded now).dailyLossLimitHit := by
    rw [peakOnly]
  simp only [checkTradeAllowed, checkDailyLossLimit, rolled, sameLimit, sameLoss, sameHit]
  split_ifs with killed limited reduced
  · simp
  · simpa using limited
  · simpa using limited
  · simpa using limited

end DrawdownMonitor

namespace MonitoredAccount

open DrawdownMonitor

/-- One move of an account whose equity is a function of time. -/
def step (equityAt : ℚ → ℚ) (account : MonitoredAccount) : MonitorMove → MonitoredAccount
  | .equityUpdated now =>
    { account with clock := now, monitor := account.monitor.updateEquity (equityAt now) }
  | .tradeClosed now pnl =>
    { clock := now
      monitor := account.monitor.updateOnTradeClose now pnl
      losses := (utcDay now, if pnl < 0 then |pnl| else 0) :: account.losses }
  | .dailyLossChecked now =>
    { account with clock := now, monitor := (account.monitor.checkDailyLossLimit now).1 }
  | .tradeChecked now =>
    { account with
      clock := now
      monitor := (account.monitor.checkTradeAllowed now (equityAt now)).1 }

/-- The clock does not run backwards. -/
def Forward (account : MonitoredAccount) (move : MonitorMove) : Prop := account.clock ≤ move.now

instance (account : MonitoredAccount) (move : MonitorMove) : Decidable (account.Forward move) :=
  inferInstanceAs (Decidable (_ ≤ _))

/-- The monitor's loss is that of its day, its limit is that of its creation, and the limit
counts as hit only when the loss has reached it. -/
structure Monitored (limit : ℚ) (account : MonitoredAccount) : Prop where
  tracks : Tracks account.losses (utcDay account.clock) account.monitor.currentDay
    account.monitor.dailyRealizedLoss
  sameLimit : account.monitor.dailyLimit = limit
  hitOnlyAbove : account.monitor.dailyLossLimitHit = true →
    limit ≤ account.monitor.dailyRealizedLoss

section Steps

variable {limit now : ℚ} {account : MonitoredAccount}

/-- At every later reading the rolled-over monitor is that of the reading's day. -/
theorem Monitored.rolled (monitored : account.Monitored limit) (later : account.clock ≤ now) :
    Monitored limit
        { account with clock := now, monitor := account.monitor.resetDailyIfNeeded now } ∧
      (account.monitor.resetDailyIfNeeded now).currentDay = utcDay now := by
  have waited := monitored.tracks.wait (utc_day_mono later)
  by_cases newDay : account.monitor.currentDay < utcDay now
  · have cleared := waited.roll newDay.ne'
    simp only [resetDailyIfNeeded, newDay, if_true]
    exact ⟨⟨cleared, monitored.sameLimit, fun hit => absurd hit Bool.false_ne_true⟩, trivial⟩
  · have sameDay : account.monitor.currentDay = utcDay now :=
      le_antisymm waited.reached (not_lt.mp newDay)
    simp only [resetDailyIfNeeded, newDay, if_false]
    exact ⟨⟨waited, monitored.sameLimit, monitored.hitOnlyAbove⟩, sameDay⟩

/-- The rolled-over monitor shows the sum of the day's losses. -/
theorem Monitored.rolled_loss (monitored : account.Monitored limit)
    (later : account.clock ≤ now) :
    (account.monitor.resetDailyIfNeeded now).dailyRealizedLoss =
      sumOn (utcDay now) account.losses := by
  obtain ⟨rolled, today⟩ := monitored.rolled later
  exact rolled.tracks.exact_of_current today

/-- Raising the peak of a monitor changes neither its loss nor its limit. -/
theorem Monitored.update_equity (monitored : account.Monitored limit) (equity : ℚ) :
    Monitored limit { account with monitor := account.monitor.updateEquity equity } := by
  rw [update_equity_keeps account.monitor equity]
  exact ⟨monitored.tracks, monitored.sameLimit, monitored.hitOnlyAbove⟩

/-- A close adds its loss to the day of its reading. -/
theorem Monitored.trade_closed (monitored : account.Monitored limit)
    (later : account.clock ≤ now) (pnl : ℚ) :
    Monitored limit
      { clock := now
        monitor := account.monitor.updateOnTradeClose now pnl
        losses := (utcDay now, if pnl < 0 then |pnl| else 0) :: account.losses } := by
  obtain ⟨rolled, today⟩ := monitored.rolled later
  have entered := rolled.tracks.enter (if pnl < 0 then |pnl| else 0) true true
    (Or.inr (by simp [today]))
  have added : (account.monitor.updateOnTradeClose now pnl).dailyRealizedLoss =
      (account.monitor.resetDailyIfNeeded now).dailyRealizedLoss +
        (if pnl < 0 then |pnl| else 0) := by
    by_cases loss : pnl < 0 <;> simp [updateOnTradeClose, loss]
  constructor
  · rw [added]
    exact entered
  · exact rolled.sameLimit
  · intro hit
    have noLess : (account.monitor.resetDailyIfNeeded now).dailyRealizedLoss ≤
        (account.monitor.updateOnTradeClose now pnl).dailyRealizedLoss := by
      rw [added]
      split_ifs
      · linarith [abs_nonneg pnl]
      · linarith
    simp only [updateOnTradeClose, Bool.or_eq_true, decide_eq_true_eq] at hit
    obtain before | reached := hit
    · exact (rolled.hitOnlyAbove before).trans noLess
    · rw [← rolled.sameLimit]
      exact reached

/-- Every move whose reading is not earlier keeps the account monitored. -/
theorem Monitored.step (equityAt : ℚ → ℚ) {move : MonitorMove}
    (monitored : account.Monitored limit) (forward : account.Forward move) :
    (account.step equityAt move).Monitored limit := by
  cases move with
  | equityUpdated now =>
    have waited : Monitored limit { account with clock := now } :=
      ⟨monitored.tracks.wait (utc_day_mono forward), monitored.sameLimit, monitored.hitOnlyAbove⟩
    exact waited.update_equity (equityAt now)
  | tradeClosed now pnl => exact monitored.trade_closed forward pnl
  | dailyLossChecked now => exact (monitored.rolled forward).1
  | tradeChecked now =>
    simp only [MonitoredAccount.step, check_trade_allowed_after]
    exact (monitored.rolled forward).1.update_equity (equityAt now)

end Steps

/-- The account of a run, from the creation of the monitor. -/
def afterMoves (equityAt : ℚ → ℚ) (dailyMaxLossPct drawdownReductionPct killSwitchPct created : ℚ)
    (moves : List MonitorMove) : MonitoredAccount :=
  Machines.after (step equityAt)
    { clock := created
      monitor := configured (equityAt created) dailyMaxLossPct drawdownReductionPct killSwitchPct
        created } moves

/-- Every run whose clock does not run backwards keeps the limit of its creation. -/
theorem after_moves_monitored (equityAt : ℚ → ℚ)
    (dailyMaxLossPct drawdownReductionPct killSwitchPct created : ℚ) {moves : List MonitorMove}
    (forward : Machines.Conforms (step equityAt) Forward
      { clock := created
        monitor := configured (equityAt created) dailyMaxLossPct drawdownReductionPct
          killSwitchPct created } moves) :
    (afterMoves equityAt dailyMaxLossPct drawdownReductionPct killSwitchPct created
      moves).Monitored (equityAt created * dailyMaxLossPct) := by
  apply Machines.after_keeps (fun _ _ monitored => Monitored.step equityAt monitored) ?_ forward
  exact ⟨tracks_nil _, rfl, fun hit => absurd hit Bool.false_ne_true⟩

/-- After every run the monitor enforces one limit on a day: the check of the daily loss
reports that the sum of the day's losses has reached it, and a trade that does not trigger the
kill switch is rejected for the same sum. That limit is the configured percentage of the
equity at the start of the day exactly when the account has the equity with which the monitor
was created, or the percentage is zero. -/
theorem enforced_limit_of_day_start_iff (equityAt : ℚ → ℚ)
    (dailyMaxLossPct drawdownReductionPct killSwitchPct created : ℚ) (moves : List MonitorMove)
    (forward : Machines.Conforms (step equityAt) Forward
      { clock := created
        monitor := configured (equityAt created) dailyMaxLossPct drawdownReductionPct
          killSwitchPct created } moves)
    (now : ℚ)
    (later : (afterMoves equityAt dailyMaxLossPct drawdownReductionPct killSwitchPct created
      moves).clock ≤ now) :
    let account := afterMoves equityAt dailyMaxLossPct drawdownReductionPct killSwitchPct created
      moves
    ((account.monitor.checkDailyLossLimit now).2 = true ↔
        account.monitor.enforcedLimit now ≤ sumOn (utcDay now) account.losses) ∧
      (∀ equity, (account.monitor.checkTradeAllowed now equity).2.decision = .reject ↔
        (account.monitor.checkTradeAllowed now equity).2.decision ≠ .killSwitch ∧
          account.monitor.enforcedLimit now ≤ sumOn (utcDay now) account.losses) ∧
      (account.monitor.enforcedLimit now = dailyMaxLossPct * equityAt (dayStart created now) ↔
        equityAt (dayStart created now) = equityAt created ∨ dailyMaxLossPct = 0) := by
  intro account
  have monitored := after_moves_monitored equityAt dailyMaxLossPct drawdownReductionPct
    killSwitchPct created forward
  obtain ⟨rolled, today⟩ := monitored.rolled later
  have dayLoss := monitored.rolled_loss later
  have enforced : account.monitor.enforcedLimit now = equityAt created * dailyMaxLossPct :=
    rolled.sameLimit
  have limit : account.monitor.dailyLimit = equityAt created * dailyMaxLossPct :=
    monitored.sameLimit
  refine ⟨?_, ?_, ?_⟩
  · rw [← dayLoss]
    exact decide_eq_true_iff
  · intro equity
    rw [check_trade_allowed_reject_iff, limit, enforced, dayLoss]
    -- a limit that was hit at a close has been reached by the loss that is compared now
    have hitOnlyAbove : (account.monitor.resetDailyIfNeeded now).dailyLossLimitHit = true →
        equityAt created * dailyMaxLossPct ≤ sumOn (utcDay now) account.losses := by
      rw [← dayLoss]
      exact rolled.hitOnlyAbove
    exact and_congr_right fun _ => ⟨fun reached => reached.elim hitOnlyAbove id, Or.inr⟩
  · rw [enforced, mul_comm]
    constructor
    · intro same
      by_cases zero : dailyMaxLossPct = 0
      · exact Or.inr zero
      · exact Or.inl (mul_left_cancel₀ zero same).symm
    · rintro (same | zero)
      · rw [same]
      · simp [zero]

/-- An account that has a thousand on the first day and half of it from the second day on. -/
def halvedOvernight (now : ℚ) : ℚ := if now < 86400 then 1000 else 500

/-- On the first day the limit is that of the day's start. -/
theorem first_day_limit :
    ((afterMoves halvedOvernight (3 / 100) (10 / 100) (15 / 100) 0
        [.tradeClosed 3600 (-20)]).monitor.enforcedLimit 7200 =
      3 / 100 * halvedOvernight (dayStart 0 7200)) := by
  refine (enforced_limit_of_day_start_iff halvedOvernight (3 / 100) (10 / 100) (15 / 100) 0
    [.tradeClosed 3600 (-20)] (by decide +kernel) 7200 (by decide +kernel)).2.2.mpr (Or.inl ?_)
  decide +kernel

/-- On the second day the monitor enforces thirty, where three percent of the equity at
midnight are fifteen. -/
theorem second_day_limit_is_stale :
    ¬ ∀ (equityAt : ℚ → ℚ) (dailyMaxLossPct drawdownReductionPct killSwitchPct created : ℚ)
      (moves : List MonitorMove),
      Machines.Conforms (step equityAt) Forward
        { clock := created
          monitor := configured (equityAt created) dailyMaxLossPct drawdownReductionPct
            killSwitchPct created } moves →
      ∀ now, (afterMoves equityAt dailyMaxLossPct drawdownReductionPct killSwitchPct created
          moves).clock ≤ now →
        (afterMoves equityAt dailyMaxLossPct drawdownReductionPct killSwitchPct created
          moves).monitor.enforcedLimit now =
            dailyMaxLossPct * equityAt (dayStart created now) := by
  intro always
  have stale := always halvedOvernight (3 / 100) (10 / 100) (15 / 100) 0
    [.tradeChecked 3600, .equityUpdated 90000] (by decide +kernel) 90060 (by decide +kernel)
  revert stale
  decide +kernel

end MonitoredAccount

end IgTradingBot
