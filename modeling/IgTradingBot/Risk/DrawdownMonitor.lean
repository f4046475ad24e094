import IgTradingBot.Config.Constants
import IgTradingBot.Library.Decimals
import Mathlib.Data.Rat.Floor

/-!
# Drawdown monitor

The drawdown and daily-loss checks of `src/risk/drawdown_monitor.py`. Money is
exact; a day is the number of whole days since the epoch, which orders and
distinguishes midnights exactly as the source's truncated datetimes do.
-/

namespace IgTradingBot

/-- The UTC day of a clock reading, as a number of days since the epoch. -/
def utcDay (now : ℚ) : ℤ := ⌊now / 86400⌋

/-- A later reading is never on an earlier day. -/
theorem utc_day_mono {earlier later : ℚ} (ordered : earlier ≤ later) :
    utcDay earlier ≤ utcDay later :=
  Int.floor_le_floor (div_le_div_of_nonneg_right ordered (by norm_num))

/-- Verdicts on a new trade, from the mildest to the most severe. -/
inductive TradeDecision where
  | allow
  | reduceSize
  | reject
  | killSwitch
  deriving DecidableEq, Repr

/-- The reasons of a verdict, with the numbers their texts interpolate. -/
inductive DrawdownReason where
  /-- "Drawdown … exceeds kill switch threshold …" -/
  | killSwitch (drawdownPct threshold : ℚ)
  /-- "Daily realized loss … exceeds limit (…% of start-of-day equity …)" -/
  | dailyLoss (realizedLoss percent startEquity : ℚ)
  /-- "Drawdown … exceeds reduction threshold … — applying 0.25 size factor (75% reduction)" -/
  | reduction (drawdownPct threshold : ℚ)
  deriving DecidableEq, Repr

/-- A size multiplier with the text that explains it. -/
structure DrawdownReduction where
  factor : ℚ
  reason : String
  deriving DecidableEq, Repr

/-- Result of one check. -/
structure DrawdownCheckResult where
  decision : TradeDecision
  reason : Option DrawdownReason
  reductionFactor : Option DrawdownReduction
  drawdownPct : ℚ
  deriving DecidableEq, Repr

/-- Peak, thresholds and the running day of the monitor. -/
structure DrawdownMonitor where
  peakEquity : ℚ
  dailyMaxLossPct : ℚ := Constants.dailyMaxLossPct
  drawdownReductionPct : ℚ := Constants.drawdownReductionPct
  killSwitchPct : ℚ := Constants.killSwitchDrawdownPct
  dailyRealizedLoss : ℚ := 0
  dailyStartEquity : ℚ
  currentDay : ℤ
  dailyLossLimitHit : Bool := false
  deriving DecidableEq, Repr

namespace DrawdownMonitor

/-- A monitor that starts with an equity on the day of a clock reading. -/
def create (initialEquity now : ℚ) : DrawdownMonitor :=
  { peakEquity := initialEquity, dailyStartEquity := initialEquity, currentDay := utcDay now }

/-- Raise the peak to a new high. -/
def updateEquity (monitor : DrawdownMonitor) (equity : ℚ) : DrawdownMonitor :=
  if monitor.peakEquity < equity then { monitor with peakEquity := equity } else monitor

/-- Drawdown as a fraction of the peak, zero at or above the peak. -/
def getDrawdown (monitor : DrawdownMonitor) (currentEquity : ℚ) : ℚ :=
  if monitor.peakEquity ≤ 0 then 0
  else if monitor.peakEquity ≤ currentEquity then 0
  else (monitor.peakEquity - currentEquity) / monitor.peakEquity

/-- Clear the loss of the previous day once a later UTC day has started. The
start-of-day equity is left as it is. -/
def resetDailyIfNeeded (monitor : DrawdownMonitor) (now : ℚ) : DrawdownMonitor :=
  if monitor.currentDay < utcDay now then
    { monitor with
      dailyRealizedLoss := 0
      dailyLossLimitHit := false
      currentDay := utcDay now }
  else monitor

/-- Start a new day explicitly with its equity. -/
def resetDaily (monitor : DrawdownMonitor) (now startOfDayEquity : ℚ) : DrawdownMonitor :=
  { monitor with
    dailyRealizedLoss := 0
    dailyStartEquity := startOfDayEquity
    dailyLossLimitHit := false
    currentDay := utcDay now }

/-- Realized loss at which the day is closed for new trades. -/
def dailyLimit (monitor : DrawdownMonitor) : ℚ :=
  monitor.dailyStartEquity * monitor.dailyMaxLossPct

/-- Add a realized loss; profits leave the total as it is. -/
def updateOnTradeClose (monitor : DrawdownMonitor) (now pnl : ℚ) : DrawdownMonitor :=
  let today := monitor.resetDailyIfNeeded now
  let loss := if pnl < 0 then today.dailyRealizedLoss + |pnl| else today.dailyRealizedLoss
  { today with
    dailyRealizedLoss := loss
    dailyLossLimitHit := today.dailyLossLimitHit || decide (today.dailyLimit ≤ loss) }

/-- Whether the loss realized on the running day has reached the limit. -/
def checkDailyLossLimit (monitor : DrawdownMonitor) (now : ℚ) : DrawdownMonitor × Bool :=
  let today := monitor.resetDailyIfNeeded now
  (today, decide (today.dailyLimit ≤ today.dailyRealizedLoss))

/-- Whether the drawdown has reached the kill-switch threshold. -/
def shouldTriggerKillSwitch (monitor : DrawdownMonitor) (currentEquity : ℚ) : Bool :=
  decide (monitor.killSwitchPct ≤ monitor.getDrawdown currentEquity)

/-- The text of a kill-switch verdict, as it is handed to the kill switch. -/
def killSwitchText (drawdownPct threshold : ℚ) : String :=
  "Drawdown " ++ Decimals.fixed 4 drawdownPct ++ " exceeds kill switch threshold " ++
    Decimals.fixed 4 threshold

/-- The text of a reduction, as it accompanies the factor. -/
def reductionText (drawdownPct threshold : ℚ) : String :=
  "Drawdown " ++ Decimals.fixed 4 drawdownPct ++ " exceeds reduction threshold " ++
    Decimals.fixed 4 threshold ++ " — applying 0.25 size factor (75% reduction)"

/-- Decide on a new trade: kill switch first, then the daily loss, then the
reduction for drawdown. The day is rolled over and the peak is raised before
the comparison, and both changes remain. -/
def checkTradeAllowed (monitor : DrawdownMonitor) (now currentEquity : ℚ) :
    DrawdownMonitor × DrawdownCheckResult :=
  let current := (monitor.resetDailyIfNeeded now).updateEquity currentEquity
  let drawdownPct := current.getDrawdown currentEquity
  if current.killSwitchPct ≤ drawdownPct then
    (current, ⟨.killSwitch, some (.killSwitch drawdownPct current.killSwitchPct), none, drawdownPct⟩)
  else
    let checked := current.checkDailyLossLimit now
    if current.dailyLossLimitHit || checked.2 then
      (checked.1, ⟨.reject,
        some (.dailyLoss checked.1.dailyRealizedLoss (checked.1.dailyMaxLossPct * 100)
          checked.1.dailyStartEquity), none, drawdownPct⟩)
    else if current.drawdownReductionPct ≤ drawdownPct then
      (checked.1, ⟨.reduceSize,
        some (.reduction drawdownPct current.drawdownReductionPct),
        some ⟨Constants.drawdownSizeReductionFactor,
          reductionText drawdownPct current.drawdownReductionPct⟩, drawdownPct⟩)
    else
      (checked.1, ⟨.allow, none, none, drawdownPct⟩)

/-- Rolling over twice on one reading is rolling over once. -/
@[simp] theorem reset_daily_if_needed_idem (monitor : DrawdownMonitor) (now : ℚ) :
    (monitor.resetDailyIfNeeded now).resetDailyIfNeeded now = monitor.resetDailyIfNeeded now := by
  by_cases later : monitor.currentDay < utcDay now
  · simp [resetDailyIfNeeded, later]
  · simp [resetDailyIfNeeded, later]

/-- Raising the peak does not interfere with the roll-over of the day. -/
theorem reset_after_update (monitor : DrawdownMonitor) (now equity : ℚ) :
    (monitor.updateEquity equity).resetDailyIfNeeded now =
      (monitor.resetDailyIfNeeded now).updateEquity equity := by
  by_cases higher : monitor.peakEquity < equity <;>
    by_cases later : monitor.currentDay < utcDay now <;>
    simp [updateEquity, resetDailyIfNeeded, higher, later]

/-- Every verdict other than rejection and the kill switch is given by a monitor
whose drawdown lies below the kill threshold and whose daily loss lies below
the limit; a reduction carries the fixed factor. -/
theorem check_trade_allowed_cases (monitor after : DrawdownMonitor) (now equity : ℚ)
    (result : DrawdownCheckResult) (checked : monitor.checkTradeAllowed now equity = (after, result))
    (notKilled : result.decision ≠ .killSwitch) (notRejected : result.decision ≠ .reject) :
    after = (monitor.resetDailyIfNeeded now).updateEquity equity ∧
      after.getDrawdown equity < after.killSwitchPct ∧
      after.dailyRealizedLoss < after.dailyLimit ∧
      after.dailyLossLimitHit = false ∧
      ((result.decision = .allow ∧ result.reductionFactor = none) ∨
        (result.decision = .reduceSize ∧ ∃ reason, result.reductionFactor =
          some ⟨Constants.drawdownSizeReductionFactor, reason⟩)) := by
  have rolled : ((monitor.resetDailyIfNeeded now).updateEquity equity).resetDailyIfNeeded now =
      (monitor.resetDailyIfNeeded now).updateEquity equity := by
    rw [reset_after_update, reset_daily_if_needed_idem]
  simp only [checkTradeAllowed, checkDailyLossLimit, rolled] at checked
  split_ifs at checked with killed limited reduced
  · exact absurd (congrArg (·.2.decision) checked).symm notKilled
  · exact absurd (congrArg (·.2.decision) checked).symm notRejected
  all_goals
    obtain ⟨rfl, rfl⟩ := Prod.mk.inj checked
    simp only [Bool.or_eq_true, decide_eq_true_eq, not_or, Bool.not_eq_true, not_le] at limited
    refine ⟨rfl, not_le.mp killed, limited.2, limited.1, ?_⟩
  · exact Or.inr ⟨rfl, _, rfl⟩
  · exact Or.inl ⟨rfl, rfl⟩

end DrawdownMonitor

end IgTradingBot
