import IgTradingBot.Research.ProfessionalBacktest
import Mathlib.Tactic.LinearCombination

/-!
# Strategy discovery

The simulators of `strategy_discovery.py` and `market_timeframe_research.py` walk a window of a frame
with one cursor. A signal is entered at the open of the next row, left at its stop, its target or
the last row that it may be held to, and the cursor goes behind that row. The two differ in the rows
that they admit and in what a fill costs; the signals are those of the builder of a strategy.
-/

namespace IgTradingBot

/-- A strategy, without the builder of its signals. -/
structure StrategySpec where
  family : String
  variant : String
  targetR : ℚ
  stopAtr : ℚ
  maxHoldBars : ℕ
  stop_pos : 0 < stopAtr
  target_pos : 0 < targetR
  deriving DecidableEq

/-- A row of a prepared frame with the signal that was built for it. What is not finite is `none`,
and so is the signal 0. -/
structure DiscoveryRow where
  time : ℚ
  openPrice : ℚ
  high : ℚ
  low : ℚ
  close : ℚ
  atr14 : Option ℚ
  session : String
  regime : String
  signal : Option ModelDirection := none
  target : Option ℚ := none
  deriving DecidableEq, Repr

/-- A trade, with its places in the frame, the day of its signal, and what it risked and paid. -/
structure DiscoveryTrade where
  family : String
  variant : String
  pair : String
  window : String
  signalIndex : ℕ
  entryIndex : ℕ
  exitIndex : ℕ
  day : ℤ
  stopDistance : ℚ
  perSide : ℚ
  entryTime : ℚ
  exitTime : ℚ
  direction : ModelDirection
  session : String
  volatilityRegime : String
  rMultiple : ℚ
  holdingMinutes : ℚ
  exitReason : ResearchExit
  deriving DecidableEq, Repr

/-- A part of a frame that is walked, as fractions of its length. -/
structure DiscoveryWindow where
  name : String
  startFraction : ℚ
  endFraction : ℚ
  deriving DecidableEq, Repr

/-- What the two simulators do not have in common: which rows they admit, given the row of the signal,
the next one and the average true range, and what a fill costs. -/
structure DiscoveryRules where
  pair : String
  variant : String
  admits : DiscoveryRow → DiscoveryRow → ℚ → Bool
  perSide : DiscoveryRow → DiscoveryRow → ℚ

/-- What it costs to trade a market. -/
structure MarketCost where
  spread : ℚ
  slippagePerSide : ℚ
  commissionPerSideBps : ℚ := 0
  deriving DecidableEq, Repr

/-- Where a position is left, at what level of the price, and why. -/
structure DiscoveryExit where
  reason : ResearchExit
  level : ℚ
  index : ℕ
  deriving DecidableEq, Repr

/-- State of a walk. -/
structure DiscoveryWalk where
  cursor : ℕ
  dailyR : ℤ → ℚ := fun _ => 0
  dailyCount : ℤ → ℕ := fun _ => 0
  trades : List DiscoveryTrade := []

namespace StrategyDiscovery

open ProfessionalBacktester (dayOf weekday pipOf)

def maxDailyTrades : ℕ := 3

/-- The windows, in their order. -/
def windows : List DiscoveryWindow :=
  [⟨"wf_1", 20 / 100, 40 / 100⟩, ⟨"wf_2", 40 / 100, 60 / 100⟩, ⟨"wf_3", 60 / 100, 80 / 100⟩,
    ⟨"oos", 80 / 100, 1⟩]

/-- The row at a place. -/
def rowAt (frame : List DiscoveryRow) (index : ℕ) : Except ResearchFailure DiscoveryRow :=
  match frame[index]? with
  | some row => .ok row
  | none => .error .indexError

/-- Where a walk starts. -/
def startOf (frame : List DiscoveryRow) (window : DiscoveryWindow) : ℕ :=
  max 250 ⌊frame.length * window.startFraction⌋₊

/-- Where a walk ends. A frame of one row has no place before its last but one. -/
def endOf (frame : List DiscoveryRow) (window : DiscoveryWindow) : ℤ :=
  min (frame.length - 2) ⌊frame.length * window.endFraction⌋₊

/-- The stop is reached in a row. -/
def stopHit (direction : ModelDirection) (stop : ℚ) (row : DiscoveryRow) : Bool :=
  match direction with
  | .long => row.low ≤ stop
  | .short => stop ≤ row.high

/-- The target is reached in a row. -/
def targetHit (direction : ModelDirection) (target : ℚ) (row : DiscoveryRow) : Bool :=
  match direction with
  | .long => target ≤ row.high
  | .short => row.low ≤ target

/-- The first barrier that is reached in some rows from a place on. A stop comes before a target of the
same row. -/
def findExit (direction : ModelDirection) (stop target : ℚ) :
    ℕ → List DiscoveryRow → Option DiscoveryExit
  | _, [] => none
  | future, row :: later =>
    if stopHit direction stop row then some ⟨.stop, stop, future⟩
    else if targetHit direction target row then some ⟨.target, target, future⟩
    else findExit direction stop target (future + 1) later

section Walk

variable (rules : DiscoveryRules) (spec : StrategySpec) (frame : List DiscoveryRow)
  (window : DiscoveryWindow)

/-- The target of an entry: that of the signal where it lies ahead, or one of the strategy. -/
def targetOf (row : DiscoveryRow) (direction : ModelDirection) (entry stopDistance : ℚ) : ℚ :=
  let ofStrategy := entry + direction.sign * stopDistance * spec.targetR
  match row.target with
  | some meanTarget =>
    if 0 < direction.sign * (meanTarget - entry) then meanTarget else ofStrategy
  | none => ofStrategy

/-- Where a position of an entry is left: the first barrier, or the close of the last row that it may
be held to. -/
def leave (direction : ModelDirection) (stop target : ℚ) (entryIndex finalCursor : ℕ) :
    Except ResearchFailure DiscoveryExit := do
  let final ← rowAt frame finalCursor
  let futures := (frame.drop entryIndex).take (finalCursor + 1 - entryIndex)
  pure ((findExit direction stop target entryIndex futures).getD ⟨.horizon, final.close, finalCursor⟩)

/-- The trade that the signal of a row leads to. -/
def simulateTrade (cursor : ℕ) (row entryRow : DiscoveryRow)
    (direction : ModelDirection) (atr : ℚ) :
    Except ResearchFailure DiscoveryTrade := do
  let entryIndex := cursor + 1
  let perSide := rules.perSide row entryRow
  let entry := entryRow.openPrice + direction.sign * perSide
  let stopDistance := atr * spec.stopAtr
  let stop := entry - direction.sign * stopDistance
  let target := targetOf spec row direction entry stopDistance
  let finalCursor := min (endOf frame window).toNat (entryIndex + spec.maxHoldBars)
  let exit ← leave frame direction stop target entryIndex finalCursor
  let exitPrice := exit.level - direction.sign * perSide
  let exitRow ← rowAt frame exit.index
  pure {
    family := spec.family
    variant := rules.variant
    pair := rules.pair
    window := window.name
    signalIndex := cursor
    entryIndex
    exitIndex := exit.index
    day := dayOf row.time
    stopDistance
    perSide
    entryTime := entryRow.time
    exitTime := exitRow.time
    direction
    session := entryRow.session
    volatilityRegime := entryRow.regime
    rMultiple := direction.sign * (exitPrice - entry) / stopDistance
    holdingMinutes := (exitRow.time - entryRow.time) / 60
    exitReason := exit.reason }

/-- A trade counts on the day of its signal, and the cursor goes behind its exit. -/
def record (walk : DiscoveryWalk) (trade : DiscoveryTrade) : DiscoveryWalk where
  cursor := trade.exitIndex + 1
  dailyR := Function.update walk.dailyR trade.day (walk.dailyR trade.day + trade.rMultiple)
  dailyCount := Function.update walk.dailyCount trade.day (walk.dailyCount trade.day + 1)
  trades := walk.trades ++ [trade]

/-- The cursor goes to the next row. -/
def skip (walk : DiscoveryWalk) : DiscoveryWalk := { walk with cursor := walk.cursor + 1 }

/-- No more trades on a day of three trades, or of a loss of five risks. -/
def dayIsClosed (walk : DiscoveryWalk) (day : ℤ) : Bool :=
  maxDailyTrades ≤ walk.dailyCount day || walk.dailyR day ≤ -5

/-- One pass of the loop. -/
def pass (walk : DiscoveryWalk) : Except ResearchFailure DiscoveryWalk := do
  let row ← rowAt frame walk.cursor
  match row.signal, row.atr14 with
  | some direction, some atr =>
    if dayIsClosed walk (dayOf row.time) || atr ≤ 0 then pure (skip walk)
    else
      let entryRow ← rowAt frame (walk.cursor + 1)
      if rules.admits row entryRow atr then
        let trade ← simulateTrade rules spec frame window walk.cursor row entryRow direction atr
        pure (record walk trade)
      else pure (skip walk)
  | _, _ => pure (skip walk)

/-- The loop goes on before its end. -/
def hasNext (walk : DiscoveryWalk) : Bool := (walk.cursor : ℤ) < endOf frame window

/-- Walk a window. Every pass goes on to a later row, so that there are at most as many as rows. -/
def walkWindow : Except ResearchFailure DiscoveryWalk :=
  Loops.runWhile (hasNext frame window) (pass rules spec frame window) (frame.length + 1)
    { cursor := startOf frame window }

end Walk

/-- Saturdays and Sundays. -/
def isWeekend (time : ℚ) : Bool := 5 ≤ weekday time

/-- The rules of `run_spec`: no weekends, and one cost for all rows. -/
def discoveryRules (pair : String) (spec : StrategySpec) (spreadPips slippagePips : ℚ) :
    DiscoveryRules where
  pair
  variant := spec.variant
  admits row entryRow _ := !isWeekend row.time && !isWeekend entryRow.time
  perSide _ _ := (spreadPips / 2 + slippagePips) * pipOf pair

def runSpec (frame : List DiscoveryRow) (pair : String) (spec : StrategySpec)
    (window : DiscoveryWindow) (spreadPips slippagePips : ℚ) :
    Except ResearchFailure (List DiscoveryTrade) :=
  (walkWindow (discoveryRules pair spec spreadPips slippagePips) spec frame window).map
    DiscoveryWalk.trades

/-- The spread at the row of a signal. -/
def totalSpread (market : String) (cost : MarketCost) (costMultiplier : ℚ) (row : DiscoveryRow) : ℚ :=
  (if market ≠ "BTCUSDT" then cost.spread else row.close * (2 / 10000)) * costMultiplier

/-- The rules of `run_market_spec`: the spread is at most a fifth of the average true range, bitcoin
trades on weekends, and the fills of a trade pay a commission on the price of its entry. -/
def marketRules (market timeframe : String) (spec : StrategySpec) (cost : MarketCost)
    (costMultiplier slippageMultiplier : ℚ) : DiscoveryRules where
  pair := market
  variant := spec.variant ++ "_" ++ timeframe
  admits row _ atr :=
    (market = "BTCUSDT" || !isWeekend row.time) &&
      totalSpread market cost costMultiplier row / atr ≤ 20 / 100
  perSide row entryRow :=
    totalSpread market cost costMultiplier row / 2 +
      cost.slippagePerSide * costMultiplier * slippageMultiplier +
      entryRow.openPrice * cost.commissionPerSideBps * costMultiplier / 10000

def runMarketSpec (frame : List DiscoveryRow) (market timeframe : String) (spec : StrategySpec)
    (window : DiscoveryWindow) (cost : MarketCost) (costMultiplier slippageMultiplier : ℚ) :
    Except ResearchFailure (List DiscoveryTrade) :=
  (walkWindow (marketRules market timeframe spec cost costMultiplier slippageMultiplier) spec frame
    window).map DiscoveryWalk.trades

/-! ## What a pass does -/

section Passes

variable {rules : DiscoveryRules} {spec : StrategySpec} {frame : List DiscoveryRow}
  {window : DiscoveryWindow} {walk next : DiscoveryWalk} {direction : ModelDirection}
  {stop target : ℚ} {future : ℕ} {rows : List DiscoveryRow}

theorem rowAt_eq_ok {index : ℕ} {row : DiscoveryRow} :
    rowAt frame index = .ok row ↔ frame[index]? = some row := by
  rw [rowAt]
  cases frame[index]? <;> simp

/-- An exit is in the rows, at the level of its reason. -/
theorem findExit_some {exit : DiscoveryExit}
    (found : findExit direction stop target future rows = some exit) :
    (future ≤ exit.index ∧ exit.index < future + rows.length) ∧
      (exit.reason = .stop ∧ exit.level = stop ∨ exit.reason = .target ∧ exit.level = target) := by
  induction rows generalizing future with
  | nil => cases found
  | cons row later inductionHypothesis =>
    rw [findExit] at found
    rw [List.length_cons]
    split_ifs at found
    · cases found
      exact ⟨⟨le_rfl, Nat.lt_add_of_pos_right (Nat.succ_pos _)⟩, .inl ⟨rfl, rfl⟩⟩
    · cases found
      exact ⟨⟨le_rfl, Nat.lt_add_of_pos_right (Nat.succ_pos _)⟩, .inr ⟨rfl, rfl⟩⟩
    · obtain ⟨⟨behind, before⟩, reasons⟩ := inductionHypothesis found
      exact ⟨⟨by omega, by omega⟩, reasons⟩

/-- Without an exit the stop was reached in no row. -/
theorem findExit_none (found : findExit direction stop target future rows = none) :
    ∀ row ∈ rows, stopHit direction stop row = false := by
  induction rows generalizing future with
  | nil => exact fun row member => nomatch member
  | cons first later inductionHypothesis =>
    rw [findExit] at found
    split_ifs at found with stopped reached
    intro row member
    obtain rfl | isLater := List.mem_cons.mp member
    · exact Bool.eq_false_of_not_eq_true stopped
    · exact inductionHypothesis found row isLater

/-- What is known of a trade from its places alone. -/
structure Placed (frame : List DiscoveryRow) (window : DiscoveryWindow) (cursor : ℕ) (day : ℤ)
    (trade : DiscoveryTrade) : Prop where
  signal : trade.signalIndex = cursor
  entry : trade.entryIndex = cursor + 1
  entered : trade.entryIndex ≤ trade.exitIndex
  within : (trade.exitIndex : ℤ) ≤ endOf frame window
  day : trade.day = day

/-- The end of a walk is a place of the frame. -/
theorem endOf_lt (frame : List DiscoveryRow) (window : DiscoveryWindow)
    (inside : (0 : ℤ) ≤ endOf frame window) :
    (endOf frame window).toNat + 1 < frame.length := by
  have bound : endOf frame window ≤ frame.length - 2 := min_le_left _ _
  omega

/-- A position is left between its entry and the last row that it may be held to. -/
theorem leave_returns {entryIndex finalCursor : ℕ} (entered : entryIndex ≤ finalCursor)
    (inside : finalCursor < frame.length) (direction : ModelDirection) (stop target : ℚ) :
    ∃ exit, leave frame direction stop target entryIndex finalCursor = .ok exit ∧
      entryIndex ≤ exit.index ∧ exit.index ≤ finalCursor := by
  have final := rowAt_eq_ok.mpr (List.getElem?_eq_getElem inside)
  rw [leave, final]
  refine ⟨_, rfl, ?_⟩
  cases found : findExit direction stop target entryIndex
      ((frame.drop entryIndex).take (finalCursor + 1 - entryIndex)) with
  | none => exact ⟨entered, le_rfl⟩
  | some exit =>
    obtain ⟨⟨behind, before⟩, -⟩ := findExit_some found
    have length := List.length_take_le (finalCursor + 1 - entryIndex) (frame.drop entryIndex)
    exact ⟨behind, by simp only [Option.getD_some]; omega⟩

/-- A signal before the end of the walk leads to a trade. -/
theorem simulateTrade_returns (rules : DiscoveryRules) (spec : StrategySpec) {cursor : ℕ}
    (guarded : (cursor : ℤ) < endOf frame window) (row entryRow : DiscoveryRow)
    (direction : ModelDirection) (atr : ℚ) :
    ∃ trade, simulateTrade rules spec frame window cursor row entryRow direction atr = .ok trade ∧
      Placed frame window cursor (dayOf row.time) trade := by
  have inside := endOf_lt frame window (by omega)
  have finalWithin : min (endOf frame window).toNat (cursor + 1 + spec.maxHoldBars) ≤
      (endOf frame window).toNat := min_le_left _ _
  have entered : cursor + 1 ≤ min (endOf frame window).toNat (cursor + 1 + spec.maxHoldBars) :=
    le_min (by omega) (by omega)
  obtain ⟨exit, left, behind, before⟩ := leave_returns entered
    (finalWithin.trans_lt (Nat.lt_of_succ_lt inside)) direction
    (entryRow.openPrice + direction.sign * rules.perSide row entryRow -
      direction.sign * (atr * spec.stopAtr))
    (targetOf spec row direction (entryRow.openPrice + direction.sign * rules.perSide row entryRow)
      (atr * spec.stopAtr))
  have exitRow := rowAt_eq_ok.mpr
    (List.getElem?_eq_getElem (show exit.index < frame.length by omega))
  rw [simulateTrade, left]
  simp only [bind, Except.bind, exitRow]
  exact ⟨_, rfl, rfl, rfl, behind, by simp only; omega, rfl⟩

/-- A pass goes on to the next row, or records the trade of a signal. -/
theorem pass_cases (rules : DiscoveryRules) (spec : StrategySpec)
    (guarded : hasNext frame window walk = true) :
    pass rules spec frame window walk = .ok (skip walk) ∨
    ∃ row entryRow direction atr trade,
      frame[walk.cursor]? = some row ∧ frame[walk.cursor + 1]? = some entryRow ∧
      row.signal = some direction ∧ row.atr14 = some atr ∧ 0 < atr ∧
      dayIsClosed walk (dayOf row.time) = false ∧
      simulateTrade rules spec frame window walk.cursor row entryRow direction atr = .ok trade ∧
      Placed frame window walk.cursor (dayOf row.time) trade ∧
      pass rules spec frame window walk = .ok (record walk trade) := by
  have guarded' : (walk.cursor : ℤ) < endOf frame window := of_decide_eq_true guarded
  have inside := endOf_lt frame window (by omega)
  obtain ⟨row, here⟩ : ∃ row, frame[walk.cursor]? = some row :=
    ⟨_, List.getElem?_eq_getElem (by omega)⟩
  obtain ⟨entryRow, after⟩ : ∃ row, frame[walk.cursor + 1]? = some row :=
    ⟨_, List.getElem?_eq_getElem (by omega)⟩
  rw [pass, rowAt_eq_ok.mpr here]
  simp only [bind, Except.bind]
  split
  case h_1 direction atr signal range =>
    split
    case isTrue => exact .inl rfl
    case isFalse opens =>
      rw [Bool.or_eq_true, not_or, decide_eq_true_iff, not_le] at opens
      simp only [rowAt_eq_ok.mpr after]
      split
      case isTrue =>
        obtain ⟨trade, simulated, placed⟩ := simulateTrade_returns rules spec guarded' row entryRow
          direction atr
        rw [simulated]
        exact .inr ⟨row, entryRow, direction, atr, trade, here, after, signal, range, opens.2,
          Bool.eq_false_of_not_eq_true opens.1, simulated, placed, rfl⟩
      case isFalse => exact .inl rfl
  case h_2 => exact .inl rfl

end Passes

/-! ## The discipline of a run -/

/-- The trades of a day. -/
def ofDay (day : ℤ) (trades : List DiscoveryTrade) : List DiscoveryTrade :=
  trades.filter fun trade => trade.day = day

/-- The sum of some trades, in risks. -/
def totalR (trades : List DiscoveryTrade) : ℚ := (trades.map DiscoveryTrade.rMultiple).sum

/-- Each trade was opened on a day of less than three trades and of a loss of less than five risks. -/
def WithinLimits (trades : List DiscoveryTrade) : Prop :=
  ∀ before trade after, trades = before ++ trade :: after →
    (ofDay trade.day before).length < maxDailyTrades ∧ -5 < totalR (ofDay trade.day before)

/-- What holds of a walk at every pass. -/
structure Walked (frame : List DiscoveryRow) (window : DiscoveryWindow) (walk : DiscoveryWalk) :
    Prop where
  counted : ∀ day, walk.dailyCount day = (ofDay day walk.trades).length
  summed : ∀ day, walk.dailyR day = totalR (ofDay day walk.trades)
  limits : WithinLimits walk.trades
  ordered : walk.trades.Pairwise fun earlier later => earlier.exitIndex < later.signalIndex
  started : startOf frame window ≤ walk.cursor
  behind : ∀ trade ∈ walk.trades, startOf frame window ≤ trade.signalIndex ∧
    trade.entryIndex = trade.signalIndex + 1 ∧ trade.entryIndex ≤ trade.exitIndex ∧
    trade.exitIndex < walk.cursor ∧ (trade.exitIndex : ℤ) ≤ endOf frame window

section Discipline

variable {rules : DiscoveryRules} {spec : StrategySpec} {frame : List DiscoveryRow}
  {window : DiscoveryWindow} {walk : DiscoveryWalk} {trade : DiscoveryTrade}

theorem ofDay_concat (day : ℤ) (trades : List DiscoveryTrade) (trade : DiscoveryTrade) :
    ofDay day (trades ++ [trade]) = ofDay day trades ++ if trade.day = day then [trade] else [] := by
  rw [ofDay, ofDay, List.filter_append]
  by_cases same : trade.day = day <;> simp [same]

theorem totalR_concat (trades : List DiscoveryTrade) (trade : DiscoveryTrade) :
    totalR (trades ++ [trade]) = totalR trades + trade.rMultiple := by
  simp [totalR]

/-- One more trade on a day that was open. -/
theorem WithinLimits.concat {trades : List DiscoveryTrade} (limits : WithinLimits trades)
    (few : (ofDay trade.day trades).length < maxDailyTrades)
    (gain : -5 < totalR (ofDay trade.day trades)) : WithinLimits (trades ++ [trade]) := by
  intro before other after split
  obtain rfl | ⟨initial, last, rfl⟩ := List.eq_nil_or_concat after
  · obtain ⟨rfl, same⟩ := List.append_inj' split rfl
    obtain rfl := List.head_eq_of_cons_eq same
    exact ⟨few, gain⟩
  · rw [List.concat_eq_append, ← List.cons_append, ← List.append_assoc] at split
    exact limits before other initial (List.append_inj' split rfl).1

/-- A skipped row keeps a walk in order. -/
theorem Walked.skip (walked : Walked frame window walk) : Walked frame window (skip walk) := by
  obtain ⟨counted, summed, limits, ordered, started, behind⟩ := walked
  refine ⟨counted, summed, limits, ordered, started.trans (Nat.le_succ _), ?_⟩
  intro trade member
  obtain ⟨start, entry, entered, exit, within⟩ := behind trade member
  exact ⟨start, entry, entered, exit.trans (Nat.lt_succ_self _), within⟩

/-- A trade on a day that was open keeps a walk in order. -/
theorem Walked.record {day : ℤ} (walked : Walked frame window walk)
    (opens : dayIsClosed walk day = false) (placed : Placed frame window walk.cursor day trade) :
    Walked frame window (record walk trade) := by
  obtain ⟨counted, summed, limits, ordered, started, behind⟩ := walked
  obtain ⟨signal, entry, entered, within, rfl⟩ := placed
  rw [dayIsClosed, Bool.or_eq_false_iff, decide_eq_false_iff_not, decide_eq_false_iff_not, not_le,
    not_le, counted, summed] at opens
  refine ⟨?_, ?_, limits.concat opens.1 opens.2, ?_, ?_, ?_⟩
  · intro day
    rw [StrategyDiscovery.record, ofDay_concat, List.length_append]
    by_cases same : trade.day = day
    · subst same
      simp [counted]
    · simp [same, Function.update_of_ne (Ne.symm same), counted]
  · intro day
    rw [StrategyDiscovery.record, ofDay_concat]
    by_cases same : trade.day = day
    · subst same
      simp [summed, totalR_concat]
    · simp [same, Function.update_of_ne (Ne.symm same), summed]
  · refine List.pairwise_append.mpr ⟨ordered, List.pairwise_singleton _ _, ?_⟩
    intro earlier member later isLater
    rw [List.mem_singleton.mp isLater, signal]
    exact (behind earlier member).2.2.2.1
  · exact started.trans (by simp only [StrategyDiscovery.record]; omega)
  · intro other member
    obtain before | isNew := List.mem_append.mp member
    · obtain ⟨start, otherEntry, otherEntered, exit, otherWithin⟩ := behind other before
      exact ⟨start, otherEntry, otherEntered, by simp only [StrategyDiscovery.record]; omega,
        otherWithin⟩
    · rw [List.mem_singleton.mp isNew]
      exact ⟨by omega, by omega, entered, Nat.lt_succ_self _, within⟩

/-- A walk comes to its end, in order at every pass. -/
theorem walkWindow_returns (rules : DiscoveryRules) (spec : StrategySpec)
    (frame : List DiscoveryRow) (window : DiscoveryWindow) :
    ∃ walk, walkWindow rules spec frame window = .ok walk ∧ Walked frame window walk := by
  have initially : Walked frame window { cursor := startOf frame window } :=
    ⟨fun _ => rfl, fun _ => rfl, by simp [WithinLimits], .nil, le_rfl, by simp⟩
  let left (walk : DiscoveryWalk) : ℕ := (endOf frame window - walk.cursor).toNat
  have passes (walk : DiscoveryWalk) (walked : Walked frame window walk)
      (guarded : hasNext frame window walk = true) :
      ∃ next, pass rules spec frame window walk = .ok next ∧ Walked frame window next ∧
        left next < left walk := by
    have before : (walk.cursor : ℤ) < endOf frame window := of_decide_eq_true guarded
    obtain skipped | ⟨row, entryRow, direction, atr, trade, -, -, -, -, -, opens, -, placed, recorded⟩ :=
      pass_cases rules spec guarded
    · refine ⟨_, skipped, walked.skip, ?_⟩
      simp only [left, StrategyDiscovery.skip]
      omega
    · refine ⟨_, recorded, walked.record opens placed, ?_⟩
      have entered := placed.entered
      have entry := placed.entry
      simp only [left, StrategyDiscovery.record]
      omega
  have enough : left { cursor := startOf frame window } < frame.length + 1 := by
    have bound : endOf frame window ≤ frame.length - 2 := min_le_left _ _
    simp only [left]
    omega
  obtain ⟨walk, returned, -, walked⟩ := Loops.run_while_returns left passes initially enough
  exact ⟨walk, returned, walked⟩

/-- The windows of a frame, walked in their order. -/
def Disciplined (run : DiscoveryWindow → Except ResearchFailure (List DiscoveryTrade)) : Prop :=
  ∃ lists, windows.mapM run = .ok lists ∧ (∀ trades ∈ lists, WithinLimits trades) ∧
    lists.flatten.Pairwise fun earlier later => earlier.exitIndex < later.entryIndex

/-- A walk ends where the next one starts, or before. -/
theorem endOf_le_startOf (frame : List DiscoveryRow) {former latter : DiscoveryWindow}
    (apart : former.endFraction ≤ latter.startFraction) :
    endOf frame former ≤ startOf frame latter := by
  have floors : ⌊frame.length * former.endFraction⌋₊ ≤ ⌊frame.length * latter.startFraction⌋₊ :=
    Nat.floor_mono (mul_le_mul_of_nonneg_left apart (Nat.cast_nonneg _))
  calc endOf frame former ≤ (⌊frame.length * former.endFraction⌋₊ : ℤ) := min_le_right _ _
    _ ≤ (⌊frame.length * latter.startFraction⌋₊ : ℤ) := by exact_mod_cast floors
    _ ≤ startOf frame latter := by exact_mod_cast le_max_right _ _

/-- The walks of windows that lie behind each other. The induction is on the windows. -/
theorem walks_disciplined (rules : DiscoveryRules) (spec : StrategySpec)
    (frame : List DiscoveryRow) {parts : List DiscoveryWindow}
    (apart : parts.Pairwise fun former latter => former.endFraction ≤ latter.startFraction) :
    ∃ lists, (parts.mapM fun window =>
        (walkWindow rules spec frame window).map DiscoveryWalk.trades) = .ok lists ∧
      (∀ trades ∈ lists, WithinLimits trades) ∧
      (lists.flatten.Pairwise fun earlier later => earlier.exitIndex < later.entryIndex) ∧
      ∀ trade ∈ lists.flatten, ∃ window ∈ parts, startOf frame window < trade.entryIndex := by
  induction parts with
  | nil => exact ⟨[], rfl, by simp, .nil, by simp⟩
  | cons window rest inductionHypothesis =>
    obtain ⟨ahead, restApart⟩ := List.pairwise_cons.mp apart
    obtain ⟨lists, returned, limits, ordered, starts⟩ := inductionHypothesis restApart
    obtain ⟨walk, walks, walked⟩ := walkWindow_returns rules spec frame window
    refine ⟨walk.trades :: lists, ?_, ?_, ?_, ?_⟩
    · rw [List.mapM_cons, walks, returned]
      rfl
    · intro trades member
      obtain rfl | later := List.mem_cons.mp member
      · exact walked.limits
      · exact limits trades later
    · rw [List.flatten_cons]
      refine List.pairwise_append.mpr ⟨?_, ordered, ?_⟩
      · refine walked.ordered.imp_of_mem fun _ among before => ?_
        obtain ⟨-, entry, -⟩ := walked.behind _ among
        omega
      · intro earlier known later among
        obtain ⟨other, isRest, starts⟩ := starts later among
        have seam := endOf_le_startOf frame (ahead other isRest)
        obtain ⟨-, -, -, -, within⟩ := walked.behind earlier known
        omega
    · intro trade member
      obtain known | later := List.mem_append.mp (List.flatten_cons ▸ member)
      · obtain ⟨start, entry, -⟩ := walked.behind trade known
        exact ⟨window, List.mem_cons_self, by omega⟩
      · obtain ⟨other, isRest, starts⟩ := starts trade later
        exact ⟨other, List.mem_cons_of_mem window isRest, starts⟩

end Discipline

/-! ## The loss of a trade -/

/-- A row whose close is between its low and its high. -/
def WellFormed (row : DiscoveryRow) : Prop := row.low ≤ row.close ∧ row.close ≤ row.high

/-- What a trade loses at its stop, in risks: the whole risk, and what it pays to leave. -/
def stopLossR (trade : DiscoveryTrade) : ℚ := -(1 + trade.perSide / trade.stopDistance)

section Losses

variable {rules : DiscoveryRules} {spec : StrategySpec} {frame : List DiscoveryRow}
  {window : DiscoveryWindow} {walk : DiscoveryWalk} {trade : DiscoveryTrade}
  {direction : ModelDirection} {row entryRow : DiscoveryRow} {atr stop target entry distance : ℚ}

/-- The target of an entry lies ahead. -/
theorem target_ahead (spec : StrategySpec) (row : DiscoveryRow) (direction : ModelDirection)
    (entry : ℚ) (positive : 0 < distance) :
    0 < direction.sign * (targetOf spec row direction entry distance - entry) := by
  have ofStrategy : 0 < direction.sign *
      (entry + direction.sign * distance * spec.targetR - entry) := by
    have gain := mul_pos positive spec.target_pos
    cases direction <;> simp only [ModelDirection.sign] <;> linarith
  rw [targetOf]
  split
  · split
    case isTrue ahead => exact ahead
    case isFalse => exact ofStrategy
  · exact ofStrategy

/-- The close of a row whose stop was not reached lies ahead of the stop. -/
theorem close_ahead (wellFormed : WellFormed row) (missed : stopHit direction stop row = false) :
    0 < direction.sign * (row.close - stop) := by
  obtain ⟨low, high⟩ := wellFormed
  cases direction with
  | long =>
    have above : stop < row.low := not_le.mp (of_decide_eq_false missed)
    simp only [ModelDirection.sign]
    linarith
  | short =>
    have below : row.high < stop := not_le.mp (of_decide_eq_false missed)
    simp only [ModelDirection.sign]
    linarith

/-- A position is left at its stop or ahead of it. -/
theorem leave_level {entryIndex finalCursor : ℕ} {exit : DiscoveryExit}
    (wellFormed : ∀ row ∈ frame, WellFormed row) (entered : entryIndex ≤ finalCursor)
    (ahead : 0 < direction.sign * (target - stop))
    (left : leave frame direction stop target entryIndex finalCursor = .ok exit) :
    exit.reason = .stop ∧ exit.level = stop ∨
      exit.reason ≠ .stop ∧ 0 < direction.sign * (exit.level - stop) := by
  rw [leave] at left
  obtain ⟨final, finalRow, left⟩ := Loops.bind_eq_ok.mp left
  obtain rfl := Except.ok.inj left
  have last : frame[finalCursor]? = some final := rowAt_eq_ok.mp finalRow
  cases found : findExit direction stop target entryIndex
      ((frame.drop entryIndex).take (finalCursor + 1 - entryIndex)) with
  | none =>
    have among : final ∈ (frame.drop entryIndex).take (finalCursor + 1 - entryIndex) := by
      refine List.mem_of_getElem? (i := finalCursor - entryIndex) ?_
      rw [List.getElem?_take_of_lt (by omega), List.getElem?_drop, Nat.add_sub_cancel' entered, last]
    exact .inr ⟨nofun, close_ahead (wellFormed final (List.mem_of_getElem? last))
      (findExit_none found final among)⟩
  | some exit =>
    obtain ⟨-, ⟨reason, level⟩ | ⟨reason, level⟩⟩ := findExit_some found
    · exact .inl ⟨reason, level⟩
    · refine .inr ⟨?_, ?_⟩
      · simp [reason]
      · simp only [Option.getD_some, level]
        exact ahead

/-- A trade loses no more than at its stop, and that only there. -/
theorem stopLossR_le (wellFormed : ∀ row ∈ frame, WellFormed row) {cursor : ℕ}
    (guarded : (cursor : ℤ) < endOf frame window) (positive : 0 < atr)
    (simulated : simulateTrade rules spec frame window cursor row entryRow direction atr = .ok trade) :
    stopLossR trade ≤ trade.rMultiple ∧
      (trade.rMultiple = stopLossR trade ↔ trade.exitReason = .stop) := by
  have distance : 0 < atr * spec.stopAtr := mul_pos positive spec.stop_pos
  have inside := endOf_lt frame window (by omega)
  rw [simulateTrade] at simulated
  obtain ⟨exit, left, simulated⟩ := Loops.bind_eq_ok.mp simulated
  obtain ⟨exitRow, -, simulated⟩ := Loops.bind_eq_ok.mp simulated
  obtain rfl := Except.ok.inj simulated
  generalize enters : entryRow.openPrice + direction.sign * rules.perSide row entryRow = entry at *
  have square : direction.sign * direction.sign = 1 := by
    cases direction <;> norm_num [ModelDirection.sign]
  have ahead : 0 < direction.sign *
      (targetOf spec row direction entry (atr * spec.stopAtr) -
        (entry - direction.sign * (atr * spec.stopAtr))) := by
    have beyond := target_ahead spec row direction entry distance
    linear_combination beyond + distance - (atr * spec.stopAtr) * square
  have gain : direction.sign * (exit.level - direction.sign * rules.perSide row entryRow - entry) /
      (atr * spec.stopAtr) =
        -(1 + rules.perSide row entryRow / (atr * spec.stopAtr)) +
          direction.sign * (exit.level - (entry - direction.sign * (atr * spec.stopAtr))) /
            (atr * spec.stopAtr) := by
    have atrNonzero := positive.ne'
    have stopNonzero := spec.stop_pos.ne'
    field_simp
    linear_combination (-(rules.perSide row entryRow) - atr * spec.stopAtr) * square
  simp only [stopLossR]
  rw [gain]
  obtain ⟨reason, level⟩ | ⟨reason, level⟩ :=
    leave_level wellFormed (le_min (by omega) (by omega)) ahead left
  · rw [level, sub_self, mul_zero, zero_div, add_zero]
    exact ⟨le_rfl, iff_of_true rfl reason⟩
  · have more := div_pos level distance
    exact ⟨by linarith, iff_of_false (by linarith) reason⟩

/-- A day on which no trade was opened after a loss of five risks loses little more than six. The
induction is on the trades, from the last. -/
theorem WithinLimits.day_loss {trades : List DiscoveryTrade} (limits : WithinLimits trades)
    {share : ℚ} (nonneg : 0 ≤ share) (losses : ∀ trade ∈ trades, -(1 + share) ≤ trade.rMultiple)
    (day : ℤ) : -(6 + share) < totalR (ofDay day trades) := by
  induction trades using List.reverseRecOn with
  | nil =>
    simp only [ofDay, totalR, List.filter_nil, List.map_nil, List.sum_nil]
    linarith
  | append_singleton trades last inductionHypothesis =>
    have former : WithinLimits trades := by
      intro before trade after split
      refine limits before trade (after ++ [last]) ?_
      rw [split, List.append_assoc, List.cons_append]
    rw [ofDay_concat]
    by_cases same : last.day = day
    · subst same
      obtain ⟨-, gain⟩ := limits trades last [] rfl
      have loss := losses last (List.mem_append_right trades List.mem_cons_self)
      rw [if_pos rfl, totalR_concat]
      linarith
    · rw [if_neg same, List.append_nil]
      exact inductionHypothesis former fun trade member =>
        losses trade (List.mem_append_left [last] member)

/-- Every trade of a walk loses no more than at its stop. -/
theorem walk_losses (wellFormed : ∀ row ∈ frame, WellFormed row)
    (walks : walkWindow rules spec frame window = .ok walk) :
    ∀ trade ∈ walk.trades, stopLossR trade ≤ trade.rMultiple ∧
      (trade.rMultiple = stopLossR trade ↔ trade.exitReason = .stop) := by
  have kept (walk next : DiscoveryWalk)
      (known : ∀ trade ∈ walk.trades, stopLossR trade ≤ trade.rMultiple ∧
        (trade.rMultiple = stopLossR trade ↔ trade.exitReason = .stop))
      (guarded : hasNext frame window walk = true)
      (passed : pass rules spec frame window walk = .ok next) :
      ∀ trade ∈ next.trades, stopLossR trade ≤ trade.rMultiple ∧
        (trade.rMultiple = stopLossR trade ↔ trade.exitReason = .stop) := by
    obtain skipped | ⟨row, entryRow, direction, atr, trade, -, -, -, -, positive, -, simulated, -,
      recorded⟩ := pass_cases rules spec guarded
    · obtain rfl := Except.ok.inj (skipped.symm.trans passed)
      exact known
    · obtain rfl := Except.ok.inj (recorded.symm.trans passed)
      intro other member
      obtain before | isNew := List.mem_append.mp member
      · exact known other before
      · rw [List.mem_singleton.mp isNew]
        exact stopLossR_le wellFormed (of_decide_eq_true guarded) positive simulated
  exact Loops.run_while_keeps kept (List.forall_mem_nil _) walks

/-- What the trades of a simulator lose at most, one by one and on a day. -/
def LossesBounded (run : DiscoveryWindow → Except ResearchFailure (List DiscoveryTrade)) : Prop :=
  ∀ window trades, run window = .ok trades →
    (∀ trade ∈ trades, stopLossR trade ≤ trade.rMultiple ∧
      (trade.rMultiple = stopLossR trade ↔ trade.exitReason = .stop)) ∧
    ∀ day share, 0 ≤ share → (∀ trade ∈ trades, trade.perSide / trade.stopDistance ≤ share) →
      -(6 + share) < totalR (ofDay day trades)

/-- On rows whose close is between low and high, a trade of either simulator loses at most its risk
and what it pays to leave, and exactly that where it is stopped. So no day loses more than six
risks, and what one trade of it pays to leave. -/
theorem losses_bounded (wellFormed : ∀ row ∈ frame, WellFormed row) (pair timeframe : String)
    (spec : StrategySpec) (spreadPips slippagePips costMultiplier slippageMultiplier : ℚ)
    (cost : MarketCost) :
    LossesBounded (fun window => runSpec frame pair spec window spreadPips slippagePips) ∧
      LossesBounded fun window =>
        runMarketSpec frame pair timeframe spec window cost costMultiplier slippageMultiplier := by
  have bounded (rules : DiscoveryRules) : LossesBounded fun window =>
      (walkWindow rules spec frame window).map DiscoveryWalk.trades := by
    intro window trades returned
    obtain ⟨walk, walks, walked⟩ := walkWindow_returns rules spec frame window
    simp only [walks] at returned
    obtain rfl := Except.ok.inj returned
    have losses := walk_losses wellFormed walks
    refine ⟨losses, fun day share nonneg shares => ?_⟩
    refine walked.limits.day_loss nonneg (fun trade member => ?_) day
    have loss := (losses trade member).1
    have part := shares trade member
    rw [stopLossR] at loss
    linarith
  exact ⟨bounded _, bounded _⟩

/-- On a frame of rising rows with signals. -/
theorem losses_bounded_rising :
    let spec : StrategySpec := ⟨"BREAKOUT", "ASIAN_RANGE_CLOSE", 3 / 2, 6 / 5, 48, by norm_num,
      by norm_num⟩
    let row (place : ℕ) : DiscoveryRow :=
      ⟨300 * place, 1 + place / 1000, 1 + place / 1000, 1 + place / 1000, 1 + place / 1000,
        some (1 / 1000), "LONDON", "NORMAL", some .long, none⟩
    LossesBounded fun window =>
      runSpec ((List.range 1000).map row) "EURUSD" spec window 1 (3 / 10) := by
  intro spec row
  refine (losses_bounded ?_ "EURUSD" "1H" spec 1 (3 / 10) 1 1 ⟨1 / 10000, 3 / 100000, 0⟩).1
  intro bar member
  obtain ⟨place, -, rfl⟩ := List.mem_map.mp member
  exact ⟨le_rfl, le_rfl⟩

end Losses

/-! ## No look ahead -/

section Causality

variable {rules : DiscoveryRules} {spec : StrategySpec} {first second : List DiscoveryRow}
  {window : DiscoveryWindow} {last : ℕ}

/-- The trades that are over at a row. -/
def overBy (last : ℕ) (trades : List DiscoveryTrade) : List DiscoveryTrade :=
  trades.filter fun trade => trade.exitIndex ≤ last

/-- The barriers in two parts of some rows. -/
theorem findExit_append (direction : ModelDirection) (stop target : ℚ) (future : ℕ)
    (near far : List DiscoveryRow) :
    findExit direction stop target future (near ++ far) =
      (findExit direction stop target future near).or
        (findExit direction stop target (future + near.length) far) := by
  induction near generalizing future with
  | nil => rfl
  | cons row later inductionHypothesis =>
    rw [List.cons_append, findExit, findExit]
    split_ifs
    · rfl
    · rfl
    · rw [inductionHypothesis, List.length_cons, Nat.add_right_comm, Nat.add_assoc]

/-- Frames that are the same up to a row have the same rows there. -/
theorem getElem?_eq_of_take (same : first.take (last + 1) = second.take (last + 1)) {index : ℕ}
    (early : index ≤ last) : first[index]? = second[index]? := by
  rw [← List.getElem?_take_of_lt (Nat.lt_succ_of_le early), same,
    List.getElem?_take_of_lt (Nat.lt_succ_of_le early)]

/-- They have the same rows in every part before it. -/
theorem futures_eq_of_take (same : first.take (last + 1) = second.take (last + 1))
    {entryIndex count : ℕ} (early : entryIndex + count ≤ last + 1) :
    (first.drop entryIndex).take count = (second.drop entryIndex).take count := by
  refine List.ext_getElem? fun place => ?_
  by_cases inside : place < count
  · rw [List.getElem?_take_of_lt inside, List.getElem?_take_of_lt inside, List.getElem?_drop,
      List.getElem?_drop, getElem?_eq_of_take same (by omega)]
  · rw [List.getElem?_take_eq_none (not_lt.mp inside), List.getElem?_take_eq_none (not_lt.mp inside)]

/-- A position that no barrier ends up to a row is left behind it. -/
theorem lt_leave {frame : List DiscoveryRow} {direction : ModelDirection} {stop target : ℚ}
    {entryIndex finalCursor : ℕ} {exit : DiscoveryExit} (early : entryIndex ≤ last)
    (beyond : last < finalCursor) (inside : finalCursor < frame.length)
    (missed : findExit direction stop target entryIndex
      ((frame.drop entryIndex).take (last + 1 - entryIndex)) = none)
    (left : leave frame direction stop target entryIndex finalCursor = .ok exit) :
    last < exit.index := by
  have length : ((frame.drop entryIndex).take (last + 1 - entryIndex)).length =
      last + 1 - entryIndex := by
    rw [List.length_take, List.length_drop]
    omega
  have parts : finalCursor + 1 - entryIndex =
      (last + 1 - entryIndex) + (finalCursor - last) := by omega
  rw [leave, rowAt_eq_ok.mpr (List.getElem?_eq_getElem inside), parts, List.take_add] at left
  obtain rfl := Except.ok.inj left
  rw [findExit_append, missed, Option.none_or, length]
  cases found : findExit direction stop target (entryIndex + (last + 1 - entryIndex))
      (((frame.drop entryIndex).drop (last + 1 - entryIndex)).take (finalCursor - last)) with
  | none => exact beyond
  | some exit =>
    obtain ⟨⟨behind, -⟩, -⟩ := findExit_some found
    simp only [Option.getD_some]
    omega

/-- A position that a barrier ends up to a row is left there. -/
theorem leave_of_found {frame : List DiscoveryRow} {direction : ModelDirection} {stop target : ℚ}
    {entryIndex finalCursor : ℕ} {exit : DiscoveryExit} (beyond : last < finalCursor)
    (inside : finalCursor < frame.length)
    (found : findExit direction stop target entryIndex
      ((frame.drop entryIndex).take (last + 1 - entryIndex)) = some exit) :
    leave frame direction stop target entryIndex finalCursor = .ok exit := by
  have parts : finalCursor + 1 - entryIndex =
      (last + 1 - entryIndex) + (finalCursor + 1 - entryIndex - (last + 1 - entryIndex)) := by omega
  rw [leave, rowAt_eq_ok.mpr (List.getElem?_eq_getElem inside), parts, List.take_add]
  change Except.ok (Option.getD (findExit direction stop target entryIndex (_ ++ _)) _) = _
  rw [findExit_append, found]
  rfl

/-- A position is left where it is left on another frame that is the same up to a row, or behind that
row on both. -/
theorem leave_agrees (same : first.take (last + 1) = second.take (last + 1))
    (direction : ModelDirection) (stop target : ℚ) {entryIndex finalCursor : ℕ}
    (early : entryIndex ≤ last) (entered : entryIndex ≤ finalCursor)
    (insideFirst : finalCursor < first.length) (insideSecond : finalCursor < second.length) :
    (leave first direction stop target entryIndex finalCursor =
        leave second direction stop target entryIndex finalCursor ∧
      ∀ exit, leave first direction stop target entryIndex finalCursor = .ok exit →
        exit.index ≤ last) ∨
    (∀ exit, leave first direction stop target entryIndex finalCursor = .ok exit →
        last < exit.index) ∧
      ∀ exit, leave second direction stop target entryIndex finalCursor = .ok exit →
        last < exit.index := by
  by_cases beyond : last < finalCursor
  · have near : (first.drop entryIndex).take (last + 1 - entryIndex) =
        (second.drop entryIndex).take (last + 1 - entryIndex) := futures_eq_of_take same (by omega)
    cases found : findExit direction stop target entryIndex
        ((first.drop entryIndex).take (last + 1 - entryIndex)) with
    | none =>
      refine .inr ⟨fun exit => lt_leave early beyond insideFirst found, fun exit => ?_⟩
      exact lt_leave early beyond insideSecond (near ▸ found)
    | some exit =>
      have onFirst := leave_of_found beyond insideFirst found
      refine .inl ⟨onFirst.trans (leave_of_found beyond insideSecond (near ▸ found)).symm, ?_⟩
      intro other left
      obtain rfl := Except.ok.inj (onFirst.symm.trans left)
      obtain ⟨⟨-, before⟩, -⟩ := findExit_some found
      have length := List.length_take_le (last + 1 - entryIndex) (first.drop entryIndex)
      omega
  · left
    have finals := getElem?_eq_of_take same (not_lt.mp beyond)
    refine ⟨?_, ?_⟩
    · rw [leave, leave, rowAt, rowAt, finals, futures_eq_of_take same (by omega)]
    · intro exit left
      obtain ⟨other, known, -, within⟩ := leave_returns entered insideFirst direction stop target
      obtain rfl := Except.ok.inj (known.symm.trans left)
      exact within.trans (not_lt.mp beyond)

/-- The trade of a signal is that on another frame that is the same up to a row, or it ends behind that
row on both. -/
theorem simulateTrade_agrees (same : first.take (last + 1) = second.take (last + 1))
    (length : first.length = second.length) {cursor : ℕ} (early : cursor + 1 ≤ last)
    (guarded : (cursor : ℤ) < endOf first window) (row entryRow : DiscoveryRow)
    (direction : ModelDirection) (atr : ℚ) :
    simulateTrade rules spec first window cursor row entryRow direction atr =
        simulateTrade rules spec second window cursor row entryRow direction atr ∨
    (∀ trade, simulateTrade rules spec first window cursor row entryRow direction atr = .ok trade →
        last < trade.exitIndex) ∧
      ∀ trade, simulateTrade rules spec second window cursor row entryRow direction atr = .ok trade →
        last < trade.exitIndex := by
  have ends : endOf first window = endOf second window := by rw [endOf, endOf, length]
  have inside := endOf_lt first window (by omega)
  have finalWithin : min (endOf first window).toNat (cursor + 1 + spec.maxHoldBars) ≤
      (endOf first window).toNat := min_le_left _ _
  have entered : cursor + 1 ≤ min (endOf first window).toNat (cursor + 1 + spec.maxHoldBars) :=
    le_min (by omega) (by omega)
  rw [simulateTrade, simulateTrade, ← ends]
  generalize targetOf .. = target
  generalize entryRow.openPrice + direction.sign * rules.perSide row entryRow -
    direction.sign * (atr * spec.stopAtr) = stop
  obtain ⟨alike, within⟩ | ⟨beyondFirst, beyondSecond⟩ := leave_agrees same direction stop target early
    entered (finalWithin.trans_lt (Nat.lt_of_succ_lt inside))
    (length ▸ finalWithin.trans_lt (Nat.lt_of_succ_lt inside))
  · left
    rw [← alike]
    cases left : leave first direction stop target (cursor + 1)
        (min (endOf first window).toNat (cursor + 1 + spec.maxHoldBars)) with
    | error reason => rfl
    | ok exit =>
      have rows : rowAt first exit.index = rowAt second exit.index := by
        rw [rowAt, rowAt, getElem?_eq_of_take same (within exit left)]
      simp only [bind, Except.bind, rows]
  · right
    refine ⟨fun trade simulated => ?_, fun trade simulated => ?_⟩
    · obtain ⟨exit, left, simulated⟩ := Loops.bind_eq_ok.mp simulated
      obtain ⟨exitRow, -, simulated⟩ := Loops.bind_eq_ok.mp simulated
      obtain rfl := Except.ok.inj simulated
      exact beyondFirst exit left
    · obtain ⟨exit, left, simulated⟩ := Loops.bind_eq_ok.mp simulated
      obtain ⟨exitRow, -, simulated⟩ := Loops.bind_eq_ok.mp simulated
      obtain rfl := Except.ok.inj simulated
      exact beyondSecond exit left

/-- A pass leads past its row, and a trade that it records is over behind it. -/
theorem pass_past {frame : List DiscoveryRow} {walk next : DiscoveryWalk}
    (guarded : hasNext frame window walk = true) (beyond : last < walk.cursor + 1)
    (passed : pass rules spec frame window walk = .ok next) :
    last < next.cursor ∧ overBy last next.trades = overBy last walk.trades := by
  obtain skipped | ⟨row, entryRow, direction, atr, trade, -, -, -, -, -, -, -, placed, recorded⟩ :=
    pass_cases rules spec guarded
  · obtain rfl := Except.ok.inj (skipped.symm.trans passed)
    exact ⟨beyond, rfl⟩
  · obtain rfl := Except.ok.inj (recorded.symm.trans passed)
    have entry := placed.entry
    have entered := placed.entered
    have open' : ¬trade.exitIndex ≤ last := by omega
    refine ⟨by simp only [record]; omega, ?_⟩
    rw [record, overBy, overBy, List.filter_append]
    simp [open']

/-- A walk that is past a row has no more trades that are over by it. -/
theorem walk_past {frame : List DiscoveryRow} {walk final : DiscoveryWalk} {passes : ℕ}
    (beyond : last < walk.cursor)
    (walks : Loops.runWhile (hasNext frame window) (pass rules spec frame window) passes walk =
      .ok final) : overBy last final.trades = overBy last walk.trades := by
  have kept (state next : DiscoveryWalk)
      (holds : last < state.cursor ∧ overBy last state.trades = overBy last walk.trades)
      (guarded : hasNext frame window state = true)
      (passed : pass rules spec frame window state = .ok next) :
      last < next.cursor ∧ overBy last next.trades = overBy last walk.trades := by
    obtain ⟨past, trades⟩ := pass_past guarded (Nat.lt_succ_of_lt holds.1) passed
    exact ⟨past, trades.trans holds.2⟩
  exact (Loops.run_while_keeps kept ⟨beyond, rfl⟩ walks).2

/-- A pass does the same on another frame that is the same up to a row, or leads past that row on both
without a trade that is over by it. -/
theorem pass_agrees {walk one other : DiscoveryWalk}
    (same : first.take (last + 1) = second.take (last + 1)) (length : first.length = second.length)
    (guarded : hasNext first window walk = true)
    (passedFirst : pass rules spec first window walk = .ok one)
    (passedSecond : pass rules spec second window walk = .ok other) :
    one = other ∨ (last < one.cursor ∧ last < other.cursor) ∧
      overBy last one.trades = overBy last other.trades := by
  have ends : endOf first window = endOf second window := by rw [endOf, endOf, length]
  have guardedSecond : hasNext second window walk = true := by rwa [hasNext, ← ends]
  by_cases beyond : last < walk.cursor + 1
  · obtain ⟨pastFirst, tradesFirst⟩ := pass_past guarded beyond passedFirst
    obtain ⟨pastSecond, tradesSecond⟩ := pass_past guardedSecond beyond passedSecond
    exact .inr ⟨⟨pastFirst, pastSecond⟩, tradesFirst.trans tradesSecond.symm⟩
  · have rows {index : ℕ} (early : index ≤ last) : rowAt second index = rowAt first index := by
      rw [rowAt, rowAt, getElem?_eq_of_take same early]
    rw [pass, rows (by omega : walk.cursor ≤ last)] at passedSecond
    rw [pass] at passedFirst
    obtain ⟨row, here, passedFirst⟩ := Loops.bind_eq_ok.mp passedFirst
    rw [here] at passedSecond
    replace passedSecond := Loops.bind_eq_ok.mp passedSecond
    obtain ⟨row', sameRow, passedSecond⟩ := passedSecond
    obtain rfl := Except.ok.inj sameRow
    have skips (one' : pure (skip walk) = Except.ok (ε := ResearchFailure) one)
        (other' : pure (skip walk) = Except.ok (ε := ResearchFailure) other) : one = other :=
      Except.ok.inj (one'.symm.trans other')
    cases signal : row.signal with
    | none =>
      simp only [signal] at passedFirst passedSecond
      exact .inl (skips passedFirst passedSecond)
    | some direction =>
      cases range : row.atr14 with
      | none =>
        simp only [signal, range] at passedFirst passedSecond
        exact .inl (skips passedFirst passedSecond)
      | some atr =>
        simp only [signal, range] at passedFirst passedSecond
        split_ifs at passedFirst passedSecond
        · exact .inl (skips passedFirst passedSecond)
        · rw [rows (not_lt.mp beyond)] at passedSecond
          obtain ⟨entryRow, after, passedFirst⟩ := Loops.bind_eq_ok.mp passedFirst
          rw [after] at passedSecond
          obtain ⟨entryRow', sameEntry, passedSecond⟩ := Loops.bind_eq_ok.mp passedSecond
          obtain rfl := Except.ok.inj sameEntry
          split_ifs at passedFirst passedSecond
          · obtain ⟨tradeFirst, simulatedFirst, recordedFirst⟩ := Loops.bind_eq_ok.mp passedFirst
            obtain ⟨tradeSecond, simulatedSecond, recordedSecond⟩ := Loops.bind_eq_ok.mp passedSecond
            obtain rfl := Except.ok.inj recordedFirst
            obtain rfl := Except.ok.inj recordedSecond
            obtain alike | ⟨beyondFirst, beyondSecond⟩ := simulateTrade_agrees same length
              (not_lt.mp beyond) (of_decide_eq_true guarded) row entryRow direction atr
            · rw [alike, simulatedSecond] at simulatedFirst
              rw [Except.ok.inj simulatedFirst]
              exact .inl rfl
            · have pastFirst := beyondFirst _ simulatedFirst
              have pastSecond := beyondSecond _ simulatedSecond
              refine .inr ⟨⟨by simp only [record]; omega, by simp only [record]; omega⟩, ?_⟩
              simp [record, overBy, not_le.mpr pastFirst, not_le.mpr pastSecond]
          · exact .inl (skips passedFirst passedSecond)

/-- The walks of a frame and of another that is the same up to a row have the same trades that are over
by that row. The induction is on the passes. -/
theorem runWhile_agrees {walk one other : DiscoveryWalk} {passes : ℕ}
    (same : first.take (last + 1) = second.take (last + 1)) (length : first.length = second.length)
    (walksFirst : Loops.runWhile (hasNext first window) (pass rules spec first window) passes walk =
      .ok one)
    (walksSecond : Loops.runWhile (hasNext second window) (pass rules spec second window) passes walk =
      .ok other) : overBy last one.trades = overBy last other.trades := by
  have guards : hasNext second window = hasNext first window := by
    funext walk
    rw [hasNext, hasNext, endOf, endOf, length]
  induction passes generalizing walk with
  | zero =>
    obtain rfl := Except.ok.inj walksFirst
    obtain rfl := Except.ok.inj walksSecond
    rfl
  | succ passes inductionHypothesis =>
    obtain ⟨guarded, nextFirst, passedFirst, restFirst⟩ | ⟨ended, rfl⟩ :=
      Loops.run_while_succ_eq_ok.mp walksFirst
    · obtain ⟨-, nextSecond, passedSecond, restSecond⟩ | ⟨ended, -⟩ :=
        Loops.run_while_succ_eq_ok.mp walksSecond
      · obtain rfl | ⟨⟨pastFirst, pastSecond⟩, trades⟩ :=
          pass_agrees same length guarded passedFirst passedSecond
        · exact inductionHypothesis restFirst restSecond
        · rw [walk_past pastFirst restFirst, walk_past pastSecond restSecond, trades]
      · rw [guards, guarded] at ended
        cases ended
    · obtain ⟨guarded, -⟩ | ⟨-, rfl⟩ := Loops.run_while_succ_eq_ok.mp walksSecond
      · rw [guards, ended] at guarded
        cases guarded
      · rfl

/-- The trades that are over by a row are the same on all frames of one length that are the same up to
that row. -/
def Causal (run : List DiscoveryRow → Except ResearchFailure (List DiscoveryTrade)) : Prop :=
  ∀ (first second : List DiscoveryRow) (last : ℕ), first.length = second.length →
    first.take (last + 1) = second.take (last + 1) →
      (run first).map (overBy last) = (run second).map (overBy last)

/-- Neither simulator looks ahead: given the signals of the rows, what comes after a row has no part in
the trades that are over by it. -/
theorem runs_causal (pair timeframe : String) (spec : StrategySpec) (window : DiscoveryWindow)
    (spreadPips slippagePips costMultiplier slippageMultiplier : ℚ) (cost : MarketCost) :
    Causal (fun frame => runSpec frame pair spec window spreadPips slippagePips) ∧
      Causal fun frame =>
        runMarketSpec frame pair timeframe spec window cost costMultiplier slippageMultiplier := by
  have causal (rules : DiscoveryRules) : Causal fun frame =>
      (walkWindow rules spec frame window).map DiscoveryWalk.trades := by
    intro first second last length same
    obtain ⟨one, walksFirst, -⟩ := walkWindow_returns rules spec first window
    obtain ⟨other, walksSecond, -⟩ := walkWindow_returns rules spec second window
    have starts : startOf second window = startOf first window := by
      rw [startOf, startOf, length]
    have agrees : overBy last one.trades = overBy last other.trades := by
      refine runWhile_agrees same length walksFirst ?_
      rwa [walkWindow, starts, ← length] at walksSecond
    simp only [walksFirst, walksSecond]
    exact congrArg Except.ok agrees
  exact ⟨causal _, causal _⟩

end Causality

end StrategyDiscovery

end IgTradingBot
