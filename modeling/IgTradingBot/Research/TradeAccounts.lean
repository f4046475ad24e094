import IgTradingBot.Research.ProfessionalBacktest
import Mathlib.Algebra.BigOperators.Group.List.Basic
import Mathlib.Data.List.Pairwise
import Mathlib.Tactic.Linarith

/-!
# Accounts of the professional backtest

Every recorded trade has the profit of the parts that were closed, and the bars of two trades do not
overlap. All of a position is closed when its stop or its target is reached. When the data ends before
that, what is left of the position is closed nowhere.
-/

namespace IgTradingBot

/-- The part of a position that was closed. -/
def BookedExit.total (exits : List BookedExit) : ℚ := (exits.map BookedExit.fraction).sum

/-- The profit of the closed parts. -/
def BookedExit.profit (side : ModelDirection) (entry units : ℚ) (exits : List BookedExit) : ℚ :=
  (exits.map fun exit => side.sign * (exit.price - entry) * units * exit.fraction).sum

namespace SimulatedPosition

variable (position : SimulatedPosition)

/-- The stop or the target is reached in one of the bars. The stop lies at the entry once the first
target was reached in an earlier bar. -/
def Finishes (partialTaken : Bool) (bars : List FiveMinuteBar) : Prop :=
  ∃ place bar, bars[place]? = some bar ∧
    (position.stopHit
        (if partialTaken || (bars.take place).any (position.profitHit position.tp1) then
          position.entry else position.stop) bar = true ∨
      position.profitHit position.target bar = true)

/-- All of the position is closed in the bars: it is finished, or the first target, which takes all of
it, is reached. -/
def Closes (bars : List FiveMinuteBar) : Prop :=
  position.Finishes false bars ∨ position.decision.partialCloseFraction = 1 ∧
    bars.any (position.profitHit position.tp1) = true

/-- What is left of a holding, what was realized, and where its stop is, in terms of the parts that
were closed. -/
structure Keeps (holding : Holding) : Prop where
  remaining : holding.remaining = 1 - BookedExit.total holding.exits
  realized : holding.realized =
    BookedExit.profit position.direction position.entry position.units holding.exits
  total : BookedExit.total holding.exits =
    if holding.partialTaken then position.decision.partialCloseFraction else 0
  stop : holding.stop = if holding.partialTaken then position.entry else position.stop

section Holdings

variable {position : SimulatedPosition} {holding : Holding} {bar : FiveMinuteBar}
  {bars : List FiveMinuteBar}

/-- A part that is closed is added to the others. -/
theorem total_concat (exits : List BookedExit) (exit : BookedExit) :
    BookedExit.total (exits ++ [exit]) = BookedExit.total exits + exit.fraction := by
  simp [BookedExit.total]

/-- The profit of a part that is closed is added to that of the others. -/
theorem profit_concat (side : ModelDirection) (entry units : ℚ) (exits : List BookedExit)
    (exit : BookedExit) : BookedExit.profit side entry units (exits ++ [exit]) =
      BookedExit.profit side entry units exits +
        side.sign * (exit.price - entry) * units * exit.fraction := by
  simp [BookedExit.profit]

/-- A position starts with all of it. -/
theorem keeps_start (position : SimulatedPosition) : position.Keeps { stop := position.stop } :=
  ⟨by simp [BookedExit.total], rfl, rfl, rfl⟩

/-- To close the rest closes all. -/
theorem Keeps.book_rest (keeps : position.Keeps holding) (price : ℚ) :
    BookedExit.total (position.book holding price holding.remaining).exits = 1 ∧
      (position.book holding price holding.remaining).realized =
        BookedExit.profit position.direction position.entry position.units
          (position.book holding price holding.remaining).exits := by
  simp only [book, total_concat, profit_concat, keeps.realized, keeps.remaining]
  exact ⟨add_sub_cancel _ _, trivial⟩

/-- The first target keeps the accounts. -/
theorem Keeps.take_partial (keeps : position.Keeps holding) (bar : FiveMinuteBar) :
    position.Keeps (position.takePartial holding bar) ∧
      (position.takePartial holding bar).partialTaken =
        (holding.partialTaken || position.profitHit position.tp1 bar) := by
  unfold takePartial
  cases taken : holding.partialTaken with
  | true => simpa [taken] using keeps
  | false =>
    cases hit : position.profitHit position.tp1 bar with
    | false => simpa [taken] using keeps
    | true =>
      have none := keeps.total
      rw [taken, if_neg Bool.false_ne_true] at none
      refine ⟨⟨?_, ?_, ?_, rfl⟩, rfl⟩
      · simp only [Bool.not_false, Bool.and_self, if_true, book, total_concat, keeps.remaining]
        ring
      · simp only [Bool.not_false, Bool.and_self, if_true, book, profit_concat, keeps.realized]
      · simp only [Bool.not_false, Bool.and_self, if_true, book, total_concat, none, zero_add]

/-- A position finishes in the first bar or in the later ones. -/
theorem finishes_cons {partialTaken : Bool} : position.Finishes partialTaken (bar :: bars) ↔
    position.stopHit (if partialTaken then position.entry else position.stop) bar = true ∨
      position.profitHit position.target bar = true ∨
        position.Finishes (partialTaken || position.profitHit position.tp1 bar) bars := by
  constructor
  · rintro ⟨place, found, isFound, finished⟩
    cases place with
    | zero =>
      obtain rfl : bar = found := Option.some.inj isFound
      obtain stopped | reached := finished
      · exact .inl (by simpa using stopped)
      · exact .inr (.inl reached)
    | succ place =>
      refine .inr (.inr ⟨place, found, isFound, ?_⟩)
      simpa [Bool.or_assoc] using finished
  · rintro (stopped | reached | ⟨place, found, isFound, finished⟩)
    · exact ⟨0, bar, rfl, .inl (by simpa using stopped)⟩
    · exact ⟨0, bar, rfl, .inr reached⟩
    · refine ⟨place + 1, found, isFound, ?_⟩
      simpa [Bool.or_assoc] using finished

/-- How a holding ends: finished, with all of it closed, or with what the first target closed. -/
theorem Keeps.hold (keeps : position.Keeps holding) (future : ℕ) (bars : List FiveMinuteBar) :
    (position.hold holding future bars).holding.realized =
        BookedExit.profit position.direction position.entry position.units
          (position.hold holding future bars).holding.exits ∧
      (position.Finishes holding.partialTaken bars →
        BookedExit.total (position.hold holding future bars).holding.exits = 1) ∧
      (¬position.Finishes holding.partialTaken bars →
        BookedExit.total (position.hold holding future bars).holding.exits =
          if holding.partialTaken || bars.any (position.profitHit position.tp1) then
            position.decision.partialCloseFraction else 0) := by
  induction bars generalizing holding future with
  | nil =>
    refine ⟨keeps.realized, ?_, ?_⟩
    · rintro ⟨place, bar, isBar, -⟩
      simp at isBar
    · intro _
      simpa [SimulatedPosition.hold] using keeps.total
  | cons bar rest inductionHypothesis =>
    rw [finishes_cons, ← keeps.stop]
    simp only [SimulatedPosition.hold]
    cases stopped : position.stopHit holding.stop bar with
    | true =>
      obtain ⟨all, realized⟩ := keeps.book_rest (position.exitAt holding.stop)
      simp only [if_true, true_or, not_true_eq_false, false_implies, and_true, true_implies]
      exact ⟨realized, all⟩
    | false =>
      obtain ⟨kept, taken⟩ := keeps.take_partial bar
      cases reached : position.profitHit position.target bar with
      | true =>
        obtain ⟨all, realized⟩ := kept.book_rest (position.exitAt position.target)
        simp only [Bool.false_eq_true, if_false, if_true, true_or, or_true, not_true_eq_false,
          false_implies, and_true, true_implies]
        exact ⟨realized, all⟩
      | false =>
        obtain ⟨realized, finished, unfinished⟩ := inductionHypothesis kept (future + 1)
        rw [taken] at finished unfinished
        simp only [Bool.false_eq_true, if_false, false_or]
        refine ⟨realized, finished, fun left => ?_⟩
        rw [unfinished left, List.any_cons, Bool.or_assoc]

/-- All of a position is closed exactly when its stop or its target is reached, or its first target takes
all of it. -/
theorem result_total_iff (position : SimulatedPosition) (five : List FiveMinuteBar) :
    BookedExit.total (position.result five).holding.exits = 1 ↔
      position.Closes (five.drop position.entryIndex) := by
  obtain ⟨-, finished, unfinished⟩ :=
    position.keeps_start.hold position.entryIndex (five.drop position.entryIndex)
  by_cases finishes : position.Finishes false (five.drop position.entryIndex)
  · exact iff_of_true (finished finishes) (.inl finishes)
  · rw [result, unfinished finishes, Closes, or_iff_right finishes, Bool.false_or]
    split_ifs with reached
    · exact (and_iff_left reached).symm
    · exact iff_of_false zero_ne_one fun closes => reached closes.2

/-- A position ends at its entry or at a later bar. -/
theorem entry_le_hold (position : SimulatedPosition) (holding : Holding) {future : ℕ}
    (bars : List FiveMinuteBar) (started : position.entryIndex ≤ future) :
    position.entryIndex ≤ (position.hold holding future bars).exitIndex := by
  induction bars generalizing holding future with
  | nil => exact le_refl _
  | cons bar rest inductionHypothesis =>
    simp only [SimulatedPosition.hold]
    cases position.stopHit holding.stop bar with
    | true => exact started
    | false =>
      cases position.profitHit position.target bar with
      | true => exact started
      | false => exact inductionHypothesis _ (started.trans (Nat.le_succ _))

end Holdings

end SimulatedPosition

namespace ProfessionalBacktester

/-- The accounts of a backtest are complete: every recorded trade is fully closed, its profit is that of
the closed parts less the commission, and the bars of two trades do not overlap. -/
structure AccountsComplete (backtester : ProfessionalBacktester) (trades : List ProfessionalTrade) :
    Prop where
  closed : ∀ trade ∈ trades, BookedExit.total trade.exits = 1
  profit : ∀ trade ∈ trades, trade.pnl =
    BookedExit.profit trade.side trade.entryPrice trade.units trade.exits -
      backtester.commissionPerLot * (trade.units / 100000)
  ordered : ∀ trade ∈ trades, trade.entryIndex ≤ trade.exitIndex
  apart : trades.Pairwise fun earlier later => earlier.exitIndex < later.entryIndex

section Runs

variable {backtester : ProfessionalBacktester} {pair : String} {five : List FiveMinuteBar}
  {eligibility : ℕ → Eligibility} {evaluate : ℕ → StrategyDecision}
  {state next : ProfessionalSimulation}

/-- A position that is opened at a state is closed by the bars from its entry on. -/
def ClosesWhatItOpens (backtester : ProfessionalBacktester) (pair : String)
    (five : List FiveMinuteBar) (eligibility : ℕ → Eligibility) (evaluate : ℕ → StrategyDecision)
    (state : ProfessionalSimulation) : Prop :=
  ∀ position, backtester.consider pair five eligibility evaluate state = .ok (.inr position) →
    position.Closes (five.drop position.entryIndex)

/-- What the loop keeps: the profits of the trades, and that they lie one after the other before the
cursor. -/
structure Booked (backtester : ProfessionalBacktester) (state : ProfessionalSimulation) : Prop where
  profit : ∀ trade ∈ state.trades, trade.pnl =
    BookedExit.profit trade.side trade.entryPrice trade.units trade.exits -
      backtester.commissionPerLot * (trade.units / 100000)
  ordered : ∀ trade ∈ state.trades, trade.entryIndex ≤ trade.exitIndex
  apart : state.trades.Pairwise fun earlier later => earlier.exitIndex < later.entryIndex
  behind : ∀ trade ∈ state.trades, trade.exitIndex < state.cursor

/-- A position is entered at the bar after its signal. -/
theorem open_position_entry {decision : StrategyDecision} {position : SimulatedPosition}
    (opened : backtester.openPosition pair five state decision = .ok position) :
    position.entryIndex = state.cursor + 1 := by
  unfold openPosition at opened
  split at opened
  · simp only [Loops.bind_eq_ok] at opened
    obtain ⟨bar, -, riskUnits, -, maxUnits, -, isPosition⟩ := opened
    cases isPosition
    rfl
  · cases opened

/-- A position that the loop opens is entered at the next bar. -/
theorem consider_entry {position : SimulatedPosition}
    (opened : backtester.consider pair five eligibility evaluate state = .ok (.inr position)) :
    position.entryIndex = state.cursor + 1 := by
  unfold consider at opened
  obtain ⟨bar, -, considered⟩ := Loops.bind_eq_ok.mp opened
  dsimp only at considered
  split at considered
  · cases considered
  · split at considered
    · cases considered
    · split at considered
      · cases considered
      · split at considered
        · obtain ⟨found, isFound, same⟩ := Loops.bind_eq_ok.mp considered
          cases same
          exact open_position_entry isFound
        · cases considered

/-- What a pass does: it passes the bar over, or records the trade of the position that is opened. -/
theorem pass_cases (passed : backtester.pass pair five eligibility evaluate state = .ok next) :
    (∃ reason, backtester.consider pair five eligibility evaluate state = .ok (.inl reason) ∧
        next = reject state reason) ∨
      ∃ position exitTime,
        backtester.consider pair five eligibility evaluate state = .ok (.inr position) ∧
          position.entryIndex = state.cursor + 1 ∧
          next.trades = state.trades ++
            [backtester.recordedTrade position (position.result five) exitTime] ∧
          next.cursor = max (state.cursor + 1) ((position.result five).exitIndex + 1) := by
  unfold pass at passed
  obtain ⟨considered, isConsidered, rest⟩ := Loops.bind_eq_ok.mp passed
  cases considered with
  | inl reason =>
    cases rest
    exact .inl ⟨reason, isConsidered, rfl⟩
  | inr position =>
    simp only [recordTrade, Loops.bind_eq_ok] at rest
    obtain ⟨bar, -, exitBar, -, isNext⟩ := rest
    cases isNext
    exact .inr ⟨position, exitBar.timestamp, isConsidered, consider_entry isConsidered, rfl, rfl⟩

/-- Every pass goes on to a later bar. -/
theorem pass_advances (passed : backtester.pass pair five eligibility evaluate state = .ok next) :
    state.cursor < next.cursor := by
  obtain ⟨reason, -, rfl⟩ | ⟨position, exitTime, -, -, -, cursor⟩ := pass_cases passed
  · exact Nat.lt_succ_self _
  · rw [cursor]
    exact lt_max_of_lt_left (Nat.lt_succ_self _)

/-- Every pass keeps the profits and the order of the trades. -/
theorem Booked.pass (booked : Booked backtester state)
    (passed : backtester.pass pair five eligibility evaluate state = .ok next) :
    Booked backtester next := by
  obtain ⟨reason, -, rfl⟩ | ⟨position, exitTime, -, entry, trades, cursor⟩ := pass_cases passed
  · exact ⟨booked.profit, booked.ordered, booked.apart, fun trade member =>
      (booked.behind trade member).trans (Nat.lt_succ_self _)⟩
  · refine ⟨?_, ?_, ?_, ?_⟩ <;> rw [trades]
    · intro trade member
      obtain earlier | last := List.mem_append.mp member
      · exact booked.profit trade earlier
      · rw [List.mem_singleton.mp last]
        have realized := (position.keeps_start.hold position.entryIndex
          (five.drop position.entryIndex)).1
        simp only [recordedTrade, SimulatedPosition.result, realized]
    · intro trade member
      obtain earlier | last := List.mem_append.mp member
      · exact booked.ordered trade earlier
      · rw [List.mem_singleton.mp last]
        exact position.entry_le_hold _ _ (le_refl _)
    · refine List.pairwise_append.mpr ⟨booked.apart, List.pairwise_singleton _ _, ?_⟩
      intro earlier member later isLast
      rw [List.mem_singleton.mp isLast]
      have before := booked.behind earlier member
      simp only [recordedTrade]
      omega
    · intro trade member
      rw [cursor]
      obtain earlier | last := List.mem_append.mp member
      · exact (booked.behind trade earlier).trans (lt_max_of_lt_left (Nat.lt_succ_self _))
      · rw [List.mem_singleton.mp last]
        exact lt_max_of_lt_right (Nat.lt_succ_self _)

/-- After a pass all trades are fully closed exactly when they were before it and the pass closes what
it opens. -/
theorem pass_closed_iff (passed : backtester.pass pair five eligibility evaluate state = .ok next) :
    (∀ trade ∈ next.trades, BookedExit.total trade.exits = 1) ↔
      (∀ trade ∈ state.trades, BookedExit.total trade.exits = 1) ∧
        ClosesWhatItOpens backtester pair five eligibility evaluate state := by
  obtain ⟨reason, considered, rfl⟩ | ⟨position, exitTime, considered, -, trades, -⟩ :=
    pass_cases passed
  · refine (and_iff_left ?_).symm
    intro position opened
    rw [considered] at opened
    cases opened
  · have closes : ClosesWhatItOpens backtester pair five eligibility evaluate state ↔
        BookedExit.total (position.result five).holding.exits = 1 := by
      rw [position.result_total_iff]
      constructor
      · exact fun all => all position considered
      · intro closed other opened
        rw [considered] at opened
        cases opened
        exact closed
    rw [trades, closes, List.forall_mem_append, List.forall_mem_singleton]
    rfl

end Runs

/-- For every backtester, all bars, whatever makes them eligible, and all decisions of the strategy: a
backtest that returns has gone through its bars, and its accounts are complete exactly when every pass
closes what it opens. -/
theorem accounts_complete_iff (backtester : ProfessionalBacktester) (pair : String)
    (five : List FiveMinuteBar) (eligibility : ℕ → Eligibility) (evaluate : ℕ → StrategyDecision)
    (startFraction endFraction : ℚ) (final : ProfessionalSimulation)
    (returned : backtester.run pair five eligibility evaluate startFraction endFraction = .ok final) :
    hasNext five endFraction final = false ∧
      (AccountsComplete backtester final.trades ↔
        Loops.EveryPass (hasNext five endFraction) (backtester.pass pair five eligibility evaluate)
          (ClosesWhatItOpens backtester pair five eligibility evaluate) (five.length + 1)
          (backtester.start five startFraction)) := by
  constructor
  · refine Loops.run_while_ends (fun state : ProfessionalSimulation => five.length - state.cursor)
      (fun state next goesOn passed => ?_) (Nat.lt_succ_of_le (Nat.sub_le _ _)) returned
    have advances := pass_advances passed
    have inside : (state.cursor : ℤ) < five.length - 2 :=
      (of_decide_eq_true goesOn).trans_le (min_le_left _ _)
    omega
  · have start : Booked backtester (backtester.start five startFraction) := by
      constructor <;> simp [ProfessionalBacktester.start]
    have kept : Booked backtester final :=
      Loops.run_while_keeps (fun _ _ booked _ passed => booked.pass passed) start returned
    have closed := Loops.run_while_good_iff (fun _ _ _ passed => pass_closed_iff passed) returned
    have none : ∀ trade ∈ (backtester.start five startFraction).trades,
        BookedExit.total trade.exits = 1 := by simp [ProfessionalBacktester.start]
    rw [and_iff_right none] at closed
    rw [← closed]
    exact ⟨AccountsComplete.closed, fun all => ⟨all, kept.profit, kept.ordered, kept.apart⟩⟩

section Samples

/-- Bars around 100 on a Monday, of which one has another high. -/
def mondayBars (high : ℚ) : List FiveMinuteBar :=
  (List.range 84).map fun place =>
    { timestamp := 357600 + 300 * place
      openPrice := 100
      high := if place = 82 then high else 1001 / 10
      low := 999 / 10
      close := 100 }

/-- Every bar is eligible for a purchase. -/
def alwaysEligible (_ : ℕ) : Eligibility where
  atr := some (1 / 10)
  lowerAtr := some (5 / 100)
  upperAtr := some (2 / 10)
  bias := "BULLISH"
  recentBullishSweep := true
  recentBearishSweep := false
  close := some 100

/-- The strategy buys at the first bar that it is asked about. -/
def buysOnce (place : ℕ) : StrategyDecision :=
  if place = 80 then
    { action := "BUY"
      entryPrice := some 100
      stopPrice := some 99
      tp1Price := some 101
      targetPrice := some 102
      riskDistance := some 1
      riskPerTrade := 2 / 1000 }
  else {}

/-- The closed parts of the trades on such bars. -/
def mondayTotals (high : ℚ) : Option (List ℚ) :=
  (run {} "EURUSD" (mondayBars high) alwaysEligible buysOnce 0 1).toOption.map fun final =>
    final.trades.map fun trade => BookedExit.total trade.exits

/-- A simulation that returns has the closed parts that were computed. -/
theorem exists_monday_run {high : ℚ} {totals : List ℚ} (computed : mondayTotals high = some totals) :
    ∃ final, run {} "EURUSD" (mondayBars high) alwaysEligible buysOnce 0 1 = .ok final ∧
      final.trades.map (fun trade => BookedExit.total trade.exits) = totals := by
  unfold mondayTotals at computed
  cases returned : run {} "EURUSD" (mondayBars high) alwaysEligible buysOnce 0 1 with
  | error reason =>
    rw [returned] at computed
    cases computed
  | ok final =>
    rw [returned] at computed
    exact ⟨final, rfl, Option.some.inj computed⟩

/-- A purchase whose target is reached is recorded with complete accounts. -/
theorem reached_target_is_closed :
    ∃ final, run {} "EURUSD" (mondayBars 103) alwaysEligible buysOnce 0 1 = .ok final ∧
      final.trades.map (fun trade => BookedExit.total trade.exits) = [1] ∧
      (AccountsComplete {} final.trades ↔
        Loops.EveryPass (hasNext (mondayBars 103) 1)
          (pass {} "EURUSD" (mondayBars 103) alwaysEligible buysOnce)
          (ClosesWhatItOpens {} "EURUSD" (mondayBars 103) alwaysEligible buysOnce)
          ((mondayBars 103).length + 1) (start {} (mondayBars 103) 0)) := by
  obtain ⟨final, returned, totals⟩ := exists_monday_run (show mondayTotals 103 = some [1] by
    decide +kernel)
  have accounts := accounts_complete_iff {} "EURUSD" (mondayBars 103) alwaysEligible buysOnce 0 1
    final returned
  exact ⟨final, returned, totals, accounts.2⟩

/-- A purchase that neither its stop nor its target ends is recorded, and nothing of it is closed. -/
theorem unfinished_trade_is_not_closed :
    ¬∀ (backtester : ProfessionalBacktester) (pair : String) (five : List FiveMinuteBar)
      (eligibility : ℕ → Eligibility) (evaluate : ℕ → StrategyDecision) (startFraction endFraction : ℚ)
      (final : ProfessionalSimulation),
      backtester.run pair five eligibility evaluate startFraction endFraction = .ok final →
        AccountsComplete backtester final.trades := by
  intro claim
  obtain ⟨final, returned, totals⟩ := exists_monday_run (show mondayTotals (1001 / 10) = some [0] by
    decide +kernel)
  have complete := claim {} "EURUSD" (mondayBars (1001 / 10)) alwaysEligible buysOnce 0 1 final returned
  obtain ⟨trade, isTrade⟩ : ∃ trade, final.trades = [trade] := by
    have one := congrArg List.length totals
    rw [List.length_map] at one
    exact List.length_eq_one_iff.mp one
  rw [isTrade] at totals complete
  have nothing : BookedExit.total trade.exits = 0 := (List.cons.inj totals).1
  exact zero_ne_one (nothing.symm.trans (complete.closed trade List.mem_cons_self))

end Samples

end ProfessionalBacktester

end IgTradingBot
