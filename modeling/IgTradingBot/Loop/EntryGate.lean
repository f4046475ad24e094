import IgTradingBot.Loop.World
import Mathlib.Data.List.Infix

/-!
# Entry gate

The reliability gates of `_entry_gate_rejection_reason`, in their order, with
the lookups they use. The gate rolls the daily books over to the current UTC
day before it reads them; nothing else in it changes the state.
-/

namespace IgTradingBot

open Sequential Sequential.Program

/-- The constants at the head of `src/trading/trading_loop.py`. -/
structure LoopLimits where
  maxOpenPositions : ℕ := 1
  tradeSize : ℚ := 1
  maxDailyTrades : ℕ := 3
  minSecondsBetweenTradesPerInstrument : ℚ := 1800
  maxSpreadPoints : ℚ := 3
  minAtrPct : ℚ := 2 / 10000
  maxAtrPct : ℚ := 30 / 10000
  professionalDailyMaxLossPct : ℚ := 1 / 100
  accountRefreshIntervalSeconds : ℚ := 300

/-- Reasons of the gate, in the order of its checks. -/
inductive EntryRejection where
  /-- "Daily trade cap reached (3)" -/
  | dailyTradeCap
  /-- "Universal daily loss cap reached (1%)" -/
  | dailyLossCap
  /-- "Instrument already has an open position" -/
  | openPosition
  /-- "Instrument cooldown active for …s" -/
  | cooldown (remaining : ℚ)
  /-- "No recent spread snapshot" -/
  | noSnapshot
  /-- "Spread … above max …" -/
  | wideSpread (spreadPoints : ℚ)
  /-- "ATR pct … below min …" -/
  | atrBelowMin (atrPct : ℚ)
  /-- "ATR pct … above max …" -/
  | atrAboveMax (atrPct : ℚ)
  /-- "Correlated currency exposure already open" -/
  | correlatedExposure
  deriving DecidableEq, Repr

namespace TradingLoop

/-- The constants as the source sets them. -/
def limits : LoopLimits := {}

/-- First entry of the list that is a position of the instrument. -/
def getOpenPosition (openPositions : List PositionDict) (epic : String) : Option PositionDict :=
  openPositions.find? fun entry => (orText entry.marketEpic entry.fields.epic).getD "" = epic

/-- `re.search(r"([A-Z]{6})", epic)` on a list of characters. -/
def firstSixCapitals : List Char → Option (List Char)
  | [] => none
  | c :: rest =>
    let window := (c :: rest).take 6
    if window.length = 6 ∧ window.all (fun d => 'A' ≤ d && d ≤ 'Z') then some window
    else firstSixCapitals rest

/-- The currency pair in the name of an instrument. -/
def currencyPairForEpic (epic : String) : Option String :=
  (firstSixCapitals epic.toList).map String.ofList

/-- Points per price unit in the spread gate. -/
def fxScalingFactor (epic : String) : ℚ :=
  match currencyPairForEpic epic with
  | some pair => if pair.toList.drop 3 = ['J', 'P', 'Y'] then 100 else 10000
  | none => 10000

/-- Signed exposures of a position: base and quote currency. In the dictionary of
the source the quote replaces the base when both are one currency. -/
def currencyExposures (epic direction : String) : List (String × ℤ) :=
  match currencyPairForEpic epic with
  | none => []
  | some pair =>
    let base := String.ofList (pair.toList.take 3)
    let quote := String.ofList (pair.toList.drop 3)
    let signed (sign : ℤ) : List (String × ℤ) :=
      if base = quote then [(quote, -sign)] else [(base, sign), (quote, -sign)]
    if direction = "BUY" then signed 1
    else if direction = "SELL" then signed (-1)
    else []

/-- Instrument of a list entry, as the correlation check looks it up. -/
def correlationEpic (entry : PositionDict) : String :=
  (orText entry.marketEpic (orText entry.fields.epic entry.data.epic)).getD ""

/-- A listed position is in the instrument, or carries one of the signed
exposures that the new position would carry. -/
def hasCorrelatedCurrencyExposure (openPositions : List PositionDict) (epic direction : String) :
    Bool :=
  let proposed := currencyExposures epic direction
  if proposed.isEmpty then false
  else
    openPositions.any fun entry =>
      let existing := currencyExposures (correlationEpic entry) (entry.data.direction.getD "")
      correlationEpic entry = epic ||
        proposed.any fun exposure => existing.contains exposure

/-- Spread of the last snapshot in points. -/
def spreadPoints (desk : Desk) (epic : String) : Option ℚ :=
  (desk.lastSnapshots.lookup epic).map fun snapshot =>
    |snapshot.offer - snapshot.bid| * fxScalingFactor epic

/-- Average true range relative to the price. -/
def atrPct (signal : Signal) : ℚ :=
  if 0 < signal.currentPrice then signal.atr / signal.currentPrice else 0

/-- The books of a day: new counters when the day is another one. -/
def booksOn (today : ℤ) (books : Books) : Books :=
  if today ≠ books.dailyTradeDate then
    { books with
        dailyTradeDate := today
        dailyTradeCount := 0
        dailyRealizedPnl := 0 }
  else books

/-- Start new daily books when the UTC day is another one. -/
def resetDailyTradeCounterIfNeeded : LoopProgram Unit := do
  let now ← readClock
  setBooks (booksOn (utcDay now))

/-- The gates on prices and exposures; these read only. -/
def marketRejection (desk : Desk) (signal : Signal) : Option EntryRejection :=
  match spreadPoints desk signal.epic with
  | none => some .noSnapshot
  | some points =>
    if limits.maxSpreadPoints < points then some (.wideSpread points)
    else if atrPct signal < limits.minAtrPct then some (.atrBelowMin (atrPct signal))
    else if limits.maxAtrPct < atrPct signal then some (.atrAboveMax (atrPct signal))
    else if hasCorrelatedCurrencyExposure desk.openPositions signal.epic signal.direction then
      some .correlatedExposure
    else none

/-- The cooldown of an instrument and the gates behind it. The clock is read only
when there is a counted opening. -/
def cooldownRejection (signal : Signal) : LoopProgram (Option EntryRejection) := do
  let lastTradeTime ← read fun world => world.books.lastTradeTimeByEpic.lookup signal.epic
  match lastTradeTime with
  | some last => do
      let now ← readClock
      let remaining := limits.minSecondsBetweenTradesPerInstrument - (now - last)
      if 0 < remaining then pure (some (.cooldown remaining))
      else read fun world => marketRejection world.desk signal
  | none => read fun world => marketRejection world.desk signal

/-- Reject an entry with the first reason that applies. -/
def entryGateRejectionReason (signal : Signal) : LoopProgram (Option EntryRejection) := do
  resetDailyTradeCounterIfNeeded
  let books ← read (·.books)
  if limits.maxDailyTrades ≤ books.dailyTradeCount then pure (some .dailyTradeCap)
  else do
    record fun world => .realizedRead (utcDay world.clock) world.books.dailyRealizedPnl
    let desk ← read (·.desk)
    if books.dailyRealizedPnl ≤ -desk.accountEquity * limits.professionalDailyMaxLossPct then
      pure (some .dailyLossCap)
    else if (getOpenPosition desk.openPositions signal.epic).isSome then
      pure (some .openPosition)
    else cooldownRejection signal

/-- What the gate has checked on the books and the position list when it lets a signal
pass. -/
structure Clear (signal : Signal) (world : World) : Prop where
  belowCap : world.books.dailyTradeCount < limits.maxDailyTrades
  notListed : getOpenPosition world.desk.openPositions signal.epic = none
  cooledDown : ∀ last, world.books.lastTradeTimeByEpic.lookup signal.epic = some last →
    last + limits.minSecondsBetweenTradesPerInstrument ≤ world.clock

/-- A cooldown that does not reject is over, and nothing but the clock was touched. -/
theorem cooldown_passes {signal : Signal} {world after : World}
    (passed : cooldownRejection signal world = (.ok none, after)) :
    after.books = world.books ∧ after.desk = world.desk ∧
      ∀ last, world.books.lastTradeTimeByEpic.lookup signal.epic = some last →
        last + limits.minSecondsBetweenTradesPerInstrument ≤ after.clock := by
  obtain ⟨lastTradeTime, state, looked, rest⟩ := bind_eq_ok.mp passed
  obtain ⟨answer, rfl⟩ := Prod.mk.inj looked
  obtain rfl := Except.ok.inj answer
  cases counted : world.books.lastTradeTimeByEpic.lookup signal.epic with
  | none =>
    simp only [counted, read_run, Prod.mk.injEq] at rest
    obtain ⟨_, rfl⟩ := rest
    refine ⟨rfl, rfl, ?_⟩
    intro last impossible
    cases impossible
  | some last =>
    simp only [counted] at rest
    obtain ⟨now, later, ticked, decided⟩ := bind_eq_ok.mp rest
    obtain ⟨time, rfl⟩ := Prod.mk.inj ticked
    obtain rfl := Except.ok.inj time
    split_ifs at decided with remaining
    · cases decided
    · obtain ⟨_, rfl⟩ := Prod.mk.inj decided
      refine ⟨rfl, rfl, ?_⟩
      intro found same
      obtain rfl := Option.some.inj same
      have elapsed := not_lt.mp remaining
      simp only at elapsed ⊢
      linarith

/-- A signal that passes the gate is clear of the caps it checks. -/
theorem gate_clears {signal : Signal} {world after : World}
    (passed : entryGateRejectionReason signal world = (.ok none, after)) : Clear signal after := by
  obtain ⟨_, rolled, _, rest⟩ := bind_eq_ok.mp passed
  obtain ⟨books, state, looked, decided⟩ := bind_eq_ok.mp rest
  obtain ⟨answer, rfl⟩ := Prod.mk.inj looked
  obtain rfl := Except.ok.inj answer
  split_ifs at decided with capped
  · cases decided
  · obtain ⟨_, recorded, observed, looking⟩ := bind_eq_ok.mp decided
    obtain ⟨_, rfl⟩ := Prod.mk.inj observed
    obtain ⟨desk, state, looked, checking⟩ := bind_eq_ok.mp looking
    obtain ⟨answer, rfl⟩ := Prod.mk.inj looked
    obtain rfl := Except.ok.inj answer
    split_ifs at checking with lossReached listed
    · cases checking
    · cases checking
    · obtain ⟨sameBooks, sameDesk, cooledDown⟩ := cooldown_passes checking
      refine ⟨?_, ?_, ?_⟩
      · rw [sameBooks]
        exact not_le.mp capped
      · rw [sameDesk]
        simpa using listed
      · intro last counted
        rw [sameBooks] at counted
        exact cooledDown last counted

/-- An ambient property that survives the roll-over of the books to the current day. -/
structure Rolls (invariant : World → Prop) : Prop extends Ambient invariant where
  rolled : ∀ world, invariant world →
    invariant { world with books := booksOn (utcDay world.clock) world.books }

/-- What an invariant needs for the gate: besides, it survives the observation of the
profit that the current books hold. -/
structure GateRules (invariant : World → Prop) : Prop extends Rolls invariant where
  realizedRead : ∀ world, world.books.dailyTradeDate = utcDay world.clock → invariant world →
    invariant { world with
      history := .realizedRead (utcDay world.clock) world.books.dailyRealizedPnl :: world.history }

section Frames

variable {invariant : World → Prop}

/-- Books of a day carry its date. -/
@[simp] theorem booksOn_date (today : ℤ) (books : Books) :
    (booksOn today books).dailyTradeDate = today := by
  by_cases same : today = books.dailyTradeDate
  · simp [booksOn, ← same]
  · simp [booksOn, same]

/-- A roll-over changes no time of an opening. -/
@[simp] theorem booksOn_lastTradeTime (today : ℤ) (books : Books) :
    (booksOn today books).lastTradeTimeByEpic = books.lastTradeTimeByEpic := by
  by_cases same : today = books.dailyTradeDate <;> simp [booksOn, same]

/-- After the roll-over the books are those of the current day. -/
theorem Rolls.ensures_reset (rules : Rolls invariant) :
    Ensures invariant resetDailyTradeCounterIfNeeded
      (fun _ world => invariant world ∧ world.books.dailyTradeDate = utcDay world.clock)
      (fun _ => invariant) := by
  apply ensures_bind rules.ensures_readClock
  intro now
  apply ensures_modify
  rintro world ⟨holds, rfl⟩
  exact ⟨rules.rolled world holds, booksOn_date _ _⟩

theorem Rolls.keeps_reset (rules : Rolls invariant) :
    Keeps invariant resetDailyTradeCounterIfNeeded :=
  rules.ensures_reset.weaken (fun _ entry => entry) (fun _ _ ended => ended.1)
    (fun _ _ ended => ended)

theorem Ambient.keeps_cooldownRejection (stable : Ambient invariant) (signal : Signal) :
    Keeps invariant (cooldownRejection signal) := by
  apply keeps_bind (keeps_read _)
  intro lastTradeTime
  cases lastTradeTime with
  | none => exact keeps_read _
  | some last =>
    apply keeps_bind stable.keeps_readClock
    intro now
    exact keeps_ite (fun _ => keeps_pure _) (fun _ => keeps_read _)

/-- The gate preserves whatever satisfies its rules. -/
theorem GateRules.keeps_gate (rules : GateRules invariant) (signal : Signal) :
    Keeps invariant (entryGateRejectionReason signal) := by
  apply ensures_bind rules.ensures_reset
  intro _
  apply ensures_read_bind
  intro books
  by_cases capped : limits.maxDailyTrades ≤ books.dailyTradeCount
  · rw [if_pos capped]
    exact ensures_pure _ fun _ entry => entry.1.1
  · rw [if_neg capped]
    have recorded : Ensures
        (fun world => invariant world ∧ world.books.dailyTradeDate = utcDay world.clock)
        (record fun world => .realizedRead (utcDay world.clock) world.books.dailyRealizedPnl)
        (fun _ => invariant) (fun _ => invariant) :=
      ensures_modify _ fun world entry => rules.realizedRead world entry.2 entry.1
    apply ensures_bind (recorded.enter (fun _ entry => entry.1))
    intro _
    apply keeps_bind (keeps_read _)
    intro desk
    apply keeps_ite (fun _ => keeps_pure _)
    intro _
    apply keeps_ite (fun _ => keeps_pure _)
    intro _
    exact rules.keeps_cooldownRejection signal

end Frames

example : currencyPairForEpic "CS.D.EURUSD.CFD.IP" = some "EURUSD" := by decide +kernel

example : currencyExposures "CS.D.USDJPY.CFD.IP" "SELL" = [("USD", -1), ("JPY", 1)] := by
  decide +kernel

end TradingLoop

end IgTradingBot
