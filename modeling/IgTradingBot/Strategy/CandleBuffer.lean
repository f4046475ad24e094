import IgTradingBot.Core.Values
import IgTradingBot.Library.Cursors
import Mathlib.Data.List.AList
import Mathlib.Data.Rat.Floor

/-!
# Candle buffer

The rolling candles of `src/trading/candle_buffer.py`. A tick updates the open candle of its
instrument, or closes it when the tick belongs to a later period. Closed candles are kept
oldest first; when there are too many, the oldest is evicted.
-/

namespace IgTradingBot

/-- A candle; its time is the start of its period. -/
structure Candle where
  time : ℚ
  openPrice : ℚ
  high : ℚ
  low : ℚ
  close : ℚ
  tickCount : ℕ := 1
  deriving DecidableEq, Repr

/-- A candle of one tick. -/
def Candle.ofTick (periodStart price : ℚ) : Candle := ⟨periodStart, price, price, price, price, 1⟩

/-- Incorporate a new price. -/
def Candle.update (candle : Candle) (price : ℚ) : Candle :=
  { candle with
      high := if candle.high < price then price else candle.high
      low := if price < candle.low then price else candle.low
      close := price
      tickCount := candle.tickCount + 1 }

/-- Candles by instrument, with the settings of the buffer. -/
structure CandleBuffer where
  period : ℚ := 60
  maxCandles : ℕ := 5000
  closed : AList (fun _ : String => List Candle) := ∅
  openCandles : AList (fun _ : String => Candle) := ∅
  tickCounts : AList (fun _ : String => ℕ) := ∅

namespace CandleBuffer

/-- Fewest closed candles with which a strategy runs. -/
def minCandlesForStrategy : ℕ := 5

/-- The price of a tick: the middle of both sides, or the side that is there. A side that is
no number discards the tick. -/
def midPrice : Option Numeral → Option Numeral → Option ℚ
  | some (.number bid), some (.number ask) => some ((bid + ask) / 2)
  | some (.number bid), none => some bid
  | none, some (.number ask) => some ask
  | _, _ => none

/-- Closed candles of an instrument, oldest first. -/
def candles (buffer : CandleBuffer) (epic : String) : List Candle :=
  (buffer.closed.lookup epic).getD []

/-- Append to a deque of limited length. -/
def appendBounded (maxCandles : ℕ) (closed : List Candle) (candle : Candle) : List Candle :=
  (closed ++ [candle]).drop (closed.length + 1 - maxCandles)

/-- Start of the period of a time. -/
def periodStart (buffer : CandleBuffer) (now : ℚ) : ℚ := ⌊now / buffer.period⌋ * buffer.period

/-- Feed a price tick into the buffer. -/
def onTick (buffer : CandleBuffer) (epic : String) (bid ask : Option Numeral) (now : ℚ) :
    CandleBuffer :=
  match midPrice bid ask with
  | none => buffer
  | some price =>
    let counted :=
      { buffer with
          closed := buffer.closed.insert epic (buffer.candles epic)
          tickCounts :=
            buffer.tickCounts.insert epic ((buffer.tickCounts.lookup epic).getD 0 + 1) }
    match buffer.openCandles.lookup epic with
    | none =>
      { counted with
          openCandles :=
            buffer.openCandles.insert epic (.ofTick (buffer.periodStart now) price) }
    | some current =>
      if current.time < buffer.periodStart now then
        { counted with
            closed :=
              buffer.closed.insert epic
                (appendBounded buffer.maxCandles (buffer.candles epic) current)
            openCandles :=
              buffer.openCandles.insert epic (.ofTick (buffer.periodStart now) price) }
      else
        { counted with openCandles := buffer.openCandles.insert epic (current.update price) }

/-- Closed candles, with the open one last if it is asked for. -/
def getCandles (buffer : CandleBuffer) (epic : String) (includeOpen : Bool) : List Candle :=
  buffer.candles epic ++
    if includeOpen then (buffer.openCandles.lookup epic).toList else []

/-- Whether there are enough closed candles to run a strategy. -/
def isReady (buffer : CandleBuffer) (epic : String)
    (minCandles : ℕ := minCandlesForStrategy) : Bool :=
  decide (minCandles ≤ (buffer.candles epic).length)

/-- The candles of an instrument stand in the order of their periods, and the open one belongs
to a later period than every closed one. -/
structure Ordered (buffer : CandleBuffer) (epic : String) : Prop where
  increasing : Cursors.Increasing (·.time) (buffer.candles epic)
  beforeOpen : ∀ candle ∈ buffer.candles epic, ∃ current,
    buffer.openCandles.lookup epic = some current ∧ candle.time < current.time

section Laws

variable {buffer : CandleBuffer} {epic : String}

/-- An eviction leaves the latest candles. -/
theorem append_bounded_suffix (maxCandles : ℕ) (closed : List Candle) (candle : Candle) :
    appendBounded maxCandles closed candle <:+ closed ++ [candle] := List.drop_suffix _ _

/-- What a tick of an instrument leaves: the closed candles as they were, with an open one of
the same period as before, or behind them the candle that was open, with a later one. -/
theorem on_tick_cases (buffer : CandleBuffer) (epic : String) (bid ask : Option Numeral)
    (now : ℚ) :
    ((buffer.onTick epic bid ask now).candles epic = buffer.candles epic ∧
      ∀ current, buffer.openCandles.lookup epic = some current →
        ∃ later, (buffer.onTick epic bid ask now).openCandles.lookup epic = some later ∧
          later.time = current.time) ∨
      ∃ current later, buffer.openCandles.lookup epic = some current ∧
        (buffer.onTick epic bid ask now).candles epic =
          appendBounded buffer.maxCandles (buffer.candles epic) current ∧
        (buffer.onTick epic bid ask now).openCandles.lookup epic = some later ∧
        current.time < later.time := by
  cases priced : midPrice bid ask with
  | none =>
    left
    have unchanged : buffer.onTick epic bid ask now = buffer := by simp only [onTick, priced]
    rw [unchanged]
    exact ⟨rfl, fun current found => ⟨current, found, rfl⟩⟩
  | some price =>
    cases opened : buffer.openCandles.lookup epic with
    | none =>
      left
      simp only [onTick, priced, opened]
      refine ⟨by simp [candles], ?_⟩
      intro current impossible
      cases impossible
    | some current =>
      by_cases later : current.time < buffer.periodStart now
      · right
        refine ⟨current, .ofTick (buffer.periodStart now) price, rfl, ?_, ?_, later⟩
        · simp [onTick, priced, opened, later, candles]
        · simp [onTick, priced, opened, later]
      · left
        refine ⟨by simp [onTick, priced, opened, later, candles], ?_⟩
        intro found same
        obtain rfl := Option.some.inj same
        refine ⟨current.update price, ?_, rfl⟩
        simp [onTick, priced, opened, later]

/-- A tick touches no other instrument. -/
theorem on_tick_other (buffer : CandleBuffer) {epic other : String} (different : other ≠ epic)
    (bid ask : Option Numeral) (now : ℚ) :
    (buffer.onTick epic bid ask now).candles other = buffer.candles other ∧
      (buffer.onTick epic bid ask now).openCandles.lookup other =
        buffer.openCandles.lookup other := by
  cases priced : midPrice bid ask with
  | none => simp only [onTick, priced, and_self]
  | some price =>
    cases opened : buffer.openCandles.lookup epic with
    | none => simp [onTick, priced, opened, candles, AList.lookup_insert_ne different]
    | some current =>
      by_cases later : current.time < buffer.periodStart now <;>
        simp [onTick, priced, opened, later, candles, AList.lookup_insert_ne different]

/-- Every tick keeps the candles in order. -/
theorem Ordered.on_tick (ordered : Ordered buffer epic) (ticked : String)
    (bid ask : Option Numeral) (now : ℚ) : Ordered (buffer.onTick ticked bid ask now) epic := by
  by_cases same : epic = ticked
  · subst same
    obtain ⟨unchanged, period⟩ | ⟨current, later, opened, closed, reopened, increases⟩ :=
      buffer.on_tick_cases epic bid ask now
    · constructor
      · rw [unchanged]
        exact ordered.increasing
      · intro candle member
        rw [unchanged] at member
        obtain ⟨current, opened, before⟩ := ordered.beforeOpen candle member
        obtain ⟨later, reopened, equal⟩ := period current opened
        exact ⟨later, reopened, equal ▸ before⟩
    · have before : ∀ candle ∈ buffer.candles epic, candle.time < current.time := by
        intro candle member
        obtain ⟨found, lookedUp, before⟩ := ordered.beforeOpen candle member
        obtain rfl := Option.some.inj (opened.symm.trans lookedUp)
        exact before
      have suffix := append_bounded_suffix buffer.maxCandles (buffer.candles epic) current
      have extended : Cursors.Increasing (·.time) (buffer.candles epic ++ [current]) := by
        apply List.pairwise_append.mpr
        refine ⟨ordered.increasing, List.pairwise_singleton _ _, ?_⟩
        intro candle member last isLast
        obtain rfl := List.mem_singleton.mp isLast
        exact before candle member
      constructor
      · rw [closed]
        exact List.Pairwise.sublist suffix.sublist extended
      · intro candle member
        rw [closed] at member
        refine ⟨later, reopened, ?_⟩
        obtain old | last := List.mem_append.mp (suffix.subset member)
        · exact (before candle old).trans increases
        · obtain rfl := List.mem_singleton.mp last
          exact increases
  · obtain ⟨sameCandles, sameOpen⟩ := buffer.on_tick_other same bid ask now
    constructor
    · rw [sameCandles]
      exact ordered.increasing
    · rw [sameCandles, sameOpen]
      exact ordered.beforeOpen

/-- The latest candle survives its appending. -/
theorem append_bounded_last {maxCandles : ℕ} (room : 0 < maxCandles) (closed : List Candle)
    (candle : Candle) : (appendBounded maxCandles closed candle).getLast? = some candle := by
  have kept : closed.length + 1 - maxCandles < (closed ++ [candle]).length := by
    rw [List.length_append, List.length_singleton]
    omega
  rw [appendBounded, List.getLast?_drop, if_neg (not_le.mpr kept)]
  simp

/-- The latest closed candle is only followed by later ones. -/
theorem Ordered.latest_on_tick (ordered : Ordered buffer epic) (room : 0 < buffer.maxCandles)
    {latest : Candle} (ended : (buffer.candles epic).getLast? = some latest) (ticked : String)
    (bid ask : Option Numeral) (now : ℚ) :
    ∃ later, ((buffer.onTick ticked bid ask now).candles epic).getLast? = some later ∧
      latest.time ≤ later.time := by
  by_cases same : epic = ticked
  · subst same
    obtain ⟨unchanged, _⟩ | ⟨current, _, opened, closed, _⟩ :=
      buffer.on_tick_cases epic bid ask now
    · rw [unchanged]
      exact ⟨latest, ended, le_refl _⟩
    · rw [closed]
      obtain ⟨found, lookedUp, before⟩ := ordered.beforeOpen latest (List.mem_of_getLast? ended)
      obtain rfl := Option.some.inj (opened.symm.trans lookedUp)
      exact ⟨current, append_bounded_last room _ current, before.le⟩
  · rw [(buffer.on_tick_other same bid ask now).1]
    exact ⟨latest, ended, le_refl _⟩

/-- Ticks change no setting. -/
theorem on_tick_settings (buffer : CandleBuffer) (epic : String) (bid ask : Option Numeral)
    (now : ℚ) :
    (buffer.onTick epic bid ask now).period = buffer.period ∧
      (buffer.onTick epic bid ask now).maxCandles = buffer.maxCandles := by
  unfold onTick
  split
  next => exact ⟨rfl, rfl⟩
  next =>
    split
    next => exact ⟨rfl, rfl⟩
    next => split_ifs <;> exact ⟨rfl, rfl⟩

theorem on_tick_period (buffer : CandleBuffer) (epic : String) (bid ask : Option Numeral)
    (now : ℚ) : (buffer.onTick epic bid ask now).period = buffer.period :=
  (buffer.on_tick_settings epic bid ask now).1

theorem on_tick_room (buffer : CandleBuffer) (epic : String) (bid ask : Option Numeral) (now : ℚ) :
    (buffer.onTick epic bid ask now).maxCandles = buffer.maxCandles :=
  (buffer.on_tick_settings epic bid ask now).2

end Laws

end CandleBuffer

end IgTradingBot
