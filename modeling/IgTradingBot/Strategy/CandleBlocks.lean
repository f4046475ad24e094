import IgTradingBot.Library.Blocks
import IgTradingBot.Strategy.CandleGroups

/-!
# Candles as blocks of ticks

Whatever the order of the ticks: a tick that is late counts for the open candle, so that a candle sums
up a block of ticks as they arrived, and not those of its period. The blocks of the candles follow
each other, and the times of the candles increase.
-/

namespace IgTradingBot

namespace CandleBuffer

/-- A candle sums up a block of prices, at the start of some period. -/
def Sums (period : ℚ) (block : List TimedPrice) (candle : Candle) : Prop :=
  ∃ number : ℤ, candleOf period (number, block) = some candle

/-- Candles are well formed: their times increase and are multiples of the period, the first and the
last price lie between the lowest and the highest, there is at most one more than the limit of closed
ones, and they sum up consecutive blocks of the prices, so that none is counted in two candles. -/
structure WellFormed (period : ℚ) (maxCandles : ℕ) (prices : List TimedPrice)
    (candles : List Candle) : Prop where
  increasing : candles.Pairwise fun earlier later => earlier.time < later.time
  aligned : ∀ candle ∈ candles, ∃ number : ℤ, candle.time = number * period
  bounds : ∀ candle ∈ candles, candle.low ≤ candle.openPrice ∧ candle.openPrice ≤ candle.high ∧
    candle.low ≤ candle.close ∧ candle.close ≤ candle.high
  room : candles.length ≤ maxCandles + 1
  counted : Blocks.Covers (Sums period) candles prices

section Sums

variable {period : ℚ} {block : List TimedPrice} {candle : Candle}

/-- A tick that opens a candle is summed up by it. -/
theorem sums_of_tick (period price now : ℚ) :
    Sums period [⟨price, now⟩] (.ofTick (⌊now / period⌋ * period) price) := ⟨⌊now / period⌋, rfl⟩

/-- A tick that joins a block updates its candle. -/
theorem Sums.update (sums : Sums period block candle) (price : TimedPrice) :
    Sums period (block ++ [price]) (candle.update price.price) := by
  obtain ⟨number, made⟩ := sums
  exact ⟨number, candle_of_append made price⟩

/-- A candle that sums up a block is at the start of a period, between its lowest and its highest
price. -/
theorem Sums.bounds (sums : Sums period block candle) :
    (∃ number : ℤ, candle.time = number * period) ∧ candle.low ≤ candle.openPrice ∧
      candle.openPrice ≤ candle.high ∧ candle.low ≤ candle.close ∧ candle.close ≤ candle.high := by
  obtain ⟨number, made⟩ := sums
  unfold candleOf at made
  simp only [Option.bind_eq_bind, Option.pure_def, Option.bind_eq_some_iff] at made
  obtain ⟨first, isFirst, high, isHigh, low, isLow, last, isLast, same⟩ := made
  obtain rfl := Option.some.inj same
  have above := (List.max?_eq_some_iff.mp isHigh).2
  have below := (List.min?_eq_some_iff.mp isLow).2
  have firstMember := List.mem_of_head? isFirst
  have lastMember := List.mem_of_getLast? isLast
  exact ⟨⟨number, rfl⟩, below first firstMember, above first firstMember, below last lastMember,
    above last lastMember⟩

end Sums

section Ticks

variable {buffer : CandleBuffer} {epic : String} {prices : List TimedPrice}

/-- The candles of an instrument are in order, no more of them are closed than the limit, and they sum up
blocks of its prices. -/
structure Counts (buffer : CandleBuffer) (epic : String) (prices : List TimedPrice) : Prop where
  ordered : Ordered buffer epic
  room : (buffer.candles epic).length ≤ buffer.maxCandles
  covers : Blocks.Covers (Sums buffer.period) (buffer.getCandles epic true) prices

/-- The candles with the open one. -/
theorem get_candles_open {current : Candle} (opened : buffer.openCandles.lookup epic = some current) :
    buffer.getCandles epic true = buffer.candles epic ++ [current] := by
  rw [getCandles, if_pos rfl, opened, Option.toList_some]

/-- An instrument without an open candle has none. -/
theorem Ordered.candles_eq_nil (ordered : Ordered buffer epic)
    (unopened : buffer.openCandles.lookup epic = none) : buffer.candles epic = [] := by
  refine List.eq_nil_iff_forall_not_mem.mpr fun candle member => ?_
  obtain ⟨current, opened, -⟩ := ordered.beforeOpen candle member
  exact absurd (unopened.symm.trans opened) (by simp)

/-- Appending to a list of limited length keeps the limit. -/
theorem append_bounded_length (maxCandles : ℕ) (closed : List Candle) (candle : Candle) :
    (appendBounded maxCandles closed candle).length ≤ maxCandles := by
  rw [appendBounded, List.length_drop, List.length_append, List.length_singleton]
  omega

/-- A price of an instrument counts for one of its candles: for a first one, for the open one, or for
one that is opened behind it. -/
theorem Counts.on_price (counts : Counts buffer epic prices) {bid ask : Option Numeral} {price : ℚ}
    (priced : midPrice bid ask = some price) (now : ℚ) :
    Counts (buffer.onTick epic bid ask now) epic (prices ++ [⟨price, now⟩]) := by
  obtain ⟨ordered, room, covers⟩ := counts
  have alone := sums_of_tick buffer.period price now
  suffices kept : ((buffer.onTick epic bid ask now).candles epic).length ≤ buffer.maxCandles ∧
      Blocks.Covers (Sums buffer.period) ((buffer.onTick epic bid ask now).getCandles epic true)
        (prices ++ [⟨price, now⟩]) by
    refine ⟨ordered.on_tick epic bid ask now, ?_, ?_⟩
    · rw [on_tick_room]
      exact kept.1
    · rw [on_tick_period]
      exact kept.2
  cases opened : buffer.openCandles.lookup epic with
  | none =>
    have nothing := ordered.candles_eq_nil opened
    have same : (buffer.onTick epic bid ask now).candles epic = [] := by
      rw [← nothing]
      simp [onTick, priced, opened, candles]
    have first : (buffer.onTick epic bid ask now).openCandles.lookup epic =
        some (.ofTick (buffer.periodStart now) price) := by simp [onTick, priced, opened]
    rw [get_candles_open first, same]
    exact ⟨Nat.zero_le _, (Blocks.covers_nil prices).opens alone⟩
  | some current =>
    rw [get_candles_open opened] at covers
    by_cases later : current.time < buffer.periodStart now
    · have closed : (buffer.onTick epic bid ask now).candles epic =
          appendBounded buffer.maxCandles (buffer.candles epic) current := by
        simp [onTick, priced, opened, later, candles]
      have next : (buffer.onTick epic bid ask now).openCandles.lookup epic =
          some (.ofTick (buffer.periodStart now) price) := by simp [onTick, priced, opened, later]
      rw [get_candles_open next, closed]
      exact ⟨append_bounded_length _ _ _, (covers.drop _).opens alone⟩
    · have same : (buffer.onTick epic bid ask now).candles epic = buffer.candles epic := by
        simp [onTick, priced, opened, later, candles]
      have updated : (buffer.onTick epic bid ask now).openCandles.lookup epic =
          some (current.update price) := by simp [onTick, priced, opened, later]
      rw [get_candles_open updated, same]
      exact ⟨room, covers.joins fun block sums => sums.update ⟨price, now⟩⟩

/-- Every tick keeps the candles of every instrument well counted, whichever instrument it is about. -/
theorem Counts.on_tick (counts : Counts buffer epic prices) (tick : BufferTick) :
    Counts (buffer.onTick tick.epic tick.bid tick.ask tick.time) epic
      (prices ++ (tick.priceOf epic).toList) := by
  obtain ⟨ignored, sameCandles, sameOpen⟩ | ⟨price, rfl, priced, given⟩ := buffer.tick_cases tick epic
  · rw [ignored, Option.toList_none, List.append_nil]
    refine ⟨counts.ordered.on_tick tick.epic tick.bid tick.ask tick.time, ?_, ?_⟩
    · rw [sameCandles, on_tick_room]
      exact counts.room
    · rw [getCandles, sameCandles, sameOpen, on_tick_period]
      exact counts.covers
  · rw [given, Option.toList_some]
    exact counts.on_price priced tick.time

/-- What is counted well is well formed. -/
theorem Counts.well_formed (counts : Counts buffer epic prices) :
    WellFormed buffer.period buffer.maxCandles prices (buffer.getCandles epic true) := by
  have bounds : ∀ candle ∈ buffer.getCandles epic true,
      (∃ number : ℤ, candle.time = number * buffer.period) ∧ candle.low ≤ candle.openPrice ∧
        candle.openPrice ≤ candle.high ∧ candle.low ≤ candle.close ∧
        candle.close ≤ candle.high := by
    intro candle member
    obtain ⟨block, sums⟩ := counts.covers.exists_block member
    exact sums.bounds
  refine ⟨?_, fun candle member => (bounds candle member).1,
    fun candle member => (bounds candle member).2, ?_, counts.covers⟩
  · refine List.pairwise_append.mpr ⟨counts.ordered.increasing, ?_, ?_⟩
    · rw [if_pos rfl]
      cases buffer.openCandles.lookup epic <;> simp
    · intro candle member last isOpen
      obtain ⟨current, opened, before⟩ := counts.ordered.beforeOpen candle member
      rw [if_pos rfl, opened, Option.toList_some, List.mem_singleton] at isOpen
      exact isOpen ▸ before
  · have one : (buffer.openCandles.lookup epic).toList.length ≤ 1 := by
      cases buffer.openCandles.lookup epic <;> simp
    rw [getCandles, if_pos rfl, List.length_append]
    exact Nat.add_le_add counts.room one

end Ticks

/-- A tick that is late counts for the open candle. -/
example : (fed 60 5 [⟨"EURUSD", some (.number 1), none, 70⟩, ⟨"EURUSD", some (.number 3), none, 10⟩,
    ⟨"EURUSD", some (.number 2), none, 130⟩]).getCandles "EURUSD" true =
      [⟨60, 1, 3, 1, 3, 2⟩, ⟨120, 2, 2, 2, 2, 1⟩] := by
  decide +kernel

end CandleBuffer

end IgTradingBot
