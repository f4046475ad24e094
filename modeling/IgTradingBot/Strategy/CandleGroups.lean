import IgTradingBot.Library.Grouping
import IgTradingBot.Strategy.CandleBuffer
import Mathlib.Algebra.Order.Field.Basic
import Mathlib.Tactic.Linarith

/-!
# Candles as groups of ticks

What the candle buffer is for: the ticks of an instrument, grouped by the period to which their
times belong, each group with its first, largest, smallest and last price and its number of
ticks. The buffer builds these candles one tick at a time and keeps the latest ones.
-/

namespace IgTradingBot

open Grouping

/-- A tick of an instrument at a time. -/
structure BufferTick where
  epic : String
  bid : Option Numeral
  ask : Option Numeral
  time : ℚ

/-- A price at a time. -/
structure TimedPrice where
  price : ℚ
  time : ℚ
  deriving DecidableEq

/-- The price that a tick gives to an instrument. -/
def BufferTick.priceOf (tick : BufferTick) (epic : String) : Option TimedPrice :=
  if tick.epic = epic then
    (CandleBuffer.midPrice tick.bid tick.ask).map fun price => ⟨price, tick.time⟩
  else none

namespace CandleBuffer

/-- The prices that ticks give to an instrument. -/
def pricesOf (epic : String) (ticks : List BufferTick) : List TimedPrice :=
  ticks.filterMap (·.priceOf epic)

/-- The times do not decrease. -/
def InTime (prices : List TimedPrice) : Prop :=
  prices.Pairwise fun first second => first.time ≤ second.time

instance (prices : List TimedPrice) : Decidable (InTime prices) :=
  inferInstanceAs (Decidable (List.Pairwise _ _))

/-- Number of the period to which a price belongs. -/
def periodOf (period : ℚ) (price : TimedPrice) : ℤ := ⌊price.time / period⌋

/-- The candle of a group: first, largest, smallest and last price, and the number of prices. -/
def candleOf (period : ℚ) (group : ℤ × List TimedPrice) : Option Candle := do
  let prices := group.2.map TimedPrice.price
  let first ← prices.head?
  let high ← prices.max?
  let low ← prices.min?
  let last ← prices.getLast?
  return ⟨group.1 * period, first, high, low, last, prices.length⟩

/-- The candles of prices, one for every period that has any. -/
def batchCandles (period : ℚ) (prices : List TimedPrice) : List Candle :=
  (groups (periodOf period) prices).filterMap (candleOf period)

/-- A buffer that has been fed with ticks. -/
def fed (period : ℚ) (maxCandles : ℕ) (ticks : List BufferTick) : CandleBuffer :=
  ticks.foldl (fun buffer tick => buffer.onTick tick.epic tick.bid tick.ask tick.time)
    { period := period, maxCandles := maxCandles }

/-- The buffer holds the candles of an instrument's prices: those of the earlier groups as far as
there is room, and the one of the last group as the open candle. -/
def Holds (buffer : CandleBuffer) (epic : String) (prices : List TimedPrice) : Prop :=
  buffer.candles epic =
      (batchCandles buffer.period prices).dropLast.rtake buffer.maxCandles ∧
    buffer.openCandles.lookup epic = (batchCandles buffer.period prices).getLast?

section Candles

variable {period : ℚ}

/-- A further price updates the candle of a group. -/
theorem candle_of_append {number : ℤ} {members : List TimedPrice} {candle : Candle}
    (made : candleOf period (number, members) = some candle) (price : TimedPrice) :
    candleOf period (number, members ++ [price]) = some (candle.update price.price) := by
  cases members with
  | nil => cases made
  | cons first rest =>
    obtain rfl := Option.some.inj made
    have last : (first.price :: (rest.map TimedPrice.price ++ [price.price])).getLast? =
        some price.price := by
      rw [← List.cons_append, List.getLast?_concat]
    simp only [candleOf, List.cons_append, List.map_cons, List.map_append, List.map_nil,
      List.head?_cons, List.max?_cons', List.min?_cons', List.foldl_append, List.foldl_cons,
      List.foldl_nil, Option.pure_def, Option.bind_eq_bind, Option.bind_some, Candle.update, last,
      List.length_cons, List.length_append, List.length_nil, max_def_lt,
      min_comm _ price.price, min_def_lt price.price]

/-- Every group of prices has a candle. -/
theorem candle_of_members (period : ℚ) (number : ℤ) {members : List TimedPrice}
    (nonempty : members ≠ []) :
    ∃ candle, candleOf period (number, members) = some candle ∧ candle.time = number * period := by
  cases members with
  | nil => exact absurd rfl nonempty
  | cons first rest => exact ⟨_, rfl, rfl⟩

/-- A single price that opens a period appends its candle. -/
theorem batch_candles_new {prices : List TimedPrice} {price : TimedPrice}
    (fresh : periodOf period price ∉ prices.map (periodOf period)) :
    batchCandles period (prices ++ [price]) =
      batchCandles period prices ++ [.ofTick (periodOf period price * period) price.price] := by
  rw [batchCandles, groups_new fresh, List.filterMap_append]
  rfl

/-- A further price of the last period updates its candle. -/
theorem batch_candles_same {prices members : List TimedPrice} {price : TimedPrice}
    {former : List (ℤ × List TimedPrice)} {candle : Candle}
    (grouped : groups (periodOf period) prices = former ++ [(periodOf period price, members)])
    (made : candleOf period (periodOf period price, members) = some candle) :
    batchCandles period (prices ++ [price]) =
      former.filterMap (candleOf period) ++ [candle.update price.price] := by
  rw [batchCandles, groups_same grouped, List.filterMap_append]
  simp [candle_of_append made]

/-- The start of the period of a later price is not earlier. -/
theorem period_starts_increase (nonzero : period ≠ 0) {first second : TimedPrice}
    (later : first.time ≤ second.time) :
    (periodOf period first : ℚ) * period ≤ periodOf period second * period := by
  obtain negative | positive := lt_or_gt_of_ne nonzero
  · have numbers : periodOf period second ≤ periodOf period first :=
      Int.floor_mono (div_le_div_of_nonpos_of_le negative.le later)
    exact mul_le_mul_of_nonpos_right (by exact_mod_cast numbers) negative.le
  · have numbers : periodOf period first ≤ periodOf period second :=
      Int.floor_mono (div_le_div_of_nonneg_right later positive.le)
    exact mul_le_mul_of_nonneg_right (by exact_mod_cast numbers) positive.le

/-- Different periods start at different times. -/
theorem period_start_injective (nonzero : period ≠ 0) :
    Function.Injective fun number : ℤ => (number : ℚ) * period :=
  fun _ _ same => by exact_mod_cast mul_right_cancel₀ nonzero same

/-- Prices in the order of their times are in the order of their periods. -/
theorem InTime.by_period {prices : List TimedPrice} (inTime : InTime prices)
    (nonzero : period ≠ 0) :
    prices.Pairwise fun first second =>
      (periodOf period first : ℚ) * period ≤ periodOf period second * period :=
  inTime.imp fun later => period_starts_increase nonzero later

end Candles

section Ticks

variable {buffer : CandleBuffer} {epic : String} {prices : List TimedPrice}

/-- The first price of an instrument opens its first candle. -/
theorem Holds.first_price (holds : buffer.Holds epic []) {bid ask : Option Numeral} {price : ℚ}
    (priced : midPrice bid ask = some price) (now : ℚ) :
    (buffer.onTick epic bid ask now).Holds epic [⟨price, now⟩] := by
  obtain ⟨closed, opened⟩ := holds
  have unopened : buffer.openCandles.lookup epic = none := opened
  have batch : batchCandles buffer.period [⟨price, now⟩] =
      [.ofTick (buffer.periodStart now) price] :=
    @batch_candles_new buffer.period [] ⟨price, now⟩ List.not_mem_nil
  constructor
  · rw [on_tick_period, batch]
    have kept : (buffer.onTick epic bid ask now).candles epic = buffer.candles epic := by
      simp [onTick, priced, unopened, candles]
    rw [kept, closed, on_tick_room]
    rfl
  · rw [on_tick_period, batch]
    simp [onTick, priced, unopened]

/-- A further price of an instrument updates its open candle or closes it. -/
theorem Holds.next_price {last : TimedPrice} (holds : buffer.Holds epic (prices ++ [last]))
    (nonzero : buffer.period ≠ 0) {bid ask : Option Numeral} {price now : ℚ}
    (priced : midPrice bid ask = some price)
    (inTime : InTime (prices ++ [last] ++ [⟨price, now⟩])) :
    (buffer.onTick epic bid ask now).Holds epic (prices ++ [last] ++ [⟨price, now⟩]) := by
  obtain ⟨closed, opened⟩ := holds
  have byPeriod := inTime.by_period nonzero
  have injective := period_start_injective nonzero
  obtain ⟨former, members, nonempty, grouped⟩ :=
    last_group injective prices last (List.pairwise_append.mp byPeriod).1
  obtain ⟨current, made, started⟩ := candle_of_members buffer.period
    (periodOf buffer.period last) nonempty
  have batch : batchCandles buffer.period (prices ++ [last]) =
      former.filterMap (candleOf buffer.period) ++ [current] := by
    rw [batchCandles, grouped, List.filterMap_append]
    simp [made]
  rw [batch, List.dropLast_concat] at closed
  rw [batch, List.getLast?_concat] at opened
  have start : (periodOf buffer.period ⟨price, now⟩ : ℚ) * buffer.period =
      buffer.periodStart now := rfl
  by_cases later : current.time < buffer.periodStart now
  · -- the price belongs to a period behind the last one, so no earlier price belongs to it
    have fresh : periodOf buffer.period ⟨price, now⟩ ∉
        (prices ++ [last]).map (periodOf buffer.period) := by
      intro known
      have same := known_key_is_last injective byPeriod known
      rw [started, ← start, same] at later
      exact lt_irrefl _ later
    have extended := batch_candles_new fresh
    rw [batch, start] at extended
    constructor
    · have closing : (buffer.onTick epic bid ask now).candles epic =
          appendBounded buffer.maxCandles (buffer.candles epic) current := by
        simp [onTick, priced, opened, later, candles]
      rw [closing, closed, appendBounded, append_to_latest, on_tick_period, on_tick_room, extended,
        List.dropLast_concat]
    · rw [on_tick_period, extended, List.getLast?_concat]
      simp [onTick, priced, opened, later]
  · -- the price belongs to the period of the last one
    have ahead := (List.pairwise_append.mp byPeriod).2.2 last
      (List.mem_append_right _ List.mem_cons_self) _ List.mem_cons_self
    rw [started, ← start] at later
    have same : periodOf buffer.period ⟨price, now⟩ = periodOf buffer.period last :=
      injective (le_antisymm (not_lt.mp later) ahead)
    rw [start, ← started] at later
    rw [← same] at grouped made
    have updated : batchCandles buffer.period (prices ++ [last] ++ [⟨price, now⟩]) =
        former.filterMap (candleOf buffer.period) ++ [current.update price] :=
      batch_candles_same grouped made
    constructor
    · have kept : (buffer.onTick epic bid ask now).candles epic = buffer.candles epic := by
        simp [onTick, priced, opened, later, candles]
      rw [kept, closed, on_tick_period, on_tick_room, updated, List.dropLast_concat]
    · rw [on_tick_period, updated, List.getLast?_concat]
      simp [onTick, priced, opened, later]

/-- A tick gives an instrument no price and leaves its candles, or is one of it with a price. -/
theorem tick_cases (buffer : CandleBuffer) (tick : BufferTick) (epic : String) :
    (tick.priceOf epic = none ∧
        (buffer.onTick tick.epic tick.bid tick.ask tick.time).candles epic = buffer.candles epic ∧
        (buffer.onTick tick.epic tick.bid tick.ask tick.time).openCandles.lookup epic =
          buffer.openCandles.lookup epic) ∨
      ∃ price, tick.epic = epic ∧ midPrice tick.bid tick.ask = some price ∧
        tick.priceOf epic = some ⟨price, tick.time⟩ := by
  by_cases same : tick.epic = epic
  · subst same
    cases priced : midPrice tick.bid tick.ask with
    | none =>
      have unchanged : buffer.onTick tick.epic tick.bid tick.ask tick.time = buffer := by
        simp only [onTick, priced]
      exact .inl ⟨by simp [BufferTick.priceOf, priced], by rw [unchanged], by rw [unchanged]⟩
    | some price => exact .inr ⟨price, rfl, rfl, by simp [BufferTick.priceOf, priced]⟩
  · exact .inl ⟨if_neg same, buffer.on_tick_other (Ne.symm same) tick.bid tick.ask tick.time⟩

/-- Every tick keeps the candles of every instrument, whichever instrument it is about. -/
theorem Holds.on_tick (holds : buffer.Holds epic prices) (nonzero : buffer.period ≠ 0)
    (tick : BufferTick) (inTime : InTime (prices ++ (tick.priceOf epic).toList)) :
    (buffer.onTick tick.epic tick.bid tick.ask tick.time).Holds epic
      (prices ++ (tick.priceOf epic).toList) := by
  obtain ⟨ignored, sameCandles, sameOpen⟩ | ⟨price, rfl, priced, given⟩ := buffer.tick_cases tick epic
  · rw [ignored, Option.toList_none, List.append_nil]
    constructor
    · rw [sameCandles, on_tick_period, on_tick_room]
      exact holds.1
    · rw [sameOpen, on_tick_period]
      exact holds.2
  · rw [given, Option.toList_some] at inTime ⊢
    -- the instrument has no price yet, or a last one
    induction prices using List.reverseRecOn with
    | nil => exact holds.first_price priced tick.time
    | append_singleton earlier last _ => exact holds.next_price nonzero priced inTime

end Ticks

/-- Ticks keep the settings. -/
theorem fed_period (period : ℚ) (maxCandles : ℕ) (ticks : List BufferTick) :
    (fed period maxCandles ticks).period = period := by
  induction ticks using List.reverseRecOn with
  | nil => rfl
  | append_singleton earlier tick inductionHypothesis =>
    rw [fed, List.foldl_concat, on_tick_period]
    exact inductionHypothesis

theorem fed_room (period : ℚ) (maxCandles : ℕ) (ticks : List BufferTick) :
    (fed period maxCandles ticks).maxCandles = maxCandles := by
  induction ticks using List.reverseRecOn with
  | nil => rfl
  | append_singleton earlier tick inductionHypothesis =>
    rw [fed, List.foldl_concat, on_tick_room]
    exact inductionHypothesis

/-- The prices with those of a further tick. -/
theorem prices_of_concat (epic : String) (earlier : List BufferTick) (tick : BufferTick) :
    pricesOf epic (earlier ++ [tick]) = pricesOf epic earlier ++ (tick.priceOf epic).toList := by
  rw [pricesOf, List.filterMap_append]
  cases given : tick.priceOf epic <;> simp [pricesOf, given]

/-- A buffer that is fed with ticks in the order of their times holds the candles of every
instrument. The induction is on the ticks, from the first to the last. -/
theorem fed_holds {period : ℚ} (nonzero : period ≠ 0) (maxCandles : ℕ)
    (ticks : List BufferTick) (epic : String) (inTime : InTime (pricesOf epic ticks)) :
    (fed period maxCandles ticks).Holds epic (pricesOf epic ticks) := by
  induction ticks using List.reverseRecOn with
  | nil => exact ⟨(List.rtake_nil _).symm, rfl⟩
  | append_singleton earlier tick inductionHypothesis =>
    rw [prices_of_concat] at inTime ⊢
    have holds := inductionHypothesis (List.pairwise_append.mp inTime).1
    rw [fed, List.foldl_concat]
    exact holds.on_tick ((fed_period period maxCandles earlier).symm ▸ nonzero) tick inTime

/-- For every sequence of ticks whose prices for an instrument come in the order of their times,
the buffer returns the latest candles of the closed groups of these prices, and behind them the
candle of the last group. -/
theorem get_candles_refines_groups (period : ℚ) (nonzero : period ≠ 0) (maxCandles : ℕ)
    (ticks : List BufferTick) (epic : String) (inTime : InTime (pricesOf epic ticks))
    (includeOpen : Bool) :
    (fed period maxCandles ticks).getCandles epic includeOpen =
      (batchCandles period (pricesOf epic ticks)).dropLast.rtake maxCandles ++
        if includeOpen then (batchCandles period (pricesOf epic ticks)).getLast?.toList
        else [] := by
  obtain ⟨closed, opened⟩ := fed_holds nonzero maxCandles ticks epic inTime
  rw [getCandles, closed, opened, fed_period, fed_room]

/-- Ticks of one instrument in two minutes; the later ones lack a side. -/
def minuteTicks : List BufferTick :=
  [⟨"EURUSD", some (.number 1), some (.number 3), 0⟩, ⟨"EURUSD", some (.number 4), none, 30⟩,
    ⟨"EURUSD", none, some (.number 1), 90⟩]

/-- With room for one closed candle, the buffer returns the candle of the first minute and that of
the second. -/
theorem minute_ticks_are_grouped :
    (fed 60 1 minuteTicks).getCandles "EURUSD" true =
      (batchCandles 60 (pricesOf "EURUSD" minuteTicks)).dropLast.rtake 1 ++
        (batchCandles 60 (pricesOf "EURUSD" minuteTicks)).getLast?.toList :=
  get_candles_refines_groups 60 (by norm_num) 1 minuteTicks "EURUSD" (by decide +kernel) true

example : (batchCandles 60 (pricesOf "EURUSD" minuteTicks)) =
    [⟨0, 2, 4, 2, 4, 2⟩, ⟨60, 1, 1, 1, 1, 1⟩] := by decide +kernel

end CandleBuffer

end IgTradingBot
