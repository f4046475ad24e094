import IgTradingBot.Backtest.BacktestEngine
import IgTradingBot.Library.Loops
import Mathlib.Data.List.Nodup

/-!
# Causality of a backtest

A run on the first bars of the data makes the same trades as a run on all of it, as far as it goes:
no pass of the loop looks past its bar. The two runs are compared pass by pass. What they hold is
alike: the same equity, the same trades and the same position, whose entry times are at the same
place of both indexes.

A bar without a timestamp is dated by the clock, which two runs read at different times. Such
trades agree in all but their times.
-/

namespace IgTradingBot

variable {σ τ κ ρ : Type}

/-- A timestamp of the index is found where it stands. -/
def Pandas.Locates (pandas : Pandas τ κ ρ) : Prop :=
  ∀ (data : HistoricalData τ κ ρ) (i : ℕ) (bar : Bar τ κ ρ) (moment : τ),
    data.bars[i]? = some bar → bar.label = .timestamp moment →
      pandas.getLoc data.index moment = some i

/-- Every bar has a timestamp. -/
def HistoricalData.Dated (data : HistoricalData τ κ ρ) : Prop :=
  ∀ bar ∈ data.bars, ∃ moment, bar.label = .timestamp moment

/-- A trade without its times. -/
def Trade.terms (trade : Trade τ) : Trade Unit := { trade with entryTime := (), exitTime := () }

namespace HistoricalData

variable {data : HistoricalData τ κ ρ} {count i : ℕ}

/-- The first bars of the data are its bars. -/
theorem head_get (inside : i < count) : (data.head count).bars[i]? = data.bars[i]? :=
  List.getElem?_take_of_lt inside

/-- What a strategy sees at one of the first bars does not depend on the later bars. -/
theorem head_window (inside : i < count) : (data.head count).window i = data.window i := by
  simp only [window, head, List.take_take, Nat.min_eq_left (Nat.succ_le_of_lt inside)]

/-- A part of the data is not longer than the data. -/
theorem head_length_le (data : HistoricalData τ κ ρ) (count : ℕ) :
    (data.head count).bars.length ≤ data.bars.length :=
  (List.take_sublist count data.bars).length_le

end HistoricalData

namespace BacktestEngine

open HistoricalData

section Passes

variable {engine : BacktestEngine} {pandas : Pandas τ κ ρ} {rounding : Rounding}
  {strategy : BaseStrategy σ (Bar τ κ ρ)} {pipValue : ℚ} {clock : ℕ → τ}
  {data : HistoricalData τ κ ρ} {state after : Simulation σ τ} {i : ℕ} {bar : Bar τ κ ρ}

/-- Data that is valid has rows enough. -/
theorem validate_data_length (valid : validateData pandas data = .ok ()) :
    Constants.backtestMinTrades ≤ data.bars.length := by
  unfold validateData at valid
  split_ifs at valid with empty short
  exact Nat.le_of_not_lt short

/-- Valid data is long enough for the first signal to be asked for at bar 50. -/
theorem min_window_of_valid (valid : validateData pandas data = .ok ()) : minWindow data = 50 := by
  have enough := validate_data_length valid
  simp only [Constants.backtestMinTrades] at enough
  simp only [minWindow]
  omega

/-- What an entry leaves: the trades are as they were. -/
theorem try_entry_trades (entered : tryEntry rounding strategy clock data state i bar = .ok after) :
    after.trades = state.trades := by
  unfold tryEntry at entered
  split at entered
  · cases entered
  · cases entered
    rfl
  · cases entered
    rfl

/-- What an exit leaves: the state as it was, or the state without the position, with one trade
more. -/
theorem try_exit_cases {position : BacktestPosition τ}
    (exited : tryExit engine pandas rounding pipValue clock data state position i bar = .ok after) :
    after = state ∨
      after.trades = state.trades ++ [closedTrade engine rounding pipValue clock position i bar] := by
  obtain ⟨change, -, decided⟩ := Loops.bind_eq_ok.mp exited
  dsimp only at decided
  split_ifs at decided with exits
  · cases decided
    exact .inr rfl
  · cases decided
    exact .inl rfl

/-- A pass keeps the trades that are completed. -/
theorem simulate_bar_trades
    (passed : simulateBar engine pandas rounding strategy pipValue clock data state i = .ok after) :
    state.trades <+: after.trades := by
  unfold simulateBar at passed
  split at passed
  · cases passed
  · split at passed
    · rw [try_entry_trades passed]
    · obtain rfl | closed := try_exit_cases passed
      · exact List.prefix_rfl
      · rw [closed]
        exact List.prefix_append _ _

/-- The passes before a bar are those before an earlier bar and then those from there on. -/
theorem simulate_before_split (stop last : ℕ) (earliest : minWindow data ≤ stop)
    (later : stop ≤ last) {start final : Simulation σ τ} :
    simulateBefore engine pandas rounding strategy pipValue clock data last start = .ok final ↔
      ∃ middle,
        simulateBefore engine pandas rounding strategy pipValue clock data stop start = .ok middle ∧
        (List.range' stop (last - stop)).foldlM
          (simulateBar engine pandas rounding strategy pipValue clock data) middle = .ok final := by
  have passes : List.range' (minWindow data) (last - minWindow data) =
      List.range' (minWindow data) (stop - minWindow data) ++ List.range' stop (last - stop) := by
    have reached : minWindow data + (stop - minWindow data) = stop := Nat.add_sub_cancel' earliest
    have later : last - minWindow data = (stop - minWindow data) + (last - stop) := by omega
    rw [later, ← List.range'_append_1, reached]
  rw [simulateBefore, passes]
  exact Loops.append_eq_ok

/-- The trades completed before a bar are still there at a later one. -/
theorem passes_trades {items : List ℕ} {start final : Simulation σ τ}
    (ended : items.foldlM (simulateBar engine pandas rounding strategy pipValue clock data) start =
      .ok final) : start.trades <+: final.trades :=
  Loops.grows (fun earlier later : Simulation σ τ => earlier.trades <+: later.trades)
    (fun _ => List.prefix_rfl) List.IsPrefix.trans simulate_bar_trades ended

end Passes

section Prefixes

variable {engine : BacktestEngine} {pandas : Pandas τ κ ρ} {rounding : Rounding}
  {strategy : BaseStrategy σ (Bar τ κ ρ)} {pipValue : ℚ} {partClock clock : ℕ → τ}
  {data : HistoricalData τ κ ρ} {count : ℕ}

/-- Where a bar of the first part has no timestamp, the clocks of two runs show times that are at
the same place of both indexes, or in neither. -/
def ReadAlike (pandas : Pandas τ κ ρ) (data : HistoricalData τ κ ρ) (count : ℕ)
    (partClock clock : ℕ → τ) : Prop :=
  ∀ (i : ℕ) (bar : Bar τ κ ρ) (key : κ), (data.head count).bars[i]? = some bar →
    bar.label = .other key →
      pandas.getLoc (data.head count).index (partClock i) = pandas.getLoc data.index (clock i)

/-- Where every bar has a timestamp, the clocks are not read. -/
theorem read_alike_of_dated (dated : (data.head count).Dated) :
    ReadAlike pandas data count partClock clock := by
  intro i bar key inPart label
  obtain ⟨moment, timestamp⟩ := dated bar (List.mem_of_getElem? inPart)
  rw [label] at timestamp
  cases timestamp

/-- Positions are alike when they differ at most in the time of their entry, which is at the same
place of both indexes. With timestamps the times are the same too. -/
structure SamePosition (pandas : Pandas τ κ ρ) (data : HistoricalData τ κ ρ) (count : ℕ)
    (first second : BacktestPosition τ) : Prop where
  entryPrice : first.entryPrice = second.entryPrice
  direction : first.direction = second.direction
  size : first.size = second.size
  located : pandas.getLoc (data.head count).index first.entryTime =
    pandas.getLoc data.index second.entryTime
  dated : (data.head count).Dated → first.entryTime = second.entryTime

/-- States are alike when they differ at most in times. With timestamps the trades are the same. -/
structure Alike (pandas : Pandas τ κ ρ) (data : HistoricalData τ κ ρ) (count : ℕ)
    (first second : Simulation σ τ) : Prop where
  memory : first.memory = second.memory
  equity : first.equity = second.equity
  position : Option.Rel (SamePosition pandas data count) first.position second.position
  terms : first.trades.map Trade.terms = second.trades.map Trade.terms
  dated : (data.head count).Dated → first.trades = second.trades

/-- The time of a bar is at the same place of both indexes. -/
theorem bar_time_located (locates : pandas.Locates)
    (readings : ReadAlike pandas data count partClock clock) {i : ℕ} {bar : Bar τ κ ρ}
    (inPart : (data.head count).bars[i]? = some bar) (inData : data.bars[i]? = some bar) :
    pandas.getLoc (data.head count).index (barTime (partClock i) bar) =
      pandas.getLoc data.index (barTime (clock i) bar) := by
  cases label : bar.label with
  | timestamp moment =>
    simp only [barTime, label]
    rw [locates (data.head count) i bar moment inPart label, locates data i bar moment inData label]
  | other key =>
    simp only [barTime, label]
    exact readings i bar key inPart label

/-- The time of a bar with a timestamp does not depend on the clock. -/
theorem bar_time_dated (dated : (data.head count).Dated) {i : ℕ} {bar : Bar τ κ ρ}
    (inPart : (data.head count).bars[i]? = some bar) (now later : τ) :
    barTime now bar = barTime later bar := by
  obtain ⟨moment, label⟩ := dated bar (List.mem_of_getElem? inPart)
  simp only [barTime, label]

/-- Alike states ask the strategy the same and open alike positions. -/
theorem try_entry_alike (locates : pandas.Locates)
    (readings : ReadAlike pandas data count partClock clock) {i : ℕ} {bar : Bar τ κ ρ}
    (inside : i < count) (inPart : (data.head count).bars[i]? = some bar)
    (inData : data.bars[i]? = some bar) {first second after : Simulation σ τ}
    (alike : Alike pandas data count first second)
    (entered : tryEntry rounding strategy clock data second i bar = .ok after) :
    ∃ reached, tryEntry rounding strategy partClock (data.head count) first i bar = .ok reached ∧
      Alike pandas data count reached after := by
  simp only [tryEntry] at entered ⊢
  rw [head_window inside, alike.memory, alike.equity]
  split at entered
  · cases entered
  · cases entered
    exact ⟨_, rfl, rfl, rfl, alike.position, alike.terms, alike.dated⟩
  · cases entered
    refine ⟨_, rfl, rfl, rfl, .some ⟨rfl, rfl, rfl, ?_, ?_⟩, alike.terms, alike.dated⟩
    · exact bar_time_located locates readings inPart inData
    · exact fun dated => bar_time_dated dated inPart _ _

/-- Alike positions are closed by trades of the same terms. -/
theorem closed_trade_terms {first second : BacktestPosition τ}
    (same : SamePosition pandas data count first second) (i : ℕ) (bar : Bar τ κ ρ) :
    (closedTrade engine rounding pipValue partClock first i bar).terms =
      (closedTrade engine rounding pipValue clock second i bar).terms := by
  simp only [closedTrade, Trade.terms, rawPnl, same.entryPrice, same.direction, same.size]

/-- With timestamps, alike positions are closed by the same trade. -/
theorem closed_trade_dated {first second : BacktestPosition τ}
    (same : SamePosition pandas data count first second) (dated : (data.head count).Dated)
    {i : ℕ} {bar : Bar τ κ ρ} (inPart : (data.head count).bars[i]? = some bar) :
    closedTrade engine rounding pipValue partClock first i bar =
      closedTrade engine rounding pipValue clock second i bar := by
  simp only [closedTrade, rawPnl, same.entryPrice, same.direction, same.size, same.dated dated,
    bar_time_dated dated inPart (partClock i) (clock i)]

/-- Alike states with alike positions exit at the same bars, with trades of the same terms. -/
theorem try_exit_alike {i : ℕ} {bar : Bar τ κ ρ}
    (inPart : (data.head count).bars[i]? = some bar) {first second after : Simulation σ τ}
    (alike : Alike pandas data count first second) {position other : BacktestPosition τ}
    (same : SamePosition pandas data count position other)
    (exited : tryExit engine pandas rounding pipValue clock data second other i bar = .ok after) :
    ∃ reached, tryExit engine pandas rounding pipValue partClock (data.head count) first position i
        bar = .ok reached ∧ Alike pandas data count reached after := by
  have heldAlike : barsHeld pandas (data.head count) i position.entryTime =
      barsHeld pandas data i other.entryTime := by
    simp only [barsHeld, same.located]
  have terms : (closedTrade engine rounding pipValue partClock position i bar).terms =
      (closedTrade engine rounding pipValue clock other i bar).terms :=
    closed_trade_terms same i bar
  obtain ⟨change, moved, decided⟩ := Loops.bind_eq_ok.mp exited
  rw [tryExit, heldAlike, same.entryPrice]
  simp only [moved]
  dsimp only at decided
  split_ifs at decided with exits
  · cases decided
    refine ⟨_, Loops.bind_eq_ok.mpr ⟨change, rfl, if_pos exits⟩,
      alike.memory, ?_, .none, ?_, fun dated => ?_⟩
    · have pnl := congrArg Trade.pnl terms
      simp only [Trade.terms] at pnl
      simp only [alike.equity, pnl]
    · simp only [List.map_append, List.map_cons, List.map_nil, alike.terms, terms]
    · exact congrArg₂ (· ++ [·]) (alike.dated dated) (closed_trade_dated same dated inPart)
  · cases decided
    exact ⟨first, Loops.bind_eq_ok.mpr ⟨change, rfl, if_neg exits⟩, alike⟩

/-- A pass at one of the first bars keeps states alike. -/
theorem simulate_bar_alike (locates : pandas.Locates)
    (readings : ReadAlike pandas data count partClock clock) {i : ℕ} (inside : i < count)
    {first second after : Simulation σ τ} (alike : Alike pandas data count first second)
    (passed : simulateBar engine pandas rounding strategy pipValue clock data second i = .ok after) :
    ∃ reached, simulateBar engine pandas rounding strategy pipValue partClock (data.head count) first
        i = .ok reached ∧ Alike pandas data count reached after := by
  unfold simulateBar at passed ⊢
  rw [head_get inside]
  split at passed
  · cases passed
  · next bar inData =>
    have inPart : (data.head count).bars[i]? = some bar := (head_get inside).trans inData
    have positions := alike.position
    cases opened : first.position with
    | none =>
      cases otherOpened : second.position with
      | none =>
        simp only [otherOpened] at passed
        exact try_entry_alike locates readings inside inPart inData alike passed
      | some other =>
        rw [opened, otherOpened] at positions
        cases positions
    | some position =>
      cases otherOpened : second.position with
      | none =>
        rw [opened, otherOpened] at positions
        cases positions
      | some other =>
        rw [opened, otherOpened] at positions
        cases positions with
        | some same =>
          simp only [otherOpened] at passed
          exact try_exit_alike inPart alike same passed

/-- The passes at the first bars keep states alike. -/
theorem passes_alike (locates : pandas.Locates)
    (readings : ReadAlike pandas data count partClock clock) {items : List ℕ}
    (inside : ∀ i ∈ items, i < count) {first second final : Simulation σ τ}
    (alike : Alike pandas data count first second)
    (ended : items.foldlM (simulateBar engine pandas rounding strategy pipValue clock data) second =
      .ok final) :
    ∃ reached, items.foldlM
        (simulateBar engine pandas rounding strategy pipValue partClock (data.head count)) first =
        .ok reached ∧ Alike pandas data count reached final :=
  Loops.simulates (fun i member => simulate_bar_alike locates readings (inside i member)) alike ended

/-- Before a stop in the first bars, a run on them returns when a run on all of the data does, in an
alike state. -/
theorem simulate_before_alike (locates : pandas.Locates)
    (readings : ReadAlike pandas data count partClock clock)
    (sameWindow : minWindow (data.head count) = minWindow data) {stop : ℕ} (inside : stop ≤ count)
    {first second final : Simulation σ τ} (alike : Alike pandas data count first second)
    (ended : simulateBefore engine pandas rounding strategy pipValue clock data stop second =
      .ok final) :
    ∃ reached, simulateBefore engine pandas rounding strategy pipValue partClock (data.head count)
        stop first = .ok reached ∧ Alike pandas data count reached final := by
  rw [simulateBefore, sameWindow]
  refine passes_alike locates readings ?_ alike ended
  intro i member
  have range := List.mem_range'_1.mp member
  omega

/-- Two runs start alike. -/
theorem alike_start (memory : σ) (initialEquity : ℚ) :
    Alike pandas data count { memory, equity := some initialEquity }
      { memory, equity := some initialEquity } :=
  ⟨rfl, rfl, .none, rfl, fun _ => rfl⟩

end Prefixes

section Runs

variable (engine : BacktestEngine) (pandas : Pandas τ κ ρ) (rounding : Rounding)
  (strategy : BaseStrategy σ (Bar τ κ ρ)) (pipValue : ℚ) (clock : ℕ → τ)
  (data : HistoricalData τ κ ρ)

/-- The trades that a run has closed before a bar. -/
def closedBefore (stop : ℕ) (memory : σ) (initialEquity : ℚ) :
    Except BacktestFailure (List (Trade τ)) := do
  let reached ← simulateBefore engine pandas rounding strategy pipValue clock data stop
    { memory, equity := some initialEquity }
  pure reached.trades

/-- A run on the first bars of the data returns when a run on all of it does, where both are long
enough. The trades that it closes before its last bar are the first trades of the run on all of the
data: identical where the bars have timestamps, and identical in all but their times otherwise.

Proof: the passes at the first bars keep the states of both runs alike, and the later passes of
the longer run only add trades. -/
theorem head_run_closes_first_trades (locates : pandas.Locates) (count : ℕ) (partClock : ℕ → τ)
    (readings : ReadAlike pandas data count partClock clock) (memory : σ) (initialEquity : ℚ)
    (longEnough : validateData pandas (data.head count) = .ok ()) (trades : List (Trade τ))
    (returned : run engine pandas rounding strategy pipValue clock data memory initialEquity =
      .ok trades) :
    ∃ partTrades closed,
      run engine pandas rounding strategy pipValue partClock (data.head count) memory
        initialEquity = .ok partTrades ∧
      closedBefore engine pandas rounding strategy pipValue partClock (data.head count)
        ((data.head count).bars.length - 1) memory initialEquity = .ok closed ∧
      closed <+: partTrades ∧
      closed.map Trade.terms <+: trades.map Trade.terms ∧
      ((data.head count).Dated → closed <+: trades) := by
  obtain ⟨checked, valid, simulated⟩ := Loops.bind_eq_ok.mp returned
  obtain ⟨final, ended, finalTrades⟩ := Loops.bind_eq_ok.mp simulated
  obtain rfl : final.trades = trades := Except.ok.inj finalTrades
  have first : minWindow data = 50 := min_window_of_valid valid
  have partFirst : minWindow (data.head count) = 50 := min_window_of_valid longEnough
  obtain ⟨rows, size⟩ : ∃ rows, (data.head count).bars.length = rows := ⟨_, rfl⟩
  have enough : 100 ≤ rows := size ▸ validate_data_length longEnough
  have fits : rows ≤ data.bars.length := size ▸ head_length_le data count
  have bounded : rows ≤ count := size ▸ List.length_take_le count data.bars
  rw [size]
  -- the longer run up to the end of the part and after it, and the part before its last bar
  obtain ⟨atEnd, beforeEnd, afterEnd⟩ :=
    (simulate_before_split rows data.bars.length (by omega) fits).mp ended
  obtain ⟨partEnd, partEnded, alikeEnd⟩ := simulate_before_alike locates readings
    (partFirst.trans first.symm) bounded (alike_start memory initialEquity) beforeEnd
  obtain ⟨partLast, partBefore, lastPass⟩ :=
    (simulate_before_split (rows - 1) rows (by omega) (by omega)).mp partEnded
  have closed : partLast.trades <+: partEnd.trades := passes_trades lastPass
  have later : atEnd.trades <+: final.trades := passes_trades afterEnd
  refine ⟨partEnd.trades, partLast.trades, ?_, ?_, closed, ?_, ?_⟩
  · refine Loops.bind_eq_ok.mpr ⟨(), longEnough, Loops.bind_eq_ok.mpr ⟨partEnd, ?_, rfl⟩⟩
    rw [size]
    exact partEnded
  · exact Loops.bind_eq_ok.mpr ⟨partLast, partBefore, rfl⟩
  · have sameTerms := closed.map Trade.terms
    rw [alikeEnd.terms] at sameTerms
    exact sameTerms.trans (later.map Trade.terms)
  · intro dated
    rw [alikeEnd.dated dated] at closed
    exact closed.trans later

end Runs

section Samples

/-- Bars at a price of one, with the given labels. -/
def flatBars (labels : List (IndexLabel ℕ ℕ)) (unique : labels.Nodup) : HistoricalData ℕ ℕ Unit where
  bars := labels.map fun label => ⟨label, some 1, ()⟩
  unique := by simpa [Function.comp_def] using unique

/-- The day of a label, if it is a timestamp. -/
def dayOf : IndexLabel ℕ ℕ → Option ℕ
  | .timestamp day => some day
  | .other _ => none

/-- An index of whole days, without a column of timestamps. -/
def dailyPandas : Pandas ℕ ℕ Unit where
  getLoc index moment := index.idxOf? (.timestamp moment)
  indexDays index := do
    let days ← index.mapM dayOf
    some ((← days.max?) - (← days.min?))
  timestampDays _ := .ok none

/-- A label that occurs once is found where it stands. -/
theorem daily_pandas_locate : dailyPandas.Locates := by
  intro data i bar moment found label
  obtain ⟨inside, rfl⟩ := List.getElem?_eq_some_iff.mp found
  have inIndex : i < data.index.length := by simpa [HistoricalData.index] using inside
  have stands : data.index[i] = .timestamp moment := by simpa [HistoricalData.index] using label
  refine List.idxOf?_eq_some_iff.mpr ⟨inIndex, stands, ?_⟩
  intro j before same
  have again : data.index[j] = data.index[i] := same.trans stands.symm
  exact absurd ((List.Nodup.getElem_inj_iff data.unique).mp again) (Nat.ne_of_lt before)

/-- Numbers that are not rounded. -/
def exactly : Rounding := ⟨id, id, id⟩

/-- A strategy that goes long once. -/
def onceLong : BaseStrategy Bool (Bar ℕ ℕ Unit) where
  generateSignal entered _ _ := .ok (if entered then none else some "LONG", true)

/-- Bars of 120 days. -/
def sampleDays : HistoricalData ℕ ℕ Unit :=
  flatBars ((List.range 120).map .timestamp)
    (List.nodup_range.map fun _ _ same => IndexLabel.timestamp.inj same)

/-- Bars whose labels are 120 numbers. -/
def sampleNumbers : HistoricalData ℕ ℕ Unit :=
  flatBars ((List.range 120).map .other)
    (List.nodup_range.map fun _ _ same => IndexLabel.other.inj same)

/-- The first hundred days have timestamps. -/
theorem sample_days_dated : (sampleDays.head 100).Dated := by
  intro bar member
  obtain ⟨label, days, rfl⟩ := List.mem_map.mp (List.mem_of_mem_take member)
  obtain ⟨day, -, rfl⟩ := List.mem_map.mp days
  exact ⟨day, rfl⟩

/-- The trade of 120 days is closed on the sixtieth, and so it is in the first hundred. -/
theorem hundred_days_close_the_first_trade :
    ∃ partTrades closed,
      run {} dailyPandas exactly onceLong 10 id (sampleDays.head 100) false 10000 = .ok partTrades ∧
      closedBefore {} dailyPandas exactly onceLong 10 id (sampleDays.head 100)
        ((sampleDays.head 100).bars.length - 1) false 10000 = .ok closed ∧
      closed <+: partTrades ∧
      closed.map Trade.terms <+: [⟨(), (), some 1, some 1, "LONG", 1, some (-22), 22⟩] ∧
      ((sampleDays.head 100).Dated →
        closed <+: [⟨50, 60, some 1, some 1, "LONG", 1, some (-22), 22⟩]) :=
  head_run_closes_first_trades {} dailyPandas exactly onceLong 10 id sampleDays daily_pandas_locate
    100 id (read_alike_of_dated sample_days_dated) false 10000 (by decide +kernel)
    [⟨50, 60, some 1, some 1, "LONG", 1, some (-22), 22⟩] (by decide +kernel)

/-- Bars that are numbered are dated by the clock: the trade that a run on the first hundred bars
closes is not a trade of a later run on all of them. -/
theorem numbered_bars_trade_at_the_clock :
    validateData dailyPandas (sampleNumbers.head 100) = .ok () ∧
    run {} dailyPandas exactly onceLong 10 (1000 + ·) sampleNumbers false 10000 =
      .ok [⟨1050, 1051, some 1, some 1, "LONG", 1, some (-22), 22⟩] ∧
    closedBefore {} dailyPandas exactly onceLong 10 id (sampleNumbers.head 100)
        ((sampleNumbers.head 100).bars.length - 1) false 10000 =
      .ok [⟨50, 51, some 1, some 1, "LONG", 1, some (-22), 22⟩] ∧
    ¬ [(⟨50, 51, some 1, some 1, "LONG", 1, some (-22), 22⟩ : Trade ℕ)] <+:
      [⟨1050, 1051, some 1, some 1, "LONG", 1, some (-22), 22⟩] := by
  decide +kernel

end Samples

end BacktestEngine

end IgTradingBot
