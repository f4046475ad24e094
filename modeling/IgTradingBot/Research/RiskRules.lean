import IgTradingBot.Research.ModelBacktest
import Mathlib.Algebra.Order.Floor.Ring
import Mathlib.Data.List.Pairwise
import Mathlib.Tactic.Linarith

/-!
# Risk rules of the model backtest

What the trades of a simulation obey, whatever the prices and the probabilities are. The counters of
the loop are keyed by the day of the signal, so that they are read against the trades of that day; a
trade may be left on a later day. The bars are in order, so that no day comes back.
-/

namespace IgTradingBot

namespace ModelBacktest

variable {ρ : Type}

/-- The trades of a day. -/
def tradesOn (day : ℤ) (trades : List ResearchTrade) : List ResearchTrade :=
  trades.filter fun trade => trade.day = day

/-- The profit that was booked for a day. -/
def bookedProfit (day : ℤ) (trades : List ResearchTrade) : ℚ :=
  ((tradesOn day trades).map ResearchTrade.pnl).sum

/-- The losing trades of a day since its last one that did not lose. -/
def lossesInARow (day : ℤ) (trades : List ResearchTrade) : ℕ :=
  ((tradesOn day trades).reverse.takeWhile fun trade => trade.pnl < 0).length

/-- The places of a trade: entered behind its signal, left at its entry or later, all among the bars,
and counted on the day of the signal. -/
structure InRange (test : List (ScoredBar ρ)) (trade : ResearchTrade) : Prop where
  entered : trade.entryIndex = trade.signalIndex + 1
  left : trade.entryIndex ≤ trade.exitIndex
  inside : trade.exitIndex < test.length
  day : ∃ row, test[trade.signalIndex]? = some row ∧ trade.day = dayOf row.bar

/-- What a trade was sized with: its stop lies at its distance, which may lose the risked part of the
equity at most. -/
structure Sized (config : ResearchConfig) (trade : ResearchTrade) : Prop where
  distance : trade.stopLoss = trade.entryPrice - trade.direction.sign * trade.stopDistance
  risk : trade.units * trade.stopDistance ≤ trade.equityBefore * config.risk.riskPerTrade

/-- A signal that the limits of its day allow after the trades before it. -/
structure Allowed (config : ResearchConfig) (before : List ResearchTrade) (trade : ResearchTrade) :
    Prop where
  profit : -config.risk.initialEquity * config.risk.maxDailyLoss < bookedProfit trade.day before
  losses : (lossesInARow trade.day before : ℤ) < config.risk.maxConsecutiveLosses
  equity : trade.equityBefore = config.risk.initialEquity + (before.map ResearchTrade.pnl).sum

/-- The risk rules of a simulation. -/
structure ObeysRules (config : ResearchConfig) (test : List (ScoredBar ρ))
    (trades : List ResearchTrade) : Prop where
  inRange : ∀ trade ∈ trades, InRange test trade
  apart : trades.Pairwise fun earlier later => earlier.exitIndex < later.entryIndex
  daily : ∀ day, ((tradesOn day trades).length : ℤ) ≤ max 0 config.risk.maxTradesPerDay
  allowed : ∀ before trade after, trades = before ++ trade :: after → Allowed config before trade
  sized : ∀ trade ∈ trades, Sized config trade

/-- Bars on which the simulator can trade: their ranges are positive, entries cost less than the
price, and the bars are in order. -/
structure Tradable (config : ResearchConfig) (test : List (ScoredBar ρ)) : Prop where
  ranges : ∀ row ∈ test, 0 < row.atr14
  costs : ∀ row ∈ test, |fillCost config row.bar| < row.bar.openPrice
  ordered : test.Pairwise fun earlier later => earlier.bar.timestamp ≤ later.bar.timestamp

/-- What the loop keeps: the rules, and what its counters say of the trades. -/
structure Counted (config : ResearchConfig) (test : List (ScoredBar ρ)) (state : ModelSimulation) :
    Prop where
  obeys : ObeysRules config test state.trades
  equity : state.equity = config.risk.initialEquity + (state.trades.map ResearchTrade.pnl).sum
  profit : ∀ day, (state.dailyPnl.lookup day).getD 0 = bookedProfit day state.trades
  count : ∀ day, (state.dailyTrades.lookup day).getD 0 = (tradesOn day state.trades).length
  behind : ∀ trade ∈ state.trades, trade.exitIndex < state.index
  losses : ∀ day, state.lossStreakDay = some day →
    state.consecutiveLosses = lossesInARow day state.trades
  past : ∀ trade ∈ state.trades, ∃ day, state.lossStreakDay = some day ∧ trade.day ≤ day
  reached : ∀ day, state.lossStreakDay = some day →
    ∃ place row, place ≤ state.index ∧ test[place]? = some row ∧ day = dayOf row.bar

section Accesses

variable {config : ResearchConfig} {test : List (ScoredBar ρ)}

/-- A bar is there at every place before the end. -/
theorem bar_at_eq_ok {index : ℕ} (inside : index < test.length) :
    barAt test index = .ok test[index] := by
  simp [barAt, List.getElem?_eq_getElem inside]

/-- A quotient by a number other than zero. -/
theorem divide_eq_ok {dividend divisor : ℚ} (nonzero : divisor ≠ 0) :
    divide dividend divisor = .ok (dividend / divisor) := if_neg nonzero

/-- The search for an exit returns, and finds one of the places it looks at. -/
theorem find_exit_returns (direction : ModelDirection) (stop target : ℚ) {cursors : List ℕ}
    (inside : ∀ cursor ∈ cursors, cursor < test.length) :
    ∃ found, findExit test direction stop target cursors = .ok found ∧
      ∀ exit ∈ found, exit.2.1 ∈ cursors := by
  induction cursors with
  | nil => exact ⟨none, rfl, by simp⟩
  | cons cursor rest inductionHypothesis =>
    have here : cursor < test.length := inside cursor List.mem_cons_self
    obtain ⟨found, returned, among⟩ :=
      inductionHypothesis fun later member => inside later (List.mem_cons_of_mem cursor member)
    have first : findExit test direction stop target (cursor :: rest) =
        if stopHit direction stop test[cursor].bar then .ok (some (stop, cursor, .stop))
        else if targetHit direction target test[cursor].bar then .ok (some (target, cursor, .target))
        else findExit test direction stop target rest := by
      simp only [findExit, bar_at_eq_ok here]
      rfl
    rw [first]
    split_ifs
    · exact ⟨_, rfl, by simp⟩
    · exact ⟨_, rfl, by simp⟩
    · exact ⟨found, returned, fun exit isFound => List.mem_cons_of_mem cursor (among exit isFound)⟩

/-- The days of bars in order do not go back. -/
theorem Tradable.day_le (tradable : Tradable config test) {first second : ℕ} {row other : ScoredBar ρ}
    (before : first ≤ second) (isRow : test[first]? = some row) (isOther : test[second]? = some other) :
    dayOf row.bar ≤ dayOf other.bar := by
  obtain ⟨firstInside, rfl⟩ := List.getElem?_eq_some_iff.mp isRow
  obtain ⟨secondInside, rfl⟩ := List.getElem?_eq_some_iff.mp isOther
  have ordered : test[first].bar.timestamp ≤ test[second].bar.timestamp := by
    obtain rfl | earlier := before.eq_or_lt
    · exact le_refl _
    · exact List.pairwise_iff_getElem.mp tradable.ordered first second firstInside secondInside earlier
  exact Int.floor_le_floor (div_le_div_of_nonneg_right ordered (by norm_num))

/-- An entry has a price. -/
theorem Tradable.entry_pos (tradable : Tradable config test) (direction : ModelDirection)
    {row : ScoredBar ρ} (member : row ∈ test) :
    0 < row.bar.openPrice + direction.sign * fillCost config row.bar := by
  have bounds := abs_lt.mp (tradable.costs row member)
  cases direction with
  | long =>
    simp only [ModelDirection.sign]
    linarith only [bounds.1]
  | short =>
    simp only [ModelDirection.sign]
    linarith only [bounds.2]

/-- The search up to a horizon that has room ends in range, at a barrier or at the horizon. -/
theorem exit_in_range (direction : ModelDirection) (stop target : ℚ) {entry last : ℕ}
    (room : last < test.length) (ordered : entry ≤ last) :
    ∃ found, findExit test direction stop target
        (List.range' entry (min test.length (last + 1) - entry)) = .ok found ∧
      ∀ level : ℚ, entry ≤ (found.getD (level, last, .horizon)).2.1 ∧
        (found.getD (level, last, .horizon)).2.1 < test.length := by
  have bounds : ∀ cursor ∈ List.range' entry (min test.length (last + 1) - entry),
      entry ≤ cursor ∧ cursor < test.length := by
    intro cursor member
    have places := List.mem_range'_1.mp member
    exact ⟨places.1, by omega⟩
  obtain ⟨found, searched, among⟩ := find_exit_returns direction stop target
    fun cursor member => (bounds cursor member).2
  refine ⟨found, searched, fun level => ?_⟩
  cases found with
  | none => exact ⟨ordered, room⟩
  | some exit => exact bounds exit.2.1 (among exit rfl)

/-- A signal that has room up to the horizon leads to a trade. -/
theorem simulate_trade_returns (tradable : Tradable config test) (stopAtr : 0 < config.model.stopAtr)
    {state : ModelSimulation} {row : ScoredBar ρ} (isRow : test[state.index]? = some row)
    (room : state.index + 1 + config.model.horizonBars < test.length) (direction : ModelDirection) :
    ∃ trade, simulateTrade config test state row direction = .ok trade ∧
      trade.signalIndex = state.index ∧ InRange test trade ∧ Sized config trade ∧
      trade.day = dayOf row.bar ∧ trade.equityBefore = state.equity ∧
      trade.equity = state.equity + trade.pnl := by
  have entered : state.index + 1 < test.length := by omega
  have rowMember : row ∈ test := List.mem_of_getElem? isRow
  have distance : 0 < row.atr14 * config.model.stopAtr :=
    mul_pos (tradable.ranges row rowMember) stopAtr
  have entry := tradable.entry_pos direction (List.getElem_mem entered)
  have lastInside : state.index + 1 + config.model.horizonBars < test.length := room
  obtain ⟨found, searched, places⟩ := exit_in_range direction
    (test[state.index + 1].bar.openPrice +
        direction.sign * fillCost config test[state.index + 1].bar -
          direction.sign * (row.atr14 * config.model.stopAtr))
    (test[state.index + 1].bar.openPrice +
        direction.sign * fillCost config test[state.index + 1].bar +
          direction.sign * (row.atr14 * config.model.targetAtr)) lastInside
    (Nat.le_add_right _ _)
  have placed := places test[state.index + 1 + config.model.horizonBars].bar.close
  simp only [simulateTrade, bar_at_eq_ok entered, divide_eq_ok distance.ne', divide_eq_ok entry.ne',
    bar_at_eq_ok lastInside, bind, Except.bind, searched]
  simp only [bar_at_eq_ok placed.2]
  refine ⟨_, rfl, rfl, ⟨rfl, placed.1, placed.2, row, isRow, rfl⟩, ⟨rfl, ?_⟩, rfl, rfl, rfl⟩
  calc min (state.equity * config.risk.riskPerTrade / (row.atr14 * config.model.stopAtr)) _ *
        (row.atr14 * config.model.stopAtr)
      ≤ state.equity * config.risk.riskPerTrade / (row.atr14 * config.model.stopAtr) *
        (row.atr14 * config.model.stopAtr) :=
        mul_le_mul_of_nonneg_right (min_le_left _ _) distance.le
    _ = state.equity * config.risk.riskPerTrade := div_mul_cancel₀ _ distance.ne'

end Accesses

section Counters

variable {trades : List ResearchTrade} {trade : ResearchTrade} {day : ℤ}

/-- A trade joins those of its day. -/
theorem trades_on_concat : tradesOn day (trades ++ [trade]) =
    if trade.day = day then tradesOn day trades ++ [trade] else tradesOn day trades := by
  rw [tradesOn, List.filter_append, List.filter_singleton]
  split_ifs with same
  · simp [tradesOn, same]
  · simp [tradesOn, same]

/-- The profit of a trade is booked for its day. -/
theorem booked_profit_concat : bookedProfit day (trades ++ [trade]) =
    if trade.day = day then bookedProfit day trades + trade.pnl else bookedProfit day trades := by
  rw [bookedProfit, trades_on_concat]
  split_ifs
  · simp [bookedProfit]
  · rfl

/-- A losing trade of the day goes on with the losses in a row, and another one ends them. -/
theorem losses_in_a_row_concat (same : trade.day = day) : lossesInARow day (trades ++ [trade]) =
    if trade.pnl < 0 then lossesInARow day trades + 1 else 0 := by
  rw [lossesInARow, trades_on_concat, if_pos same, List.reverse_append, List.reverse_singleton,
    List.singleton_append, List.takeWhile_cons]
  split_ifs with lost lost' lost'
  · rfl
  · exact absurd (of_decide_eq_true lost) lost'
  · exact absurd (decide_eq_true lost') lost
  · rfl

/-- A day without trades has no losses in a row. -/
theorem losses_in_a_row_eq_zero (none : ∀ trade ∈ trades, trade.day ≠ day) :
    lossesInARow day trades = 0 := by
  have nothing : tradesOn day trades = [] :=
    List.filter_eq_nil_iff.mpr fun trade member => by simp [none trade member]
  rw [lossesInARow, nothing]
  rfl

end Counters

section Passes

variable {config : ResearchConfig} {test : List (ScoredBar ρ)} {state : ModelSimulation}
  {row : ScoredBar ρ}

/-- A day that starts has had no trades, as the days do not go back. -/
theorem Counted.start_day (counted : Counted config test state) (tradable : Tradable config test)
    (isRow : test[state.index]? = some row) :
    Counted config test (startDay state (dayOf row.bar)) ∧
      (startDay state (dayOf row.bar)).lossStreakDay = some (dayOf row.bar) := by
  unfold startDay
  split_ifs with same
  · exact ⟨counted, same⟩
  · have later : ∀ trade ∈ state.trades, trade.day < dayOf row.bar := by
      intro trade member
      obtain ⟨day, isDay, before⟩ := counted.past trade member
      obtain ⟨place, other, earlier, isOther, rfl⟩ := counted.reached day isDay
      have ordered := tradable.day_le earlier isOther isRow
      refine (before.trans ordered).lt_of_ne fun equal => same ?_
      rw [isDay, le_antisymm ordered (equal ▸ before)]
    refine ⟨⟨counted.obeys, counted.equity, counted.profit, counted.count, counted.behind, ?_, ?_, ?_⟩,
      rfl⟩
    · rintro day ⟨⟩
      exact (losses_in_a_row_eq_zero fun trade member => (later trade member).ne).symm
    · exact fun trade member => ⟨_, rfl, (later trade member).le⟩
    · rintro day ⟨⟩
      exact ⟨state.index, row, le_refl _, isRow, rfl⟩

/-- A bar without a signal is passed over. -/
theorem Counted.skip (counted : Counted config test state) :
    Counted config test { state with index := state.index + 1 } := by
  refine ⟨counted.obeys, counted.equity, counted.profit, counted.count, ?_, counted.losses,
    counted.past, ?_⟩
  · exact fun trade member => (counted.behind trade member).trans (Nat.lt_succ_self _)
  · intro day isDay
    obtain ⟨place, row, before, isRow, same⟩ := counted.reached day isDay
    exact ⟨place, row, before.trans (Nat.le_succ _), isRow, same⟩

/-- The limits of an open day, read against its trades. -/
theorem Counted.day_is_open (counted : Counted config test state)
    (isDay : state.lossStreakDay = some (dayOf row.bar))
    (isOpen : dayIsClosed config state (dayOf row.bar) = false) :
    -config.risk.initialEquity * config.risk.maxDailyLoss <
        bookedProfit (dayOf row.bar) state.trades ∧
      ((tradesOn (dayOf row.bar) state.trades).length : ℤ) < config.risk.maxTradesPerDay ∧
      (lossesInARow (dayOf row.bar) state.trades : ℤ) < config.risk.maxConsecutiveLosses := by
  simp only [dayIsClosed, Bool.or_eq_false_iff, decide_eq_false_iff_not, not_le, counted.profit,
    counted.count, counted.losses _ isDay] at isOpen
  exact ⟨isOpen.1.1, isOpen.1.2, isOpen.2⟩

/-- A further trade obeys the rules when it lies behind the others and its day was open. -/
theorem ObeysRules.concat {trades : List ResearchTrade} (obeys : ObeysRules config test trades)
    {trade : ResearchTrade} (inRange : InRange test trade)
    (apart : ∀ earlier ∈ trades, earlier.exitIndex < trade.entryIndex)
    (room : ((tradesOn trade.day trades).length : ℤ) < config.risk.maxTradesPerDay)
    (allowed : Allowed config trades trade) (sized : Sized config trade) :
    ObeysRules config test (trades ++ [trade]) := by
  refine ⟨?_, ?_, ?_, ?_, ?_⟩
  · intro other member
    obtain earlier | same := List.mem_append.mp member
    · exact obeys.inRange other earlier
    · exact List.mem_singleton.mp same ▸ inRange
  · refine List.pairwise_append.mpr ⟨obeys.apart, List.pairwise_singleton _ _, ?_⟩
    intro earlier member later isLast
    exact List.mem_singleton.mp isLast ▸ apart earlier member
  · intro day
    rw [trades_on_concat]
    split_ifs with same
    · subst same
      rw [List.length_append, List.length_singleton]
      omega
    · exact obeys.daily day
  · intro before other after equal
    cases after using List.reverseRecOn with
    | nil =>
      obtain ⟨rfl, rest⟩ := List.append_inj' equal rfl
      obtain rfl := (List.cons.inj rest).1
      exact allowed
    | append_singleton middle last =>
      rw [← List.cons_append, ← List.append_assoc] at equal
      exact obeys.allowed before other middle (List.append_inj' equal rfl).1
  · intro other member
    obtain earlier | same := List.mem_append.mp member
    · exact obeys.sized other earlier
    · exact List.mem_singleton.mp same ▸ sized

/-- A trade that is booked on an open day keeps the counters. -/
theorem Counted.book (counted : Counted config test state)
    (isDay : state.lossStreakDay = some (dayOf row.bar))
    (isOpen : dayIsClosed config state (dayOf row.bar) = false) {trade : ResearchTrade}
    (signalled : trade.signalIndex = state.index) (inRange : InRange test trade)
    (sized : Sized config trade) (day : trade.day = dayOf row.bar)
    (before : trade.equityBefore = state.equity) (after : trade.equity = state.equity + trade.pnl) :
    Counted config test (bookTrade state trade) := by
  obtain ⟨profit, room, losses⟩ := counted.day_is_open isDay isOpen
  rw [← day] at profit room losses isDay
  have entered : state.index < trade.entryIndex := by
    rw [inRange.entered, signalled]
    exact Nat.lt_succ_self _
  have exited : state.index < trade.exitIndex := entered.trans_le inRange.left
  refine ⟨?_, ?_, ?_, ?_, ?_, ?_, ?_, ?_⟩
  · exact counted.obeys.concat inRange
      (fun earlier member => (counted.behind earlier member).trans entered) room
      ⟨profit, losses, before.trans counted.equity⟩ sized
  · simp only [bookTrade, after, counted.equity, List.map_append, List.sum_append, List.map_singleton,
      List.sum_singleton, add_assoc]
  · intro other
    simp only [bookTrade, booked_profit_concat]
    split_ifs with same
    · rw [← same, AList.lookup_insert, Option.getD_some, counted.profit]
    · rw [AList.lookup_insert_ne (Ne.symm same), counted.profit]
  · intro other
    simp only [bookTrade, trades_on_concat]
    split_ifs with same
    · rw [← same, AList.lookup_insert, Option.getD_some, counted.count, List.length_append,
        List.length_singleton]
    · rw [AList.lookup_insert_ne (Ne.symm same), counted.count]
  · intro other member
    obtain earlier | same := List.mem_append.mp member
    · exact (counted.behind other earlier).trans (exited.trans (Nat.lt_succ_self _))
    · exact List.mem_singleton.mp same ▸ Nat.lt_succ_self _
  · intro other isOther
    obtain rfl : trade.day = other := Option.some.inj (isDay.symm.trans isOther)
    simp only [bookTrade, losses_in_a_row_concat rfl, counted.losses _ isDay]
  · intro other member
    obtain earlier | same := List.mem_append.mp member
    · exact counted.past other earlier
    · exact ⟨trade.day, isDay, List.mem_singleton.mp same ▸ le_refl _⟩
  · intro other isOther
    obtain ⟨place, earlier, reached, rest⟩ := counted.reached other isOther
    exact ⟨place, earlier, reached.trans (exited.le.trans (Nat.le_succ _)), rest⟩

/-- Every pass of the loop returns, keeps the counters, and goes on to a later bar. -/
theorem pass_returns (tradable : Tradable config test) (stopAtr : 0 < config.model.stopAtr)
    (counted : Counted config test state) (next : hasNext config test state = true) :
    ∃ after, pass config test state = .ok after ∧ Counted config test after ∧
      state.index < after.index ∧ after.index ≤ test.length := by
  have room : state.index + 1 + config.model.horizonBars < test.length := by
    have bound := of_decide_eq_true next
    omega
  have inside : state.index < test.length := by omega
  have isRow : test[state.index]? = some test[state.index] := List.getElem?_eq_getElem inside
  obtain ⟨started, isDay⟩ := counted.start_day tradable isRow
  have same : (startDay state (dayOf test[state.index].bar)).index = state.index := by
    unfold startDay
    split_ifs <;> rfl
  have skipped : Counted config test
      { startDay state (dayOf test[state.index].bar) with
        index := (startDay state (dayOf test[state.index].bar)).index + 1 } := started.skip
  simp only [pass, bar_at_eq_ok inside, bind, Except.bind]
  cases isOpen : dayIsClosed config (startDay state (dayOf test[state.index].bar))
      (dayOf test[state.index].bar) with
  | true =>
    rw [if_pos rfl]
    exact ⟨_, rfl, skipped, by simp only [same]; omega, by simp only [same]; omega⟩
  | false =>
    rw [if_neg Bool.false_ne_true]
    cases signalDirection config test[state.index].probabilityUp with
    | none => exact ⟨_, rfl, skipped, by simp only [same]; omega, by simp only [same]; omega⟩
    | some direction =>
      have startedRow : test[(startDay state (dayOf test[state.index].bar)).index]? =
          some test[state.index] := by
        rw [same]
        exact isRow
      have startedRoom : (startDay state (dayOf test[state.index].bar)).index + 1 +
          config.model.horizonBars < test.length := by
        rw [same]
        exact room
      obtain ⟨trade, simulated, signalled, inRange, sized, day, before, after⟩ :=
        simulate_trade_returns tradable stopAtr startedRow startedRoom direction
      simp only [simulated]
      refine ⟨_, rfl, started.book isDay isOpen signalled inRange sized day before after, ?_, ?_⟩
      · have entered := inRange.entered
        have left := inRange.left
        simp only [bookTrade]
        omega
      · exact inRange.inside

end Passes

/-- Frames that the simulator is given: ranges are positive, a fill costs less than the price, and the
bars are in order. -/
structure TradableFrame (config : ResearchConfig) (frame : List (ResearchBar ρ)) : Prop where
  ranges : ∀ bar ∈ frame, ∀ atr ∈ bar.atr14, 0 < atr
  costs : ∀ bar ∈ frame, |fillCost config bar| < bar.openPrice
  ordered : frame.Pairwise fun earlier later => earlier.timestamp ≤ later.timestamp

section Frames

variable {config : ResearchConfig} {frame : List (ResearchBar ρ)}

/-- The simulator can trade on the bars of such a frame. -/
theorem TradableFrame.tradable (tradable : TradableFrame config frame) {test : List (ScoredBar ρ)}
    (bars : test.map (fun row => (row.bar, row.atr14)) =
      (valid frame).drop (Training.validationEnd config (valid frame).length)) :
    Tradable config test := by
  have known : ∀ row ∈ test, row.bar ∈ frame ∧ row.bar.atr14 = some row.atr14 := by
    intro row member
    have among : (row.bar, row.atr14) ∈ test.map fun row => (row.bar, row.atr14) :=
      List.mem_map_of_mem member
    rw [bars] at among
    exact mem_valid (List.mem_of_mem_drop among)
  refine ⟨fun row member => ?_, fun row member => tradable.costs _ (known row member).1, ?_⟩
  · exact tradable.ranges _ (known row member).1 _ (known row member).2
  · have sublist : (test.map ScoredBar.bar).Sublist frame := by
      have first : test.map ScoredBar.bar =
          ((valid frame).drop (Training.validationEnd config (valid frame).length)).map Prod.fst := by
        rw [← bars, List.map_map]
        rfl
      rw [first, List.map_drop, valid_map_fst]
      exact (List.drop_sublist _ _).trans List.filter_sublist
    have ordered := tradable.ordered.sublist sublist
    rw [List.pairwise_map] at ordered
    exact ordered

end Frames

/-- For every configuration, every frame on which the simulator can trade and whose out-of-sample part
is not empty, and all probabilities: the simulation returns when no signal has room up to the horizon
any more, every access to a bar is in range, and its trades obey the risk rules. -/
theorem risk_rules_hold (config : ResearchConfig) (stopAtr : 0 < config.model.stopAtr)
    (frame : List (ResearchBar ρ)) (tradable : TradableFrame config frame)
    (probabilities : List ℚ) (lengths : probabilities.length = (valid frame).length)
    (nonempty : Training.validationEnd config (valid frame).length < (valid frame).length) :
    ∃ test final, testBars config frame probabilities = .ok test ∧
      runModelBacktest config frame probabilities = .ok final ∧
      hasNext config test final = false ∧ ObeysRules config test final.trades := by
  obtain ⟨test, isTest, bars⟩ := test_bars_eq_ok config lengths
  have lengthOfTest := congrArg List.length bars
  rw [List.length_map, List.length_drop] at lengthOfTest
  have inside : 0 < test.length := by omega
  have onTest := tradable.tradable bars
  have start : Counted config test (initial config test[0]) := by
    refine ⟨⟨by simp [initial], by simp [initial], ?_, by simp [initial], by simp [initial]⟩,
      by simp [initial], fun day => rfl, fun day => rfl, by simp [initial], ?_, by simp [initial], ?_⟩
    · exact fun day => le_max_left 0 _
    · rintro day ⟨⟩
    · rintro day ⟨⟩
  obtain ⟨final, returned, ended, counted⟩ := Loops.run_while_returns
    (fun state : ModelSimulation => test.length - state.index)
    (fun state counted next => by
      obtain ⟨after, passed, kept, later, bounded⟩ := pass_returns onTest stopAtr counted next
      exact ⟨after, passed, kept, by omega⟩)
    start (Nat.lt_succ_of_le (Nat.sub_le _ _))
  refine ⟨test, final, isTest, ?_, ended, counted.obeys⟩
  simp only [runModelBacktest, isTest, bar_at_eq_ok inside, bind, Except.bind]
  exact returned

section Samples

/-- Half of the bars are out of sample, and positions are held for one bar. -/
def sampleConfig : ResearchConfig where
  model := { horizonBars := 1, trainFraction := 1 / 4, validationFraction := 1 / 4 }

/-- A rising bar of a number of minutes after the epoch. -/
def risingBar (minute : ℕ) : ResearchBar Unit where
  timestamp := minute * 60
  openPrice := 100 + minute
  high := 102 + minute
  low := 99 + minute
  close := 101 + minute
  atr14 := some 1
  columns := ()

/-- Twelve rising bars. -/
def risingFrame : List (ResearchBar Unit) := (List.range 12).map risingBar

/-- The simulation of a model that always expects a rise obeys the risk rules. -/
theorem rising_frame_obeys_rules :
    ∃ test final, testBars sampleConfig risingFrame (List.replicate 12 (9 / 10)) = .ok test ∧
      runModelBacktest sampleConfig risingFrame (List.replicate 12 (9 / 10)) = .ok final ∧
      hasNext sampleConfig test final = false ∧ ObeysRules sampleConfig test final.trades := by
  refine risk_rules_hold sampleConfig (by decide +kernel) risingFrame ⟨?_, ?_, ?_⟩ _ rfl
    (by decide +kernel)
  · decide +kernel
  · decide +kernel
  · decide +kernel

/-- It makes two trades. -/
example : (runModelBacktest sampleConfig risingFrame (List.replicate 12 (9 / 10))).map
    (fun final => final.trades.length) = .ok 2 := by
  decide +kernel

end Samples

end ModelBacktest

end IgTradingBot
