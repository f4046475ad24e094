import IgTradingBot.Library.Ranks
import IgTradingBot.Research.ModelBacktest

/-!
# Out-of-sample signals

Training and backtest split the same frame on their own: the training counts the bars with a label, and
the backtest the bars with an average true range. A bar whose range is there but not positive has no
label, and puts the two starts apart. The bars carry their places in the frame.
-/

namespace IgTradingBot

namespace Training

variable {ρ : Type}

/-- A frame with the places of its bars. -/
def numbered (frame : List (ResearchBar ρ)) : List (ResearchBar ℕ) :=
  frame.mapIdx fun place bar => { bar with columns := place }

/-- The labelled rows whose bars have an average true range. -/
def ranged (rows : List (LabeledBar ρ)) : List (LabeledBar ρ) :=
  rows.filter fun row => row.bar.atr14.isSome

section Counts

variable {horizonBars : ℕ} {stopAtr targetAtr : ℚ} {frame : List (ResearchBar ρ)}

/-- The places increase along a numbered frame. -/
theorem numbered_ordered (frame : List (ResearchBar ρ)) :
    (numbered frame).Pairwise fun first second => first.columns < second.columns := by
  rw [List.pairwise_iff_getElem]
  intro first second firstInside secondInside before
  simpa [numbered] using before

/-- The places of a frame have nothing to do with its ranges. -/
@[simp] theorem numbered_map_atr (frame : List (ResearchBar ρ)) :
    (numbered frame).map ResearchBar.atr14 = frame.map ResearchBar.atr14 := by
  refine List.ext_getElem (by simp [numbered]) fun place _ _ => ?_
  simp [numbered]

/-- The rows with a range have the ranges of the frame that are there. -/
theorem ranged_map_atr (horizonBars : ℕ) (stopAtr targetAtr : ℚ) (frame : List (ResearchBar ρ)) :
    (ranged (addTripleBarrierLabels horizonBars stopAtr targetAtr frame)).map
        (fun row => row.bar.atr14) =
      (frame.map ResearchBar.atr14).filter Option.isSome := by
  conv_rhs => rw [← labels_map_bar horizonBars stopAtr targetAtr frame]
  rw [List.map_map, List.filter_map]
  rfl

/-- Rows with a label have a range. -/
theorem clean_eq_filter_ranged (horizonBars : ℕ) (stopAtr targetAtr : ℚ)
    (frame : List (ResearchBar ρ)) :
    clean (addTripleBarrierLabels horizonBars stopAtr targetAtr frame) =
      (ranged (addTripleBarrierLabels horizonBars stopAtr targetAtr frame)).filter
        fun row => row.target.isSome := by
  rw [clean, ranged, List.filter_filter]
  refine List.filter_congr fun row member => ?_
  obtain ⟨before, after, parts⟩ := List.append_of_mem member
  rw [target_of_split parts, label_is_some]
  cases row.bar.atr14 <;> simp [isPositiveRange]

/-- The labelled rows are those with a positive range before the final horizon. -/
theorem clean_length (horizonBars : ℕ) (stopAtr targetAtr : ℚ) (frame : List (ResearchBar ρ)) :
    (clean (addTripleBarrierLabels horizonBars stopAtr targetAtr frame)).length =
      ((frame.map ResearchBar.atr14).take (frame.length - horizonBars)).countP isPositiveRange := by
  rw [clean, ← List.countP_eq_length_filter]
  induction frame with
  | nil => simp [addTripleBarrierLabels]
  | cons bar rest inductionHypothesis =>
    rw [addTripleBarrierLabels, List.countP_cons, inductionHypothesis, label_is_some,
      List.length_cons, List.map_cons]
    by_cases enough : horizonBars ≤ rest.length
    · rw [show rest.length + 1 - horizonBars = rest.length - horizonBars + 1 by omega,
        List.take_succ_cons, List.countP_cons]
      simp [enough]
    · rw [show rest.length + 1 - horizonBars = 0 by omega,
        show rest.length - horizonBars = 0 by omega]
      simp [enough]

/-- Where the horizon lies within the frame, the rows with a label are those with a positive range. -/
theorem ranged_take_countP {count : ℕ}
    (room : count + horizonBars ≤
      (ranged (addTripleBarrierLabels horizonBars stopAtr targetAtr frame)).length) :
    ((ranged (addTripleBarrierLabels horizonBars stopAtr targetAtr frame)).take count).countP
        (fun row => row.target.isSome) =
      (((frame.map ResearchBar.atr14).filter Option.isSome).take count).countP isPositiveRange := by
  rw [← ranged_map_atr horizonBars stopAtr targetAtr, ← List.map_take, List.countP_map]
  refine List.countP_congr fun row member => ?_
  obtain ⟨place, inside, rfl⟩ := List.mem_iff_getElem.mp member
  rw [List.length_take] at inside
  rw [List.getElem_take]
  -- the rows with a range after this one are enough for its horizon
  have parts : ranged (addTripleBarrierLabels horizonBars stopAtr targetAtr frame) =
      (ranged (addTripleBarrierLabels horizonBars stopAtr targetAtr frame)).take place ++
        (ranged (addTripleBarrierLabels horizonBars stopAtr targetAtr frame))[place] ::
          (ranged (addTripleBarrierLabels horizonBars stopAtr targetAtr frame)).drop (place + 1) := by
    rw [List.getElem_cons_drop, List.take_append_drop]
  obtain ⟨first, others, split, -, rest⟩ := List.filter_eq_append_iff.mp parts
  obtain ⟨skipped, after, others, -, -, kept⟩ := List.filter_eq_cons_iff.mp rest
  rw [others, ← List.append_assoc] at split
  have enough : horizonBars ≤ (after.map LabeledBar.bar).length := by
    have fewer : (after.filter fun row => row.bar.atr14.isSome).length ≤ after.length :=
      List.length_filter_le _ _
    rw [kept, List.length_drop] at fewer
    rw [List.length_map]
    omega
  rw [target_of_split split, label_is_some]
  simp only [enough, decide_true, Bool.true_and, Function.comp_apply]

end Counts

end Training

namespace ModelBacktest

open Training

variable {ρ : Type}

/-- No bar at which the backtest may read a signal lies before the first bar of the test split. -/
def OutOfSample (config : ResearchConfig) (frame : List (ResearchBar ρ)) : Prop :=
  ∀ probabilities test, testBars config (numbered frame) probabilities = .ok test →
    ∀ state signal, hasNext config test state = true → test[state.index]? = some signal →
      ∀ first ∈ (split config (labeled config (numbered frame))).test.head?,
        first.bar.columns ≤ signal.bar.columns

/-- Counts of the ranges of a frame under which the two starts agree: of the first bars with a range, up
to the start of the backtest, more have a positive one than come before the test split. There may also
be no room for a signal, or no test split. -/
def StartsAgree (config : ResearchConfig) (ranges : List (Option ℚ)) : Prop :=
  let bars := ranges.filter Option.isSome
  let labelled := (ranges.take (ranges.length - config.model.horizonBars)).countP isPositiveRange
  let start := validationEnd config bars.length
  bars.length ≤ start + config.model.horizonBars + 1 ∨ labelled ≤ validationEnd config labelled ∨
    validationEnd config labelled < (bars.take (start + 1)).countP isPositiveRange

instance (config : ResearchConfig) (ranges : List (Option ℚ)) :
    Decidable (StartsAgree config ranges) :=
  inferInstanceAs (Decidable (_ ∨ _ ∨ _))

section Starts

variable {config : ResearchConfig} {frame : List (ResearchBar ρ)} {probabilities : List ℚ}
  {test : List (ScoredBar ℕ)}

/-- The bars of the backtest are those with a range, from its start on. -/
theorem test_bars_map_bar (isTest : testBars config (numbered frame) probabilities = .ok test) :
    test.map ScoredBar.bar =
      ((ranged (labeled config (numbered frame))).drop
        (validationEnd config (ranged (labeled config (numbered frame))).length)).map
          LabeledBar.bar := by
  have lengths : probabilities.length = (valid (numbered frame)).length := by
    by_contra different
    rw [testBars, if_neg different] at isTest
    cases isTest
  obtain ⟨other, isOther, bars⟩ := test_bars_eq_ok config lengths
  obtain rfl : test = other := Except.ok.inj (isTest.symm.trans isOther)
  have rows : (valid (numbered frame)).map Prod.fst =
      (ranged (labeled config (numbered frame))).map LabeledBar.bar := by
    rw [valid_map_fst]
    conv_lhs =>
      rw [← labels_map_bar config.model.horizonBars config.model.stopAtr config.model.targetAtr
        (numbered frame)]
    rw [List.filter_map]
    rfl
  have count : (valid (numbered frame)).length =
      (ranged (labeled config (numbered frame))).length := by
    simpa using congrArg List.length rows
  have first := congrArg (List.map Prod.fst) bars
  rw [List.map_map, List.map_drop, rows, count, ← List.map_drop] at first
  exact first

/-- The rows with a range are in the order of their places. -/
theorem ranged_ordered (config : ResearchConfig) (frame : List (ResearchBar ρ)) :
    (ranged (labeled config (numbered frame))).Pairwise fun first second =>
      first.bar.columns < second.bar.columns := by
  have ordered := numbered_ordered frame
  rw [← labels_map_bar config.model.horizonBars config.model.stopAtr config.model.targetAtr
    (numbered frame), List.pairwise_map] at ordered
  exact ordered.filter _

/-- The first row of the test split against the row of a signal. -/
theorem test_row_le_iff {first other : LabeledBar ℕ} {place : ℕ}
    (isFirst : (split config (labeled config (numbered frame))).test.head? = some first)
    (isOther : (ranged (labeled config (numbered frame)))[place]? = some other) :
    first.bar.columns ≤ other.bar.columns ↔
      validationEnd config (clean (labeled config (numbered frame))).length <
        ((ranged (labeled config (numbered frame))).take (place + 1)).countP
          fun row => row.target.isSome := by
  refine Ranks.key_le_iff_lt_countP (ranged_ordered config frame) ?_ isOther
  rw [split, List.head?_drop] at isFirst
  rw [labeled, ← clean_eq_filter_ranged]
  exact isFirst

/-- A signal is read from a row behind the start of the backtest, which has room up to the horizon. -/
theorem signal_row (isTest : testBars config (numbered frame) probabilities = .ok test)
    {state : ModelSimulation} {signal : ScoredBar ℕ} (next : hasNext config test state = true)
    (isSignal : test[state.index]? = some signal) :
    validationEnd config (ranged (labeled config (numbered frame))).length + state.index +
        config.model.horizonBars + 1 < (ranged (labeled config (numbered frame))).length ∧
      ∃ row, (ranged (labeled config (numbered frame)))[
          validationEnd config (ranged (labeled config (numbered frame))).length + state.index]? =
        some row ∧ row.bar = signal.bar := by
  have bars := test_bars_map_bar isTest
  have lengths := congrArg List.length bars
  rw [List.length_map, List.length_map, List.length_drop] at lengths
  have bound := of_decide_eq_true next
  refine ⟨by omega, ?_⟩
  have same := congrArg (·[state.index]?) bars
  simp only [List.getElem?_map, isSignal, List.getElem?_drop] at same
  obtain ⟨row, isRow, equal⟩ := Option.map_eq_some_iff.mp same.symm
  exact ⟨row, isRow, equal⟩

end Starts

section Agreement

variable (config : ResearchConfig) (frame : List (ResearchBar ρ))

/-- The rows with a range are as many as the ranges. -/
theorem ranged_length : (ranged (labeled config (numbered frame))).length =
    ((frame.map ResearchBar.atr14).filter Option.isSome).length := by
  rw [← numbered_map_atr frame, ← ranged_map_atr config.model.horizonBars config.model.stopAtr
    config.model.targetAtr, List.length_map]
  rfl

/-- The labelled rows are as many as the positive ranges before the final horizon. -/
theorem labelled_length : (clean (labeled config (numbered frame))).length =
    ((frame.map ResearchBar.atr14).take
      ((frame.map ResearchBar.atr14).length - config.model.horizonBars)).countP isPositiveRange := by
  rw [labeled, clean_length, numbered_map_atr, ← numbered_map_atr frame, List.length_map]

/-- Where a signal has room, the labelled rows up to the start of the backtest are those with a positive
range. -/
theorem labelled_before_start
    (room : validationEnd config (ranged (labeled config (numbered frame))).length +
      config.model.horizonBars + 1 < (ranged (labeled config (numbered frame))).length) :
    ((ranged (labeled config (numbered frame))).take
      (validationEnd config (ranged (labeled config (numbered frame))).length + 1)).countP
        (fun row => row.target.isSome) =
    (((frame.map ResearchBar.atr14).filter Option.isSome).take
      (validationEnd config (ranged (labeled config (numbered frame))).length + 1)).countP
        isPositiveRange := by
  rw [← numbered_map_atr frame]
  refine ranged_take_countP ?_
  rw [labeled] at room ⊢
  omega

variable {config frame}

/-- Where the two starts do not agree, the first signal lies before the test split. -/
theorem OutOfSample.agree (outOfSample : OutOfSample config frame) :
    StartsAgree config (frame.map ResearchBar.atr14) := by
  simp only [StartsAgree]
  rw [← labelled_length config frame, ← ranged_length config frame]
  by_contra apart
  obtain ⟨room, inTest, early⟩ : _ ∧ _ ∧ _ := by simpa only [not_or, not_le] using apart
  -- the first bar of the backtest may be read as a signal
  have lengths : (List.replicate (valid (numbered frame)).length (0 : ℚ)).length =
      (valid (numbered frame)).length := List.length_replicate
  obtain ⟨test, isTest, -⟩ := test_bars_eq_ok config lengths
  have count := congrArg List.length (test_bars_map_bar isTest)
  rw [List.length_map, List.length_map, List.length_drop] at count
  have inside : 0 < test.length := by omega
  have next : hasNext config test (initial config test[0]) = true := by
    refine decide_eq_true ?_
    simp only [initial]
    omega
  have isSignal : test[0]? = some test[0] := List.getElem?_eq_getElem inside
  obtain ⟨-, row, isRow, same⟩ := signal_row isTest next isSignal
  have isFirst : (split config (labeled config (numbered frame))).test.head? =
      some (clean (labeled config (numbered frame)))[
        validationEnd config (clean (labeled config (numbered frame))).length] := by
    rw [split, List.head?_drop]
    exact List.getElem?_eq_getElem inTest
  have before := outOfSample _ test isTest _ _ next isSignal _ isFirst
  rw [← same, test_row_le_iff isFirst isRow] at before
  rw [← labelled_before_start config frame room] at early
  exact early before

/-- Where the two starts agree, no signal lies before the test split. -/
theorem StartsAgree.out_of_sample (agree : StartsAgree config (frame.map ResearchBar.atr14)) :
    OutOfSample config frame := by
  simp only [StartsAgree] at agree
  rw [← labelled_length config frame, ← ranged_length config frame] at agree
  intro probabilities test isTest state signal next isSignal first isFirst
  obtain ⟨room, row, isRow, same⟩ := signal_row isTest next isSignal
  have inTest : validationEnd config (clean (labeled config (numbered frame))).length <
      (clean (labeled config (numbered frame))).length := by
    rw [split, List.head?_drop] at isFirst
    exact (List.getElem?_eq_some_iff.mp isFirst).1
  obtain small | short | early := agree
  · omega
  · omega
  · rw [← same, test_row_le_iff isFirst isRow]
    rw [← labelled_before_start config frame (by omega)] at early
    have further : ((ranged (labeled config (numbered frame))).take
        (validationEnd config (ranged (labeled config (numbered frame))).length + 1)).Sublist
        ((ranged (labeled config (numbered frame))).take
          (validationEnd config (ranged (labeled config (numbered frame))).length +
            state.index + 1)) :=
      (List.take_prefix_take_left (by omega)).sublist
    exact early.trans_le further.countP_le

end Agreement

section Samples

/-- Splits by thirds, and positions of one bar. -/
def thirdsConfig : ResearchConfig where
  model := { horizonBars := 1, trainFraction := 1 / 3, validationFraction := 1 / 3 }

/-- Bars that do not move for a time, and then do. -/
def quietOpening : List (ResearchBar Unit) :=
  (List.range 321).map fun place =>
    { timestamp := 300 * place
      openPrice := 100
      high := if place < 10 then 100 else 101
      low := 100
      close := 100
      atr14 := some (if place < 10 then 0 else 1)
      columns := () }

end Samples

end ModelBacktest

end IgTradingBot
