import IgTradingBot.Library.Ranks
import IgTradingBot.Research.Training

/-!
# Leakage of labels

Two frames that agree up to the last bar of the training split, and what their training splits have in
common. A label looks ahead up to its horizon; near the end of the split it may look at bars behind it.
A label is decided within the split when its horizon ends there, or when a barrier is hit there.
-/

namespace IgTradingBot

namespace Training

variable {ρ : Type}

/-- Which bars have a label. -/
def availability (config : ResearchConfig) (frame : List (ResearchBar ρ)) : List Bool :=
  (labeled config frame).map fun row => row.target.isSome

/-- The bars up to the last row of the training split. -/
def trainingBars (config : ResearchConfig) (frame : List (ResearchBar ρ)) : ℕ :=
  Ranks.upTo (fun row : LabeledBar ρ => row.target.isSome)
    (trainEnd config (clean (labeled config frame)).length) (labeled config frame)

/-- Every frame with labels at the same bars that agrees up to the last row of the training split has
the same training split. -/
def NoLeakage (config : ResearchConfig) (frame : List (ResearchBar ρ)) : Prop :=
  ∀ other : List (ResearchBar ρ), other.length = frame.length →
    availability config other = availability config frame →
    other.take (trainingBars config frame) = frame.take (trainingBars config frame) →
      (split config (labeled config other)).train = (split config (labeled config frame)).train

/-- A bar hits a barrier. -/
def HitsBarrier (upper lower : ℚ) (bar : ResearchBar ρ) : Prop := upper ≤ bar.high ∨ bar.low ≤ lower

/-- Every label up to the last row of the training split is decided there: its horizon ends by that
row, or a bar up to that row hits one of its barriers. -/
def LabelsDecided (config : ResearchConfig) (frame : List (ResearchBar ρ)) : Prop :=
  ∀ place bar atr, place < trainingBars config frame → frame[place]? = some bar →
    bar.atr14 = some atr → 0 < atr → place + config.model.horizonBars < frame.length →
      place + config.model.horizonBars < trainingBars config frame ∨
        ∃ next future, place < next ∧ next ≤ place + config.model.horizonBars ∧
          next < trainingBars config frame ∧ frame[next]? = some future ∧
          HitsBarrier (upperBarrier config.model.targetAtr bar atr)
            (lowerBarrier config.model.stopAtr bar atr) future

section Barriers

variable {upper lower : ℚ} {bar : ResearchBar ρ} {first second : List (ResearchBar ρ)}

/-- A bar decides a label when it hits a barrier. -/
theorem barrier_label_is_some : (barrierLabel upper lower bar).isSome = true ↔
    HitsBarrier upper lower bar := by
  unfold barrierLabel HitsBarrier
  split_ifs with both above below
  · exact iff_of_true rfl (.inl both.1)
  · exact iff_of_true rfl (.inl above)
  · exact iff_of_true rfl (.inr below)
  · exact iff_of_false (by simp) (by tauto)

/-- Some bars decide a label when one of them hits a barrier. -/
theorem first_label_is_some : (firstLabel upper lower first).isSome = true ↔
    ∃ future ∈ first, HitsBarrier upper lower future := by
  induction first with
  | nil => simp [firstLabel]
  | cons bar rest inductionHypothesis =>
    rw [firstLabel]
    cases decided : barrierLabel upper lower bar with
    | some label =>
      have hits : HitsBarrier upper lower bar := barrier_label_is_some.mp (by rw [decided]; rfl)
      exact iff_of_true rfl ⟨bar, List.mem_cons_self, hits⟩
    | none =>
      have misses : ¬HitsBarrier upper lower bar := by
        rw [← barrier_label_is_some, decided]
        exact Bool.false_ne_true
      simp [inductionHypothesis, misses]

/-- The first of two lists that decides a label decides it. -/
theorem first_label_append : firstLabel upper lower (first ++ second) =
    (firstLabel upper lower first).or (firstLabel upper lower second) := by
  induction first with
  | nil => rfl
  | cons bar rest inductionHypothesis =>
    rw [List.cons_append, firstLabel, firstLabel, inductionHypothesis]
    cases barrierLabel upper lower bar <;> rfl

/-- A bar at the lower barrier stops a position. -/
theorem price_at_lower (upper lower : ℚ) (bar : ResearchBar ρ) :
    barrierLabel upper lower
      { bar with openPrice := lower, high := lower, low := lower, close := lower } = some 0 := by
  unfold barrierLabel
  split_ifs with both above below
  · rfl
  · exact absurd ⟨above, le_refl _⟩ both
  · rfl
  · exact absurd (le_refl _) below

/-- A bar at the upper barrier and above the lower one reaches the target. -/
theorem price_at_upper (upper lower : ℚ) (bar : ResearchBar ρ) :
    barrierLabel upper lower
      { bar with
        openPrice := max upper (lower + 1), high := max upper (lower + 1),
        low := max upper (lower + 1), close := max upper (lower + 1) } = some 1 := by
  have apart : ¬max upper (lower + 1) ≤ lower :=
    not_le.mpr ((lt_add_one lower).trans_le (le_max_right _ _))
  unfold barrierLabel
  rw [if_neg fun both => apart both.2]
  exact if_pos (le_max_left _ _)

end Barriers

section Labels

variable {horizonBars : ℕ} {stopAtr targetAtr : ℚ} {bar : ResearchBar ρ}
  {later other frame : List (ResearchBar ρ)}

/-- The label at a place comes from the bars behind it. -/
theorem labels_getElem? (place : ℕ) :
    (addTripleBarrierLabels horizonBars stopAtr targetAtr frame)[place]? =
      frame[place]?.map fun bar =>
        ⟨bar, label horizonBars stopAtr targetAtr bar (frame.drop (place + 1))⟩ := by
  induction frame generalizing place with
  | nil => rfl
  | cons bar rest inductionHypothesis =>
    cases place with
    | zero => rfl
    | succ place => exact inductionHypothesis place

/-- A label is the same for later bars that agree until it is decided: up to its horizon, or up to a bar
that hits a barrier. -/
theorem label_congr {bound : ℕ} (lengths : later.length = other.length)
    (agree : later.take bound = other.take bound)
    (decided : ∀ atr, bar.atr14 = some atr → 0 < atr → horizonBars ≤ later.length →
      horizonBars ≤ bound ∨ ∃ future ∈ later.take (min bound horizonBars),
        HitsBarrier (upperBarrier targetAtr bar atr) (lowerBarrier stopAtr bar atr) future) :
    label horizonBars stopAtr targetAtr bar later = label horizonBars stopAtr targetAtr bar other := by
  unfold label
  rw [← lengths]
  split_ifs with short
  · rfl
  · cases range : bar.atr14 with
    | none => simp [barrierRange, range]
    | some atr =>
      by_cases positive : 0 < atr
      · simp only [barrierRange, range, Option.filter_some, positive, decide_true, if_true,
          Option.bind_some]
        obtain within | ⟨future, among, hits⟩ := decided atr range positive (not_lt.mp short)
        · have upToHorizon : later.take horizonBars = other.take horizonBars := by
            have first := congrArg (List.take horizonBars) agree
            rwa [List.take_take, List.take_take, min_eq_left within] at first
          have last : (bar :: later)[horizonBars]? = (bar :: other)[horizonBars]? := by
            cases horizonBars with
            | zero => rfl
            | succ count =>
              have here := congrArg (·[count]?) upToHorizon
              simpa using here
          rw [upToHorizon, last]
        · have start : later.take (min bound horizonBars) = other.take (min bound horizonBars) := by
            rw [min_comm, ← List.take_take, agree, List.take_take]
          have hit : (firstLabel (upperBarrier targetAtr bar atr) (lowerBarrier stopAtr bar atr)
              (later.take (min bound horizonBars))).isSome = true :=
            first_label_is_some.mpr ⟨future, among, hits⟩
          have parts (bars : List (ResearchBar ρ)) : bars.take horizonBars =
              bars.take (min bound horizonBars) ++
                (bars.take horizonBars).drop (min bound horizonBars) := by
            conv_lhs => rw [← List.take_append_drop (min bound horizonBars) (bars.take horizonBars)]
            rw [List.take_take, min_assoc, min_self]
          obtain ⟨decision, isDecision⟩ := Option.isSome_iff_exists.mp hit
          rw [parts later, parts other, first_label_append, first_label_append, ← start, isDecision]
          rfl
      · have nothing : barrierRange bar = none := by
          rw [barrierRange, range]
          exact Option.filter_some_neg (by simpa using positive)
        simp only [nothing, Option.bind_none]

/-- The first bar that hits a barrier within the horizon decides the label. -/
theorem label_of_hit {before after : List (ResearchBar ρ)} {future : ResearchBar ρ} {atr : ℚ}
    {decision : ℕ} (range : bar.atr14 = some atr) (positive : 0 < atr)
    (near : before.length < horizonBars)
    (enough : horizonBars ≤ (before ++ future :: after).length)
    (misses : ∀ earlier ∈ before,
      ¬HitsBarrier (upperBarrier targetAtr bar atr) (lowerBarrier stopAtr bar atr) earlier)
    (decides : barrierLabel (upperBarrier targetAtr bar atr) (lowerBarrier stopAtr bar atr) future =
      some decision) :
    label horizonBars stopAtr targetAtr bar (before ++ future :: after) = some decision := by
  have undecided :
      firstLabel (upperBarrier targetAtr bar atr) (lowerBarrier stopAtr bar atr) before = none := by
    rw [← Option.not_isSome_iff_eq_none, first_label_is_some]
    rintro ⟨earlier, member, hits⟩
    exact misses earlier member hits
  have laid : barrierRange bar = some atr := by simp [barrierRange, range, positive]
  obtain ⟨rest, isRest⟩ : ∃ rest, horizonBars - before.length = rest + 1 :=
    ⟨horizonBars - before.length - 1, by omega⟩
  rw [label, if_neg (not_lt.mpr enough), laid, Option.bind_some,
    List.take_append, List.take_of_length_le near.le, isRest, List.take_succ_cons, first_label_append,
    undecided, firstLabel, decides]
  rfl

/-- Which labels are there depends only on the ranges. -/
theorem label_available_congr
    (same : other.map ResearchBar.atr14 = frame.map ResearchBar.atr14) :
    (addTripleBarrierLabels horizonBars stopAtr targetAtr other).map (fun row => row.target.isSome) =
      (addTripleBarrierLabels horizonBars stopAtr targetAtr frame).map
        fun row => row.target.isSome := by
  induction frame generalizing other with
  | nil =>
    rw [List.map_nil, List.map_eq_nil_iff] at same
    rw [same]
  | cons bar rest inductionHypothesis =>
    cases other with
    | nil => cases same
    | cons first others =>
      obtain ⟨here, there⟩ := List.cons.inj same
      have lengths := congrArg List.length there
      rw [List.length_map, List.length_map] at lengths
      rw [addTripleBarrierLabels, addTripleBarrierLabels, List.map_cons, List.map_cons,
        inductionHypothesis there, label_is_some, label_is_some, here, lengths]

end Labels

section Splits

variable {config : ResearchConfig} {frame other : List (ResearchBar ρ)}

/-- The training split has the labelled rows up to its last one. -/
theorem train_eq (config : ResearchConfig) (frame : List (ResearchBar ρ)) :
    (split config (labeled config frame)).train =
      ((labeled config frame).take (trainingBars config frame)).filter
        fun row => row.target.isSome := by
  rw [trainingBars, ← Ranks.filter_take]
  rfl

/-- Where the labels are available at the same bars, the training splits end at the same bar. -/
theorem training_bars_congr (same : availability config other = availability config frame) :
    trainingBars config other = trainingBars config frame := by
  have count : (clean (labeled config other)).length = (clean (labeled config frame)).length := by
    rw [clean, clean, ← List.countP_eq_length_filter, ← List.countP_eq_length_filter]
    have counted := congrArg (List.countP id) same
    rw [availability, availability, List.countP_map, List.countP_map] at counted
    exact counted
  rw [trainingBars, count, Ranks.up_to_congr same]
  rfl

/-- Two frames that agree up to the last training row have the same training split exactly when the
labels up to it are the same. -/
theorem train_eq_iff (same : availability config other = availability config frame)
    (agree : other.take (trainingBars config frame) = frame.take (trainingBars config frame)) :
    (split config (labeled config other)).train = (split config (labeled config frame)).train ↔
      ∀ place bar, place < trainingBars config frame → frame[place]? = some bar →
        (label config.model.horizonBars config.model.stopAtr config.model.targetAtr bar
          (other.drop (place + 1))).isSome = true →
        label config.model.horizonBars config.model.stopAtr config.model.targetAtr bar
            (other.drop (place + 1)) =
          label config.model.horizonBars config.model.stopAtr config.model.targetAtr bar
            (frame.drop (place + 1)) := by
  have kept : ((labeled config other).take (trainingBars config frame)).map
        (fun row => row.target.isSome) =
      ((labeled config frame).take (trainingBars config frame)).map
        fun row => row.target.isSome := by
    rw [List.map_take, List.map_take]
    exact congrArg _ same
  have bars (place : ℕ) (inside : place < trainingBars config frame) : other[place]? = frame[place]? := by
    have here := congrArg (·[place]?) agree
    simpa [inside] using here
  rw [train_eq, train_eq, training_bars_congr same, Ranks.filter_eq_iff kept]
  constructor
  · intro all place bar inside isBar available
    have equal := all place ⟨bar, _⟩ ⟨bar, _⟩
      (by rw [List.getElem?_take_of_lt inside, labeled, labels_getElem?, bars place inside, isBar]; rfl)
      (by rw [List.getElem?_take_of_lt inside, labeled, labels_getElem?, isBar]; rfl) available
    exact congrArg LabeledBar.target equal
  · intro all place row another isRow isAnother available
    by_cases inside : place < trainingBars config frame
    · rw [List.getElem?_take_of_lt inside, labeled, labels_getElem?, bars place inside] at isRow
      rw [List.getElem?_take_of_lt inside, labeled, labels_getElem?] at isAnother
      obtain ⟨bar, isBar, rfl⟩ := Option.map_eq_some_iff.mp isRow
      rw [isBar, Option.map_some] at isAnother
      obtain rfl := Option.some.inj isAnother
      rw [LabeledBar.mk.injEq]
      exact ⟨rfl, all place bar inside isBar available⟩
    · rw [List.getElem?_take_eq_none (not_lt.mp inside)] at isRow
      cases isRow

/-- Labels that are decided within the training split do not leak. -/
theorem LabelsDecided.no_leakage (decided : LabelsDecided config frame) : NoLeakage config frame := by
  intro other lengths same agree
  rw [train_eq_iff same agree]
  intro place bar inside isBar _
  have present : place < frame.length := (List.getElem?_eq_some_iff.mp isBar).1
  refine label_congr (by rw [List.length_drop, List.length_drop, lengths])
    (show _ = (frame.drop (place + 1)).take (trainingBars config frame - (place + 1)) from ?_) ?_
  · rw [List.take_drop, List.take_drop,
      show place + 1 + (trainingBars config frame - (place + 1)) = trainingBars config frame by omega,
      agree]
  · intro atr range positive enough
    rw [List.length_drop, lengths] at enough
    obtain within | ⟨next, future, after, near, before, isFuture, hits⟩ :=
      decided place bar atr inside isBar range positive (by omega)
    · exact .inl (by omega)
    · refine .inr ⟨future, ?_, hits⟩
      have sameFuture : other[next]? = some future := by
        have here := congrArg (·[next]?) agree
        rw [← isFuture]
        simpa [before] using here
      have found : ((other.drop (place + 1)).take (min (trainingBars config frame - (place + 1))
          config.model.horizonBars))[next - (place + 1)]? = some future := by
        rw [List.getElem?_take_of_lt (by omega), List.getElem?_drop,
          show place + 1 + (next - (place + 1)) = next by omega, sameFuture]
      exact List.mem_of_getElem? found

/-- A frame with the bar behind the training split at another price. -/
def repriced (frame : List (ResearchBar ρ)) (place : ℕ) (last : ResearchBar ρ) (price : ℚ) :
    List (ResearchBar ρ) :=
  frame.set place { last with openPrice := price, high := price, low := price, close := price }

/-- Another price leaves the ranges. -/
theorem repriced_ranges {place : ℕ} {last : ResearchBar ρ} (isLast : frame[place]? = some last)
    (price : ℚ) :
    (repriced frame place last price).map ResearchBar.atr14 = frame.map ResearchBar.atr14 := by
  rw [repriced, List.map_set]
  refine List.ext_getElem? fun index => ?_
  rw [List.getElem?_set, List.getElem?_map]
  split_ifs with same bounded
  · subst same
    rw [isLast]
    rfl
  · subst same
    rw [List.length_map] at bounded
    exact absurd (List.getElem?_eq_some_iff.mp isLast).1 bounded
  · rfl

/-- What comes after an earlier bar of a frame with another price. -/
theorem repriced_drop {place later : ℕ} (earlier : later ≤ place) (inside : place < frame.length)
    (last : ResearchBar ρ) (price : ℚ) :
    (repriced frame place last price).drop later = (frame.take place).drop later ++
      { last with openPrice := price, high := price, low := price, close := price } ::
        frame.drop (place + 1) := by
  rw [repriced, List.set_eq_take_append_cons_drop, if_pos inside,
    List.drop_append_of_le_length (by rw [List.length_take]; omega)]

/-- Where labels do not leak, the label of a training row whose barriers are not hit within the split
is the one that the next bar decides, whatever its price is. -/
theorem NoLeakage.label_repriced (noLeakage : NoLeakage config frame) {place decision : ℕ}
    {bar last : ResearchBar ρ} {atr price : ℚ} (inside : place < trainingBars config frame)
    (isBar : frame[place]? = some bar) (range : bar.atr14 = some atr) (positive : 0 < atr)
    (room : place + config.model.horizonBars < frame.length)
    (beyond : trainingBars config frame ≤ place + config.model.horizonBars)
    (misses : ∀ next future, place < next → next < trainingBars config frame →
      frame[next]? = some future → ¬HitsBarrier (upperBarrier config.model.targetAtr bar atr)
        (lowerBarrier config.model.stopAtr bar atr) future)
    (isLast : frame[trainingBars config frame]? = some last)
    (decides : barrierLabel (upperBarrier config.model.targetAtr bar atr)
      (lowerBarrier config.model.stopAtr bar atr)
        { last with openPrice := price, high := price, low := price, close := price } =
          some decision) :
    label config.model.horizonBars config.model.stopAtr config.model.targetAtr bar
      (frame.drop (place + 1)) = some decision := by
  have lastInside : trainingBars config frame < frame.length :=
    (List.getElem?_eq_some_iff.mp isLast).1
  have lengths : (repriced frame (trainingBars config frame) last price).length = frame.length :=
    List.length_set
  have same : availability config (repriced frame (trainingBars config frame) last price) =
      availability config frame := label_available_congr (repriced_ranges isLast price)
  have agree : (repriced frame (trainingBars config frame) last price).take
      (trainingBars config frame) = frame.take (trainingBars config frame) := by
    rw [repriced, List.take_set_of_le (le_refl _)]
  have decided : label config.model.horizonBars config.model.stopAtr config.model.targetAtr bar
      ((repriced frame (trainingBars config frame) last price).drop (place + 1)) =
        some decision := by
    rw [repriced_drop inside lastInside]
    refine label_of_hit range positive ?_ ?_ ?_ decides
    · rw [List.length_drop, List.length_take]
      omega
    · rw [List.length_append, List.length_drop, List.length_take, List.length_cons,
        List.length_drop]
      omega
    · intro earlier member
      obtain ⟨index, bound, rfl⟩ := List.mem_iff_getElem.mp member
      rw [List.length_drop, List.length_take] at bound
      rw [List.getElem_drop, List.getElem_take]
      exact misses (place + 1 + index) _ (by omega) (by omega) (List.getElem?_eq_getElem _)
  have equal := (train_eq_iff same agree).mp (noLeakage _ lengths same agree) place bar inside isBar
    (by rw [decided]; rfl)
  exact equal.symm.trans decided

/-- Where labels do not leak, they are decided within the training split: another price of the next bar
decides them one way or the other. -/
theorem NoLeakage.decided (noLeakage : NoLeakage config frame) : LabelsDecided config frame := by
  intro place bar atr inside isBar range positive room
  by_contra undecided
  obtain ⟨beyond, misses⟩ := not_or.mp undecided
  have lastInside : trainingBars config frame < frame.length := by omega
  have missed : ∀ next future, place < next → next < trainingBars config frame →
      frame[next]? = some future → ¬HitsBarrier (upperBarrier config.model.targetAtr bar atr)
        (lowerBarrier config.model.stopAtr bar atr) future := by
    intro next future after before isFuture hits
    exact misses ⟨next, future, after, by omega, before, isFuture, hits⟩
  have low := noLeakage.label_repriced inside isBar range positive room (not_lt.mp beyond) missed
    (List.getElem?_eq_getElem lastInside) (price_at_lower _ _ _)
  have high := noLeakage.label_repriced inside isBar range positive room (not_lt.mp beyond) missed
    (List.getElem?_eq_getElem lastInside) (price_at_upper _ _ _)
  rw [low] at high
  cases high

end Splits

/-- For every configuration and every frame: the training split is the same for all frames with labels
at the same bars that agree up to its last row exactly when each of its labels is decided by then. -/
theorem labels_do_not_leak_iff (config : ResearchConfig) (frame : List (ResearchBar ρ)) :
    NoLeakage config frame ↔ LabelsDecided config frame :=
  ⟨fun noLeakage => noLeakage.decided, fun decided => decided.no_leakage⟩

section Samples

/-- Half of the labelled rows are for training, and labels look one bar ahead. -/
def halvesConfig : ResearchConfig where
  model := { horizonBars := 1, trainFraction := 1 / 2, validationFraction := 1 / 4 }

/-- A bar that closes at 100. -/
def aroundHundred (minute high low atr : ℚ) : ResearchBar Unit where
  timestamp := 60 * minute
  openPrice := 100
  high
  low
  close := 100
  atr14 := some atr
  columns := ()

/-- The third bar reaches the target of the second one. -/
def upwardFrame : List (ResearchBar Unit) :=
  [aroundHundred 0 101 100 1, aroundHundred 1 101 100 1, aroundHundred 2 104 100 (17 / 14),
    aroundHundred 3 101 100 (235 / 196), aroundHundred 4 101 100 (3251 / 2744)]

/-- The third bar reaches the stop of the second one. -/
def downwardFrame : List (ResearchBar Unit) :=
  [aroundHundred 0 101 100 1, aroundHundred 1 101 100 1, aroundHundred 2 101 98 (16 / 14),
    aroundHundred 3 101 100 (111 / 98), aroundHundred 4 101 100 (1541 / 1372)]

/-- The first two bars are for training, and the label of the second one tells the third. -/
theorem third_bar_leaks :
    ¬∀ (config : ResearchConfig) (frame other : List (ResearchBar Unit)),
      other.length = frame.length → availability config other = availability config frame →
      other.take (trainingBars config frame) = frame.take (trainingBars config frame) →
        (split config (labeled config other)).train = (split config (labeled config frame)).train := by
  intro claim
  have same := claim halvesConfig upwardFrame downwardFrame rfl (by decide +kernel) (by decide +kernel)
  revert same
  decide +kernel

end Samples

end Training

end IgTradingBot
