import IgTradingBot.Learning.LearnedPenalty

/-!
# Identical losses

Runs with at least five recent losses of identical signals. The last of them puts a pattern
into force; whether an identical new signal is then penalized depends on the regime of the
signal, on the conditions of that pattern and on what is closed afterwards.
-/

namespace IgTradingBot

/-- Identical signals have the same strategy, regime and indicators. -/
structure Identical (first second : AnalyzedSignal) : Prop where
  strategy : first.strategyName = second.strategyName
  regime : TradingLoop.regimeOf first = TradingLoop.regimeOf second
  indicators : TradingLoop.learningIndicators first = TradingLoop.learningIndicators second

/-- The losses of a run that were closed in the last 30 days. -/
def recentLosses (now : ℚ) (events : List LearningEvent) : List Outcome :=
  (losses events).filter fun outcome => now - MistakeAnalyzer.patternWindow ≤ outcome.now

/-- The losses of the last 30 days are enough, were stored and analyzed, and were all opened from
signals identical to this one. -/
structure LearnedFrom (signal : AnalyzedSignal) (now : ℚ) (events : List LearningEvent) : Prop where
  enough : Constants.mistakePatternThreshold ≤ (recentLosses now events).length
  fed : ∀ outcome ∈ recentLosses now events,
    outcome.stored = true ∧ outcome.detection.answered .counterTrend = true
  identical : ∀ outcome ∈ recentLosses now events, Identical outcome.signal signal

/-- Time goes on from loss to loss, and the losses are analyzed before now. -/
structure Chronological (now : ℚ) (events : List LearningEvent) : Prop where
  ordered : (losses events).Pairwise fun earlier later => earlier.now ≤ later.now
  analyzed : ∀ outcome ∈ losses events, outcome.detection.now ≤ now

/-- A run with its last loss. -/
structure LastLoss (events earlier : List LearningEvent) (loss : Outcome)
    (later : List LearningEvent) : Prop where
  split_run : events = earlier ++ .closed loss :: later
  isLoss : loss.pnl < 0
  quiet : losses later = []

namespace MistakeMemory

open MistakeAnalyzer TradingLoop

/-- The pattern that is stored before a loss fits a signal. Without one, the losses that are
analyzed together with this loss are all of the last 30 days, or their averages fit. -/
def PatternFits (memory : MistakeMemory) (loss : Outcome) (now : ℚ) (signal : AnalyzedSignal) :
    Prop :=
  match memory.patterns with
  | [] =>
    (∀ record ∈ (memory.withRecord loss).windowRecords loss.detection,
      now - patternWindow ≤ record.createdAt) ∨
        SameMarket signal ((memory.withRecord loss).windowConditions loss.detection)
  | pattern :: _ => SameMarket signal pattern.indicatorConditions

/-- A run with a recent loss has a last loss. The induction is on the events. -/
theorem last_loss_of_ne_nil {events : List LearningEvent} (lossy : losses events ≠ []) :
    ∃ earlier loss later, LastLoss events earlier loss later := by
  induction events with
  | nil => exact absurd rfl lossy
  | cons event rest inductionHypothesis =>
    by_cases quiet : losses rest = []
    · cases fed : event.loss with
      | none => exact absurd (by simpa [losses, fed] using quiet) lossy
      | some loss =>
        cases event with
        | restarted loaded => simp [LearningEvent.loss] at fed
        | closed outcome =>
          have isLoss : outcome.pnl < 0 := by
            by_contra profit
            simp [LearningEvent.loss, profit] at fed
          exact ⟨[], outcome, rest, rfl, isLoss, quiet⟩
    · obtain ⟨earlier, loss, later, split_run, isLoss, quiet⟩ := inductionHypothesis quiet
      exact ⟨event :: earlier, loss, later, by rw [split_run]; rfl, isLoss, quiet⟩

section LastLoss

variable {events earlier later : List LearningEvent} {loss : Outcome} {now : ℚ}

/-- The losses of a run end with the last one. -/
theorem losses_of_last (last : LastLoss events earlier loss later) :
    losses events = losses earlier ++ [loss] := by
  have quiet : later.filterMap LearningEvent.loss = [] := last.quiet
  rw [last.split_run]
  unfold losses
  rw [List.filterMap_append, List.filterMap_cons, quiet]
  simp [LearningEvent.loss, last.isLoss]

/-- When time goes on, the last loss is as recent as any other. -/
theorem last_loss_recent (last : LastLoss events earlier loss later)
    (clock : Chronological now events) (lossy : recentLosses now events ≠ []) :
    loss ∈ recentLosses now events := by
  obtain ⟨recent, rest, found⟩ := List.exists_cons_of_ne_nil lossy
  have member : recent ∈ recentLosses now events := by
    rw [found]
    exact List.mem_cons_self
  obtain ⟨among, since⟩ := List.mem_filter.mp member
  have ordered := clock.ordered
  rw [losses_of_last last] at among ordered
  have noLater : recent.now ≤ loss.now := by
    rcases List.mem_append.mp among with before | itself
    · exact (List.pairwise_append.mp ordered).2.2 recent before loss (List.mem_singleton_self loss)
    · exact (congrArg Outcome.now (List.mem_singleton.mp itself)).le
  apply List.mem_filter.mpr
  refine ⟨?_, decide_eq_true ((of_decide_eq_true since).trans noLater)⟩
  rw [losses_of_last last]
  exact List.mem_append_right _ (List.mem_singleton_self loss)

/-- The last loss is analyzed with all recent losses that were stored. -/
theorem recent_in_window (last : LastLoss events earlier loss later)
    (clock : Chronological now events) (recent : loss ∈ recentLosses now events)
    (stored : ∀ outcome ∈ recentLosses now events, outcome.stored = true) :
    (recentLosses now events).length ≤
      (((Machines.after learn {} earlier).withRecord loss).windowRecords loss.detection).length := by
  have analyzed : loss.detection.now ≤ now := clock.analyzed loss (List.mem_filter.mp recent).1
  have recorded : ((Machines.after learn {} earlier).withRecord loss).records =
      ((losses events).filter (·.stored)).map mistakeOf := by
    rw [losses_of_last last, List.filter_append, List.map_append]
    change (Machines.after learn {} earlier).records ++ [mistakeOf loss] = _
    rw [records_after]
    simp [stored loss recent]
  unfold windowRecords recordsByClassification
  rw [List.length_insertionSort, recorded, ← List.countP_eq_length_filter, List.countP_map,
    List.countP_filter, recentLosses, ← List.countP_eq_length_filter]
  apply List.countP_mono_left
  intro outcome member since
  have isStored : outcome.stored = true := stored outcome (List.mem_filter.mpr ⟨member, since⟩)
  have created : now - patternWindow ≤ outcome.now := of_decide_eq_true since
  have inWindow : loss.detection.now - patternWindow ≤ (mistakeOf outcome).createdAt := by
    change loss.detection.now - patternWindow ≤ outcome.now
    linarith
  simp only [Function.comp, Bool.and_eq_true, decide_eq_true_eq]
  exact ⟨⟨mistake_counter_trend outcome, inWindow⟩, isStored⟩

/-- The recent records that are analyzed with the last loss are those of recent losses. -/
theorem recent_of_window (last : LastLoss events earlier loss later) {record : MistakeRecord}
    (member : record ∈
      ((Machines.after learn {} earlier).withRecord loss).windowRecords loss.detection)
    (since : now - patternWindow ≤ record.createdAt) :
    ∃ outcome ∈ recentLosses now events, record = mistakeOf outcome := by
  have among : record ∈ ((losses earlier).filter (·.stored)).map mistakeOf ++ [mistakeOf loss] := by
    have recorded : record ∈ (Machines.after learn {} earlier).records ++ [mistakeOf loss] :=
      (mem_window_records.mp member).1
    rw [records_after] at recorded
    exact recorded
  obtain ⟨outcome, fed, rfl⟩ : ∃ outcome ∈ losses events, record = mistakeOf outcome := by
    rw [losses_of_last last]
    rcases List.mem_append.mp among with before | itself
    · obtain ⟨outcome, kept, rfl⟩ := List.mem_map.mp before
      exact ⟨outcome, List.mem_append_left _ (List.mem_filter.mp kept).1, rfl⟩
    · obtain rfl := List.mem_singleton.mp itself
      exact ⟨loss, List.mem_append_right _ (List.mem_singleton_self loss), rfl⟩
  exact ⟨outcome, List.mem_filter.mpr ⟨fed, decide_eq_true since⟩, rfl⟩

/-- The lesson that the last loss teaches fits a signal exactly when the pattern does. -/
theorem pattern_fits_iff (last : LastLoss events earlier loss later) {signal : AnalyzedSignal}
    (identical : ∀ outcome ∈ recentLosses now events, Identical outcome.signal signal)
    (nonempty :
      ((Machines.after learn {} earlier).withRecord loss).windowRecords loss.detection ≠ [])
    {stored : Option Lesson} (shown : Lesson.Shown (Machines.after learn {} earlier) stored) :
    SameMarket signal ((stored.map (·.conditions)).getD
        (((Machines.after learn {} earlier).withRecord loss).windowConditions loss.detection)) ↔
      PatternFits (Machines.after learn {} earlier) loss now signal := by
  cases stored with
  | some lesson =>
    obtain ⟨row, onlyPattern, terms, _⟩ := shown
    unfold PatternFits
    rw [onlyPattern]
    change SameMarket signal lesson.conditions ↔ SameMarket signal row.indicatorConditions
    rw [terms.conditions]
  | none =>
    unfold PatternFits
    rw [shown.1]
    constructor
    · exact .inr
    rintro (recentOnly | fits)
    · apply same_market_of_alike _ nonempty
      · intro record member
        obtain ⟨outcome, recent, rfl⟩ := recent_of_window last member (recentOnly record member)
        exact (identical outcome recent).strategy
      · intro record member
        obtain ⟨outcome, recent, rfl⟩ := recent_of_window last member (recentOnly record member)
        exact (identical outcome recent).indicators
    · exact fits

/-- The last of enough identical losses puts a lesson into force. -/
theorem lesson_after_last (last : LastLoss events earlier loss later)
    (clock : Chronological now events) {signal : AnalyzedSignal}
    (learned : LearnedFrom signal now events)
    (answers : Machines.Conforms learn DatabaseAnswers {} earlier) :
    ∃ taught : Lesson,
      Lesson.Shown (learn (Machines.after learn {} earlier) (.closed loss)) (some taught) ∧
        taught.inForce = true ∧
        (SameMarket signal taught.conditions ↔
          PatternFits (Machines.after learn {} earlier) loss now signal) := by
  have lossy : recentLosses now events ≠ [] := by
    intro noLoss
    have enough := learned.enough
    rw [noLoss] at enough
    exact absurd enough (by decide)
  have recent : loss ∈ recentLosses now events := last_loss_recent last clock lossy
  obtain ⟨isStored, detected⟩ := learned.fed loss recent
  obtain ⟨stored, shown⟩ := shown_after answers
  have known := (known_after earlier).with_record loss
  have enough : Constants.mistakePatternThreshold ≤
      (((Machines.after learn {} earlier).withRecord loss).windowRecords
        loss.detection).length :=
    learned.enough.trans (recent_in_window last clock recent fun outcome member =>
      (learned.fed outcome member).1)
  have nonempty :
      ((Machines.after learn {} earlier).withRecord loss).windowRecords loss.detection ≠ [] := by
    intro empty
    rw [empty] at enough
    exact absurd enough (by decide)
  obtain ⟨taught, taughtShown, force, conditions⟩ :=
    flag_pattern_taught (shown_with_record shown loss) known loss.detection enough
  refine ⟨taught, ?_, force, ?_⟩
  · rw [learn_loss last.isLoss isStored, detect_patterns_final known, if_pos detected]
    exact taughtShown
  · rw [conditions]
    exact pattern_fits_iff last learned.identical nonempty shown

/-- After the last of enough identical losses a signal is penalized exactly when it has no regime
of its own, the pattern fits it, and no later profit completes the streak. -/
theorem penalized_after_last (last : LastLoss events earlier loss later)
    (clock : Chronological now events) {signal : AnalyzedSignal}
    (learned : LearnedFrom signal now events)
    (answers : Machines.Conforms learn DatabaseAnswers {} events) :
    Penalized (Machines.after learn {} events) signal ↔
      regimeOf signal = "unknown" ∧ PatternFits (Machines.after learn {} earlier) loss now signal ∧
        Machines.Conforms learn (fun memory event => ¬ Resolves memory event)
          (Machines.after learn {} (earlier ++ [.closed loss])) later := by
  rw [last.split_run] at answers
  obtain ⟨answersEarlier, answersLast⟩ := (Machines.conforms_append _ _ _).mp answers
  obtain ⟨taught, shown, force, fits⟩ := lesson_after_last last clock learned answersEarlier
  have whole : Machines.after learn {} events =
      Machines.after learn (learn (Machines.after learn {} earlier) (.closed loss)) later := by
    rw [last.split_run, Machines.after_append]
    rfl
  have afterLoss : Machines.after learn {} (earlier ++ [.closed loss]) =
      learn (Machines.after learn {} earlier) (.closed loss) := by
    rw [Machines.after_append]
    rfl
  rw [whole, afterLoss, ← fits]
  rcases lesson_after_quiet last.quiet answersLast.2 shown with
    ⟨unresolved, stays⟩ | ⟨streak, resolved⟩
  · rw [penalized_iff stays]
    constructor
    · rintro ⟨_, noRegime, market⟩
      exact ⟨noRegime, market, unresolved⟩
    · rintro ⟨noRegime, market, _⟩
      exact ⟨force, noRegime, market⟩
  · rw [penalized_iff resolved]
    constructor
    · rintro ⟨impossible, _⟩
      cases impossible
    · rintro ⟨_, _, unresolved⟩
      exact absurd unresolved streak

end LastLoss

/-- A signal that lost at least five times in 30 days is penalized exactly when it has no regime of
its own, the pattern that the last of the losses finds or makes fits it, and no profit after that
loss completes the streak. -/
theorem identical_losses_penalize_iff (signal : AnalyzedSignal) (now : ℚ)
    (events : List LearningEvent) (clock : Chronological now events)
    (learned : LearnedFrom signal now events)
    (answers : Machines.Conforms learn DatabaseAnswers {} events) :
    Penalized (Machines.after learn {} events) signal ↔
      regimeOf signal = "unknown" ∧ ∃ earlier loss later, LastLoss events earlier loss later ∧
        PatternFits (Machines.after learn {} earlier) loss now signal ∧
          Machines.Conforms learn (fun memory event => ¬ Resolves memory event)
            (Machines.after learn {} (earlier ++ [.closed loss])) later := by
  have lossy : losses events ≠ [] := by
    intro noLoss
    have enough := learned.enough
    rw [recentLosses, noLoss, List.filter_nil] at enough
    exact absurd enough (by decide)
  constructor
  · intro penalized
    obtain ⟨earlier, loss, later, last⟩ := last_loss_of_ne_nil lossy
    obtain ⟨noRegime, fits, unresolved⟩ :=
      (penalized_after_last last clock learned answers).mp penalized
    exact ⟨noRegime, earlier, loss, later, last, fits, unresolved⟩
  · rintro ⟨noRegime, earlier, loss, later, last, fits, unresolved⟩
    exact (penalized_after_last last clock learned answers).mpr ⟨noRegime, fits, unresolved⟩

section Repeated

/-- A signal that loses at a time. -/
def lossAt (signal : AnalyzedSignal) (time : ℚ) : Outcome where
  signal
  tradeId := "trade"
  entryPrice := signal.currentPrice
  openedAt := time
  dealId := "deal"
  pnl := -10
  exitPrice := signal.currentPrice - signal.stopDistance
  now := time
  detection :=
    { now := time
      patternId := fun _ => "pattern"
      keyOrder := fun _ =>
        { keys := [.atr, .smaFast, .smaSlow, .trendStrength, .rrRatio, .stopDistance,
            .limitDistance, .tp1Distance, .spreadAtrRatio, .expectedVolatility]
          nodup := by decide
          complete := by intro key; cases key <;> decide } }

/-- A signal that loses at some times. -/
def repeatedLosses (signal : AnalyzedSignal) (times : List ℚ) : List LearningEvent :=
  times.map fun time => .closed (lossAt signal time)

variable (signal : AnalyzedSignal) {times : List ℚ} {now : ℚ}

theorem losses_of_repeated : losses (repeatedLosses signal times) = times.map (lossAt signal) := by
  have fed : ∀ time, (LearningEvent.closed (lossAt signal time)).loss =
      some (lossAt signal time) := by
    intro time
    have isLoss : (lossAt signal time).pnl < 0 := by
      change (-10 : ℚ) < 0
      norm_num
    simp [LearningEvent.loss, isLoss]
  unfold losses repeatedLosses
  rw [List.filterMap_map]
  simp only [Function.comp_def, fed]
  exact congrFun List.filterMap_eq_map' times

/-- A signal learns from its own losses when there are enough of them. -/
theorem learned_from_repeated (enough : Constants.mistakePatternThreshold ≤ times.length)
    (recent : ∀ time ∈ times, now - patternWindow ≤ time) :
    LearnedFrom signal now (repeatedLosses signal times) := by
  have all_recent : recentLosses now (repeatedLosses signal times) =
      times.map (lossAt signal) := by
    unfold recentLosses
    rw [losses_of_repeated, List.filter_eq_self]
    intro outcome member
    obtain ⟨time, among, rfl⟩ := List.mem_map.mp member
    exact decide_eq_true (recent time among)
  refine ⟨?_, ?_, ?_⟩
  · rw [all_recent, List.length_map]
    exact enough
  · intro outcome member
    rw [all_recent] at member
    obtain ⟨time, _, rfl⟩ := List.mem_map.mp member
    exact ⟨rfl, rfl⟩
  · intro outcome member
    rw [all_recent] at member
    obtain ⟨time, _, rfl⟩ := List.mem_map.mp member
    exact ⟨rfl, rfl, rfl⟩

/-- Losses in the order of their times are chronological. -/
theorem chronological_repeated (ordered : times.Pairwise (· ≤ ·))
    (past : ∀ time ∈ times, time ≤ now) :
    Chronological now (repeatedLosses signal times) := by
  constructor
  · rw [losses_of_repeated]
    exact List.pairwise_map.mpr ordered
  · intro outcome member
    rw [losses_of_repeated] at member
    obtain ⟨time, among, rfl⟩ := List.mem_map.mp member
    exact past time among

/-- Losses complete no streak. The induction is on the times. -/
theorem answers_repeated (memory : MistakeMemory) (times : List ℚ) :
    Machines.Conforms learn DatabaseAnswers memory (repeatedLosses signal times) := by
  induction times generalizing memory with
  | nil => trivial
  | cons time rest inductionHypothesis => exact ⟨fun _ => rfl, inductionHypothesis _⟩

end Repeated

/-- A signal of the legacy strategy. -/
def legacySignal : AnalyzedSignal where
  epic := "CS.D.EURUSD.CFD.IP"
  direction := "BUY"
  currentPrice := 11 / 10
  stopDistance := 20
  limitDistance := 40
  atr := 1 / 1000
  confidence := 70

/-- A signal of the professional strategy, which has a regime. -/
def professionalSignal : AnalyzedSignal where
  epic := "CS.D.EURUSD.CFD.IP"
  direction := "BUY"
  currentPrice := 11 / 10
  stopDistance := 20
  limitDistance := 40
  atr := 1 / 1000
  confidence := 70
  strategyName := "professional_ict"
  regime := some "bullish"

/-- Five losses in a row, and the signal is penalized. -/
theorem legacy_losses_penalize :
    Penalized (Machines.after learn {} (repeatedLosses legacySignal [0, 60, 120, 180, 240]))
      legacySignal := by
  have untaught : (Machines.after learn {}
      (repeatedLosses legacySignal [0, 60, 120, 180])).patterns = [] := by decide +kernel
  have last : LastLoss (repeatedLosses legacySignal [0, 60, 120, 180, 240])
      (repeatedLosses legacySignal [0, 60, 120, 180]) (lossAt legacySignal 240) [] := by
    refine ⟨rfl, ?_, rfl⟩
    decide +kernel
  apply (identical_losses_penalize_iff legacySignal 300 _
    (chronological_repeated legacySignal (by decide +kernel) (by decide +kernel))
    (learned_from_repeated legacySignal (by decide) (by decide +kernel))
    (answers_repeated legacySignal {} _)).mpr
  refine ⟨rfl, _, _, _, last, ?_, trivial⟩
  unfold PatternFits
  rw [untaught]
  left
  decide +kernel

/-- A signal with a regime is not penalized after five losses. -/
theorem losses_with_regime_not_penalized :
    ¬ ∀ (signal : AnalyzedSignal) (now : ℚ) (events : List LearningEvent),
      Chronological now events → LearnedFrom signal now events →
        Machines.Conforms learn DatabaseAnswers {} events →
          Penalized (Machines.after learn {} events) signal := by
  intro always
  obtain ⟨pattern, member, _, _, penalties, _⟩ :=
    always professionalSignal 300 (repeatedLosses professionalSignal [0, 60, 120, 180, 240])
      (chronological_repeated professionalSignal (by decide +kernel) (by decide +kernel))
      (learned_from_repeated professionalSignal (by decide) (by decide +kernel))
      (answers_repeated professionalSignal {} _)
  have noPenalties : analyzerPenalties (Machines.after learn {}
      (repeatedLosses professionalSignal [0, 60, 120, 180, 240])) professionalSignal = (0, 1) := by
    decide +kernel
  have reduced : ∀ pattern ∈ (Machines.after learn {}
      (repeatedLosses professionalSignal [0, 60, 120, 180, 240])).patterns,
        pattern.sizeReduction = 7 / 10 := by
    decide +kernel
  have whole : (1 : ℚ) = 7 / 10 := by
    rw [noPenalties] at penalties
    exact (congrArg Prod.snd penalties).trans (reduced pattern member)
  norm_num at whole

end MistakeMemory

end IgTradingBot
