import IgTradingBot.Learning.LearningRuns

/-!
# The penalty of what was learned

A lesson in force penalizes a signal that has no regime of its own and fits the conditions of
the lesson: the regime of every stored loss is "unknown", so a signal with a regime is never
compared further. Records that are all of identical signals have averages that the signal
fits. Without a loss a lesson stays in force until a profit completes the streak.
-/

namespace IgTradingBot

open Sequential Sequential.Program

namespace MistakeMemory

open MistakeAnalyzer TradingLoop

/-- A signal gets the penalties of the pattern of counter-trend entries in the risk controls. -/
def Penalized (memory : MistakeMemory) (signal : AnalyzedSignal) : Prop :=
  ∃ pattern ∈ memory.patterns, pattern.classification = .counterTrend ∧ pattern.active = true ∧
    analyzerPenalties memory signal = (pattern.confidencePenalty, pattern.sizeReduction) ∧
    ∀ (config : LoopConfig) (script : RiskScript), config.hasMistakeAnalyzer = true →
      script.penalties = .ok (analyzerPenalties memory signal) →
        mistakePenaltiesForSignal config script signal.toSignal =
          ⟨max 0 (signal.confidence - |pattern.confidencePenalty|), pattern.sizeReduction⟩

/-- Conditions have the strategy of a signal, and enough of their indicators match. -/
def SameMarket (signal : AnalyzedSignal) (conditions : IndicatorConditions) : Prop :=
  differs conditions.strategy signal.strategyName = false ∧
    indicatorsMatch (learningSignal signal) conditions = true

/-- An event completes the streak of the pattern. -/
def Resolves (memory : MistakeMemory) : LearningEvent → Prop
  | .closed outcome => memory.resolves outcome = true
  | .restarted _ => False

section Averages

variable {signal : AnalyzedSignal} {records : List MistakeRecord} {indicators : Indicators}

/-- The average of a value that all records have is the value. -/
theorem average_of_shared (nonempty : records ≠ [])
    (same : ∀ record ∈ records, record.indicators = indicators) (key : Indicator) :
    averageOf records key = (indicators key).map fun value => (key, value) := by
  have recorded : (records.filterMap fun record => record.indicators key) =
      records.filterMap fun _ => indicators key := by
    apply List.filterMap_congr
    intro record member
    rw [same record member]
  unfold averageOf
  rw [recorded]
  cases present : indicators key with
  | none => simp
  | some value =>
    have repeated : (records.filterMap fun _ => some value) =
        List.replicate records.length value := by
      simp [List.map_const']
    have positive : (records.length : ℚ) ≠ 0 := by
      simpa using nonempty
    rw [repeated]
    split
    · rename_i empty
      have noRecord : records.length = 0 := by
        rw [← List.length_replicate (n := records.length) (a := value), empty, List.length_nil]
      exact absurd (List.eq_nil_of_length_eq_zero noRecord) nonempty
    · simp only [List.sum_replicate, List.length_replicate, nsmul_eq_mul, Option.map_some,
        mul_div_cancel_left₀ value positive]

/-- A value matches itself. -/
theorem indicator_matches_self (value : ℚ) : indicatorMatches value value = true := by
  unfold indicatorMatches
  split_ifs with zero
  · rw [zero, abs_zero]
    exact decide_eq_true (by norm_num)
  · rw [sub_self, abs_zero]
    exact decide_eq_true (by positivity)

/-- Three indicators are in every signal. -/
theorem three_conditions (order : KeyOrder) (signal : AnalyzedSignal) :
    3 ≤ (order.keys.filterMap fun key =>
      (learningIndicators signal key).map fun value => (key, value)).length := by
  have distinct : [(Indicator.atr, signal.atr), (.stopDistance, signal.stopDistance),
      (.limitDistance, signal.limitDistance)].Nodup := by
    simp
  have among : [(Indicator.atr, signal.atr), (.stopDistance, signal.stopDistance),
      (.limitDistance, signal.limitDistance)] ⊆ order.keys.filterMap fun key =>
        (learningIndicators signal key).map fun value => (key, value) := by
    intro condition member
    rw [List.mem_filterMap]
    refine ⟨condition.1, order.complete _, ?_⟩
    simp only [List.mem_cons, List.not_mem_nil, or_false] at member
    rcases member with rfl | rfl | rfl <;> rfl
  exact (distinct.subperm among).length_le

/-- The averages of records that are all of an identical signal fit the signal. -/
theorem same_market_of_alike (order : KeyOrder) (nonempty : records ≠ [])
    (strategies : ∀ record ∈ records, record.strategy = signal.strategyName)
    (same : ∀ record ∈ records, record.indicators = learningIndicators signal) :
    SameMarket signal (averageIndicators order records) := by
  constructor
  · change differs (mostCommon ((records.map (·.strategy)).filter (· ≠ ""))) _ = false
    by_cases unnamed : signal.strategyName = ""
    · have noneKept : (records.map (·.strategy)).filter (· ≠ "") = [] := by
        rw [List.filter_eq_nil_iff]
        intro strategy member
        obtain ⟨record, present, rfl⟩ := List.mem_map.mp member
        simp [strategies record present, unnamed]
      rw [noneKept]
      rfl
    · have common : mostCommon ((records.map (·.strategy)).filter (· ≠ "")) =
          some signal.strategyName := by
        apply most_common_of_forall
        · obtain ⟨record, rest, rfl⟩ := List.exists_cons_of_ne_nil nonempty
          simp [strategies record List.mem_cons_self, unnamed]
        · intro strategy member
          obtain ⟨record, present, rfl⟩ := List.mem_map.mp (List.mem_filter.mp member).1
          exact strategies record present
      rw [common]
      simp [differs]
  · have averaged : (averageIndicators order records).averages = order.keys.filterMap fun key =>
        (learningIndicators signal key).map fun value => (key, value) := by
      change order.keys.filterMap (averageOf records) = _
      apply List.filterMap_congr
      intro key _
      exact average_of_shared nonempty same key
    unfold indicatorsMatch
    rw [averaged]
    apply decide_eq_true
    have three := three_conditions order signal
    have matching : ∀ condition ∈ (order.keys.filterMap fun key =>
        (learningIndicators signal key).map fun value => (key, value)).take
          Constants.mistakePatternTotalIndicators,
        conditionMatches (learningSignal signal) condition = true := by
      intro condition member
      obtain ⟨key, _, present⟩ := List.mem_filterMap.mp (List.mem_of_mem_take member)
      obtain ⟨value, found, rfl⟩ := Option.map_eq_some_iff.mp present
      have sameValue : (learningSignal signal).indicators key = some value := found
      simp only [conditionMatches, sameValue, indicator_matches_self]
    rw [List.countP_eq_length.mpr matching, List.length_take]
    exact le_min (by decide) three

end Averages

section Penalties

variable {memory : MistakeMemory} {lesson : Lesson} {signal : AnalyzedSignal}

/-- A signal matches the lesson when it has no regime of its own and fits its conditions. -/
theorem matches_pattern_iff {pattern : MistakePattern} (terms : lesson.TermsOf pattern) :
    matchesPattern (learningSignal signal) pattern = true ↔
      regimeOf signal = "unknown" ∧ SameMarket signal lesson.conditions := by
  unfold matchesPattern SameMarket
  rw [terms.conditions, lesson.regimeUnknown]
  have regimes : differs (some "unknown") (learningSignal signal).regime = false ↔
      regimeOf signal = "unknown" := by
    unfold differs
    simp only [truthyText, learningSignal]
    constructor
    · intro same
      by_contra different
      simp [Ne.symm different] at same
    · intro same
      simp [same]
  rw [← regimes]
  split_ifs with otherRegime otherStrategy
  · simp [otherRegime]
  · have strategy : differs lesson.conditions.strategy signal.strategyName = true := otherStrategy
    simp [strategy]
  · have strategy : differs lesson.conditions.strategy signal.strategyName = false :=
      Bool.eq_false_iff.mpr otherStrategy
    simp [otherRegime, strategy]

/-- The penalties of the only pattern in memory. -/
theorem analyzer_penalties_single {copy : MistakePattern}
    (onlyActive : memory.activePatterns = [copy]) (active : copy.active = true) :
    analyzerPenalties memory signal =
      if matchesPattern (learningSignal signal) copy then
        (copy.confidencePenalty, copy.sizeReduction)
      else (0, 1) := by
  unfold analyzerPenalties getConfidencePenalty getSizeReductionFactor
  rw [onlyActive]
  split_ifs with matching
  · simp [active, matching]
  · simp [matching]

/-- A signal is penalized exactly when the lesson is in force and the signal matches it. -/
theorem penalized_iff (shown : Lesson.Shown memory (some lesson)) :
    memory.Penalized signal ↔ lesson.inForce = true ∧ regimeOf signal = "unknown" ∧
      SameMarket signal lesson.conditions := by
  constructor
  · rintro ⟨pattern, member, _, active, penalties, _⟩
    obtain ⟨row, onlyPattern, terms, _⟩ := id shown
    rw [onlyPattern] at member
    obtain rfl := List.mem_singleton.mp member
    have force : lesson.inForce = true := terms.active.symm.trans active
    obtain ⟨_, copy, _, _, onlyActive, copyTerms, _⟩ := shown_in_force shown force
    refine ⟨force, (matches_pattern_iff copyTerms).mp ?_⟩
    by_contra unmatched
    rw [analyzer_penalties_single onlyActive (copyTerms.active.trans force), if_neg unmatched]
      at penalties
    have whole : (1 : ℚ) = lesson.sizeReduction :=
      (congrArg Prod.snd penalties).trans terms.sizeReduction
    exact absurd lesson.reduces (by rw [← whole]; exact lt_irrefl _)
  · rintro ⟨force, fits⟩
    obtain ⟨row, copy, onlyPattern, terms, onlyActive, copyTerms, _⟩ := shown_in_force shown force
    have penalties : analyzerPenalties memory signal =
        (row.confidencePenalty, row.sizeReduction) := by
      rw [analyzer_penalties_single onlyActive (copyTerms.active.trans force),
        if_pos ((matches_pattern_iff copyTerms).mpr fits), copyTerms.confidencePenalty,
        copyTerms.sizeReduction, terms.confidencePenalty, terms.sizeReduction]
    refine ⟨row, by rw [onlyPattern]; exact List.mem_singleton_self row, terms.classification,
      terms.active.trans force, penalties, ?_⟩
    intro config script analyzer answered
    rw [penalties] at answered
    simp only [mistakePenaltiesForSignal, analyzer, if_true, answered]

end Penalties

section Runs

variable {memory : MistakeMemory} {lesson : Lesson}

/-- Without a loss an event leaves the lesson as it is, or resolves it. -/
theorem learn_quiet {event : LearningEvent} (quiet : event.loss = none)
    (answers : DatabaseAnswers memory event) (shown : Lesson.Shown memory (some lesson)) :
    (¬ Resolves memory event → Lesson.Shown (learn memory event) (some lesson)) ∧
      (Resolves memory event →
        lesson.inForce = true ∧ Lesson.Shown (learn memory event) (some lesson.resolved)) := by
  cases event with
  | restarted loaded =>
    obtain rfl : loaded = true := answers
    exact ⟨fun _ => learn_restart_kept shown, fun impossible => impossible.elim⟩
  | closed outcome =>
    have profit : ¬ outcome.pnl < 0 := by
      intro loss
      simp [LearningEvent.loss, loss] at quiet
    constructor
    · intro unresolved
      exact learn_profit_kept shown profit (Bool.eq_false_iff.mpr unresolved)
    · intro resolving
      obtain ⟨other, same, force, resolved⟩ :=
        learn_profit_resolved shown resolving (answers resolving)
      obtain rfl := Option.some.inj same
      exact ⟨force, resolved⟩

/-- The parts of a run without losses have none. -/
theorem quiet_cons {event : LearningEvent} {rest : List LearningEvent}
    (quiet : losses (event :: rest) = []) : event.loss = none ∧ losses rest = [] := by
  cases fed : event.loss with
  | none => exact ⟨rfl, by simpa [losses, fed] using quiet⟩
  | some loss => simp [losses, fed] at quiet

/-- Without a loss a resolved lesson stays resolved. The induction is on the events. -/
theorem resolved_stays {events : List LearningEvent} (quiet : losses events = [])
    (answers : Machines.Conforms learn DatabaseAnswers memory events)
    (shown : Lesson.Shown memory (some lesson)) (resolved : lesson.inForce = false) :
    Lesson.Shown (Machines.after learn memory events) (some lesson) := by
  induction events generalizing memory with
  | nil => exact shown
  | cons event rest inductionHypothesis =>
    obtain ⟨noLoss, quietRest⟩ := quiet_cons quiet
    obtain ⟨kept, resolves⟩ := learn_quiet noLoss answers.1 shown
    have unresolved : ¬ Resolves memory event := by
      intro resolving
      rw [(resolves resolving).1] at resolved
      cases resolved
    exact inductionHypothesis quietRest answers.2 (kept unresolved)

/-- Without a loss a lesson stays as it is until a profit completes the streak. The induction is
on the events. -/
theorem lesson_after_quiet {events : List LearningEvent} (quiet : losses events = [])
    (answers : Machines.Conforms learn DatabaseAnswers memory events)
    (shown : Lesson.Shown memory (some lesson)) :
    (Machines.Conforms learn (fun memory event => ¬ Resolves memory event) memory events ∧
        Lesson.Shown (Machines.after learn memory events) (some lesson)) ∨
      (¬ Machines.Conforms learn (fun memory event => ¬ Resolves memory event) memory events ∧
        Lesson.Shown (Machines.after learn memory events) (some lesson.resolved)) := by
  induction events generalizing memory with
  | nil => exact .inl ⟨trivial, shown⟩
  | cons event rest inductionHypothesis =>
    obtain ⟨noLoss, quietRest⟩ := quiet_cons quiet
    obtain ⟨kept, resolves⟩ := learn_quiet noLoss answers.1 shown
    by_cases resolving : Resolves memory event
    · right
      have resolved : Lesson.Shown (Machines.after learn (learn memory event) rest)
          (some lesson.resolved) := resolved_stays quietRest answers.2 (resolves resolving).2 rfl
      exact ⟨fun unresolved => unresolved.1 resolving, resolved⟩
    · rcases inductionHypothesis quietRest answers.2 (kept resolving) with
        ⟨unresolved, stays⟩ | ⟨streak, resolved⟩
      · exact .inl ⟨⟨resolving, unresolved⟩, stays⟩
      · exact .inr ⟨fun unresolved => streak unresolved.2, resolved⟩

end Runs

end MistakeMemory

end IgTradingBot
