import IgTradingBot.Learning.LearningLoop

/-!
# What the loop learns

Every loss that the loop feeds to the analyzer is classified as a counter-trend entry, and
every trade that it persists has the regime "unknown". So the loop learns one lesson at most:
the first five losses within the window fix its conditions for good, and from then on it is
only put into force and resolved. The lesson is the abstract state of the tables and the memory
of the analyzer, and each event takes it to the next one.
-/

namespace IgTradingBot

open Sequential Sequential.Program

/-- The terms of the one pattern, and whether it is in force. -/
structure Lesson where
  conditions : IndicatorConditions
  confidencePenalty : ℤ
  sizeReduction : ℚ
  inForce : Bool
  regimeUnknown : conditions.regime = some "unknown"
  reduces : sizeReduction < 1

namespace Lesson

/-- The pattern has the terms of the lesson. -/
structure TermsOf (lesson : Lesson) (pattern : MistakePattern) : Prop where
  classification : pattern.classification = .counterTrend
  active : pattern.active = lesson.inForce
  conditions : pattern.indicatorConditions = lesson.conditions
  confidencePenalty : pattern.confidencePenalty = lesson.confidencePenalty
  sizeReduction : pattern.sizeReduction = lesson.sizeReduction

/-- The tables and the memory of the analyzer show a lesson: it is the only stored pattern, and
the only one in memory while it is in force. -/
def Shown (memory : MistakeMemory) : Option Lesson → Prop
  | none => memory.patterns = [] ∧ memory.activePatterns = []
  | some lesson =>
    ∃ row, memory.patterns = [row] ∧ lesson.TermsOf row ∧
      if lesson.inForce then
        ∃ copy, memory.activePatterns = [copy] ∧ lesson.TermsOf copy ∧ copy.id = row.id
      else memory.activePatterns = []

/-- The lesson is resolved. -/
def resolved (lesson : Lesson) : Lesson := { lesson with inForce := false }

/-- The lesson comes into force again. -/
def reactivated (lesson : Lesson) : Lesson :=
  { lesson with
      confidencePenalty := Constants.mistakeReactivatedConfidencePenalty
      sizeReduction := Constants.mistakeReactivatedSizeReduction
      inForce := true
      reduces := by norm_num [Constants.mistakeReactivatedSizeReduction] }

end Lesson

namespace MistakeAnalyzer

/-- Values that are all the same have it as the most common one. -/
theorem most_common_of_forall {values : List String} {value : String} (nonempty : values ≠ [])
    (same : ∀ other ∈ values, other = value) : mostCommon values = some value := by
  cases common : mostCommon values with
  | none => exact absurd (List.argmax_eq_none.mp common) nonempty
  | some other =>
    have member : other ∈ values := List.argmax_mem common
    rw [same other member]

/-- The most common of the regimes that are all unknown. -/
theorem average_regime {records : List MistakeRecord} (order : KeyOrder) (nonempty : records ≠ [])
    (unknown : ∀ record ∈ records, record.regime = "unknown") :
    (averageIndicators order records).regime = some "unknown" := by
  have kept : (records.map (·.regime)).filter (· ≠ "") = records.map (·.regime) := by
    rw [List.filter_eq_self]
    intro regime member
    obtain ⟨record, present, rfl⟩ := List.mem_map.mp member
    rw [unknown record present]
    decide
  change mostCommon ((records.map (·.regime)).filter (· ≠ "")) = _
  rw [kept]
  apply most_common_of_forall
  · simpa using nonempty
  · intro regime member
    obtain ⟨record, present, rfl⟩ := List.mem_map.mp member
    exact unknown record present

end MistakeAnalyzer

namespace TradingLoop

open MistakeAnalyzer

/-- The regime of a trade that the loop has persisted is unknown, whatever its signal says. -/
theorem closed_trade_regime (outcome : Outcome) : (closedTradeOf outcome).regime = "unknown" := by
  rfl

/-- Every loss is taken for a counter-trend entry: the loop takes the market to have gone against
each losing trade. -/
theorem mistake_counter_trend (outcome : Outcome) :
    (mistakeOf outcome).classification = .counterTrend := by
  unfold mistakeOf recordMistake classifyMistake lossOutcome
  by_cases long : outcome.signal.direction = "BUY"
  · simp [closedTradeOf, closedTrade, openTradeRows, long]
  · simp [closedTradeOf, closedTrade, openTradeRows, long]

/-- What is recorded of a loss, for the class and the regime. -/
theorem mistake_known (outcome : Outcome) :
    (mistakeOf outcome).classification = .counterTrend ∧ (mistakeOf outcome).regime = "unknown" :=
  ⟨mistake_counter_trend outcome, closed_trade_regime outcome⟩

end TradingLoop

namespace MistakeMemory

/-- Every record is of a counter-trend entry in an unknown regime. -/
def RecordsKnown (memory : MistakeMemory) : Prop :=
  ∀ record ∈ memory.records, record.classification = .counterTrend ∧ record.regime = "unknown"

section Detection

variable {memory : MistakeMemory} {lesson : Lesson}

/-- Only counter-trend entries are found. -/
theorem records_of_other_class (known : memory.RecordsKnown)
    {classification : MistakeClassification} (other : classification ≠ .counterTrend) (since : ℚ) :
    memory.recordsByClassification classification since = [] := by
  have none_found : (memory.records.filter fun record =>
      record.classification = classification ∧ since ≤ record.createdAt) = [] := by
    rw [List.filter_eq_nil_iff]
    intro record member found
    exact other ((of_decide_eq_true found).1.symm.trans (known record member).1)
  unfold recordsByClassification
  rw [none_found]
  rfl

/-- A class without records is not flagged. -/
theorem flag_pattern_other (known : memory.RecordsKnown) {classification : MistakeClassification}
    (other : classification ≠ .counterTrend) (script : DetectScript) :
    MistakeAnalyzer.flagPattern script classification memory = memory := by
  unfold MistakeAnalyzer.flagPattern
  rw [records_of_other_class known other]
  rfl

/-- A detection flags the counter-trend entries, or the database does not answer. -/
theorem detect_patterns_final (known : memory.RecordsKnown) (script : DetectScript) :
    (MistakeAnalyzer.detectPatterns script memory).2 =
      if script.answered .counterTrend then
        MistakeAnalyzer.flagPattern script .counterTrend memory
      else memory := by
  unfold MistakeAnalyzer.detectPatterns MistakeClassification.all
  cases answered : script.answered .counterTrend with
  | false =>
    have raised : MistakeAnalyzer.access (script.answered .counterTrend)
        (MistakeAnalyzer.flagPattern script .counterTrend) memory = (.error .database, memory) := by
      rw [answered]
      rfl
    exact congrArg Prod.snd (bind_error raised)
  | true =>
    let flagged := MistakeAnalyzer.flagPattern script .counterTrend memory
    have knownAfter : flagged.RecordsKnown := by
      unfold RecordsKnown
      rw [MistakeAnalyzer.flag_pattern_records]
      exact known
    have changed : MistakeAnalyzer.access (script.answered .counterTrend)
        (MistakeAnalyzer.flagPattern script .counterTrend) memory = (.ok (), flagged) := by
      rw [answered]
      rfl
    have rest : Keeps (· = flagged)
        (forEach [.falseBreakout, .volatilityMisjudgment, .poorTiming, .overexposure,
            .regimeMisclassification] fun classification =>
          MistakeAnalyzer.access (script.answered classification)
            (MistakeAnalyzer.flagPattern script classification)) := by
      apply keeps_forEach
      intro classification member
      unfold MistakeAnalyzer.access
      apply keeps_ite
      · intro _
        apply keeps_modify
        rintro _ rfl
        apply flag_pattern_other knownAfter
        rintro rfl
        simp at member
      · exact fun _ => keeps_raise _
    exact (congrArg Prod.snd (bind_ok changed)).trans (rest.final rfl)

/-- The losses in the window of a detection. -/
def windowRecords (script : DetectScript) (memory : MistakeMemory) : List MistakeRecord :=
  memory.recordsByClassification .counterTrend (script.now - MistakeAnalyzer.patternWindow)

/-- The averages of the losses in the window of a detection. -/
def windowConditions (script : DetectScript) (memory : MistakeMemory) : IndicatorConditions :=
  MistakeAnalyzer.averageIndicators (script.keyOrder .counterTrend) (memory.windowRecords script)

/-- The losses in the window are among the records. -/
theorem mem_window_records {script : DetectScript} {record : MistakeRecord} :
    record ∈ memory.windowRecords script ↔
      record ∈ memory.records ∧ record.classification = .counterTrend ∧
        script.now - MistakeAnalyzer.patternWindow ≤ record.createdAt := by
  unfold windowRecords recordsByClassification
  rw [List.mem_insertionSort, List.mem_filter, decide_eq_true_iff]

/-- Without a stored pattern the losses in the window make one. -/
theorem flag_pattern_created (shown : Lesson.Shown memory none) (known : memory.RecordsKnown)
    (script : DetectScript)
    (enough : Constants.mistakePatternThreshold ≤ (memory.windowRecords script).length) :
    ∃ taught : Lesson,
      Lesson.Shown (MistakeAnalyzer.flagPattern script .counterTrend memory) (some taught) ∧
        taught.inForce = true ∧ taught.conditions = memory.windowConditions script := by
  obtain ⟨noPatterns, noneActive⟩ := shown
  have nonempty : memory.windowRecords script ≠ [] := by
    intro empty
    rw [empty] at enough
    exact absurd enough (by decide)
  have unknown : ∀ record ∈ memory.windowRecords script, record.regime = "unknown" :=
    fun record member => (known record (mem_window_records.mp member).1).2
  have regime := MistakeAnalyzer.average_regime (script.keyOrder .counterTrend) nonempty unknown
  let taught : Lesson :=
    { conditions := memory.windowConditions script
      confidencePenalty := Constants.mistakeBaseConfidencePenalty
      sizeReduction := Constants.mistakeBaseSizeReduction
      inForce := true
      regimeUnknown := regime
      reduces := by norm_num [Constants.mistakeBaseSizeReduction] }
  have flagged : MistakeAnalyzer.flagPattern script .counterTrend memory =
      { memory with
        patterns := [MistakeAnalyzer.newPattern script .counterTrend (memory.windowRecords script)]
        activePatterns :=
          [MistakeAnalyzer.newPattern script .counterTrend (memory.windowRecords script)] } := by
    unfold windowRecords at enough
    simp only [MistakeAnalyzer.flagPattern, Nat.not_lt.mpr enough, if_false,
      patternByClassification, resolvedPattern, noPatterns, noneActive, List.find?_nil,
      List.nil_append]
    rfl
  have terms : taught.TermsOf
      (MistakeAnalyzer.newPattern script .counterTrend (memory.windowRecords script)) :=
    ⟨rfl, rfl, rfl, rfl, rfl⟩
  rw [flagged]
  exact ⟨taught, ⟨_, rfl, terms, _, rfl, terms, rfl⟩, rfl, rfl⟩

/-- An update of the only row. -/
theorem update_pattern_single {row : MistakePattern} (onlyPattern : memory.patterns = [row])
    (change : MistakePattern → MistakePattern) :
    (memory.updatePattern row.id change).patterns = [change row] := by
  simp only [updatePattern, onlyPattern, List.map_cons, List.map_nil, if_true]

/-- A lesson in force stays as it is. -/
theorem flag_pattern_updated (shown : Lesson.Shown memory (some lesson))
    (force : lesson.inForce = true) (script : DetectScript) :
    Lesson.Shown (MistakeAnalyzer.flagPattern script .counterTrend memory) (some lesson) := by
  have stored := shown
  obtain ⟨row, onlyPattern, terms, inMemory⟩ := shown
  have found : memory.patternByClassification .counterTrend = some row := by
    simp [patternByClassification, onlyPattern, terms.classification, terms.active, force]
  simp only [MistakeAnalyzer.flagPattern, found]
  split
  · exact stored
  · exact ⟨_, update_pattern_single onlyPattern _, ⟨terms.classification, terms.active,
      terms.conditions, terms.confidencePenalty, terms.sizeReduction⟩, inMemory⟩

/-- A resolved lesson comes into force again. -/
theorem flag_pattern_reactivated (shown : Lesson.Shown memory (some lesson))
    (resolved : lesson.inForce = false) (script : DetectScript)
    (enough : Constants.mistakePatternThreshold ≤ (memory.windowRecords script).length) :
    Lesson.Shown (MistakeAnalyzer.flagPattern script .counterTrend memory)
      (some lesson.reactivated) := by
  obtain ⟨row, onlyPattern, terms, inMemory⟩ := shown
  rw [if_neg (Bool.eq_false_iff.mp resolved)] at inMemory
  have noneFound : memory.patternByClassification .counterTrend = none := by
    simp [patternByClassification, onlyPattern, terms.active, resolved]
  have found : memory.resolvedPattern .counterTrend = some row := by
    simp [resolvedPattern, onlyPattern, terms.classification, terms.active, resolved]
  unfold windowRecords at enough
  have flagged : MistakeAnalyzer.flagPattern script .counterTrend memory =
      { memory with
        patterns := [MistakeAnalyzer.reactivate row]
        activePatterns := [MistakeAnalyzer.reactivate row] } := by
    simp only [MistakeAnalyzer.flagPattern, Nat.not_lt.mpr enough, if_false, noneFound, found,
      MistakeAnalyzer.reactivatePattern, updatePattern, onlyPattern, inMemory, List.map_cons,
      List.map_nil, if_true, List.not_mem_nil, List.nil_append]
  have termsAgain : lesson.reactivated.TermsOf (MistakeAnalyzer.reactivate row) :=
    ⟨terms.classification, rfl, terms.conditions, rfl, rfl⟩
  rw [flagged]
  exact ⟨_, rfl, termsAgain, _, rfl, termsAgain, rfl⟩

/-- Too few losses in the window flag nothing. -/
theorem flag_pattern_few {script : DetectScript}
    (few : (memory.windowRecords script).length < Constants.mistakePatternThreshold) :
    MistakeAnalyzer.flagPattern script .counterTrend memory = memory := by
  unfold windowRecords at few
  simp only [MistakeAnalyzer.flagPattern, few, if_true]

/-- Enough losses in the window put the lesson into force. A stored lesson keeps its conditions;
without one they are the averages of the losses in the window. -/
theorem flag_pattern_taught {stored : Option Lesson} (shown : Lesson.Shown memory stored)
    (known : memory.RecordsKnown) (script : DetectScript)
    (enough : Constants.mistakePatternThreshold ≤ (memory.windowRecords script).length) :
    ∃ taught : Lesson,
      Lesson.Shown (MistakeAnalyzer.flagPattern script .counterTrend memory) (some taught) ∧
        taught.inForce = true ∧
        taught.conditions = (stored.map (·.conditions)).getD (memory.windowConditions script) := by
  cases stored with
  | none => exact flag_pattern_created shown known script enough
  | some earlier =>
    cases force : earlier.inForce with
    | true => exact ⟨earlier, flag_pattern_updated shown force script, force, rfl⟩
    | false =>
      exact ⟨earlier.reactivated, flag_pattern_reactivated shown force script enough, rfl, rfl⟩

end Detection

end MistakeMemory

end IgTradingBot
