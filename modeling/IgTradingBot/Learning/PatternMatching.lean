import IgTradingBot.Learning.MistakeAnalyzer
import IgTradingBot.Library.FirstPlaces
import Mathlib.Data.List.AList

/-!
# Pattern matching

How a signal is compared with a pattern, for dictionaries of any names and sizes. A dictionary has
each name once and an order in which it is enumerated. The conditions of a pattern are enumerated,
those of metadata are passed over, and only the first five others are compared. The indicators of a
signal are looked up.

Of a pattern with more than five conditions it is the order which decides what is compared. Three
matches are found or not found whatever the order only if fewer than three conditions match at all,
or at most two do not.
-/

namespace IgTradingBot.PatternMatching

/-- A value under a name of the conditions: an averaged number, or a text of the metadata. -/
inductive ConditionValue where
  | number (value : ℚ)
  | text (value : String)
  deriving DecidableEq, Repr

/-- A condition with its name. -/
abbrev Condition := Sigma fun _ : String => ConditionValue

/-- The names of metadata begin with an underscore. -/
def isMetadata (name : String) : Bool := "_".toList.isPrefixOf name.toList

/-- The conditions of a pattern. What is not metadata is a number. -/
structure Conditions where
  mapping : AList fun _ : String => ConditionValue
  numbers : ∀ condition ∈ mapping.entries, isMetadata condition.1 = false →
    ∃ value, condition.2 = .number value

/-- A signal with its indicators. -/
structure Signal where
  regime : String
  strategy : String
  indicators : AList fun _ : String => ℚ

/-- Stored metadata that is true and differs from what a signal has. A number differs from every
text. -/
def differs (stored : Option ConditionValue) (value : String) : Bool :=
  match stored with
  | none => false
  | some (.number stored) => decide (stored ≠ 0)
  | some (.text stored) => decide (stored ≠ "") && decide (value ≠ stored)

/-- The indicator of a condition is in a signal and matches. -/
def conditionMatches (signal : Signal) (condition : Condition) : Bool :=
  match signal.indicators.lookup condition.1, condition.2 with
  | some signalValue, .number value => MistakeAnalyzer.indicatorMatches signalValue value
  | _, _ => false

/-- The loop over the conditions, with the numbers of those that it has compared and of those that
match. -/
def matchingIndicators (signal : Signal) : List Condition → ℕ → ℕ → ℕ
  | [], _, matching => matching
  | condition :: rest, checked, matching =>
    if isMetadata condition.1 then matchingIndicators signal rest checked matching
    else if Constants.mistakePatternTotalIndicators < checked + 1 then matching
    else matchingIndicators signal rest (checked + 1)
      (if conditionMatches signal condition then matching + 1 else matching)

/-- The regime or the strategy of a pattern is not the one of a signal. -/
def metadataDiffers (signal : Signal) (conditions : Conditions) : Bool :=
  differs (conditions.mapping.lookup "_regime") signal.regime ||
    differs (conditions.mapping.lookup "_strategy") signal.strategy

/-- Check a signal against the conditions of a pattern. -/
def matchesPattern (signal : Signal) (conditions : Conditions) : Bool :=
  if metadataDiffers signal conditions then false
  else decide (Constants.mistakePatternMatchIndicators ≤
    matchingIndicators signal conditions.mapping.entries 0 0)

/-- Signals with the same indicators, enumerated in any order. -/
structure SameSignal (signal other : Signal) : Prop where
  regime : other.regime = signal.regime
  strategy : other.strategy = signal.strategy
  indicators : other.indicators.entries.Perm signal.indicators.entries

/-- The same conditions, enumerated in any order. -/
def SameConditions (conditions other : Conditions) : Prop :=
  other.mapping.entries.Perm conditions.mapping.entries

/-- What is answered depends on the indicators of the signal and the conditions of the pattern, and
not on the orders in which they are enumerated. -/
def OrderFree (signal : Signal) (conditions : Conditions) : Prop :=
  ∀ other otherConditions, SameSignal signal other → SameConditions conditions otherConditions →
    matchesPattern other otherConditions = matchesPattern signal conditions

/-- The conditions that are not metadata. -/
def compared (conditions : Conditions) : List Condition :=
  conditions.mapping.entries.filter fun condition => !isMetadata condition.1

/-- How many conditions match a signal. -/
def matchCount (signal : Signal) (conditions : Conditions) : ℕ :=
  (compared conditions).countP (conditionMatches signal)

/-- How many conditions do not match a signal. -/
def missCount (signal : Signal) (conditions : Conditions) : ℕ :=
  (compared conditions).countP fun condition => !conditionMatches signal condition

section Loop

variable {signal other : Signal} {conditions : Conditions}

/-- The loop counts the matches among the first conditions that are not metadata. -/
theorem matching_indicators_eq (entries : List Condition) (checked matching : ℕ) :
    matchingIndicators signal entries checked matching = matching +
      ((entries.filter fun condition => !isMetadata condition.1).take
        (Constants.mistakePatternTotalIndicators - checked)).countP (conditionMatches signal) := by
  induction entries generalizing checked matching with
  | nil => simp [matchingIndicators]
  | cons condition rest inductionHypothesis =>
    cases metadata : isMetadata condition.1 with
    | true => simp [matchingIndicators, metadata, inductionHypothesis]
    | false =>
      by_cases full : Constants.mistakePatternTotalIndicators < checked + 1
      · have none : Constants.mistakePatternTotalIndicators - checked = 0 := by omega
        simp [matchingIndicators, metadata, full, none]
      · have more : Constants.mistakePatternTotalIndicators - checked =
            (Constants.mistakePatternTotalIndicators - (checked + 1)) + 1 := by omega
        rw [more]
        cases found : conditionMatches signal condition with
        | true =>
          simp [matchingIndicators, metadata, full, inductionHypothesis, found]
          omega
        | false => simp [matchingIndicators, metadata, full, inductionHypothesis, found]

/-- A signal matches when the metadata does and three of the first five conditions do. -/
theorem matches_pattern_iff :
    matchesPattern signal conditions = true ↔
      metadataDiffers signal conditions = false ∧
        Constants.mistakePatternMatchIndicators ≤
          ((compared conditions).take Constants.mistakePatternTotalIndicators).countP
            (conditionMatches signal) := by
  unfold matchesPattern
  rw [matching_indicators_eq]
  cases metadataDiffers signal conditions <;> simp [compared]

end Loop

/-! What the trading loop records is of a few names. On it the answers are those of the analyzer. -/
section Recorded

/-- The name of an indicator that the loop records. -/
def indicatorName : Indicator → String
  | .atr => "atr"
  | .smaFast => "sma_fast"
  | .smaSlow => "sma_slow"
  | .trendStrength => "trend_strength"
  | .rrRatio => "rr_ratio"
  | .stopDistance => "stop_distance"
  | .limitDistance => "limit_distance"
  | .tp1Distance => "tp1_distance"
  | .spreadAtrRatio => "spread_atr_ratio"
  | .expectedVolatility => "expected_volatility"

/-- The name tells the indicator. -/
def named (name : String) : Option Indicator :=
  [Indicator.atr, .smaFast, .smaSlow, .trendStrength, .rrRatio, .stopDistance, .limitDistance,
    .tp1Distance, .spreadAtrRatio, .expectedVolatility].find? fun key => indicatorName key = name

theorem named_indicator (key : Indicator) : named (indicatorName key) = some key := by
  cases key <;> decide +kernel

theorem indicator_name_injective : Function.Injective indicatorName := by
  intro key other same
  have found := named_indicator key
  rw [same, named_indicator other] at found
  exact (Option.some.inj found).symm

/-- No indicator is named as metadata is. -/
theorem not_metadata (key : Indicator) : isMetadata (indicatorName key) = false := by
  cases key <;> decide +kernel

/-- The dictionary of a signal's indicators, in some order. -/
def recordedSignal (order : KeyOrder) (signal : TradeSignal) : Signal where
  regime := signal.regime
  strategy := signal.strategy
  indicators := ⟨order.keys.filterMap fun key =>
    (signal.indicators key).map fun value => ⟨indicatorName key, value⟩, by
      rw [List.nodupKeys_iff_pairwise, List.pairwise_filterMap]
      refine order.nodup.imp fun {key other} different condition found otherCondition present => ?_
      obtain ⟨_, -, rfl⟩ := Option.map_eq_some_iff.mp found
      obtain ⟨_, -, rfl⟩ := Option.map_eq_some_iff.mp present
      exact indicator_name_injective.ne different⟩

/-- An averaged value as a condition. -/
def averagedCondition (condition : Indicator × ℚ) : Condition :=
  ⟨indicatorName condition.1, .number condition.2⟩

/-- The metadata of some conditions. -/
def recordedMetadata (conditions : IndicatorConditions) : List Condition :=
  (conditions.regime.toList.map fun regime => ⟨"_regime", .text regime⟩) ++
    conditions.strategy.toList.map fun strategy => ⟨"_strategy", .text strategy⟩

/-- The conditions as they are averaged, with the metadata behind them. -/
def recordedEntries (conditions : IndicatorConditions) : List Condition :=
  conditions.averages.map averagedCondition ++ recordedMetadata conditions

/-- Metadata is the regime or the strategy. -/
theorem mem_recorded_metadata {conditions : IndicatorConditions} {condition : Condition} :
    condition ∈ recordedMetadata conditions ↔
      (∃ regime ∈ conditions.regime, ⟨"_regime", .text regime⟩ = condition) ∨
        ∃ strategy ∈ conditions.strategy, ⟨"_strategy", .text strategy⟩ = condition := by
  simp only [recordedMetadata, List.mem_append, List.mem_map, Option.mem_toList, Option.mem_def]

/-- What is averaged is not named as metadata is, and metadata is. -/
theorem averaged_not_metadata (average : Indicator × ℚ) :
    isMetadata (averagedCondition average).1 = false :=
  not_metadata average.1

theorem recorded_metadata {conditions : IndicatorConditions} {condition : Condition}
    (member : condition ∈ recordedMetadata conditions) : isMetadata condition.1 = true := by
  obtain ⟨regime, -, rfl⟩ | ⟨strategy, -, rfl⟩ := mem_recorded_metadata.mp member
  · change isMetadata "_regime" = true
    decide +kernel
  · change isMetadata "_strategy" = true
    decide +kernel

/-- No name is recorded twice, where no indicator is averaged twice. -/
theorem recorded_nodup {conditions : IndicatorConditions}
    (once : (conditions.averages.map Prod.fst).Nodup) : (recordedEntries conditions).NodupKeys := by
  have averages : (conditions.averages.map averagedCondition).NodupKeys := by
    have distinct := once.map indicator_name_injective
    simpa [List.NodupKeys, List.keys, averagedCondition, Function.comp_def] using distinct
  have metadata : (recordedMetadata conditions).NodupKeys := by
    cases regime : conditions.regime <;> cases strategy : conditions.strategy <;>
      simp [recordedMetadata, regime, strategy, List.NodupKeys]
  rw [List.nodupKeys_iff_pairwise, recordedEntries, List.pairwise_append,
    ← List.nodupKeys_iff_pairwise, ← List.nodupKeys_iff_pairwise]
  refine ⟨averages, metadata, fun condition member other present same => ?_⟩
  obtain ⟨average, -, rfl⟩ := List.mem_map.mp member
  have different := recorded_metadata present
  rw [← same, averaged_not_metadata] at different
  exact Bool.noConfusion different

/-- The dictionary of the conditions, where no indicator is averaged twice. -/
def recordedConditions (conditions : IndicatorConditions)
    (once : (conditions.averages.map Prod.fst).Nodup) : Conditions where
  mapping := ⟨recordedEntries conditions, recorded_nodup once⟩
  numbers := by
    intro condition member other
    obtain averaged | metadata := List.mem_append.mp member
    · obtain ⟨average, -, rfl⟩ := List.mem_map.mp averaged
      exact ⟨average.2, rfl⟩
    · exact absurd (recorded_metadata metadata) (by simp [other])

variable {order : KeyOrder} {signal : TradeSignal} {conditions : IndicatorConditions}
  {once : (conditions.averages.map Prod.fst).Nodup}

/-- An indicator is found under its name. -/
theorem recorded_lookup (key : Indicator) :
    (recordedSignal order signal).indicators.lookup (indicatorName key) = signal.indicators key := by
  apply Option.ext
  intro value
  rw [← Option.mem_def, AList.mem_lookup_iff]
  simp only [recordedSignal, List.mem_filterMap, Option.map_eq_some_iff]
  constructor
  · rintro ⟨other, -, found, present, same⟩
    obtain ⟨name, rfl⟩ := by simpa using same
    exact indicator_name_injective name ▸ present
  · intro present
    exact ⟨key, order.complete key, value, present, rfl⟩

/-- A recorded average matches as it does for the analyzer. -/
theorem recorded_matches (condition : Indicator × ℚ) :
    conditionMatches (recordedSignal order signal) (averagedCondition condition) =
      MistakeAnalyzer.conditionMatches signal condition := by
  unfold conditionMatches MistakeAnalyzer.conditionMatches
  rw [averagedCondition, recorded_lookup]
  cases signal.indicators condition.1 <;> rfl

/-- The conditions that are compared are the averages. -/
theorem recorded_compared :
    compared (recordedConditions conditions once) = conditions.averages.map averagedCondition := by
  have averaged : ∀ condition ∈ conditions.averages.map averagedCondition,
      (!isMetadata condition.1) = true := by
    intro condition member
    obtain ⟨average, -, rfl⟩ := List.mem_map.mp member
    simp [averaged_not_metadata]
  have metadata : ∀ condition ∈ recordedMetadata conditions, ¬(!isMetadata condition.1) = true := by
    intro condition member
    simp [recorded_metadata member]
  change (recordedEntries conditions).filter _ = _
  rw [recordedEntries, List.filter_append, List.filter_eq_self.mpr averaged,
    List.filter_eq_nil_iff.mpr metadata, List.append_nil]

/-- What is found under a name of metadata is metadata. -/
theorem recorded_metadata_lookup {name : String} (metadata : isMetadata name = true)
    (value : ConditionValue) :
    (recordedConditions conditions once).mapping.lookup name = some value ↔
      ⟨name, value⟩ ∈ recordedMetadata conditions := by
  rw [← Option.mem_def, AList.mem_lookup_iff]
  change _ ∈ recordedEntries conditions ↔ _
  rw [recordedEntries, List.mem_append, or_iff_right]
  intro averaged
  obtain ⟨average, -, same⟩ := List.mem_map.mp averaged
  have different := averaged_not_metadata average
  rw [same, metadata] at different
  exact Bool.noConfusion different

/-- The regime is found under its name. -/
theorem recorded_regime :
    (recordedConditions conditions once).mapping.lookup "_regime" = conditions.regime.map .text := by
  apply Option.ext
  intro value
  rw [recorded_metadata_lookup (by decide +kernel), mem_recorded_metadata]
  simp [Option.map_eq_some_iff]

/-- The strategy is found under its name. -/
theorem recorded_strategy :
    (recordedConditions conditions once).mapping.lookup "_strategy" =
      conditions.strategy.map .text := by
  apply Option.ext
  intro value
  rw [recorded_metadata_lookup (by decide +kernel), mem_recorded_metadata]
  simp [Option.map_eq_some_iff]

/-- Metadata differs as it does for the analyzer. -/
theorem recorded_differs (stored : Option String) (value : String) :
    differs (stored.map .text) value = MistakeAnalyzer.differs stored value := by
  cases stored with
  | none => rfl
  | some text => simp [differs, MistakeAnalyzer.differs, truthyText, eq_comm]

/-- On what the loop records, the dictionaries answer as the analyzer does. -/
theorem recorded_matches_pattern {pattern : MistakePattern}
    (once : (pattern.indicatorConditions.averages.map Prod.fst).Nodup) :
    matchesPattern (recordedSignal order signal) (recordedConditions pattern.indicatorConditions once) =
      MistakeAnalyzer.matchesPattern signal pattern := by
  have matching : conditionMatches (recordedSignal order signal) ∘ averagedCondition =
      MistakeAnalyzer.conditionMatches signal := funext recorded_matches
  rw [Bool.eq_iff_iff, matches_pattern_iff, recorded_compared, ← List.map_take, List.countP_map,
    matching, metadataDiffers, recorded_regime, recorded_strategy, recorded_differs, recorded_differs]
  unfold MistakeAnalyzer.matchesPattern MistakeAnalyzer.indicatorsMatch
  change (MistakeAnalyzer.differs pattern.indicatorConditions.regime signal.regime ||
    MistakeAnalyzer.differs pattern.indicatorConditions.strategy signal.strategy) = false ∧ _ ↔ _
  cases MistakeAnalyzer.differs pattern.indicatorConditions.regime signal.regime <;>
    cases MistakeAnalyzer.differs pattern.indicatorConditions.strategy signal.strategy <;> simp

end Recorded

section Enumerations

variable {signal other : Signal} {conditions otherConditions : Conditions}

/-- An indicator is looked up in any order. -/
theorem SameSignal.matches (same : SameSignal signal other) :
    conditionMatches other = conditionMatches signal := by
  funext condition
  simp only [conditionMatches, AList.perm_lookup same.indicators]

/-- Metadata is looked up in any order. -/
theorem SameSignal.metadata (same : SameSignal signal other)
    (alike : SameConditions conditions otherConditions) :
    metadataDiffers other otherConditions = metadataDiffers signal conditions := by
  simp only [metadataDiffers, same.regime, same.strategy, AList.perm_lookup alike]

/-- What a signal is answered depends on the order of the conditions alone. -/
theorem SameSignal.matches_pattern_iff (same : SameSignal signal other)
    (alike : SameConditions conditions otherConditions) :
    matchesPattern other otherConditions = true ↔
      metadataDiffers signal conditions = false ∧
        Constants.mistakePatternMatchIndicators ≤
          ((compared otherConditions).take Constants.mistakePatternTotalIndicators).countP
            (conditionMatches signal) := by
  rw [PatternMatching.matches_pattern_iff, same.metadata alike, same.matches]

/-- The conditions that are compared are the same in any order. -/
theorem SameConditions.compared (alike : SameConditions conditions otherConditions) :
    (PatternMatching.compared otherConditions).Perm (PatternMatching.compared conditions) :=
  List.Perm.filter _ alike

/-- A signal is the same as itself. -/
theorem SameSignal.refl (signal : Signal) : SameSignal signal signal :=
  ⟨rfl, rfl, List.Perm.refl _⟩

/-- Every order of the compared conditions is that of some dictionary. -/
theorem exists_enumeration {entries : List Condition} (same : entries.Perm (compared conditions)) :
    ∃ otherConditions, SameConditions conditions otherConditions ∧
      compared otherConditions = entries := by
  let metadata := conditions.mapping.entries.filter fun condition => isMetadata condition.1
  have all : (entries ++ metadata).Perm conditions.mapping.entries := by
    refine (same.append_right metadata).trans ?_
    simpa [compared, metadata] using
      List.filter_append_perm (fun condition : Condition => !isMetadata condition.1)
        conditions.mapping.entries
  refine ⟨⟨⟨entries ++ metadata, (List.perm_nodupKeys all).mpr conditions.mapping.nodupKeys⟩,
    fun condition member => conditions.numbers condition (all.mem_iff.mp member)⟩, all, ?_⟩
  have kept : ∀ condition ∈ entries, (!isMetadata condition.1) = true := fun condition member =>
    (List.mem_filter.mp (same.mem_iff.mp member)).2
  simp only [compared, List.filter_append, List.filter_eq_self.mpr kept]
  simp [metadata]

end Enumerations

/-- What is answered does not depend on the orders if and only if the metadata differs, or fewer
conditions match than are needed, or so few do not match that the needed ones are always compared. -/
theorem order_free_iff (signal : Signal) (conditions : Conditions) :
    OrderFree signal conditions ↔
      metadataDiffers signal conditions = true ∨
        matchCount signal conditions < Constants.mistakePatternMatchIndicators ∨
        missCount signal conditions + Constants.mistakePatternMatchIndicators ≤
          Constants.mistakePatternTotalIndicators := by
  rw [matchCount, missCount,
    ← FirstPlaces.reached_order_free_iff (by decide) (by decide)]
  constructor
  · intro free
    by_cases differing : metadataDiffers signal conditions = true
    · exact .inl differing
    · right
      intro entries same
      obtain ⟨otherConditions, alike, rfl⟩ := exists_enumeration same
      have answers := free signal otherConditions (.refl signal) alike
      rw [Bool.eq_iff_iff, (SameSignal.refl signal).matches_pattern_iff alike,
        matches_pattern_iff] at answers
      simpa [differing] using answers
  · rintro limits other otherConditions same alike
    rw [Bool.eq_iff_iff, same.matches_pattern_iff alike, matches_pattern_iff]
    obtain differing | free := limits
    · simp [differing]
    · rw [free _ alike.compared]

/-- A signal with six indicators that are all one. -/
def evenSignal : Signal where
  regime := "trending"
  strategy := "legacy_sma"
  indicators := ⟨[⟨"atr", 1⟩, ⟨"sma_fast", 1⟩, ⟨"sma_slow", 1⟩, ⟨"trend_strength", 1⟩,
    ⟨"rr_ratio", 1⟩, ⟨"stop_distance", 1⟩], by simp [List.NodupKeys]⟩

/-- Six conditions, the first three of which match the signal. -/
def matchesFirst : Conditions where
  mapping := ⟨[⟨"atr", .number 1⟩, ⟨"sma_fast", .number 1⟩, ⟨"sma_slow", .number 1⟩,
    ⟨"trend_strength", .number 2⟩, ⟨"rr_ratio", .number 2⟩, ⟨"stop_distance", .number 2⟩],
    by simp [List.NodupKeys]⟩
  numbers := by simp

/-- The same conditions from the last to the first. -/
def matchesLast : Conditions where
  mapping := ⟨[⟨"stop_distance", .number 2⟩, ⟨"rr_ratio", .number 2⟩, ⟨"trend_strength", .number 2⟩,
    ⟨"sma_slow", .number 1⟩, ⟨"sma_fast", .number 1⟩, ⟨"atr", .number 1⟩], by simp [List.NodupKeys]⟩
  numbers := by simp

/-- One order of the conditions matches, and the reverse order does not. -/
theorem reversed_conditions_unmatched :
    SameConditions matchesFirst matchesLast ∧ matchesPattern evenSignal matchesFirst = true ∧
      matchesPattern evenSignal matchesLast = false := by
  refine ⟨?_, by decide +kernel, by decide +kernel⟩
  exact List.reverse_perm matchesFirst.mapping.entries

end IgTradingBot.PatternMatching
