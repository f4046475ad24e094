import IgTradingBot.Config.Constants
import IgTradingBot.Core.Values
import IgTradingBot.Library.Programs
import Mathlib.Data.List.MinMax
import Mathlib.Data.List.Sort
import Mathlib.Algebra.Order.Field.Rat
import Mathlib.Algebra.BigOperators.Group.List.Basic

/-!
# Mistake analyzer

The self-learning analysis of `src/learning/mistake_analyzer.py` over the persistent storage
of `src/learning/mistake_database.py`. The analyzer keeps the active patterns in memory,
beside the table of patterns; a row that is read is a copy. The database answers each access
or raises; an access that raises leaves its table as it was.

Indicator values are exact, and a set of indicator names is iterated in an order that the
run chooses.
-/

namespace IgTradingBot

open Sequential Sequential.Program

/-- The indicators that the loop records. None of the names begins with an underscore. -/
inductive Indicator where
  | atr
  | smaFast
  | smaSlow
  | trendStrength
  | rrRatio
  | stopDistance
  | limitDistance
  | tp1Distance
  | spreadAtrRatio
  | expectedVolatility
  deriving DecidableEq, Repr

/-- A dictionary of indicator values. -/
abbrev Indicators := Indicator → Option ℚ

/-- An order in which a set of indicators is iterated. -/
structure KeyOrder where
  keys : List Indicator
  nodup : keys.Nodup
  complete : ∀ key, key ∈ keys

/-- Six categories of root causes. -/
inductive MistakeClassification where
  | counterTrend
  | falseBreakout
  | volatilityMisjudgment
  | poorTiming
  | overexposure
  | regimeMisclassification
  deriving DecidableEq, Repr

/-- The categories in the order of their enumeration. -/
def MistakeClassification.all : List MistakeClassification :=
  [.counterTrend, .falseBreakout, .volatilityMisjudgment, .poorTiming, .overexposure,
    .regimeMisclassification]

/-- Every class is in the enumeration. -/
theorem MistakeClassification.mem_all (classification : MistakeClassification) :
    classification ∈ MistakeClassification.all := by
  cases classification <;> decide

/-- A signal as it is compared with patterns. -/
structure TradeSignal where
  regime : String
  strategy : String
  indicators : Indicators

/-- Market conditions at the entry of a trade. -/
structure EntryConditions where
  direction : String
  instrument : String
  entryPrice : ℚ
  exitPrice : ℚ
  size : ℚ
  deriving DecidableEq, Repr

/-- A closed trade for analysis and resolution tracking. -/
structure ClosedTrade where
  tradeId : String
  regime : String
  strategy : String
  indicators : Indicators
  confidenceAtEntry : ℤ
  exitReason : String
  pnl : ℚ
  entryConditions : EntryConditions

/-- What the market did after the entry. -/
structure MarketOutcome where
  actualDirection : String
  volatilityRealized : ℚ
  regimeActual : String
  breakoutConfirmed : Bool := true
  timingOptimal : Bool := true

/-- Record of a losing trade. -/
structure MistakeRecord where
  tradeId : String
  classification : MistakeClassification
  entryConditions : EntryConditions
  regime : String
  strategy : String
  indicators : Indicators
  confidenceAtEntry : ℤ
  exitReason : String
  pnl : ℚ
  createdAt : ℚ

/-- Conditions of a pattern: the metadata under underscored names, and the averaged values in
the order of the dictionary. -/
structure IndicatorConditions where
  regime : Option String := none
  strategy : Option String := none
  averages : List (Indicator × ℚ) := []
  deriving DecidableEq, Repr

/-- Detected pattern with its penalties. -/
structure MistakePattern where
  id : String
  classification : MistakeClassification
  lossCount : ℕ
  firstOccurrence : ℚ
  lastOccurrence : ℚ
  active : Bool
  reactivated : Bool
  confidencePenalty : ℤ
  sizeReduction : ℚ
  resolutionProgress : ℕ
  indicatorConditions : IndicatorConditions
  deriving DecidableEq, Repr

/-- The two tables, and the patterns that the analyzer has in memory. Patterns are stored
newest first. -/
structure MistakeMemory where
  records : List MistakeRecord := []
  patterns : List MistakePattern := []
  activePatterns : List MistakePattern := []

/-- Programs of the analyzer. -/
abbrev LearningProgram := Program Failure MistakeMemory

/-- What a detection meets: the time, the identifiers and set orders for new patterns, and the
classes for which the database answers. -/
structure DetectScript where
  now : ℚ
  patternId : MistakeClassification → String
  keyOrder : MistakeClassification → KeyOrder
  answered : MistakeClassification → Bool := fun _ => true

namespace MistakeAnalyzer

/-- Seconds of the window in which losses are counted. -/
def patternWindow : ℚ := Constants.mistakePatternWindowDays * 86400

/-- A value within 20% of the averaged one. -/
def indicatorMatches (signalValue patternValue : ℚ) : Bool :=
  if patternValue = 0 then decide (|signalValue| < 1 / 100)
  else decide (|signalValue - patternValue| ≤ |patternValue| * (20 / 100))

/-- The indicator of a condition is present and matches. -/
def conditionMatches (signal : TradeSignal) (condition : Indicator × ℚ) : Bool :=
  match signal.indicators condition.1 with
  | some signalValue => indicatorMatches signalValue condition.2
  | none => false

/-- Stored metadata that differs from a signal's. -/
def differs (stored : Option String) (value : String) : Bool :=
  truthyText stored && decide (stored ≠ some value)

/-- Enough of the first indicators match. -/
def indicatorsMatch (signal : TradeSignal) (conditions : IndicatorConditions) : Bool :=
  decide (Constants.mistakePatternMatchIndicators ≤
    (conditions.averages.take Constants.mistakePatternTotalIndicators).countP
      (conditionMatches signal))

/-- Check a signal against a pattern. -/
def matchesPattern (signal : TradeSignal) (pattern : MistakePattern) : Bool :=
  if differs pattern.indicatorConditions.regime signal.regime then false
  else if differs pattern.indicatorConditions.strategy signal.strategy then false
  else indicatorsMatch signal pattern.indicatorConditions

/-- Total confidence penalty of all matching active patterns. -/
def getConfidencePenalty (memory : MistakeMemory) (signal : TradeSignal) : ℤ :=
  ((memory.activePatterns.filter fun pattern =>
    pattern.active && matchesPattern signal pattern).map (·.confidencePenalty)).sum

/-- Product of the size reductions of all matching active patterns. -/
def getSizeReductionFactor (memory : MistakeMemory) (signal : TradeSignal) : ℚ :=
  ((memory.activePatterns.filter fun pattern =>
    pattern.active && matchesPattern signal pattern).map (·.sizeReduction)).prod

/-- Classify a losing trade. -/
def classifyMistake (trade : ClosedTrade) (outcome : MarketOutcome) : MistakeClassification :=
  if trade.regime ≠ outcome.regimeActual then .regimeMisclassification
  else if trade.entryConditions.direction ≠ "" ∧
      trade.entryConditions.direction ≠ outcome.actualDirection then .counterTrend
  else if !outcome.breakoutConfirmed then .falseBreakout
  else
    let expected := (trade.indicators .expectedVolatility).getD 0
    if 0 < expected ∧ expected * 2 < outcome.volatilityRealized then .volatilityMisjudgment
    else if trade.exitReason ∈ ["margin_call", "exposure_limit", "overexposure"] then .overexposure
    else .poorTiming

/-- Record of a losing trade, created now. -/
def recordMistake (trade : ClosedTrade) (classification : MistakeClassification) (now : ℚ) :
    MistakeRecord :=
  { tradeId := trade.tradeId, classification, entryConditions := trade.entryConditions
    regime := trade.regime, strategy := trade.strategy, indicators := trade.indicators
    confidenceAtEntry := trade.confidenceAtEntry, exitReason := trade.exitReason
    pnl := trade.pnl, createdAt := now }

/-- The most common of some values, the first of them on a tie. -/
def mostCommon (values : List String) : Option String :=
  values.argmax fun value => values.count value

/-- Average of the recorded values of an indicator, if there are any. -/
def averageOf (records : List MistakeRecord) (key : Indicator) : Option (Indicator × ℚ) :=
  match records.filterMap fun record => record.indicators key with
  | [] => none
  | values => some (key, values.sum / values.length)

/-- Average the indicators of some records, with the most common regime and strategy. -/
def averageIndicators (order : KeyOrder) (records : List MistakeRecord) : IndicatorConditions where
  regime := mostCommon ((records.map (·.regime)).filter (· ≠ ""))
  strategy := mostCommon ((records.map (·.strategy)).filter (· ≠ ""))
  averages := order.keys.filterMap (averageOf records)

end MistakeAnalyzer

namespace MistakeMemory

/-- Records of a class since a time, in order of their creation. -/
def recordsByClassification (classification : MistakeClassification) (since : ℚ)
    (memory : MistakeMemory) : List MistakeRecord :=
  (memory.records.filter fun record =>
    record.classification = classification ∧ since ≤ record.createdAt).insertionSort
      fun earlier later => earlier.createdAt ≤ later.createdAt

/-- The active pattern of a class. -/
def patternByClassification (classification : MistakeClassification) (memory : MistakeMemory) :
    Option MistakePattern :=
  memory.patterns.find? fun pattern => pattern.classification = classification && pattern.active

/-- The resolved pattern of a class. -/
def resolvedPattern (classification : MistakeClassification) (memory : MistakeMemory) :
    Option MistakePattern :=
  memory.patterns.find? fun pattern => pattern.classification = classification && !pattern.active

/-- Update the row of a pattern. -/
def updatePattern (id : String) (change : MistakePattern → MistakePattern)
    (memory : MistakeMemory) : MistakeMemory :=
  { memory with
      patterns := memory.patterns.map fun pattern =>
        if pattern.id = id then change pattern else pattern }

/-- Change a pattern in memory. -/
def updateActive (id : String) (change : MistakePattern → MistakePattern)
    (memory : MistakeMemory) : MistakeMemory :=
  { memory with
      activePatterns := memory.activePatterns.map fun pattern =>
        if pattern.id = id then change pattern else pattern }

end MistakeMemory

namespace MistakeAnalyzer

/-- Access the database, which may raise. -/
def access (answered : Bool) (change : MistakeMemory → MistakeMemory) : LearningProgram Unit :=
  if answered then modify change else raise .database

/-- Store a record. -/
def storeRecord (stored : Bool) (record : MistakeRecord) : LearningProgram Unit :=
  access stored fun memory => { memory with records := memory.records ++ [record] }

/-- A pattern with the increased penalties of a reactivation. -/
def reactivate (pattern : MistakePattern) : MistakePattern :=
  { pattern with
      active := true
      reactivated := true
      confidencePenalty := Constants.mistakeReactivatedConfidencePenalty
      sizeReduction := Constants.mistakeReactivatedSizeReduction
      resolutionProgress := 0 }

/-- Reactivate the resolved pattern of a class. -/
def reactivatePattern (classification : MistakeClassification) (memory : MistakeMemory) :
    MistakeMemory :=
  match memory.resolvedPattern classification with
  | none => memory
  | some resolved =>
    let updated := memory.updatePattern resolved.id reactivate
    if reactivate resolved ∈ updated.activePatterns then updated
    else { updated with activePatterns := updated.activePatterns ++ [reactivate resolved] }

/-- A new pattern of some records. -/
def newPattern (script : DetectScript) (classification : MistakeClassification)
    (records : List MistakeRecord) : MistakePattern where
  id := script.patternId classification
  classification := classification
  lossCount := records.length
  firstOccurrence := (records.head?.map (·.createdAt)).getD 0
  lastOccurrence := (records.getLast?.map (·.createdAt)).getD 0
  active := true
  reactivated := false
  confidencePenalty := Constants.mistakeBaseConfidencePenalty
  sizeReduction := Constants.mistakeBaseSizeReduction
  resolutionProgress := 0
  indicatorConditions := averageIndicators (script.keyOrder classification) records

/-- The pattern of a class after the losses in its window: an active one is updated, a resolved
one reactivated, and otherwise a new one created. -/
def flagPattern (script : DetectScript) (classification : MistakeClassification)
    (memory : MistakeMemory) : MistakeMemory :=
  let records := memory.recordsByClassification classification (script.now - patternWindow)
  if records.length < Constants.mistakePatternThreshold then memory
  else
    match memory.patternByClassification classification with
    | some existing =>
      memory.updatePattern existing.id fun pattern =>
        { pattern with
            lossCount := records.length
            lastOccurrence := (records.getLast?.map (·.createdAt)).getD 0 }
    | none =>
      match memory.resolvedPattern classification with
      | some _ => reactivatePattern classification memory
      | none =>
        let pattern := newPattern script classification records
        { memory with
            patterns := pattern :: memory.patterns
            activePatterns := memory.activePatterns ++ [pattern] }

/-- Check all classes for patterns; the first access that raises ends the check. -/
def detectPatterns (script : DetectScript) : LearningProgram Unit :=
  forEach MistakeClassification.all fun classification =>
    access (script.answered classification) (flagPattern script classification)

/-- Set the streak of a pattern, in memory before the database. -/
def setProgress (saved : Bool) (progress : ℕ) (pattern : MistakePattern) : LearningProgram Unit := do
  modify fun memory => memory.updateActive pattern.id fun pattern =>
    { pattern with resolutionProgress := progress }
  access saved fun memory => memory.updatePattern pattern.id fun pattern =>
    { pattern with resolutionProgress := progress }

/-- Resolve a pattern, in memory before the database; it leaves the memory last. -/
def resolvePattern (saved : Bool) (pattern : MistakePattern) : LearningProgram Unit := do
  modify fun memory => memory.updateActive pattern.id fun pattern =>
    { pattern with resolutionProgress := pattern.resolutionProgress + 1, active := false }
  access saved fun memory => memory.updatePattern pattern.id fun pattern =>
    { pattern with active := false }
  modify fun memory =>
    { memory with activePatterns := memory.activePatterns.filter (·.id ≠ pattern.id) }

/-- The streak of a pattern: a profit counts, and resolves the pattern in the end, and any other
outcome starts it anew. -/
def trackPattern (saved profitable : Bool) (pattern : MistakePattern) : LearningProgram Unit :=
  if profitable then
    if Constants.mistakeResolutionStreak ≤ pattern.resolutionProgress + 1 then
      resolvePattern saved pattern
    else setProgress saved (pattern.resolutionProgress + 1) pattern
  else setProgress saved 0 pattern

/-- A closed trade as a signal. -/
def signalOf (trade : ClosedTrade) : TradeSignal := ⟨trade.regime, trade.strategy, trade.indicators⟩

/-- Update the streaks of the active patterns that a closed trade matches. -/
def updateResolutionProgress (saved : Bool) (trade : ClosedTrade) : LearningProgram Unit := do
  let patterns ← read (·.activePatterns)
  forEach patterns fun pattern =>
    if pattern.active && matchesPattern (signalOf trade) pattern then
      trackPattern saved (decide (0 < trade.pnl)) pattern
    else pure ()

/-- Load the active patterns at startup, the last occurrence first. A failure is reported by the
caller, and the new analyzer has no pattern then. -/
def loadPatternsOnStartup (loaded : Bool) (memory : MistakeMemory) : MistakeMemory :=
  { memory with
      activePatterns :=
        if loaded then
          (memory.patterns.filter (·.active)).insertionSort fun first second =>
            second.lastOccurrence ≤ first.lastOccurrence
        else [] }

/-- A flag adds no record. -/
theorem flag_pattern_records (script : DetectScript) (classification : MistakeClassification)
    (memory : MistakeMemory) :
    (flagPattern script classification memory).records = memory.records := by
  unfold flagPattern
  dsimp only
  split
  · rfl
  · split
    · rfl
    · split
      · unfold reactivatePattern
        split
        · rfl
        · dsimp only
          split <;> rfl
      · rfl

/-- The patterns in memory after a start are the active rows, or there are none. -/
theorem mem_load_patterns {loaded : Bool} {memory : MistakeMemory} {pattern : MistakePattern} :
    pattern ∈ (loadPatternsOnStartup loaded memory).activePatterns ↔
      loaded = true ∧ pattern ∈ memory.patterns ∧ pattern.active = true := by
  unfold loadPatternsOnStartup
  cases loaded with
  | false => simp
  | true =>
    rw [if_pos rfl, List.mem_insertionSort, List.mem_filter]
    exact (and_iff_right rfl).symm

section Rules

variable {invariant : MistakeMemory → Prop}

/-- What a flag of every class keeps, a detection keeps. -/
theorem keeps_detect_patterns {script : DetectScript}
    (flags : ∀ classification memory, invariant memory →
      invariant (flagPattern script classification memory)) :
    Keeps invariant (detectPatterns script) := by
  apply keeps_forEach
  intro classification _
  apply keeps_ite
  · exact fun _ => keeps_modify (flags classification)
  · exact fun _ => keeps_raise _

/-- What every progress and every resolution of a pattern keeps, tracking a trade keeps. -/
theorem keeps_update_resolution_progress {saved : Bool}
    (sets : ∀ progress pattern, Keeps invariant (setProgress saved progress pattern))
    (resolves : ∀ pattern, Keeps invariant (resolvePattern saved pattern)) (trade : ClosedTrade) :
    Keeps invariant (updateResolutionProgress saved trade) := by
  apply keeps_bind (keeps_read _)
  intro patterns
  apply keeps_forEach
  intro pattern _
  apply keeps_ite
  · intro _
    apply keeps_ite
    · intro _
      apply keeps_ite
      · exact fun _ => resolves pattern
      · exact fun _ => sets _ pattern
    · exact fun _ => sets 0 pattern
  · exact fun _ => keeps_pure ()

end Rules

end MistakeAnalyzer

end IgTradingBot
