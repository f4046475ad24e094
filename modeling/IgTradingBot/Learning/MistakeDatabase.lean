import IgTradingBot.Learning.MistakeAnalyzer
import IgTradingBot.Library.SharedObjects

/-!
# Mistake database in memory

The storage of `src/learning/mistake_database.py` that keeps its own lists, and the analyzer over
it. Patterns that are read are the stored objects: the analyzer holds references, and what it
changes is changed in the storage at once. The lists answer every access.
-/

namespace IgTradingBot

/-- Records and patterns in order of their creation. -/
structure MistakeDatabase where
  records : List MistakeRecord := []
  patterns : List MistakePattern := []

namespace MistakeDatabase

/-- Persist a record. -/
def storeRecord (record : MistakeRecord) (mistakeDb : MistakeDatabase) : MistakeDatabase :=
  { mistakeDb with records := mistakeDb.records ++ [record] }

/-- Records of a class since a time, in the order in which they were stored. -/
def getRecordsByClassification (classification : MistakeClassification) (since : ℚ)
    (mistakeDb : MistakeDatabase) : List MistakeRecord :=
  mistakeDb.records.filter fun record =>
    record.classification = classification ∧ since ≤ record.createdAt

/-- All active patterns. -/
def getActivePatterns (mistakeDb : MistakeDatabase) : List ℕ :=
  SharedObjects.references (·.active) mistakeDb.patterns

/-- The active pattern of a class. -/
def getPatternByClassification (classification : MistakeClassification)
    (mistakeDb : MistakeDatabase) : Option (MistakePattern × ℕ) :=
  SharedObjects.first (fun pattern => pattern.classification = classification && pattern.active)
    mistakeDb.patterns

/-- Change a pattern that is held. -/
def assign (reference : ℕ) (change : MistakePattern → MistakePattern)
    (mistakeDb : MistakeDatabase) : MistakeDatabase :=
  { mistakeDb with patterns := SharedObjects.assign reference change mistakeDb.patterns }

/-- Partial update of a pattern by its identifier. -/
def updatePattern (patternId : String) (change : MistakePattern → MistakePattern)
    (mistakeDb : MistakeDatabase) : MistakeDatabase :=
  { mistakeDb with
      patterns := SharedObjects.updateFirst (fun pattern => pattern.id = patternId) change
        mistakeDb.patterns }

/-- Activate or deactivate a pattern. -/
def updatePatternStatus (patternId : String) (active : Bool) : MistakeDatabase → MistakeDatabase :=
  updatePattern patternId fun pattern => { pattern with active }

/-- Create a pattern. -/
def createPattern (pattern : MistakePattern) (mistakeDb : MistakeDatabase) : MistakeDatabase :=
  { mistakeDb with patterns := mistakeDb.patterns ++ [pattern] }

end MistakeDatabase

/-- The analyzer over a database in memory, with references to the patterns that it applies. -/
structure InMemoryAnalyzer where
  mistakeDb : MistakeDatabase := {}
  activePatterns : List ℕ := []

namespace InMemoryAnalyzer

open MistakeAnalyzer (patternWindow newPattern reactivate matchesPattern signalOf)

/-- Store a record. -/
def storeRecord (record : MistakeRecord) (analyzer : InMemoryAnalyzer) : InMemoryAnalyzer :=
  { analyzer with mistakeDb := analyzer.mistakeDb.storeRecord record }

/-- The resolved pattern of a class. -/
def resolvedPattern (classification : MistakeClassification) (analyzer : InMemoryAnalyzer) :
    Option (MistakePattern × ℕ) :=
  SharedObjects.first (fun pattern => pattern.classification = classification && !pattern.active)
    analyzer.mistakeDb.patterns

/-- A pattern is equal to one that is applied, field for field. -/
def applies (reference : ℕ) (analyzer : InMemoryAnalyzer) : Bool :=
  analyzer.activePatterns.any fun other =>
    analyzer.mistakeDb.patterns[other]? = analyzer.mistakeDb.patterns[reference]?

/-- Reactivate the resolved pattern of a class. -/
def reactivatePattern (classification : MistakeClassification) (analyzer : InMemoryAnalyzer) :
    InMemoryAnalyzer :=
  match analyzer.resolvedPattern classification with
  | none => analyzer
  | some (resolved, reference) =>
    let updated := { analyzer with
      mistakeDb := (analyzer.mistakeDb.assign reference reactivate).updatePattern resolved.id
        reactivate }
    if updated.applies reference then updated
    else { updated with activePatterns := updated.activePatterns ++ [reference] }

/-- The pattern of a class after the losses in its window: an active one is updated, a resolved one
reactivated, and otherwise a new one created. -/
def flagPattern (script : DetectScript) (classification : MistakeClassification)
    (analyzer : InMemoryAnalyzer) : InMemoryAnalyzer :=
  let records := analyzer.mistakeDb.getRecordsByClassification classification
    (script.now - patternWindow)
  if records.length < Constants.mistakePatternThreshold then analyzer
  else
    match analyzer.mistakeDb.getPatternByClassification classification with
    | some (existing, reference) =>
      let update := fun pattern : MistakePattern =>
        { pattern with
            lossCount := records.length
            lastOccurrence := (records.getLast?.map (·.createdAt)).getD 0 }
      { analyzer with
          mistakeDb := (analyzer.mistakeDb.assign reference update).updatePattern existing.id
            update }
    | none =>
      match analyzer.resolvedPattern classification with
      | some _ => analyzer.reactivatePattern classification
      | none =>
        { mistakeDb := analyzer.mistakeDb.createPattern (newPattern script classification records)
          activePatterns := analyzer.activePatterns ++ [analyzer.mistakeDb.patterns.length] }

/-- Check all classes for patterns. -/
def detectPatterns (script : DetectScript) (analyzer : InMemoryAnalyzer) : InMemoryAnalyzer :=
  MistakeClassification.all.foldl
    (fun analyzer classification => analyzer.flagPattern script classification) analyzer

/-- Set the streak of a pattern. -/
def setProgress (pattern : MistakePattern) (reference progress : ℕ) (analyzer : InMemoryAnalyzer) :
    InMemoryAnalyzer :=
  let update := fun pattern : MistakePattern => { pattern with resolutionProgress := progress }
  { analyzer with
      mistakeDb := (analyzer.mistakeDb.assign reference update).updatePattern pattern.id update }

/-- Resolve a pattern: it is deactivated and applied no more. -/
def resolvePattern (pattern : MistakePattern) (reference : ℕ) (analyzer : InMemoryAnalyzer) :
    InMemoryAnalyzer :=
  let mistakeDb := (analyzer.mistakeDb.assign reference fun pattern =>
    { pattern with
        resolutionProgress := pattern.resolutionProgress + 1
        active := false }).updatePatternStatus pattern.id false
  { mistakeDb
    activePatterns := analyzer.activePatterns.filter fun other =>
      (mistakeDb.patterns[other]?).map (·.id) ≠ some pattern.id }

/-- The streak of an active pattern after a trade that it matches. -/
def trackReference (trade : ClosedTrade) (analyzer : InMemoryAnalyzer) (reference : ℕ) :
    InMemoryAnalyzer :=
  match analyzer.mistakeDb.patterns[reference]? with
  | none => analyzer
  | some pattern =>
    if pattern.active && matchesPattern (signalOf trade) pattern then
      if 0 < trade.pnl then
        if Constants.mistakeResolutionStreak ≤ pattern.resolutionProgress + 1 then
          analyzer.resolvePattern pattern reference
        else analyzer.setProgress pattern reference (pattern.resolutionProgress + 1)
      else analyzer.setProgress pattern reference 0
    else analyzer

/-- Update the streaks of the active patterns that a closed trade matches. -/
def updateResolutionProgress (trade : ClosedTrade) (analyzer : InMemoryAnalyzer) :
    InMemoryAnalyzer :=
  analyzer.activePatterns.foldl (trackReference trade) analyzer

/-- Load the active patterns at startup. -/
def loadPatternsOnStartup (analyzer : InMemoryAnalyzer) : InMemoryAnalyzer :=
  { analyzer with activePatterns := analyzer.mistakeDb.getActivePatterns }

end InMemoryAnalyzer

end IgTradingBot
