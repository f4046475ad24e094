import IgTradingBot.Learning.AnalyzerRuns
import IgTradingBot.Learning.IdenticalLosses

/-!
# Reactivation of resolved patterns

A resolved pattern should come back only after enough new losses. A detection counts all losses of
a class in its window, also those from before the pattern was resolved, so one new loss can be
enough. The chronicle notes how many losses were recorded when a pattern was last deactivated:
those after them are the new ones.
-/

namespace IgTradingBot

open Sequential Sequential.Program

/-- The text of a class in the storage. -/
def MistakeClassification.value : MistakeClassification → String
  | .counterTrend => "counter_trend_entry"
  | .falseBreakout => "false_breakout"
  | .volatilityMisjudgment => "volatility_misjudgment"
  | .poorTiming => "poor_timing"
  | .overexposure => "overexposure"
  | .regimeMisclassification => "regime_misclassification"

/-- The memory of the analyzer, and for each pattern the number of records when it was last
deactivated. -/
structure EvidenceChronicle where
  memory : MistakeMemory := {}
  deactivatedAt : String → ℕ := fun _ => 0

namespace EvidenceChronicle

/-- An operation, noted in the chronicle. -/
def step (chronicle : EvidenceChronicle) (operation : AnalyzerOperation) : EvidenceChronicle :=
  let next := chronicle.memory.operate operation
  { memory := next
    deactivatedAt := fun id =>
      if Deactivated chronicle.memory.patterns next.patterns id then next.records.length
      else chronicle.deactivatedAt id }

/-- The losses of the class of a pattern that were recorded after its deactivation and are in the
window of a detection. -/
def freshLosses (chronicle : EvidenceChronicle) (script : DetectScript) (row : MistakePattern) :
    List MistakeRecord :=
  (chronicle.memory.records.drop (chronicle.deactivatedAt row.id)).filter fun record =>
    record.classification = row.classification ∧
      script.now - MistakeAnalyzer.patternWindow ≤ record.createdAt

/-- A resolved pattern that an operation brings back has enough new losses. -/
def ReactivatesOnEvidence (chronicle : EvidenceChronicle) (operation : AnalyzerOperation) : Prop :=
  ∀ row ∈ chronicle.memory.patterns, row.active = false →
    (∃ after ∈ (chronicle.step operation).memory.patterns,
      after.id = row.id ∧ after.active = true) →
    ∃ script, operation = .detectPatterns script ∧
      Constants.mistakePatternThreshold ≤ (chronicle.freshLosses script row).length

/-- Where a detection finds enough losses of the class of a resolved pattern in its window, enough
of them are new. -/
def EnoughFresh (chronicle : EvidenceChronicle) : AnalyzerOperation → Prop
  | .detectPatterns script => ∀ row ∈ chronicle.memory.patterns, row.active = false →
    row.classification ∈ MistakeMemory.reached script MistakeClassification.all →
    chronicle.memory.Enough script row.classification →
      Constants.mistakePatternThreshold ≤ (chronicle.freshLosses script row).length
  | _ => True

/-- The operation analyses losses or follows trades: it asks for no reactivation itself. -/
def Analyses : AnalyzerOperation → Prop
  | .reactivatePattern _ _ => False
  | _ => True

/-- A run of analysed losses and followed trades, with new identifiers for new patterns. -/
def Admissible (chronicle : EvidenceChronicle) (operation : AnalyzerOperation) : Prop :=
  Analyses operation ∧ chronicle.memory.FreshIds operation

instance (operation : AnalyzerOperation) : Decidable (Analyses operation) :=
  match operation with
  | .reactivatePattern _ _ => inferInstanceAs (Decidable False)
  | .storeRecord _ _ => inferInstanceAs (Decidable True)
  | .detectPatterns _ => inferInstanceAs (Decidable True)
  | .updateResolutionProgress _ _ => inferInstanceAs (Decidable True)
  | .restarted _ => inferInstanceAs (Decidable True)

instance (chronicle : EvidenceChronicle) :
    ∀ operation, Decidable (chronicle.EnoughFresh operation)
  | .detectPatterns _ => inferInstanceAs (Decidable (∀ row ∈ _, _ → _ → _ → _))
  | .storeRecord _ _ => inferInstanceAs (Decidable True)
  | .updateResolutionProgress _ _ => inferInstanceAs (Decidable True)
  | .reactivatePattern _ _ => inferInstanceAs (Decidable True)
  | .restarted _ => inferInstanceAs (Decidable True)

instance (chronicle : EvidenceChronicle) (operation : AnalyzerOperation) :
    Decidable (chronicle.Admissible operation) :=
  inferInstanceAs (Decidable (_ ∧ _))

/-- Rows that come from those of a table: none of them is active that was not. -/
def NoneBack (rows : List MistakePattern) (memory : MistakeMemory) : Prop :=
  ∀ after ∈ memory.patterns, ∃ before ∈ rows,
    before.id = after.id ∧ (after.active = true → before.active = true)

section Laws

variable {chronicle : EvidenceChronicle} {rows : List MistakePattern}

/-- An update that brings nothing back. -/
theorem NoneBack.update {memory : MistakeMemory} (none : NoneBack rows memory) (id : String)
    {change : MistakePattern → MistakePattern}
    (keeps : ∀ row, (change row).id = row.id ∧
      ((change row).active = true → row.active = true)) :
    NoneBack rows (memory.updatePattern id change) := by
  intro after stored
  obtain ⟨row, wasStored, rfl⟩ := List.mem_map.mp stored
  obtain ⟨before, among, sameId, wasActive⟩ := none row wasStored
  refine ⟨before, among, ?_⟩
  split_ifs
  · exact ⟨sameId.trans (keeps row).1.symm, fun active => wasActive ((keeps row).2 active)⟩
  · exact ⟨sameId, wasActive⟩

/-- Following a trade brings nothing back. -/
theorem none_back_progress (memory : MistakeMemory) (saved : Bool) (trade : ClosedTrade) :
    NoneBack memory.patterns
      (MistakeAnalyzer.updateResolutionProgress saved trade memory).2 := by
  have kept : Keeps (NoneBack memory.patterns)
      (MistakeAnalyzer.updateResolutionProgress saved trade) := by
    apply MistakeAnalyzer.keeps_update_resolution_progress
    · intro progress pattern
      refine keeps_of_final fun current none => ?_
      rw [MistakeMemory.set_progress_final]
      dsimp only
      split_ifs
      · exact NoneBack.update none pattern.id fun _ => ⟨rfl, id⟩
      · exact none
    · intro pattern
      refine keeps_of_final fun current none => ?_
      rw [MistakeMemory.resolve_pattern_final]
      dsimp only
      split_ifs
      · exact NoneBack.update none pattern.id fun _ => ⟨rfl, fun active => by cases active⟩
      · exact none
  exact kept.final fun row stored => ⟨row, stored, rfl, id⟩

/-- Where nothing comes back, no resolved pattern is reactivated. -/
theorem reactivates_of_none_back (tidy : chronicle.memory.Tidy) {operation : AnalyzerOperation}
    (none : NoneBack chronicle.memory.patterns (chronicle.memory.operate operation)) :
    chronicle.ReactivatesOnEvidence operation := by
  rintro row stored inactive ⟨after, isAfter, sameId, active⟩
  obtain ⟨before, among, isBefore, wasActive⟩ := none after isAfter
  rw [← tidy.eq_of_id among stored (isBefore.trans sameId), wasActive active] at inactive
  exact absurd inactive (by decide)

/-- An operation brings patterns back on evidence exactly where enough of the losses that it
counts are new. -/
theorem reactivates_iff (tidy : chronicle.memory.Tidy) {operation : AnalyzerOperation}
    (admissible : chronicle.Admissible operation) :
    chronicle.ReactivatesOnEvidence operation ↔ chronicle.EnoughFresh operation := by
  obtain ⟨analyses, fresh⟩ := admissible
  cases operation with
  | reactivatePattern classification answered => exact absurd analyses id
  | storeRecord record stored =>
    refine iff_of_true (reactivates_of_none_back tidy fun row isRow => ⟨row, ?_, rfl, id⟩) trivial
    cases stored <;> exact isRow
  | updateResolutionProgress trade saved =>
    exact iff_of_true (reactivates_of_none_back tidy (none_back_progress _ saved trade)) trivial
  | restarted loaded =>
    exact iff_of_true
      (reactivates_of_none_back tidy fun row isRow => ⟨row, isRow, rfl, id⟩) trivial
  | detectPatterns script =>
    have detects := tidy.detects_all fresh
    constructor
    · intro evidence row stored inactive isReached enough
      obtain ⟨other, same, long⟩ := evidence row stored inactive
        ((detects.back_iff stored inactive).mpr ⟨isReached, enough⟩)
      obtain rfl := AnalyzerOperation.detectPatterns.inj same
      exact long
    · intro enoughFresh row stored inactive back
      obtain ⟨isReached, enough⟩ := (detects.back_iff stored inactive).mp back
      exact ⟨script, rfl, enoughFresh row stored inactive isReached enough⟩

end Laws

/-- In every run of analysed losses and followed trades: each resolved pattern that comes back has
enough new losses in the window, exactly when every detection that finds enough losses of the
class of a resolved pattern finds enough new ones. -/
theorem reactivated_on_evidence_iff (operations : List AnalyzerOperation)
    (admissible : Machines.Conforms step Admissible {} operations) :
    (∀ reached operation, reached ++ [operation] <+: operations →
        (Machines.after step {} reached).ReactivatesOnEvidence operation) ↔
      Machines.Conforms step EnoughFresh {} operations := by
  rw [← Machines.conforms_iff_forall_prefix]
  have kept : ∀ (chronicle : EvidenceChronicle) operation, chronicle.memory.Tidy →
      chronicle.Admissible operation → (chronicle.step operation).memory.Tidy :=
    fun _ operation tidy admissible => tidy.operate operation admissible.2
  exact Machines.conforms_congr_under kept
    (fun _ _ tidy admissible => reactivates_iff tidy admissible) MistakeMemory.tidy_empty
    admissible

/-- A detection at a time, with a random part and the class for the identifiers of new patterns. -/
def detectionAt (time : ℚ) (random : String) : DetectScript :=
  { (MistakeMemory.lossAt MistakeMemory.legacySignal time).detection with
    patternId := fun classification => random ++ classification.value }

/-- A loss that is stored, and the detection after it. -/
def analysedLoss (time : ℚ) (random : String) : List AnalyzerOperation :=
  [.storeRecord (TradingLoop.mistakeOf (MistakeMemory.lossAt MistakeMemory.legacySignal time)) true,
    .detectPatterns (detectionAt time random)]

/-- A trade like those losses, closed with a profit. -/
def followedProfit (time : ℚ) : AnalyzerOperation :=
  .updateResolutionProgress
    (TradingLoop.closedTradeOf
      { MistakeMemory.lossAt MistakeMemory.legacySignal time with pnl := 10 }) true

/-- Five losses make a pattern, and twenty profits resolve it. -/
def resolvedRun : List AnalyzerOperation :=
  [0, 60, 120, 180, 240].flatMap (analysedLoss · "a") ++
    (List.replicate 20 300).map followedProfit

/-- Five losses from after a pattern was resolved, when those before it are out of the window,
bring it back. -/
theorem five_new_losses_reactivate :
    (∃ row ∈ (Machines.after step {} (resolvedRun ++
        (List.replicate 5 3000000).flatMap (analysedLoss · "b"))).memory.patterns,
      row.active = true ∧ row.reactivated = true) ∧
      ∀ reached operation, reached ++ [operation] <+: resolvedRun ++
          (List.replicate 5 3000000).flatMap (analysedLoss · "b") →
        (Machines.after step {} reached).ReactivatesOnEvidence operation :=
  ⟨by decide +kernel,
    (reactivated_on_evidence_iff _ (by decide +kernel)).mpr (by decide +kernel)⟩

/-- One new loss brings a pattern back, as the five from before it was resolved are counted
again. -/
theorem one_new_loss_reactivates :
    ¬∀ operations, Machines.Conforms step Admissible {} operations →
      ∀ reached operation, reached ++ [operation] <+: operations →
        (Machines.after step {} reached).ReactivatesOnEvidence operation := by
  intro claim
  let before := Machines.after step {} (resolvedRun ++ (analysedLoss 360 "b").take 1)
  let detection := detectionAt 360 "b"
  have evidence : before.ReactivatesOnEvidence (.detectPatterns detection) :=
    claim (resolvedRun ++ analysedLoss 360 "b") (by decide +kernel) _ _ (List.prefix_refl _)
  have brought : ∃ row ∈ before.memory.patterns, row.active = false ∧
      (∃ after ∈ (before.step (.detectPatterns detection)).memory.patterns,
        after.id = row.id ∧ after.active = true) ∧
      (before.freshLosses detection row).length = 1 := by decide +kernel
  obtain ⟨row, stored, inactive, back, single⟩ := brought
  obtain ⟨script, same, long⟩ := evidence row stored inactive back
  obtain rfl := AnalyzerOperation.detectPatterns.inj same
  exact absurd (single ▸ long) (by decide)

end EvidenceChronicle

end IgTradingBot
