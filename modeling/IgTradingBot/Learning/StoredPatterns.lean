import IgTradingBot.Learning.MistakeDatabase
import IgTradingBot.Learning.Reactivations

/-!
# Patterns of the database in memory

Runs of the analyzer over the database that keeps its own lists. What the analyzer changes through
a reference and what it then writes by the identifier is one object, as long as the identifiers of
new patterns are new. A history notes which objects came back after they were resolved.
-/

namespace IgTradingBot

/-- Operations of the analyzer over a database in memory. -/
inductive InMemoryOperation where
  | storeRecord (record : MistakeRecord)
  | detectPatterns (script : DetectScript)
  | updateResolutionProgress (trade : ClosedTrade)
  | reactivatePattern (classification : MistakeClassification)
  | loadPatternsOnStartup

/-- The two penalties of a pattern. -/
def MistakePattern.penalties (pattern : MistakePattern) : ℤ × ℚ :=
  (pattern.confidencePenalty, pattern.sizeReduction)

/-- The penalties of a pattern that was never reactivated. -/
def basePenalties : ℤ × ℚ :=
  (Constants.mistakeBaseConfidencePenalty, Constants.mistakeBaseSizeReduction)

/-- The penalties of a pattern that was reactivated. -/
def reactivatedPenalties : ℤ × ℚ :=
  (Constants.mistakeReactivatedConfidencePenalty, Constants.mistakeReactivatedSizeReduction)

/-- The penalties of a pattern that was or was not reactivated. -/
def penaltiesFor (reactivated : Bool) : ℤ × ℚ :=
  if reactivated then reactivatedPenalties else basePenalties

namespace InMemoryAnalyzer

open MistakeAnalyzer (newPattern reactivate matchesPattern signalOf)

/-- The analyzer after an operation. -/
def operate (analyzer : InMemoryAnalyzer) : InMemoryOperation → InMemoryAnalyzer
  | .storeRecord record => analyzer.storeRecord record
  | .detectPatterns script => analyzer.detectPatterns script
  | .updateResolutionProgress trade => analyzer.updateResolutionProgress trade
  | .reactivatePattern classification => analyzer.reactivatePattern classification
  | .loadPatternsOnStartup => analyzer.loadPatternsOnStartup

/-- The object of a reference. -/
def stored (analyzer : InMemoryAnalyzer) (reference : ℕ) : Option MistakePattern :=
  analyzer.mistakeDb.patterns[reference]?

/-- The analyzer with one object changed. -/
def assign (reference : ℕ) (change : MistakePattern → MistakePattern)
    (analyzer : InMemoryAnalyzer) : InMemoryAnalyzer :=
  { analyzer with mistakeDb := analyzer.mistakeDb.assign reference change }

/-- The identifiers of new patterns differ from one another and from those of the stored ones, as
random ones do. -/
def FreshIds (analyzer : InMemoryAnalyzer) : InMemoryOperation → Prop
  | .detectPatterns script =>
    (MistakeClassification.all.map script.patternId).Nodup ∧
      ∀ classification ∈ MistakeClassification.all, ∀ pattern ∈ analyzer.mistakeDb.patterns,
        pattern.id ≠ script.patternId classification
  | _ => True

instance (analyzer : InMemoryAnalyzer) : ∀ operation, Decidable (analyzer.FreshIds operation)
  | .detectPatterns _ => inferInstanceAs (Decidable (_ ∧ _))
  | .storeRecord _ => inferInstanceAs (Decidable True)
  | .updateResolutionProgress _ => inferInstanceAs (Decidable True)
  | .reactivatePattern _ => inferInstanceAs (Decidable True)
  | .loadPatternsOnStartup => inferInstanceAs (Decidable True)

/-- Identifiers and classes are unique, the analyzer applies the active patterns once each, and
their progress is below the streak that resolves them. -/
structure Kept (analyzer : InMemoryAnalyzer) : Prop where
  ids : (analyzer.mistakeDb.patterns.map (·.id)).Nodup
  classes : (analyzer.mistakeDb.patterns.map (·.classification)).Nodup
  once : analyzer.activePatterns.Nodup
  applied : ∀ reference, reference ∈ analyzer.activePatterns ↔
    ∃ pattern, analyzer.stored reference = some pattern ∧ pattern.active = true
  progress : ∀ reference pattern, analyzer.stored reference = some pattern →
    pattern.active = true → pattern.resolutionProgress < Constants.mistakeResolutionStreak

section Objects

variable {analyzer : InMemoryAnalyzer} {reference : ℕ} {pattern : MistakePattern}

/-- What a reference leads to after a change. -/
theorem stored_assign (reference other : ℕ) (change : MistakePattern → MistakePattern)
    (analyzer : InMemoryAnalyzer) :
    (analyzer.assign reference change).stored other =
      if reference = other then (analyzer.stored other).map change else analyzer.stored other :=
  SharedObjects.getElem_assign reference other change analyzer.mistakeDb.patterns

/-- A change through a reference and then by the identifier is one change. -/
theorem Kept.assign_update (kept : analyzer.Kept) (isStored : analyzer.stored reference = some pattern)
    {before : MistakePattern → MistakePattern} (after : MistakePattern → MistakePattern)
    (keeps : ∀ pattern, (before pattern).id = pattern.id) :
    (analyzer.mistakeDb.assign reference before).updatePattern pattern.id after =
      analyzer.mistakeDb.assign reference (after ∘ before) := by
  unfold MistakeDatabase.updatePattern MistakeDatabase.assign
  rw [SharedObjects.update_first_key kept.ids isStored keeps]

/-- An identifier has one reference. -/
theorem Kept.reference_unique (kept : analyzer.Kept) {other : ℕ} {otherPattern : MistakePattern}
    (isStored : analyzer.stored reference = some pattern)
    (otherStored : analyzer.stored other = some otherPattern)
    (same : pattern.id = otherPattern.id) : reference = other :=
  SharedObjects.reference_unique kept.ids isStored otherStored same

/-- A change of one object, and of whether it is applied. -/
theorem Kept.change (kept : analyzer.Kept) (isStored : analyzer.stored reference = some pattern)
    {change : MistakePattern → MistakePattern} {activePatterns : List ℕ}
    (keeps : ∀ pattern, (change pattern).id = pattern.id ∧
      (change pattern).classification = pattern.classification)
    (once : activePatterns.Nodup)
    (others : ∀ other, other ≠ reference →
      (other ∈ activePatterns ↔ other ∈ analyzer.activePatterns))
    (applied : reference ∈ activePatterns ↔ (change pattern).active = true)
    (below : (change pattern).active = true →
      (change pattern).resolutionProgress < Constants.mistakeResolutionStreak) :
    Kept { analyzer.assign reference change with activePatterns } where
  ids := by
    change (List.map _ (SharedObjects.assign _ change _)).Nodup
    rw [SharedObjects.map_assign fun pattern => (keeps pattern).1]
    exact kept.ids
  classes := by
    change (List.map _ (SharedObjects.assign _ change _)).Nodup
    rw [SharedObjects.map_assign fun pattern => (keeps pattern).2]
    exact kept.classes
  once := once
  applied := by
    intro other
    change other ∈ activePatterns ↔
      ∃ found, (analyzer.assign reference change).stored other = some found ∧ _
    rw [stored_assign]
    split_ifs with same
    · rw [← same, isStored, applied]
      simp
    · rw [others other (Ne.symm same), kept.applied]
  progress := by
    intro other found isFound active
    change (analyzer.assign reference change).stored other = some found at isFound
    rw [stored_assign] at isFound
    split_ifs at isFound with same
    · rw [← same, isStored] at isFound
      obtain rfl := Option.some.inj isFound
      exact below active
    · exact kept.progress other found isFound active

/-- A change of an object that stays active or resolved. -/
theorem Kept.assign (kept : analyzer.Kept) (isStored : analyzer.stored reference = some pattern)
    {change : MistakePattern → MistakePattern}
    (keeps : ∀ pattern, (change pattern).id = pattern.id ∧
      (change pattern).classification = pattern.classification)
    (sameActive : (change pattern).active = pattern.active)
    (below : pattern.active = true →
      (change pattern).resolutionProgress < Constants.mistakeResolutionStreak) :
    (analyzer.assign reference change).Kept := by
  refine kept.change isStored keeps kept.once (fun _ _ => Iff.rfl) ?_ (sameActive ▸ below)
  refine (kept.applied reference).trans ?_
  simp [isStored, sameActive]

/-- What setting the progress of a stored pattern comes to. -/
theorem Kept.set_progress_eq (kept : analyzer.Kept)
    (isStored : analyzer.stored reference = some pattern) (progress : ℕ) :
    analyzer.setProgress pattern reference progress =
      analyzer.assign reference fun pattern => { pattern with resolutionProgress := progress } := by
  unfold setProgress InMemoryAnalyzer.assign
  dsimp only
  rw [kept.assign_update isStored]
  · rfl
  · exact fun _ => rfl

/-- A pattern that is resolved. -/
def resolved (pattern : MistakePattern) : MistakePattern :=
  { pattern with resolutionProgress := pattern.resolutionProgress + 1, active := false }

/-- What resolving a stored pattern comes to. -/
theorem Kept.resolve_pattern_eq (kept : analyzer.Kept)
    (isStored : analyzer.stored reference = some pattern) :
    analyzer.resolvePattern pattern reference =
      { analyzer.assign reference resolved with
        activePatterns := analyzer.activePatterns.filter (· ≠ reference) } := by
  have written : (analyzer.mistakeDb.assign reference resolved).updatePatternStatus pattern.id false =
      analyzer.mistakeDb.assign reference resolved :=
    kept.assign_update isStored (fun pattern => { pattern with active := false }) fun _ => rfl
  have dropped : ∀ other ∈ analyzer.activePatterns,
      ((analyzer.assign reference resolved).stored other).map (·.id) ≠ some pattern.id ↔
        other ≠ reference := by
    intro other present
    obtain ⟨found, isFound, -⟩ := (kept.applied other).mp present
    rw [stored_assign, isFound]
    refine not_congr ⟨fun same => ?_, fun same => ?_⟩
    · refine (kept.reference_unique isStored isFound ?_).symm
      split_ifs at same <;> exact (Option.some.inj same).symm
    · subst same
      rw [isStored] at isFound
      rw [Option.some.inj isFound, if_pos rfl]
      rfl
  unfold resolvePattern
  dsimp only
  refine congrArg₂ InMemoryAnalyzer.mk written (List.filter_congr fun other present => ?_)
  refine decide_eq_decide.mpr ((iff_of_eq ?_).trans (dropped other present))
  exact congrArg (fun mistakeDb : MistakeDatabase =>
    (mistakeDb.patterns[other]?).map (·.id) ≠ some pattern.id) written

/-- Resolving a stored pattern keeps the rest. -/
theorem Kept.resolve (kept : analyzer.Kept) (isStored : analyzer.stored reference = some pattern) :
    (analyzer.resolvePattern pattern reference).Kept := by
  rw [kept.resolve_pattern_eq isStored]
  refine kept.change isStored (fun _ => ⟨rfl, rfl⟩) (kept.once.filter _) ?_ ?_ ?_
  · intro other different
    simp [different]
  · simp [resolved]
  · simp [resolved]

/-- A resolved pattern is not applied. -/
theorem Kept.not_applied (kept : analyzer.Kept)
    (isStored : analyzer.stored reference = some pattern) (inactive : pattern.active = false) :
    reference ∉ analyzer.activePatterns := by
  intro present
  obtain ⟨found, isFound, active⟩ := (kept.applied reference).mp present
  rw [isStored] at isFound
  rw [← Option.some.inj isFound, inactive] at active
  exact absurd active (by decide)

/-- A resolved pattern that comes back. -/
theorem Kept.bring_back (kept : analyzer.Kept) (isStored : analyzer.stored reference = some pattern)
    (inactive : pattern.active = false) :
    Kept { analyzer.assign reference reactivate with
      activePatterns := analyzer.activePatterns ++ [reference] } := by
  refine kept.change isStored (fun _ => ⟨rfl, rfl⟩) ?_ ?_ ?_ fun _ => Nat.succ_pos _
  · exact List.concat_eq_append ▸ kept.once.concat (kept.not_applied isStored inactive)
  · intro other different
    simp [different]
  · simp [reactivate]

/-- A new pattern with a new identifier and of a class that has none. -/
theorem Kept.create (kept : analyzer.Kept) {new : MistakePattern} (active : new.active = true)
    (below : new.resolutionProgress < Constants.mistakeResolutionStreak)
    (newId : ∀ pattern ∈ analyzer.mistakeDb.patterns, pattern.id ≠ new.id)
    (newClass : ∀ pattern ∈ analyzer.mistakeDb.patterns,
      pattern.classification ≠ new.classification) :
    Kept
      { mistakeDb := analyzer.mistakeDb.createPattern new
        activePatterns := analyzer.activePatterns ++ [analyzer.mistakeDb.patterns.length] } := by
  have isNew : analyzer.mistakeDb.patterns.length ∉ analyzer.activePatterns := by
    intro present
    obtain ⟨found, isFound, -⟩ := (kept.applied _).mp present
    exact absurd (List.getElem?_eq_some_iff.mp isFound).1 (Nat.lt_irrefl _)
  refine ⟨SharedObjects.nodup_create kept.ids newId, SharedObjects.nodup_create kept.classes newClass,
    List.concat_eq_append ▸ kept.once.concat isNew, fun reference => ?_, ?_⟩
  · rw [List.mem_append, List.mem_singleton, kept.applied]
    constructor
    · rintro (⟨found, isFound, isActive⟩ | rfl)
      · exact ⟨found, SharedObjects.getElem_create.mpr (.inl isFound), isActive⟩
      · exact ⟨new, SharedObjects.getElem_create.mpr (.inr ⟨rfl, rfl⟩), active⟩
    · rintro ⟨found, isFound, isActive⟩
      obtain isFound | ⟨rfl, -⟩ := SharedObjects.getElem_create.mp isFound
      · exact .inl ⟨found, isFound, isActive⟩
      · exact .inr rfl
  · intro reference found isFound isActive
    obtain isFound | ⟨-, rfl⟩ := SharedObjects.getElem_create.mp isFound
    · exact kept.progress reference found isFound isActive
    · exact below

end Objects

section Flags

variable {analyzer : InMemoryAnalyzer} {reference : ℕ} {pattern : MistakePattern}
  {script : DetectScript} {classification : MistakeClassification}

/-- A pattern that is found as resolved. -/
theorem resolved_pattern_found
    (found : analyzer.resolvedPattern classification = some (pattern, reference)) :
    analyzer.stored reference = some pattern ∧ pattern.classification = classification ∧
      pattern.active = false := by
  obtain ⟨isStored, picked⟩ := SharedObjects.first_some found
  rw [Bool.and_eq_true, decide_eq_true_eq, Bool.not_eq_true'] at picked
  exact ⟨isStored, picked⟩

/-- What a reactivation comes to, if there is a resolved pattern. -/
theorem Kept.reactivate_pattern_eq (kept : analyzer.Kept)
    (found : analyzer.resolvedPattern classification = some (pattern, reference)) :
    analyzer.reactivatePattern classification =
      { analyzer.assign reference reactivate with
        activePatterns := analyzer.activePatterns ++ [reference] } := by
  obtain ⟨isStored, -, inactive⟩ := resolved_pattern_found found
  have written : (analyzer.mistakeDb.assign reference reactivate).updatePattern pattern.id
      reactivate = analyzer.mistakeDb.assign reference reactivate :=
    kept.assign_update isStored reactivate fun _ => rfl
  have unapplied : (analyzer.assign reference reactivate).applies reference ≠ true := by
    intro applies
    obtain ⟨other, present, same⟩ := List.any_eq_true.mp applies
    obtain ⟨otherPattern, otherStored, -⟩ := (kept.applied other).mp present
    have different : reference ≠ other := by
      rintro rfl
      exact kept.not_applied isStored inactive present
    have equal : (analyzer.assign reference reactivate).stored other =
        (analyzer.assign reference reactivate).stored reference := of_decide_eq_true same
    rw [stored_assign, stored_assign, if_neg different, if_pos rfl, otherStored, isStored] at equal
    have sameId := congrArg MistakePattern.id (Option.some.inj equal)
    exact different (kept.reference_unique isStored otherStored sameId.symm)
  unfold reactivatePattern
  rw [found]
  dsimp only
  rw [written]
  exact if_neg unapplied

/-- What a flag comes to: nothing, the losses of the active pattern are counted, the resolved one
comes back, or a pattern is created. -/
theorem Kept.flag_pattern_cases (kept : analyzer.Kept) (script : DetectScript)
    (classification : MistakeClassification) :
    analyzer.flagPattern script classification = analyzer ∨
      (∃ pattern reference lossCount lastOccurrence, analyzer.stored reference = some pattern ∧
        analyzer.flagPattern script classification =
          analyzer.assign reference fun pattern => { pattern with lossCount, lastOccurrence }) ∨
      (∃ pattern reference, analyzer.stored reference = some pattern ∧ pattern.active = false ∧
        analyzer.flagPattern script classification =
          { analyzer.assign reference reactivate with
            activePatterns := analyzer.activePatterns ++ [reference] }) ∨
      (∀ pattern ∈ analyzer.mistakeDb.patterns, pattern.classification ≠ classification) ∧
        ∃ records, analyzer.flagPattern script classification =
          { mistakeDb := analyzer.mistakeDb.createPattern (newPattern script classification records)
            activePatterns := analyzer.activePatterns ++ [analyzer.mistakeDb.patterns.length] } := by
  unfold flagPattern
  dsimp only
  generalize analyzer.mistakeDb.getRecordsByClassification _ _ = records
  split_ifs
  · exact .inl rfl
  · cases existing : analyzer.mistakeDb.getPatternByClassification classification with
    | some entry =>
      obtain ⟨pattern, reference⟩ := entry
      obtain ⟨isStored, -⟩ := SharedObjects.first_some existing
      refine .inr (.inl ⟨pattern, reference, records.length,
        (records.getLast?.map (·.createdAt)).getD 0, isStored, ?_⟩)
      exact congrArg (InMemoryAnalyzer.mk · analyzer.activePatterns)
        (kept.assign_update isStored _ fun _ => rfl)
    | none =>
      cases resolved : analyzer.resolvedPattern classification with
      | some entry =>
        obtain ⟨pattern, reference⟩ := entry
        obtain ⟨isStored, -, inactive⟩ := resolved_pattern_found resolved
        exact .inr (.inr (.inl ⟨pattern, reference, isStored, inactive,
          kept.reactivate_pattern_eq resolved⟩))
      | none =>
        refine .inr (.inr (.inr ⟨fun pattern isStored same => ?_, records, rfl⟩))
        have notActive := SharedObjects.first_none existing isStored
        have notResolved := SharedObjects.first_none resolved isStored
        cases active : pattern.active <;> simp [same, active] at notActive notResolved

/-- What a flag makes of an object: it stays active or resolved with its penalties, it comes back
with the higher ones, or it is new. -/
inductive Flagged : Option MistakePattern → MistakePattern → Prop where
  | same {before after : MistakePattern} (sameActive : after.active = before.active)
    (samePenalties : after.penalties = before.penalties) : Flagged (some before) after
  | back {before after : MistakePattern} (inactive : before.active = false)
    (active : after.active = true) (penalties : after.penalties = reactivatedPenalties) :
    Flagged (some before) after
  | created {after : MistakePattern} (active : after.active = true)
    (penalties : after.penalties = basePenalties) : Flagged none after

/-- Two flags of an object. -/
theorem Flagged.trans {before : Option MistakePattern} {between after : MistakePattern}
    (first : Flagged before between) (second : Flagged (some between) after) :
    Flagged before after := by
  cases second with
  | same sameActive samePenalties =>
    cases first with
    | same wasActive wasPenalties =>
      exact .same (sameActive.trans wasActive) (samePenalties.trans wasPenalties)
    | back inactive active penalties =>
      exact .back inactive (sameActive.trans active) (samePenalties.trans penalties)
    | created active penalties =>
      exact .created (sameActive.trans active) (samePenalties.trans penalties)
  | back inactive active penalties =>
    cases first with
    | same wasActive _ => exact .back (wasActive.symm.trans inactive) active penalties
    | back _ wasActive _ => exact absurd (wasActive.symm.trans inactive) (by decide)
    | created wasActive _ => exact absurd (wasActive.symm.trans inactive) (by decide)

/-- What flags make of the objects. -/
structure Flags (before after : InMemoryAnalyzer) : Prop where
  grows : before.mistakeDb.patterns.length ≤ after.mistakeDb.patterns.length
  objects : ∀ reference pattern, after.stored reference = some pattern →
    Flagged (before.stored reference) pattern

/-- No flag. -/
theorem Flags.refl (analyzer : InMemoryAnalyzer) : Flags analyzer analyzer where
  grows := le_rfl
  objects := by
    intro reference pattern isStored
    rw [isStored]
    exact .same rfl rfl

/-- Flags one after the other. -/
theorem Flags.trans {before between after : InMemoryAnalyzer} (first : Flags before between)
    (second : Flags between after) : Flags before after where
  grows := first.grows.trans second.grows
  objects := by
    intro reference pattern isStored
    have last := second.objects reference pattern isStored
    cases wasStored : between.stored reference with
    | some row =>
      rw [wasStored] at last
      exact (first.objects reference row wasStored).trans last
    | none =>
      have absent : before.stored reference = none :=
        List.getElem?_eq_none (first.grows.trans (List.getElem?_eq_none_iff.mp wasStored))
      rw [wasStored] at last
      rwa [absent]

/-- A change of one object that flags it. -/
theorem flags_assign (isStored : analyzer.stored reference = some pattern)
    {change : MistakePattern → MistakePattern} (flagged : Flagged (some pattern) (change pattern))
    (activePatterns : List ℕ) :
    Flags analyzer { analyzer.assign reference change with activePatterns } where
  grows := (List.length_modify change analyzer.mistakeDb.patterns reference).ge
  objects := by
    intro other found isFound
    change (analyzer.assign reference change).stored other = some found at isFound
    rw [stored_assign] at isFound
    split_ifs at isFound with same
    · rw [← same, isStored] at isFound
      rw [← same, isStored, ← Option.some.inj isFound]
      exact flagged
    · rw [isFound]
      exact .same rfl rfl

/-- A flag with a new identifier. -/
theorem Kept.flag_pattern (kept : analyzer.Kept)
    (fresh : ∀ pattern ∈ analyzer.mistakeDb.patterns, pattern.id ≠ script.patternId classification) :
    (analyzer.flagPattern script classification).Kept ∧
      Flags analyzer (analyzer.flagPattern script classification) := by
  obtain same | ⟨pattern, reference, lossCount, lastOccurrence, isStored, same⟩ |
    ⟨pattern, reference, isStored, inactive, same⟩ | ⟨noPattern, records, same⟩ :=
    kept.flag_pattern_cases script classification
  · rw [same]
    exact ⟨kept, .refl analyzer⟩
  · rw [same]
    refine ⟨kept.assign isStored (fun _ => ⟨rfl, rfl⟩) rfl ?_, ?_⟩
    · exact kept.progress reference pattern isStored
    · exact flags_assign isStored (.same rfl rfl) _
  · rw [same]
    exact ⟨kept.bring_back isStored inactive, flags_assign isStored (.back inactive rfl rfl) _⟩
  · rw [same]
    refine ⟨kept.create rfl (Nat.succ_pos _) fresh noPattern, ?_, ?_⟩
    · exact (List.prefix_append analyzer.mistakeDb.patterns _).length_le
    · intro reference found isFound
      obtain isFound | ⟨rfl, rfl⟩ := SharedObjects.getElem_create.mp isFound
      · rw [stored, isFound]
        exact .same rfl rfl
      · have absent : analyzer.stored analyzer.mistakeDb.patterns.length = none :=
          List.getElem?_eq_none le_rfl
        rw [absent]
        exact .created rfl rfl

/-- A flag adds at most the identifier of its class. -/
theorem Kept.flag_pattern_ids (kept : analyzer.Kept) {found : MistakePattern}
    (isFound : found ∈ (analyzer.flagPattern script classification).mistakeDb.patterns) :
    found.id = script.patternId classification ∨
      ∃ pattern ∈ analyzer.mistakeDb.patterns, pattern.id = found.id := by
  have assigned : ∀ {reference : ℕ} {change : MistakePattern → MistakePattern},
      (∀ pattern, (change pattern).id = pattern.id) →
      found ∈ (analyzer.assign reference change).mistakeDb.patterns →
      ∃ pattern ∈ analyzer.mistakeDb.patterns, pattern.id = found.id := by
    intro reference change keeps member
    have among := List.mem_map_of_mem (f := MistakePattern.id) member
    change _ ∈ List.map _ (SharedObjects.assign _ change _) at among
    rw [SharedObjects.map_assign keeps] at among
    exact List.mem_map.mp among
  obtain same | ⟨_, reference, lossCount, lastOccurrence, -, same⟩ | ⟨_, reference, -, -, same⟩ |
    ⟨-, records, same⟩ := kept.flag_pattern_cases script classification
  · rw [same] at isFound
    exact .inr ⟨found, isFound, rfl⟩
  · rw [same] at isFound
    refine .inr (assigned ?_ isFound)
    exact fun _ => rfl
  · rw [same] at isFound
    refine .inr (assigned ?_ isFound)
    exact fun _ => rfl
  · rw [same] at isFound
    obtain old | new := List.mem_append.mp isFound
    · exact .inr ⟨found, old, rfl⟩
    · obtain rfl := List.mem_singleton.mp new
      exact .inl rfl

/-- Flags of different classes with new identifiers. The induction is on the classes. -/
theorem Kept.flag_patterns (kept : analyzer.Kept) {classes : List MistakeClassification}
    (once : classes.Nodup) (different : script.patternId.Injective)
    (fresh : ∀ classification ∈ classes, ∀ pattern ∈ analyzer.mistakeDb.patterns,
      pattern.id ≠ script.patternId classification) :
    let detected := classes.foldl
      (fun analyzer classification => analyzer.flagPattern script classification) analyzer
    detected.Kept ∧ Flags analyzer detected := by
  induction classes generalizing analyzer with
  | nil => exact ⟨kept, .refl analyzer⟩
  | cons classification rest inductionHypothesis =>
    obtain ⟨notLater, onceRest⟩ := List.nodup_cons.mp once
    obtain ⟨keptFirst, flagsFirst⟩ :=
      kept.flag_pattern (fresh classification List.mem_cons_self)
    have freshRest : ∀ later ∈ rest, ∀ pattern ∈
        (analyzer.flagPattern script classification).mistakeDb.patterns,
        pattern.id ≠ script.patternId later := by
      intro later among pattern isStored same
      obtain new | ⟨before, wasStored, sameId⟩ := kept.flag_pattern_ids isStored
      · exact notLater (different (new.symm.trans same) ▸ among)
      · exact fresh later (List.mem_cons_of_mem _ among) before wasStored (sameId.trans same)
    obtain ⟨keptRest, flagsRest⟩ := inductionHypothesis keptFirst onceRest freshRest
    exact ⟨keptRest, flagsFirst.trans flagsRest⟩

/-- A detection with new identifiers. -/
theorem Kept.detect_patterns (kept : analyzer.Kept)
    (fresh : analyzer.FreshIds (.detectPatterns script)) :
    (analyzer.detectPatterns script).Kept ∧ Flags analyzer (analyzer.detectPatterns script) := by
  refine kept.flag_patterns (by decide) (fun first second same => ?_) fresh.2
  exact List.inj_on_of_nodup_map fresh.1 first.mem_all second.mem_all same

/-- A reactivation on request. -/
theorem Kept.reactivate_pattern (kept : analyzer.Kept) (classification : MistakeClassification) :
    (analyzer.reactivatePattern classification).Kept ∧
      Flags analyzer (analyzer.reactivatePattern classification) := by
  cases found : analyzer.resolvedPattern classification with
  | none =>
    have same : analyzer.reactivatePattern classification = analyzer := by
      unfold reactivatePattern
      rw [found]
    rw [same]
    exact ⟨kept, .refl analyzer⟩
  | some entry =>
    obtain ⟨pattern, reference⟩ := entry
    obtain ⟨isStored, -, inactive⟩ := resolved_pattern_found found
    rw [kept.reactivate_pattern_eq found]
    exact ⟨kept.bring_back isStored inactive, flags_assign isStored (.back inactive rfl rfl) _⟩

end Flags

section Tracking

variable {analyzer : InMemoryAnalyzer} {reference : ℕ} {pattern : MistakePattern}

/-- What tracking makes of the objects: none is new, none comes back, and all keep their
penalties. -/
structure Tracks (before after : InMemoryAnalyzer) : Prop where
  sameLength : after.mistakeDb.patterns.length = before.mistakeDb.patterns.length
  objects : ∀ reference pattern, after.stored reference = some pattern →
    ∃ row, before.stored reference = some row ∧ pattern.penalties = row.penalties ∧
      (pattern.active = true → row.active = true)

/-- No tracking. -/
theorem Tracks.refl (analyzer : InMemoryAnalyzer) : Tracks analyzer analyzer where
  sameLength := rfl
  objects := fun _ pattern isStored => ⟨pattern, isStored, rfl, id⟩

/-- Tracking of one reference after another. -/
theorem Tracks.trans {before between after : InMemoryAnalyzer} (first : Tracks before between)
    (second : Tracks between after) : Tracks before after where
  sameLength := second.sameLength.trans first.sameLength
  objects := by
    intro reference pattern isStored
    obtain ⟨row, wasStored, samePenalties, wasActive⟩ := second.objects reference pattern isStored
    obtain ⟨earlier, isEarlier, earlierPenalties, earlierActive⟩ :=
      first.objects reference row wasStored
    exact ⟨earlier, isEarlier, samePenalties.trans earlierPenalties, earlierActive ∘ wasActive⟩

/-- A change of one object that brings nothing back. -/
theorem tracks_assign (reference : ℕ) (change : MistakePattern → MistakePattern)
    (keeps : ∀ pattern, (change pattern).penalties = pattern.penalties ∧
      ((change pattern).active = true → pattern.active = true))
    (analyzer : InMemoryAnalyzer) (activePatterns : List ℕ) :
    Tracks analyzer { analyzer.assign reference change with activePatterns } where
  sameLength := List.length_modify change analyzer.mistakeDb.patterns reference
  objects := by
    intro other found isFound
    change (analyzer.assign reference change).stored other = some found at isFound
    rw [stored_assign] at isFound
    split_ifs at isFound
    · obtain ⟨row, isRow, rfl⟩ := Option.map_eq_some_iff.mp isFound
      exact ⟨row, isRow, keeps row⟩
    · exact ⟨found, isFound, rfl, id⟩

/-- Tracking of one reference. -/
theorem Kept.track_reference (kept : analyzer.Kept) (trade : ClosedTrade) (reference : ℕ) :
    (analyzer.trackReference trade reference).Kept ∧
      Tracks analyzer (analyzer.trackReference trade reference) := by
  have sets : ∀ {pattern : MistakePattern} (progress : ℕ),
      analyzer.stored reference = some pattern → progress < Constants.mistakeResolutionStreak →
      (analyzer.setProgress pattern reference progress).Kept ∧
        Tracks analyzer (analyzer.setProgress pattern reference progress) := by
    intro pattern progress isStored below
    rw [kept.set_progress_eq isStored]
    exact ⟨kept.assign isStored (fun _ => ⟨rfl, rfl⟩) rfl fun _ => below,
      tracks_assign reference (fun pattern => { pattern with resolutionProgress := progress })
        (fun _ => ⟨rfl, id⟩) analyzer analyzer.activePatterns⟩
  unfold trackReference
  cases isStored : analyzer.mistakeDb.patterns[reference]? with
  | none => exact ⟨kept, .refl analyzer⟩
  | some pattern =>
    dsimp only
    split_ifs with matched profitable streak
    · refine ⟨kept.resolve isStored, ?_⟩
      rw [kept.resolve_pattern_eq isStored]
      exact tracks_assign reference resolved (fun _ => ⟨rfl, fun active => by cases active⟩)
        analyzer _
    · exact sets _ isStored (not_le.mp streak)
    · exact sets 0 isStored (Nat.succ_pos _)
    · exact ⟨kept, .refl analyzer⟩

/-- Tracking of all references. The induction is on the references. -/
theorem Kept.track_references (kept : analyzer.Kept) (trade : ClosedTrade) (references : List ℕ) :
    (references.foldl (trackReference trade) analyzer).Kept ∧
      Tracks analyzer (references.foldl (trackReference trade) analyzer) := by
  induction references generalizing analyzer with
  | nil => exact ⟨kept, .refl analyzer⟩
  | cons reference rest inductionHypothesis =>
    obtain ⟨keptFirst, tracksFirst⟩ := kept.track_reference trade reference
    obtain ⟨keptRest, tracksRest⟩ := inductionHypothesis keptFirst
    exact ⟨keptRest, tracksFirst.trans tracksRest⟩

end Tracking

end InMemoryAnalyzer

/-- An analyzer over a database in memory, and which of its patterns came back after they were
resolved. -/
structure InMemoryHistory where
  analyzer : InMemoryAnalyzer := {}
  reactivated : ℕ → Bool := fun _ => false

namespace InMemoryHistory

open InMemoryAnalyzer

/-- A pattern was resolved before and is active after. -/
def cameBack (before after : InMemoryAnalyzer) (reference : ℕ) : Bool :=
  (before.stored reference).any (!·.active) && (after.stored reference).any (·.active)

/-- An operation, noted in the history. -/
def step (history : InMemoryHistory) (operation : InMemoryOperation) : InMemoryHistory :=
  let next := history.analyzer.operate operation
  { analyzer := next
    reactivated := fun reference =>
      history.reactivated reference || cameBack history.analyzer next reference }

/-- New identifiers are new. -/
def FreshIds (history : InMemoryHistory) (operation : InMemoryOperation) : Prop :=
  history.analyzer.FreshIds operation

instance (history : InMemoryHistory) (operation : InMemoryOperation) :
    Decidable (history.FreshIds operation) :=
  inferInstanceAs (Decidable (history.analyzer.FreshIds operation))

/-- There is at most one pattern for each class, the analyzer applies exactly the stored active
patterns, each once, the progress of an active pattern is below the streak that resolves it, and
its penalties say whether it was ever reactivated. -/
structure Settled (history : InMemoryHistory) : Prop where
  onePerClass : (history.analyzer.mistakeDb.patterns.map (·.classification)).Nodup
  once : history.analyzer.activePatterns.Nodup
  applied : ∀ reference, reference ∈ history.analyzer.activePatterns ↔
    reference ∈ history.analyzer.mistakeDb.getActivePatterns
  progress : ∀ reference ∈ history.analyzer.activePatterns,
    ∀ pattern ∈ history.analyzer.stored reference,
      pattern.resolutionProgress < Constants.mistakeResolutionStreak
  penalties : ∀ reference ∈ history.analyzer.activePatterns,
    ∀ pattern ∈ history.analyzer.stored reference,
      pattern.penalties = penaltiesFor (history.reactivated reference)

/-- The analyzer keeps its lists, and the penalties of every stored pattern say whether it was
reactivated. -/
structure Consistent (history : InMemoryHistory) : Prop where
  kept : history.analyzer.Kept
  penalties : ∀ reference pattern, history.analyzer.stored reference = some pattern →
    pattern.penalties = penaltiesFor (history.reactivated reference)
  future : ∀ reference, history.analyzer.stored reference = none →
    history.reactivated reference = false

section Steps

variable {history : InMemoryHistory}

/-- The history after flags. -/
theorem Consistent.flags (consistent : history.Consistent) {next : InMemoryAnalyzer}
    (kept : next.Kept) (flags : Flags history.analyzer next) :
    Consistent
      { analyzer := next
        reactivated := fun reference =>
          history.reactivated reference || cameBack history.analyzer next reference } where
  kept := kept
  penalties := by
    intro reference pattern isStored
    have flagged := flags.objects reference pattern isStored
    have isNext : next.stored reference = some pattern := isStored
    change pattern.penalties =
      penaltiesFor (history.reactivated reference || cameBack history.analyzer next reference)
    rw [cameBack, isNext]
    cases wasStored : history.analyzer.stored reference with
    | none =>
      rw [wasStored] at flagged
      cases flagged with
      | created active penalties =>
        rw [consistent.future reference wasStored]
        exact penalties
    | some row =>
      rw [wasStored] at flagged
      cases flagged with
      | same sameActive samePenalties =>
        rw [samePenalties, consistent.penalties reference row wasStored]
        simp [sameActive]
      | back inactive active penalties =>
        rw [penalties]
        simp [inactive, active, penaltiesFor]
  future := by
    intro reference absent
    have wasAbsent : history.analyzer.stored reference = none :=
      List.getElem?_eq_none (flags.grows.trans (List.getElem?_eq_none_iff.mp absent))
    simp [cameBack, consistent.future reference wasAbsent, wasAbsent]

/-- The history after tracking. -/
theorem Consistent.tracks (consistent : history.Consistent) {next : InMemoryAnalyzer}
    (kept : next.Kept) (tracks : Tracks history.analyzer next) :
    Consistent
      { analyzer := next
        reactivated := fun reference =>
          history.reactivated reference || cameBack history.analyzer next reference } where
  kept := kept
  penalties := by
    intro reference pattern isStored
    obtain ⟨row, wasStored, samePenalties, wasActive⟩ := tracks.objects reference pattern isStored
    have isNext : next.stored reference = some pattern := isStored
    have notBack : cameBack history.analyzer next reference = false := by
      rw [cameBack, wasStored, isNext]
      cases active : pattern.active with
      | false => simp [active]
      | true => simp [wasActive active]
    dsimp only
    rw [samePenalties, consistent.penalties reference row wasStored, notBack, Bool.or_false]
  future := by
    intro reference absent
    have wasAbsent : history.analyzer.stored reference = none :=
      List.getElem?_eq_none
        (tracks.sameLength ▸ List.getElem?_eq_none_iff.mp absent)
    simp [cameBack, consistent.future reference wasAbsent, wasAbsent]

/-- Every operation with new identifiers keeps the history consistent. -/
theorem Consistent.step (consistent : history.Consistent) (operation : InMemoryOperation)
    (fresh : history.FreshIds operation) : (history.step operation).Consistent := by
  have kept := consistent.kept
  cases operation with
  | storeRecord record =>
    exact consistent.tracks ⟨kept.ids, kept.classes, kept.once, kept.applied, kept.progress⟩
      ⟨rfl, fun _ pattern isStored => ⟨pattern, isStored, rfl, id⟩⟩
  | detectPatterns script =>
    obtain ⟨keptNext, flags⟩ := kept.detect_patterns fresh
    exact consistent.flags keptNext flags
  | updateResolutionProgress trade =>
    obtain ⟨keptNext, tracks⟩ := kept.track_references trade history.analyzer.activePatterns
    exact consistent.tracks keptNext tracks
  | reactivatePattern classification =>
    obtain ⟨keptNext, flags⟩ := kept.reactivate_pattern classification
    exact consistent.flags keptNext flags
  | loadPatternsOnStartup =>
    refine consistent.tracks ⟨kept.ids, kept.classes, ?_, ?_, kept.progress⟩
      ⟨rfl, fun _ pattern isStored => ⟨pattern, isStored, rfl, id⟩⟩
    · exact SharedObjects.nodup_references _ _
    · exact fun _ => SharedObjects.mem_references

/-- A history without operations. -/
theorem consistent_empty : Consistent {} where
  kept := ⟨List.nodup_nil, List.nodup_nil, List.nodup_nil, fun _ => by simp [stored], by simp [stored]⟩
  penalties := by simp [stored]
  future := fun _ _ => rfl

/-- A consistent history is settled. -/
theorem Consistent.settled (consistent : history.Consistent) : history.Settled where
  onePerClass := consistent.kept.classes
  once := consistent.kept.once
  applied := fun reference =>
    (consistent.kept.applied reference).trans SharedObjects.mem_references.symm
  progress := by
    intro reference applied pattern isStored
    obtain ⟨found, isFound, active⟩ := (consistent.kept.applied reference).mp applied
    obtain rfl := Option.some.inj (isFound.symm.trans isStored)
    exact consistent.kept.progress reference found isFound active
  penalties := fun reference _ pattern isStored => consistent.penalties reference pattern isStored

end Steps

/-- In every run of the analyzer over a database in memory: there is at most one pattern for each
class, the analyzer applies exactly the stored active patterns, each once, with progress below the
streak, and with the base penalties as long as the pattern was never reactivated and the increased
ones afterwards. -/
theorem patterns_settled (operations : List InMemoryOperation)
    (fresh : Machines.Conforms step FreshIds {} operations) :
    (Machines.after step {} operations).Settled := by
  have kept : ∀ (history : InMemoryHistory) operation, history.Consistent →
      history.FreshIds operation → (history.step operation).Consistent :=
    fun _ operation consistent fresh => consistent.step operation fresh
  exact (Machines.after_keeps kept consistent_empty fresh).settled

/-- A loss that is stored, and the detection after it. -/
def detectedLoss (time : ℚ) (random : String) : List InMemoryOperation :=
  [.storeRecord (TradingLoop.mistakeOf (MistakeMemory.lossAt MistakeMemory.legacySignal time)),
    .detectPatterns (EvidenceChronicle.detectionAt time random)]

/-- Five losses make a pattern, twenty profits resolve it, and one more loss brings it back. -/
def returningRun : List InMemoryOperation :=
  [0, 60, 120, 180, 240].flatMap (detectedLoss · "a") ++
    List.replicate 20 (.updateResolutionProgress (TradingLoop.closedTradeOf
      { MistakeMemory.lossAt MistakeMemory.legacySignal 300 with pnl := 10 })) ++
    detectedLoss 360 "b"

/-- The pattern of the run is applied again, with the increased penalties. -/
theorem returning_run_settled :
    ((Machines.after step {} returningRun).analyzer.activePatterns = [0] ∧
      (Machines.after step {} returningRun).reactivated 0 = true) ∧
      (Machines.after step {} returningRun).Settled :=
  ⟨by decide +kernel, patterns_settled returningRun (by decide +kernel)⟩

end InMemoryHistory

end IgTradingBot
