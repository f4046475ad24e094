import IgTradingBot.Learning.Reactivations

/-!
# The patterns in memory and in the storage

The analyzer works with copies of the active rows. A new loss of a class that has an active
pattern is counted in the table only, and an access that the database refuses comes after the
copies were changed: then memory and storage differ until they are loaded again.
-/

namespace IgTradingBot

open Sequential Sequential.Program

namespace MistakeMemory

open MistakeAnalyzer

/-- The patterns in memory are the active rows of the table, field for field. -/
def Mirror (memory : MistakeMemory) : Prop :=
  ∀ pattern, pattern ∈ memory.activePatterns ↔ pattern ∈ memory.patterns ∧ pattern.active = true

/-- The first pattern in memory that a trade matches. -/
def firstMatch (memory : MistakeMemory) (trade : ClosedTrade) : Option MistakePattern :=
  memory.activePatterns.find? fun pattern =>
    pattern.active && matchesPattern (signalOf trade) pattern

/-- An operation that writes the same to memory and storage: a detection finds no other losses of
an active pattern than it has counted, the progress of a pattern is saved or does not change, and a
start loads the active patterns. -/
def WritesBoth (memory : MistakeMemory) : AnalyzerOperation → Prop
  | .detectPatterns script => ∀ row ∈ memory.patterns, row.active = true →
    row.classification ∈ reached script MistakeClassification.all →
    memory.Enough script row.classification → memory.counted script row = row
  | .updateResolutionProgress trade saved => saved = true ∨
    ∀ pattern ∈ memory.firstMatch trade, ¬0 < trade.pnl ∧ pattern.resolutionProgress = 0
  | .restarted loaded => loaded = true ∨ ∀ row ∈ memory.patterns, row.active = false
  | .storeRecord _ _ => True
  | .reactivatePattern _ _ => True

instance (memory : MistakeMemory) : ∀ operation, Decidable (memory.WritesBoth operation)
  | .detectPatterns _ => inferInstanceAs (Decidable (∀ row ∈ _, _ → _ → _ → _))
  | .updateResolutionProgress _ _ =>
    inferInstanceAs (Decidable (_ ∨ ∀ pattern ∈ (_ : Option MistakePattern), _))
  | .restarted _ => inferInstanceAs (Decidable (_ ∨ ∀ row ∈ _, _))
  | .storeRecord _ _ => inferInstanceAs (Decidable True)
  | .reactivatePattern _ _ => inferInstanceAs (Decidable True)

section Operations

variable {memory : MistakeMemory}

/-- A change that keeps the activity of a pattern, made in memory and in the table. -/
theorem Mirror.change (mirror : memory.Mirror) (id : String)
    {change : MistakePattern → MistakePattern}
    (keeps : ∀ pattern, (change pattern).active = pattern.active) :
    ((memory.updateActive id change).updatePattern id change).Mirror := by
  have sameActive : ∀ pattern : MistakePattern,
      (if pattern.id = id then change pattern else pattern).active = pattern.active := by
    intro pattern
    split_ifs
    · exact keeps pattern
    · rfl
  intro pattern
  constructor
  · intro present
    obtain ⟨copy, wasPresent, rfl⟩ := List.mem_map.mp present
    obtain ⟨stored, active⟩ := (mirror copy).mp wasPresent
    exact ⟨List.mem_map_of_mem stored, (sameActive copy).trans active⟩
  · rintro ⟨stored, active⟩
    obtain ⟨row, wasStored, rfl⟩ := List.mem_map.mp stored
    rw [sameActive] at active
    exact List.mem_map_of_mem ((mirror row).mpr ⟨wasStored, active⟩)

/-- A saved progress is written to memory and storage. -/
theorem Mirror.set_progress (mirror : memory.Mirror) (progress : ℕ) (pattern : MistakePattern) :
    (setProgress true progress pattern memory).2.Mirror := by
  rw [set_progress_final]
  exact mirror.change pattern.id fun _ => rfl

/-- A saved resolution is written to memory and storage. -/
theorem Mirror.resolve_pattern (mirror : memory.Mirror) (pattern : MistakePattern) :
    (resolvePattern true pattern memory).2.Mirror := by
  rw [resolve_pattern_final]
  intro other
  simp only [if_true, updateActive, updatePattern, List.mem_filter, List.mem_map,
    decide_eq_true_eq]
  constructor
  · rintro ⟨⟨copy, present, rfl⟩, apart⟩
    obtain ⟨stored, active⟩ := (mirror copy).mp present
    have different : copy.id ≠ pattern.id := by
      intro same
      rw [if_pos same] at apart
      exact apart same
    rw [if_neg different]
    exact ⟨⟨copy, stored, if_neg different⟩, active⟩
  · rintro ⟨⟨row, stored, rfl⟩, active⟩
    have different : row.id ≠ pattern.id := by
      intro same
      rw [if_pos same] at active
      cases active
    rw [if_neg different] at active ⊢
    exact ⟨⟨row, (mirror row).mpr ⟨stored, active⟩, if_neg different⟩, different⟩

/-- Saved tracking is written to memory and storage. -/
theorem Mirror.update_resolution_progress (mirror : memory.Mirror) (trade : ClosedTrade) :
    (updateResolutionProgress true trade memory).2.Mirror := by
  have kept : Keeps Mirror (updateResolutionProgress true trade) := by
    apply keeps_update_resolution_progress
    · exact fun progress pattern => keeps_of_final fun _ mirror => mirror.set_progress progress pattern
    · exact fun pattern => keeps_of_final fun _ mirror => mirror.resolve_pattern pattern
  exact kept.final mirror

/-- A refused access ends the tracking of a pattern. -/
theorem track_pattern_refused (profitable : Bool) (pattern : MistakePattern)
    (memory : MistakeMemory) : (trackPattern false profitable pattern memory).1 =
      .error .database := by
  unfold trackPattern
  split_ifs <;> rfl

/-- Tracking that the database refuses ends with the first pattern that the trade matches. The
induction is on the patterns. -/
theorem unsaved_tracking (trade : ClosedTrade) (memory : MistakeMemory) :
    (updateResolutionProgress false trade memory).2 =
      match memory.firstMatch trade with
      | none => memory
      | some pattern => (trackPattern false (decide (0 < trade.pnl)) pattern memory).2 := by
  change (forEach memory.activePatterns (fun pattern =>
    if pattern.active && matchesPattern (signalOf trade) pattern then
      trackPattern false (decide (0 < trade.pnl)) pattern
    else pure ()) memory).2 = _
  unfold firstMatch
  generalize memory.activePatterns = patterns
  induction patterns with
  | nil => rfl
  | cons pattern rest inductionHypothesis =>
    cases matched : pattern.active && matchesPattern (signalOf trade) pattern with
    | false =>
      have skipped : (if pattern.active && matchesPattern (signalOf trade) pattern then
          trackPattern false (decide (0 < trade.pnl)) pattern else pure ()) memory =
          (.ok (), memory) := by
        rw [matched]
        rfl
      rw [List.find?_cons, matched]
      exact (congrArg Prod.snd (bind_ok skipped)).trans inductionHypothesis
    | true =>
      have refused : (if pattern.active && matchesPattern (signalOf trade) pattern then
          trackPattern false (decide (0 < trade.pnl)) pattern else pure ()) memory =
          (.error .database, (trackPattern false (decide (0 < trade.pnl)) pattern memory).2) := by
        rw [matched]
        exact Prod.ext (track_pattern_refused _ pattern memory) rfl
      rw [List.find?_cons, matched]
      exact (congrArg Prod.snd (bind_error refused)).trans rfl

/-- Where one pattern in memory is changed and the table is not, they are the same only if the
change does nothing. -/
theorem mirror_update_active_iff (tidy : memory.Tidy) (mirror : memory.Mirror)
    {pattern : MistakePattern} (present : pattern ∈ memory.activePatterns)
    (change : MistakePattern → MistakePattern) (keeps : ∀ copy, (change copy).id = copy.id) :
    (memory.updateActive pattern.id change).Mirror ↔ change pattern = pattern := by
  constructor
  · intro after
    have changed : change pattern ∈ (memory.updateActive pattern.id change).activePatterns :=
      List.mem_map.mpr ⟨pattern, present, if_pos rfl⟩
    exact tidy.eq_of_id ((after _).mp changed).1 ((mirror _).mp present).1 (keeps pattern)
  · intro same
    have unchanged : (memory.updateActive pattern.id change).activePatterns =
        memory.activePatterns := by
      refine (List.map_congr_left fun copy isCopy => ?_).trans (List.map_id _)
      split_ifs with sameId
      · have isPattern : copy = pattern :=
          tidy.copyIds.eq_of_key isCopy present (congrArg some sameId) rfl
        rw [isPattern]
        exact same
      · rfl
    intro copy
    rw [unchanged]
    exact mirror copy

/-- A refused progress keeps memory and storage the same only if it is the old one. -/
theorem mirror_set_progress_iff (tidy : memory.Tidy) (mirror : memory.Mirror)
    {pattern : MistakePattern} (present : pattern ∈ memory.activePatterns) (progress : ℕ) :
    (setProgress false progress pattern memory).2.Mirror ↔ pattern.resolutionProgress = progress := by
  refine (mirror_update_active_iff tidy mirror present
    (fun copy => { copy with resolutionProgress := progress }) fun _ => rfl).trans ?_
  constructor
  · exact fun same => (congrArg MistakePattern.resolutionProgress same).symm
  · rintro rfl
    rfl

/-- A refused resolution leaves an inactive copy in memory. -/
theorem not_mirror_resolve (tidy : memory.Tidy) (mirror : memory.Mirror)
    {pattern : MistakePattern} (present : pattern ∈ memory.activePatterns) :
    ¬(resolvePattern false pattern memory).2.Mirror := by
  intro after
  have same := (mirror_update_active_iff tidy mirror present
    (fun copy =>
      { copy with resolutionProgress := copy.resolutionProgress + 1, active := false })
    fun _ => rfl).mp after
  have progress := congrArg MistakePattern.resolutionProgress same
  exact Nat.succ_ne_self _ progress

/-- Refused tracking keeps memory and storage the same exactly where it has no progress to
write. -/
theorem mirror_unsaved_iff (tidy : memory.Tidy) (mirror : memory.Mirror) (trade : ClosedTrade) :
    (updateResolutionProgress false trade memory).2.Mirror ↔
      ∀ pattern ∈ memory.firstMatch trade, ¬0 < trade.pnl ∧ pattern.resolutionProgress = 0 := by
  rw [unsaved_tracking]
  cases first : memory.firstMatch trade with
  | none => exact iff_of_true mirror (by simp)
  | some pattern =>
    have present : pattern ∈ memory.activePatterns := List.mem_of_find?_eq_some first
    have only : (∀ other ∈ some pattern, ¬0 < trade.pnl ∧ other.resolutionProgress = 0) ↔
        ¬0 < trade.pnl ∧ pattern.resolutionProgress = 0 := by simp
    rw [only]
    change (trackPattern false (decide (0 < trade.pnl)) pattern memory).2.Mirror ↔ _
    unfold trackPattern
    by_cases profitable : 0 < trade.pnl
    · rw [if_pos (decide_eq_true profitable)]
      refine iff_of_false (fun after => ?_) fun both => both.1 profitable
      by_cases streak : Constants.mistakeResolutionStreak ≤ pattern.resolutionProgress + 1
      · rw [if_pos streak] at after
        exact not_mirror_resolve tidy mirror present after
      · rw [if_neg streak] at after
        exact Nat.succ_ne_self _ ((mirror_set_progress_iff tidy mirror present _).mp after).symm
    · rw [if_neg (by simp [profitable])]
      exact (mirror_set_progress_iff tidy mirror present 0).trans (and_iff_right profitable).symm

/-- A start that loads the patterns has those of the table. -/
theorem mirror_load_patterns (memory : MistakeMemory) :
    (loadPatternsOnStartup true memory).Mirror :=
  fun _ => mem_load_patterns.trans (and_iff_right rfl)

/-- A reactivation is written to memory and storage. -/
theorem Mirror.reactivate_pattern (mirror : memory.Mirror) (tidy : memory.Tidy)
    (classification : MistakeClassification) :
    (reactivatePattern classification memory).Mirror := by
  unfold reactivatePattern
  cases found : memory.resolvedPattern classification with
  | none => exact mirror
  | some row =>
    obtain ⟨stored, -, inactive⟩ := resolved_pattern_some found
    have absent : reactivate row ∉ memory.activePatterns :=
      fun present => tidy.no_copy stored inactive _ present rfl
    have sameCopies : (memory.updatePattern row.id reactivate).activePatterns =
        memory.activePatterns := rfl
    dsimp only
    rw [sameCopies, if_neg absent]
    intro pattern
    simp only [updatePattern, List.mem_append, List.mem_singleton, List.mem_map]
    constructor
    · rintro (present | rfl)
      · obtain ⟨isRow, active⟩ := (mirror pattern).mp present
        exact ⟨⟨pattern, isRow, if_neg (tidy.no_copy stored inactive pattern present)⟩, active⟩
      · exact ⟨⟨row, stored, if_pos rfl⟩, rfl⟩
    · rintro ⟨⟨other, isRow, rfl⟩, active⟩
      by_cases same : other.id = row.id
      · rw [if_pos same, tidy.eq_of_id isRow stored same]
        exact .inr rfl
      · rw [if_neg same] at active ⊢
        exact .inl ((mirror other).mpr ⟨isRow, active⟩)

/-- Where the losses of the active rows are those that are counted, a check leaves them alone. -/
theorem WritesBoth.detected_row {script : DetectScript}
    (unchanged : memory.WritesBoth (.detectPatterns script)) {row : MistakePattern}
    (stored : row ∈ memory.patterns) (active : row.active = true) :
    memory.detectedRow script MistakeClassification.all row = row := by
  rw [detected_row_of_active active]
  split_ifs with both
  · exact unchanged row stored active both.1 both.2
  · rfl

/-- A detection keeps memory and storage the same exactly where it finds no other losses of an
active pattern than it has counted. -/
theorem mirror_detect_iff (tidy : memory.Tidy) (mirror : memory.Mirror) {script : DetectScript}
    (fresh : memory.FreshIds (.detectPatterns script)) :
    (memory.operate (.detectPatterns script)).Mirror ↔
      memory.WritesBoth (.detectPatterns script) := by
  have detects := tidy.detects_all fresh
  constructor
  · intro after row stored active isReached enough
    have present := (detects.copies row).mpr (.inl ((mirror row).mpr ⟨stored, active⟩))
    have image := (detects.rows _).mpr (.inr ⟨row, stored, rfl⟩)
    rw [detected_row_of_active active, if_pos ⟨isReached, enough⟩] at image
    exact detects.tidy.eq_of_id image ((after row).mp present).1 rfl
  · intro unchanged pattern
    rw [detects.copies, detects.rows]
    constructor
    · rintro (present | ⟨classification, isReached,
        ⟨enough, row, stored, rfl, inactive, rfl⟩ | new⟩)
      · obtain ⟨stored, active⟩ := (mirror pattern).mp present
        exact ⟨.inr ⟨pattern, stored, (unchanged.detected_row stored active).symm⟩, active⟩
      · refine ⟨.inr ⟨row, stored, ?_⟩, rfl⟩
        rw [detected_row_of_resolved inactive, if_pos ⟨isReached, enough⟩]
      · refine ⟨.inl ⟨classification, isReached, new⟩, ?_⟩
        rw [(mem_new_rows.mp new).2.2]
        rfl
    · rintro ⟨⟨classification, isReached, new⟩ | ⟨row, stored, rfl⟩, active⟩
      · exact .inr ⟨classification, isReached, .inr new⟩
      · cases wasActive : row.active with
        | true =>
          rw [unchanged.detected_row stored wasActive]
          exact .inl ((mirror row).mpr ⟨stored, wasActive⟩)
        | false =>
          rw [detected_row_of_resolved wasActive] at active ⊢
          split_ifs at active ⊢ with both
          · exact .inr ⟨row.classification, both.1, .inl ⟨both.2, row, stored, rfl, wasActive, rfl⟩⟩
          · exact absurd (active.symm.trans wasActive) (by decide)

/-- An operation keeps memory and storage the same exactly where it writes the same to both. -/
theorem mirror_operate_iff (tidy : memory.Tidy) (mirror : memory.Mirror)
    {operation : AnalyzerOperation} (fresh : memory.FreshIds operation) :
    (memory.operate operation).Mirror ↔ memory.WritesBoth operation := by
  cases operation with
  | storeRecord record stored =>
    refine iff_of_true ?_ trivial
    cases stored <;> exact mirror
  | detectPatterns script => exact mirror_detect_iff tidy mirror fresh
  | updateResolutionProgress trade saved =>
    cases saved with
    | true => exact iff_of_true (mirror.update_resolution_progress trade) (.inl rfl)
    | false => exact (mirror_unsaved_iff tidy mirror trade).trans (or_iff_right (by decide)).symm
  | reactivatePattern classification answered =>
    refine iff_of_true ?_ trivial
    cases answered with
    | false => exact mirror
    | true => exact mirror.reactivate_pattern tidy classification
  | restarted loaded =>
    cases loaded with
    | true => exact iff_of_true (mirror_load_patterns memory) (.inl rfl)
    | false =>
      refine Iff.trans ?_ (or_iff_right (by decide)).symm
      constructor
      · intro after row stored
        by_contra active
        exact List.not_mem_nil ((after row).mpr ⟨stored, Bool.eq_true_of_not_eq_false active⟩)
      · intro none pattern
        refine iff_of_false List.not_mem_nil ?_
        rintro ⟨stored, active⟩
        exact absurd (active.symm.trans (none pattern stored)) (by decide)

end Operations

/-- In every run of the analyzer, restarts and refused accesses included: the patterns in memory
are after every operation the active rows of the table, field for field, exactly when every
operation writes the same to both. -/
theorem mirrored_iff (operations : List AnalyzerOperation)
    (fresh : Machines.Conforms operate FreshIds {} operations) :
    (∀ reached, reached <+: operations → (Machines.after operate {} reached).Mirror) ↔
      Machines.Conforms operate WritesBoth {} operations := by
  have kept : ∀ (memory : MistakeMemory) operation, memory.Tidy → memory.FreshIds operation →
      (memory.operate operation).Tidy := fun _ operation tidy fresh => tidy.operate operation fresh
  exact Machines.always_iff_conforms_under kept
    (fun _ _ tidy fresh mirror => mirror_operate_iff tidy mirror fresh) tidy_empty
    (fun _ => by simp) fresh

open EvidenceChronicle (analysedLoss resolvedRun followedProfit)

/-- A pattern that is created and resolved is the same in memory and storage all the while. -/
theorem resolved_run_mirrored :
    (∃ row ∈ (Machines.after operate {} resolvedRun).patterns, row.active = false) ∧
      ∀ reached, reached <+: resolvedRun → (Machines.after operate {} reached).Mirror :=
  ⟨by decide +kernel, (mirrored_iff resolvedRun (by decide +kernel)).mpr (by decide +kernel)⟩

/-- The sixth loss of a class is counted in the table, and the pattern in memory still has
five. -/
theorem sixth_loss_not_mirrored :
    ¬∀ operations, Machines.Conforms operate FreshIds {} operations →
      ∀ reached, reached <+: operations → (Machines.after operate {} reached).Mirror := by
  intro claim
  let operations := [0, 60, 120, 180, 240].flatMap (analysedLoss · "a") ++ analysedLoss 300 "b"
  have mirror : (Machines.after operate {} operations).Mirror :=
    claim operations (by decide +kernel) operations (List.prefix_refl _)
  have differ : ∃ pattern ∈ (Machines.after operate {} operations).activePatterns,
      pattern ∉ (Machines.after operate {} operations).patterns := by decide +kernel
  obtain ⟨pattern, present, absent⟩ := differ
  exact absent ((mirror pattern).mp present).1

end MistakeMemory

end IgTradingBot
