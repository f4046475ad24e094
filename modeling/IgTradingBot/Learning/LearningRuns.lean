import IgTradingBot.Learning.LearnedPattern

/-!
# Runs of learning

What each event does to the lesson: a stored loss puts it into force once there are enough of
them in the window, a profit that completes the streak resolves it, and everything else leaves
it as it is. The records of a run are those of its stored losses.
-/

namespace IgTradingBot

open Sequential Sequential.Program

namespace MistakeMemory

open MistakeAnalyzer TradingLoop

/-- The outcome completes the streak of an active pattern. -/
def resolves (memory : MistakeMemory) (outcome : Outcome) : Bool :=
  decide (0 < outcome.pnl) && memory.activePatterns.any fun pattern =>
    pattern.active && matchesPattern (signalOf (closedTradeOf outcome)) pattern &&
      decide (Constants.mistakeResolutionStreak ≤ pattern.resolutionProgress + 1)

section Events

variable {memory : MistakeMemory} {lesson : Lesson} {stored : Option Lesson} {outcome : Outcome}

/-- The record of a loss joins the others. -/
def withRecord (outcome : Outcome) (memory : MistakeMemory) : MistakeMemory :=
  { memory with records := memory.records ++ [mistakeOf outcome] }

theorem RecordsKnown.with_record (known : memory.RecordsKnown) (outcome : Outcome) :
    (memory.withRecord outcome).RecordsKnown := by
  intro record member
  rcases List.mem_append.mp member with earlier | latest
  · exact known record earlier
  · obtain rfl := List.mem_singleton.mp latest
    exact mistake_known outcome

/-- A record shows the same lesson. -/
theorem shown_with_record (shown : Lesson.Shown memory stored) (outcome : Outcome) :
    Lesson.Shown (memory.withRecord outcome) stored := by
  cases stored with
  | none => exact shown
  | some lesson => exact shown

/-- A loss that is stored is followed by a detection. -/
theorem learn_loss (loss : outcome.pnl < 0) (isStored : outcome.stored = true) :
    learn memory (.closed outcome) =
      (detectPatterns outcome.detection (memory.withRecord outcome)).2 := by
  have added : storeRecord outcome.stored (mistakeOf outcome) memory =
      (.ok (), memory.withRecord outcome) := by
    rw [isStored]
    rfl
  simp only [learn, recordLearningOutcome, loss, if_true]
  exact congrArg Prod.snd (bind_ok added)

/-- A loss that the database refuses leaves no trace. -/
theorem learn_loss_refused (loss : outcome.pnl < 0) (refused : outcome.stored = false) :
    learn memory (.closed outcome) = memory := by
  have raised : storeRecord outcome.stored (mistakeOf outcome) memory =
      (.error .database, memory) := by
    rw [refused]
    rfl
  simp only [learn, recordLearningOutcome, loss, if_true]
  exact congrArg Prod.snd (bind_error raised)

/-- Any other outcome is tracked. -/
theorem learn_profit (profit : ¬ outcome.pnl < 0) :
    learn memory (.closed outcome) =
      (updateResolutionProgress outcome.saved (closedTradeOf outcome) memory).2 := by
  simp only [learn, recordLearningOutcome, profit, if_false]

/-- Without a pattern in memory nothing is tracked. -/
theorem learn_profit_untaught (profit : ¬ outcome.pnl < 0)
    (noneActive : memory.activePatterns = []) :
    learn memory (.closed outcome) = memory := by
  rw [learn_profit profit]
  simp [updateResolutionProgress, bind_run, noneActive, forEach]

/-- With one pattern in memory its streak is tracked if the trade matches. -/
theorem learn_profit_taught (profit : ¬ outcome.pnl < 0) {copy : MistakePattern}
    (onlyActive : memory.activePatterns = [copy]) :
    learn memory (.closed outcome) =
      if copy.active && matchesPattern (signalOf (closedTradeOf outcome)) copy then
        (trackPattern outcome.saved (decide (0 < outcome.pnl)) copy memory).2
      else memory := by
  rw [learn_profit profit]
  have samePnl : (closedTradeOf outcome).pnl = outcome.pnl := rfl
  simp only [updateResolutionProgress, bind_run, read_run, onlyActive, forEach, samePnl]
  split_ifs with matching
  · rcases trackPattern outcome.saved (decide (0 < outcome.pnl)) copy memory with ⟨answer, after⟩
    cases answer <;> rfl
  · rfl

/-- In force the lesson is in memory once. -/
theorem shown_in_force (shown : Lesson.Shown memory (some lesson)) (force : lesson.inForce = true) :
    ∃ row copy, memory.patterns = [row] ∧ lesson.TermsOf row ∧ memory.activePatterns = [copy] ∧
      lesson.TermsOf copy ∧ copy.id = row.id := by
  obtain ⟨row, onlyPattern, terms, inMemory⟩ := shown
  rw [if_pos force] at inMemory
  obtain ⟨copy, onlyActive, copyTerms, sameId⟩ := inMemory
  exact ⟨row, copy, onlyPattern, terms, onlyActive, copyTerms, sameId⟩

/-- Setting the streak keeps the lesson, whether or not the database takes it. -/
theorem set_progress_kept (shown : Lesson.Shown memory (some lesson))
    (force : lesson.inForce = true) {copy : MistakePattern}
    (onlyActive : memory.activePatterns = [copy]) (saved : Bool) (progress : ℕ) :
    Lesson.Shown (setProgress saved progress copy memory).2 (some lesson) := by
  obtain ⟨row, other, onlyPattern, terms, same, copyTerms, sameId⟩ := shown_in_force shown force
  obtain rfl : copy = other := (List.cons.inj (onlyActive.symm.trans same)).1
  let tracked := memory.updateActive copy.id fun pattern =>
    { pattern with resolutionProgress := progress }
  have onlyTracked : tracked.activePatterns = [{ copy with resolutionProgress := progress }] := by
    simp only [tracked, updateActive, onlyActive, List.map_cons, List.map_nil, if_true]
  have termsTracked : lesson.TermsOf { copy with resolutionProgress := progress } :=
    ⟨copyTerms.classification, copyTerms.active, copyTerms.conditions,
      copyTerms.confidencePenalty, copyTerms.sizeReduction⟩
  cases saved with
  | false =>
    refine ⟨row, onlyPattern, terms, ?_⟩
    rw [if_pos force]
    exact ⟨_, onlyTracked, termsTracked, sameId⟩
  | true =>
    have samePatterns : tracked.patterns = [row] := onlyPattern
    have updated := update_pattern_single samePatterns fun pattern =>
      { pattern with resolutionProgress := progress }
    rw [← sameId] at updated
    refine ⟨_, updated, ⟨terms.classification, terms.active, terms.conditions,
      terms.confidencePenalty, terms.sizeReduction⟩, ?_⟩
    rw [if_pos force]
    exact ⟨_, onlyTracked, termsTracked, rfl⟩

/-- Resolving the pattern resolves the lesson, if the database takes it. -/
theorem resolve_pattern_resolved (shown : Lesson.Shown memory (some lesson))
    (force : lesson.inForce = true) {copy : MistakePattern}
    (onlyActive : memory.activePatterns = [copy]) :
    Lesson.Shown (resolvePattern true copy memory).2 (some lesson.resolved) := by
  obtain ⟨row, other, onlyPattern, terms, same, copyTerms, sameId⟩ := shown_in_force shown force
  obtain rfl : copy = other := (List.cons.inj (onlyActive.symm.trans same)).1
  have updated := update_pattern_single onlyPattern fun pattern => { pattern with active := false }
  rw [← sameId] at updated
  refine ⟨_, updated, ⟨terms.classification, rfl, terms.conditions, terms.confidencePenalty,
    terms.sizeReduction⟩, ?_⟩
  simp [Lesson.resolved, resolvePattern, bind_run, access, updateActive, updatePattern, onlyActive]

/-- Whether an outcome completes the streak of the only pattern in memory. -/
theorem resolves_single {copy : MistakePattern} (onlyActive : memory.activePatterns = [copy]) :
    memory.resolves outcome =
      (decide (0 < outcome.pnl) &&
        (copy.active && matchesPattern (signalOf (closedTradeOf outcome)) copy &&
          decide (Constants.mistakeResolutionStreak ≤ copy.resolutionProgress + 1))) := by
  rw [resolves, onlyActive, List.any_cons, List.any_nil, Bool.or_false]

/-- An outcome that completes no streak keeps the lesson. -/
theorem learn_profit_kept (shown : Lesson.Shown memory stored) (profit : ¬ outcome.pnl < 0)
    (unresolved : memory.resolves outcome = false) :
    Lesson.Shown (learn memory (.closed outcome)) stored := by
  cases stored with
  | none =>
    rw [learn_profit_untaught profit shown.2]
    exact shown
  | some lesson =>
    by_cases force : lesson.inForce = true
    · obtain ⟨row, copy, _, _, onlyActive, _, _⟩ := shown_in_force shown force
      rw [learn_profit_taught profit onlyActive]
      rw [resolves_single onlyActive] at unresolved
      by_cases matching :
          (copy.active && matchesPattern (signalOf (closedTradeOf outcome)) copy) = true
      · rw [if_pos matching]
        rw [matching, Bool.true_and] at unresolved
        unfold trackPattern
        by_cases profitable : decide (0 < outcome.pnl) = true
        · rw [profitable, Bool.true_and] at unresolved
          rw [if_pos profitable, if_neg (of_decide_eq_false unresolved)]
          exact set_progress_kept shown force onlyActive outcome.saved _
        · rw [if_neg profitable]
          exact set_progress_kept shown force onlyActive outcome.saved 0
      · rw [if_neg matching]
        exact shown
    · obtain ⟨_, _, _, inMemory⟩ := id shown
      rw [if_neg force] at inMemory
      rw [learn_profit_untaught profit inMemory]
      exact shown

/-- An outcome that completes the streak resolves the lesson. -/
theorem learn_profit_resolved (shown : Lesson.Shown memory stored)
    (resolving : memory.resolves outcome = true) (saved : outcome.saved = true) :
    ∃ lesson, stored = some lesson ∧ lesson.inForce = true ∧
      Lesson.Shown (learn memory (.closed outcome)) (some lesson.resolved) := by
  have profitable : decide (0 < outcome.pnl) = true := (Bool.and_eq_true_iff.mp resolving).1
  have profit : ¬ outcome.pnl < 0 := (of_decide_eq_true profitable).le.not_gt
  have taught : memory.activePatterns ≠ [] := by
    intro noneActive
    simp [resolves, noneActive] at resolving
  cases stored with
  | none => exact absurd shown.2 taught
  | some lesson =>
    by_cases force : lesson.inForce = true
    · obtain ⟨row, copy, _, _, onlyActive, _, _⟩ := shown_in_force shown force
      refine ⟨lesson, rfl, force, ?_⟩
      rw [resolves_single onlyActive, profitable, Bool.true_and, Bool.and_eq_true_iff] at resolving
      rw [learn_profit_taught profit onlyActive, if_pos resolving.1, trackPattern, if_pos profitable,
        if_pos (of_decide_eq_true resolving.2), saved]
      exact resolve_pattern_resolved shown force onlyActive
    · obtain ⟨_, _, _, inMemory⟩ := shown
      rw [if_neg force] at inMemory
      exact absurd inMemory taught

/-- A start that loads the patterns keeps the lesson. -/
theorem learn_restart_kept (shown : Lesson.Shown memory stored) :
    Lesson.Shown (learn memory (.restarted true)) stored := by
  cases stored with
  | none =>
    obtain ⟨noPatterns, _⟩ := shown
    refine ⟨noPatterns, ?_⟩
    simp [learn, loadPatternsOnStartup, noPatterns]
  | some lesson =>
    obtain ⟨row, onlyPattern, terms, _⟩ := shown
    refine ⟨row, onlyPattern, terms, ?_⟩
    split_ifs with force
    · refine ⟨row, ?_, terms, rfl⟩
      simp [learn, loadPatternsOnStartup, onlyPattern, terms.active, force]
    · simp [learn, loadPatternsOnStartup, onlyPattern, terms.active, force]

/-- Tracking a profit adds no record. -/
theorem keeps_records_track (records : List MistakeRecord) (saved : Bool) (trade : ClosedTrade) :
    Keeps (fun memory : MistakeMemory => memory.records = records)
      (updateResolutionProgress saved trade) := by
  have access_keeps : ∀ change : MistakeMemory → MistakeMemory,
      (∀ memory, (change memory).records = memory.records) →
        Keeps (fun memory : MistakeMemory => memory.records = records) (access saved change) := by
    intro change same
    apply keeps_ite
    · exact fun _ => keeps_modify fun memory holds => (same memory).trans holds
    · exact fun _ => keeps_raise _
  have set_keeps : ∀ progress pattern,
      Keeps (fun memory : MistakeMemory => memory.records = records)
        (setProgress saved progress pattern) := fun progress pattern =>
    keeps_bind (keeps_modify fun _ holds => holds) fun _ => access_keeps _ fun _ => rfl
  apply keeps_update_resolution_progress set_keeps
  intro pattern
  apply keeps_bind
  · exact keeps_modify fun _ holds => holds
  intro _
  apply keeps_bind
  · exact access_keeps _ fun _ => rfl
  exact fun _ => keeps_modify fun _ holds => holds

/-- A detection adds no record. -/
theorem keeps_records_detect (records : List MistakeRecord) (script : DetectScript) :
    Keeps (fun memory : MistakeMemory => memory.records = records) (detectPatterns script) :=
  keeps_detect_patterns fun classification memory holds =>
    (flag_pattern_records script classification memory).trans holds

end Events

end MistakeMemory

/-- The loss that an event feeds, if it feeds one. -/
def LearningEvent.loss : LearningEvent → Option Outcome
  | .closed outcome => if outcome.pnl < 0 then some outcome else none
  | .restarted _ => none

/-- The losses of a run. -/
def losses (events : List LearningEvent) : List Outcome := events.filterMap LearningEvent.loss

/-- The database answers: a profit that completes a streak is saved, and a start loads the
patterns. -/
def DatabaseAnswers (memory : MistakeMemory) : LearningEvent → Prop
  | .closed outcome => memory.resolves outcome = true → outcome.saved = true
  | .restarted loaded => loaded = true

namespace MistakeMemory

open MistakeAnalyzer TradingLoop

/-- An event adds the record of its loss, if that is stored. -/
theorem learn_records (memory : MistakeMemory) (event : LearningEvent) :
    (learn memory event).records =
      memory.records ++ ((losses [event]).filter (·.stored)).map mistakeOf := by
  cases event with
  | restarted loaded => simp [learn, loadPatternsOnStartup, losses, LearningEvent.loss]
  | closed outcome =>
    by_cases loss : outcome.pnl < 0
    · cases isStored : outcome.stored with
      | false =>
        rw [learn_loss_refused loss isStored]
        simp [losses, LearningEvent.loss, loss, isStored]
      | true =>
        rw [learn_loss loss isStored]
        have kept := (keeps_records_detect (memory.withRecord outcome).records
          outcome.detection).final rfl
        rw [kept]
        simp [losses, LearningEvent.loss, loss, isStored, withRecord]
    · rw [learn_profit loss]
      have kept := (keeps_records_track memory.records outcome.saved
        (closedTradeOf outcome)).final rfl
      rw [kept]
      simp [losses, LearningEvent.loss, loss]

/-- The records of a run are those of its stored losses. The induction is on the events. -/
theorem records_after (memory : MistakeMemory) (events : List LearningEvent) :
    (Machines.after learn memory events).records =
      memory.records ++ ((losses events).filter (·.stored)).map mistakeOf := by
  induction events generalizing memory with
  | nil => exact (List.append_nil _).symm
  | cons event rest inductionHypothesis =>
    have split_losses : losses (event :: rest) = losses [event] ++ losses rest := by
      unfold losses
      rw [← List.filterMap_append]
      rfl
    rw [Machines.after_cons, inductionHypothesis, learn_records, split_losses, List.filter_append,
      List.map_append, List.append_assoc]

/-- The records of every run are known. -/
theorem known_after (events : List LearningEvent) :
    (Machines.after learn {} events).RecordsKnown := by
  intro record member
  rw [records_after] at member
  obtain ⟨outcome, _, rfl⟩ := List.mem_map.mp member
  exact mistake_known outcome

/-- An event shows a lesson again if the database answers. -/
theorem learn_shown {memory : MistakeMemory} {stored : Option Lesson} (known : memory.RecordsKnown)
    (shown : Lesson.Shown memory stored) {event : LearningEvent}
    (answers : DatabaseAnswers memory event) :
    ∃ next, Lesson.Shown (learn memory event) next := by
  cases event with
  | restarted loaded =>
    obtain rfl : loaded = true := answers
    exact ⟨stored, learn_restart_kept shown⟩
  | closed outcome =>
    by_cases loss : outcome.pnl < 0
    · cases isStored : outcome.stored with
      | false =>
        rw [learn_loss_refused loss isStored]
        exact ⟨stored, shown⟩
      | true =>
        rw [learn_loss loss isStored, detect_patterns_final (known.with_record outcome)]
        have recorded := shown_with_record shown outcome
        split_ifs with detected
        · by_cases enough : Constants.mistakePatternThreshold ≤
              ((memory.withRecord outcome).windowRecords outcome.detection).length
          · obtain ⟨taught, shownAfter, _⟩ :=
              flag_pattern_taught recorded (known.with_record outcome) outcome.detection enough
            exact ⟨some taught, shownAfter⟩
          · refine ⟨stored, ?_⟩
            rw [flag_pattern_few (not_le.mp enough)]
            exact recorded
        · exact ⟨stored, recorded⟩
    · cases resolving : memory.resolves outcome with
      | false => exact ⟨stored, learn_profit_kept shown loss resolving⟩
      | true =>
        obtain ⟨lesson, _, _, resolved⟩ := learn_profit_resolved shown resolving (answers resolving)
        exact ⟨some lesson.resolved, resolved⟩

/-- Every run in which the database answers shows a lesson, or none. -/
theorem shown_after {events : List LearningEvent}
    (answers : Machines.Conforms learn DatabaseAnswers {} events) :
    ∃ stored, Lesson.Shown (Machines.after learn {} events) stored := by
  have stepKept : ∀ memory event,
      (memory.RecordsKnown ∧ ∃ stored, Lesson.Shown memory stored) → DatabaseAnswers memory event →
        (learn memory event).RecordsKnown ∧ ∃ stored, Lesson.Shown (learn memory event) stored := by
    rintro memory event ⟨known, stored, shown⟩ answered
    refine ⟨?_, learn_shown known shown answered⟩
    intro record member
    rw [learn_records] at member
    rcases List.mem_append.mp member with earlier | latest
    · exact known record earlier
    · obtain ⟨outcome, _, rfl⟩ := List.mem_map.mp latest
      exact mistake_known outcome
  exact (Machines.after_keeps stepKept ⟨fun _ member => absurd member (by simp), none, rfl, rfl⟩
    answers).2

end MistakeMemory

end IgTradingBot
