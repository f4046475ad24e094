import IgTradingBot.Learning.AnalyzerRuns
import IgTradingBot.Learning.IdenticalLosses

/-!
# Streaks that resolve a pattern

A pattern should be resolved by an unbroken streak of profits only. The loop feeds losses to the
detection of patterns and nothing else, so a loss that matches a pattern leaves its progress as it
is, and the profits before the loss count with those after it. The chronicle counts, for each
stored pattern, the matching profits since it was created or reactivated and since the last
matching loss.
-/

namespace IgTradingBot

open Sequential Sequential.Program

/-- The memory of the analyzer, and the streak of each pattern by its identifier. -/
structure StreakChronicle where
  memory : MistakeMemory := {}
  streak : String → ℕ := fun _ => 0

namespace MistakeMemory

open MistakeAnalyzer TradingLoop

/-- A stored pattern with an identifier is active. -/
def storedActive (memory : MistakeMemory) (id : String) : Bool :=
  memory.patterns.any fun row => row.id = id && row.active

/-- A closed trade matches an active stored pattern with an identifier. -/
def storedMatch (memory : MistakeMemory) (outcome : Outcome) (id : String) : Bool :=
  memory.patterns.any fun row =>
    row.id = id && row.active && matchesPattern (signalOf (closedTradeOf outcome)) row

/-- The streak of a pattern after an event: a matching profit counts, and a matching loss ends it.
Before a pattern is created or reactivated there is none. -/
def streakAfter (memory : MistakeMemory) (streak : String → ℕ) (event : LearningEvent)
    (id : String) : ℕ :=
  match event with
  | .restarted _ => streak id
  | .closed outcome =>
    if memory.storedActive id then
      if memory.storedMatch outcome id then
        if 0 < outcome.pnl then streak id + 1 else if outcome.pnl < 0 then 0 else streak id
      else streak id
    else 0

end MistakeMemory

namespace StreakChronicle

/-- An event, noted in the chronicle. -/
def step (chronicle : StreakChronicle) (event : LearningEvent) : StreakChronicle :=
  { memory := TradingLoop.learn chronicle.memory event
    streak := chronicle.memory.streakAfter chronicle.streak event }

end StreakChronicle

/-- An event that deactivates a pattern, in the table or in memory, ends a streak that is long
enough. -/
def ResolvesByStreak (chronicle : StreakChronicle) (event : LearningEvent) : Prop :=
  ∀ id, Deactivated chronicle.memory.patterns (chronicle.step event).memory.patterns id ∨
      Deactivated chronicle.memory.activePatterns (chronicle.step event).memory.activePatterns id →
    Constants.mistakeResolutionStreak ≤ (chronicle.step event).streak id

/-- No loss matches an active pattern that has made progress. -/
def SparesProgress (chronicle : StreakChronicle) : LearningEvent → Prop
  | .restarted _ => True
  | .closed outcome => outcome.pnl < 0 →
    ∀ pattern ∈ chronicle.memory.patterns ++ chronicle.memory.activePatterns,
      pattern.active = true →
      MistakeAnalyzer.matchesPattern
        (MistakeAnalyzer.signalOf (TradingLoop.closedTradeOf outcome)) pattern = true →
      pattern.resolutionProgress = 0

instance (chronicle : StreakChronicle) :
    ∀ event, Decidable (SparesProgress chronicle event)
  | .restarted _ => inferInstanceAs (Decidable True)
  | .closed _ => inferInstanceAs (Decidable (_ → _))

namespace MistakeMemory

open MistakeAnalyzer TradingLoop

/-- There is one stored pattern at most, of counter-trend entries, and in memory there is one at
most, which is a copy of it. A pattern that is resolved is not in memory. -/
def SinglePattern (memory : MistakeMemory) : Prop :=
  memory.patterns = [] ∧ memory.activePatterns = [] ∨
    ∃ row, memory.patterns = [row] ∧ row.classification = .counterTrend ∧
      (memory.activePatterns = [] ∨ row.active = true ∧
        ∃ copy, memory.activePatterns = [copy] ∧ copy.id = row.id ∧
          copy.indicatorConditions = row.indicatorConditions)

/-- The progress of every active pattern, stored or in memory, is within its streak. -/
structure Earned (memory : MistakeMemory) (streak : String → ℕ) : Prop where
  rows : ∀ row ∈ memory.patterns, row.active = true → row.resolutionProgress ≤ streak row.id
  copies : ∀ copy ∈ memory.activePatterns, copy.active = true →
    copy.resolutionProgress ≤ streak copy.id

/-- What a detection may do: patterns stay as they are, but for the count of losses, or they are
active without progress. -/
structure Flagged (memory next : MistakeMemory) : Prop where
  rows : ∀ row ∈ next.patterns,
    (∃ before ∈ memory.patterns, before.id = row.id ∧ before.active = row.active ∧
      before.resolutionProgress = row.resolutionProgress) ∨
    row.active = true ∧ row.resolutionProgress = 0
  copies : ∀ copy ∈ next.activePatterns,
    copy ∈ memory.activePatterns ∨ copy.active = true ∧ copy.resolutionProgress = 0

section Detection

variable {memory : MistakeMemory}

/-- What is left alone is flagged. -/
theorem Flagged.refl (memory : MistakeMemory) : Flagged memory memory where
  rows row stored := .inl ⟨row, stored, rfl, rfl, rfl⟩
  copies _ present := .inl present

/-- A table with one active row, which has made no progress and is the copy in memory, is single
and flagged. -/
theorem single_of_new {next : MistakeMemory} {pattern : MistakePattern}
    (stored : next.patterns = [pattern]) (present : next.activePatterns = [pattern])
    (isClass : pattern.classification = .counterTrend) (active : pattern.active = true)
    (noProgress : pattern.resolutionProgress = 0) :
    next.SinglePattern ∧ Flagged memory next := by
  refine ⟨.inr ⟨pattern, stored, isClass, .inr ⟨active, pattern, present, rfl, rfl⟩⟩, ⟨?_, ?_⟩⟩
  · intro row isRow
    rw [stored] at isRow
    obtain rfl := List.mem_singleton.mp isRow
    exact .inr ⟨active, noProgress⟩
  · intro copy isCopy
    rw [present] at isCopy
    obtain rfl := List.mem_singleton.mp isCopy
    exact .inr ⟨active, noProgress⟩

/-- A detection keeps a single pattern, and no active pattern loses its progress or is
deactivated. -/
theorem flag_pattern_single (single : memory.SinglePattern) (script : DetectScript) :
    (flagPattern script .counterTrend memory).SinglePattern ∧
      Flagged memory (flagPattern script .counterTrend memory) := by
  unfold flagPattern
  dsimp only
  split_ifs with few
  · exact ⟨single, .refl memory⟩
  · obtain ⟨noPatterns, noneActive⟩ | ⟨row, onlyPattern, isClass, inMemory⟩ := single
    · -- the first pattern is created
      simp only [patternByClassification, resolvedPattern, noPatterns, noneActive, List.find?_nil,
        List.nil_append]
      exact single_of_new rfl rfl rfl rfl rfl
    · cases active : row.active with
      | true =>
        have found : memory.patternByClassification .counterTrend = some row := by
          simp [patternByClassification, onlyPattern, isClass, active]
        simp only [found]
        have updated := update_pattern_single onlyPattern fun pattern =>
          { pattern with
            lossCount := (memory.recordsByClassification .counterTrend
              (script.now - patternWindow)).length
            lastOccurrence := ((memory.recordsByClassification .counterTrend
              (script.now - patternWindow)).getLast?.map (·.createdAt)).getD 0 }
        refine ⟨.inr ⟨_, updated, isClass, inMemory⟩, ⟨?_, fun _ present => .inl present⟩⟩
        intro changed stored
        rw [updated] at stored
        obtain rfl := List.mem_singleton.mp stored
        exact .inl ⟨row, onlyPattern ▸ List.mem_cons_self, rfl, rfl, rfl⟩
      | false =>
        have noneFound : memory.patternByClassification .counterTrend = none := by
          simp [patternByClassification, onlyPattern, active]
        have found : memory.resolvedPattern .counterTrend = some row := by
          simp [resolvedPattern, onlyPattern, isClass, active]
        have noneActive : memory.activePatterns = [] :=
          inMemory.resolve_right fun both => by simp [active] at both
        have reactivated : reactivatePattern .counterTrend memory =
            { memory with
              patterns := [reactivate row]
              activePatterns := [reactivate row] } := by
          simp only [reactivatePattern, found, updatePattern, onlyPattern, noneActive,
            List.map_cons, List.map_nil, if_true, List.not_mem_nil, if_false, List.nil_append]
        simp only [noneFound, found, reactivated]
        exact single_of_new rfl rfl isClass rfl rfl

/-- Two patterns with the same conditions match the same signals. -/
theorem matches_pattern_congr {first second : MistakePattern}
    (same : first.indicatorConditions = second.indicatorConditions) (signal : TradeSignal) :
    matchesPattern signal first = matchesPattern signal second := by
  unfold matchesPattern
  rw [same]

/-- The chronicle follows a pattern: its identifier is that of an active stored pattern, which
matches the same trades. -/
def Followed (memory : MistakeMemory) (pattern : MistakePattern) : Prop :=
  memory.storedActive pattern.id = true ∧
    ∀ outcome, memory.storedMatch outcome pattern.id =
      matchesPattern (signalOf (closedTradeOf outcome)) pattern

/-- An active stored pattern is followed. -/
theorem SinglePattern.followed_row (single : memory.SinglePattern) {row : MistakePattern}
    (stored : row ∈ memory.patterns) (active : row.active = true) : memory.Followed row := by
  obtain ⟨noPatterns, -⟩ | ⟨only, onlyPattern, -, -⟩ := single
  · exact absurd stored (by simp [noPatterns])
  · rw [onlyPattern] at stored
    obtain rfl := List.mem_singleton.mp stored
    exact ⟨by simp [storedActive, onlyPattern, active],
      fun outcome => by simp [storedMatch, onlyPattern, active]⟩

/-- A pattern in memory is followed. -/
theorem SinglePattern.followed_copy (single : memory.SinglePattern) {copy : MistakePattern}
    (present : copy ∈ memory.activePatterns) : memory.Followed copy := by
  have kept := single
  obtain ⟨-, noneActive⟩ | ⟨row, onlyPattern, -, noneActive | ⟨active, other, onlyActive, sameId,
    sameConditions⟩⟩ := single
  · exact absurd present (by simp [noneActive])
  · exact absurd present (by simp [noneActive])
  · rw [onlyActive] at present
    obtain rfl := List.mem_singleton.mp present
    have row_followed := kept.followed_row (onlyPattern ▸ List.mem_cons_self) active
    refine ⟨sameId ▸ row_followed.1, fun outcome => ?_⟩
    rw [sameId, row_followed.2 outcome]
    exact matches_pattern_congr sameConditions.symm _

/-- Where there is one pattern at most, it is not deactivated unless a pattern turns inactive. -/
theorem not_deactivated {before after : List MistakePattern} {id : String}
    (single : ∀ first ∈ before, ∀ second ∈ before, first = second)
    (same : ∀ pattern ∈ after, pattern.active = true ∨ ∃ earlier ∈ before,
      earlier.active = pattern.active) : ¬Deactivated before after id := by
  rintro ⟨⟨first, present, -, active⟩, second, later, -, inactive⟩
  obtain isActive | ⟨earlier, among, unchanged⟩ := same second later
  · exact absurd (inactive.symm.trans isActive) (by decide)
  · rw [single earlier among first present, active] at unchanged
    exact absurd (unchanged.trans inactive) (by decide)

/-- There is one row at most. -/
theorem SinglePattern.one_row (single : memory.SinglePattern) :
    ∀ first ∈ memory.patterns, ∀ second ∈ memory.patterns, first = second := by
  obtain ⟨noPatterns, -⟩ | ⟨row, onlyPattern, -, -⟩ := single
  · simp [noPatterns]
  · simp [onlyPattern]

/-- There is one pattern in memory at most. -/
theorem SinglePattern.one_copy (single : memory.SinglePattern) :
    ∀ first ∈ memory.activePatterns, ∀ second ∈ memory.activePatterns, first = second := by
  obtain ⟨-, noneActive⟩ | ⟨row, -, -, noneActive | ⟨-, copy, onlyActive, -⟩⟩ := single
  · simp [noneActive]
  · simp [noneActive]
  · simp [onlyActive]

/-- A detection deactivates nothing. -/
theorem Flagged.not_deactivated {next : MistakeMemory} (flagged : Flagged memory next)
    (single : memory.SinglePattern) (id : String) :
    ¬Deactivated memory.patterns next.patterns id ∧
      ¬Deactivated memory.activePatterns next.activePatterns id := by
  constructor
  · refine MistakeMemory.not_deactivated single.one_row fun pattern later => ?_
    obtain ⟨earlier, among, -, same, -⟩ | ⟨active, -⟩ := flagged.rows pattern later
    · exact .inr ⟨earlier, among, same⟩
    · exact .inl active
  · refine MistakeMemory.not_deactivated single.one_copy fun pattern later => ?_
    obtain among | ⟨active, -⟩ := flagged.copies pattern later
    · exact .inr ⟨pattern, among, rfl⟩
    · exact .inl active

end Detection

section Events

variable {memory : MistakeMemory} {streak : String → ℕ} {outcome : Outcome}

/-- The streak of a pattern that is followed, after a closed trade. -/
theorem streak_after_followed {pattern : MistakePattern} (followed : memory.Followed pattern)
    (outcome : Outcome) :
    memory.streakAfter streak (.closed outcome) pattern.id =
      if matchesPattern (signalOf (closedTradeOf outcome)) pattern then
        if 0 < outcome.pnl then streak pattern.id + 1
        else if outcome.pnl < 0 then 0 else streak pattern.id
      else streak pattern.id := by
  simp only [streakAfter, followed.1, if_true, followed.2 outcome]

/-- A trade that is not a loss shortens no streak that is followed. -/
theorem streak_after_profit {pattern : MistakePattern} (followed : memory.Followed pattern)
    (profit : ¬outcome.pnl < 0) :
    streak pattern.id ≤ memory.streakAfter streak (.closed outcome) pattern.id := by
  rw [streak_after_followed followed]
  split_ifs
  · exact Nat.le_succ _
  · exact le_refl _
  · exact le_refl _

/-- After a loss that spares progress, and a detection, the progress is still earned. -/
theorem Earned.loss (earned : memory.Earned streak) (single : memory.SinglePattern)
    (loss : outcome.pnl < 0) (spares : SparesProgress ⟨memory, streak⟩ (.closed outcome))
    {next : MistakeMemory} (flagged : Flagged memory next) :
    next.Earned (memory.streakAfter streak (.closed outcome)) := by
  have spared : ∀ pattern ∈ memory.patterns ++ memory.activePatterns, pattern.active = true →
      memory.Followed pattern → pattern.resolutionProgress ≤ streak pattern.id →
      pattern.resolutionProgress ≤ memory.streakAfter streak (.closed outcome) pattern.id := by
    intro pattern among active followed within
    rw [streak_after_followed followed]
    split_ifs with matching profit
    · exact absurd profit (not_lt.mpr loss.le)
    · exact (spares loss pattern among active matching).le
    · exact within
  constructor
  · intro row stored active
    obtain ⟨before, among, sameId, same, progress⟩ | ⟨-, none⟩ := flagged.rows row stored
    · rw [← sameId, ← progress]
      have wasActive := same.trans active
      exact spared before (List.mem_append_left _ among) wasActive
        (single.followed_row among wasActive) (earned.rows before among wasActive)
    · rw [none]
      exact Nat.zero_le _
  · intro copy present active
    obtain among | ⟨-, none⟩ := flagged.copies copy present
    · exact spared copy (List.mem_append_right _ among) active (single.followed_copy among)
        (earned.copies copy among active)
    · rw [none]
      exact Nat.zero_le _

/-- What a closed trade that is not a loss makes of a single pattern in memory: its progress is
set, it is resolved, or nothing changes. -/
structure Tracked (memory next : MistakeMemory) (streak : String → ℕ) : Prop where
  single : next.SinglePattern
  earned : next.Earned streak
  byStreak : ∀ id, Deactivated memory.patterns next.patterns id ∨
    Deactivated memory.activePatterns next.activePatterns id →
      Constants.mistakeResolutionStreak ≤ streak id

/-- Nothing is deactivated where everything stays. -/
theorem Tracked.refl (single : memory.SinglePattern) (earned : memory.Earned streak) :
    Tracked memory memory streak where
  single := single
  earned := earned
  byStreak id gone := by
    have stays := (Flagged.refl memory).not_deactivated single id
    exact absurd gone (not_or.mpr stays)

/-- The stored pattern is active, and a copy of it is in memory. -/
structure InForce (memory : MistakeMemory) (row copy : MistakePattern) : Prop where
  onlyPattern : memory.patterns = [row]
  isClass : row.classification = .counterTrend
  active : row.active = true
  onlyActive : memory.activePatterns = [copy]
  sameId : copy.id = row.id
  sameConditions : copy.indicatorConditions = row.indicatorConditions

/-- A pattern in force is a single one. -/
theorem InForce.single {row copy : MistakePattern} (force : memory.InForce row copy) :
    memory.SinglePattern :=
  .inr ⟨row, force.onlyPattern, force.isClass, .inr ⟨force.active, copy, force.onlyActive,
    force.sameId, force.sameConditions⟩⟩

section Tracking

variable {row copy : MistakePattern} {longer : String → ℕ}

/-- Setting the progress within the streak keeps it earned. -/
theorem InForce.set_progress (force : memory.InForce row copy)
    (within : row.resolutionProgress ≤ longer row.id) (saved : Bool) {progress : ℕ}
    (earned : progress ≤ longer row.id) :
    Tracked memory (setProgress saved progress copy memory).2 longer := by
  have inMemory : (memory.updateActive copy.id fun pattern =>
      { pattern with resolutionProgress := progress }).activePatterns =
        [{ copy with resolutionProgress := progress }] := by
    simp only [updateActive, force.onlyActive, List.map_cons, List.map_nil, if_true]
  have inTable : (memory.updatePattern copy.id fun pattern =>
      { pattern with resolutionProgress := progress }).patterns =
        [{ row with resolutionProgress := progress }] := by
    simp only [updatePattern, force.onlyPattern, force.sameId, List.map_cons, List.map_nil, if_true]
  obtain ⟨stored, storedForce, storedWithin⟩ : ∃ stored,
      (setProgress saved progress copy memory).2.InForce stored
        { copy with resolutionProgress := progress } ∧
      stored.resolutionProgress ≤ longer stored.id := by
    cases saved with
    | false =>
      exact ⟨row, ⟨force.onlyPattern, force.isClass, force.active, inMemory, force.sameId,
        force.sameConditions⟩, within⟩
    | true =>
      exact ⟨{ row with resolutionProgress := progress }, ⟨inTable, force.isClass, force.active,
        inMemory, force.sameId, force.sameConditions⟩, earned⟩
  refine ⟨storedForce.single, ⟨?_, ?_⟩, fun id gone => ?_⟩
  · intro pattern among _
    rw [storedForce.onlyPattern] at among
    obtain rfl := List.mem_singleton.mp among
    exact storedWithin
  · intro pattern among _
    rw [storedForce.onlyActive] at among
    obtain rfl := List.mem_singleton.mp among
    exact force.sameId ▸ earned
  · refine absurd gone (not_or.mpr ⟨?_, ?_⟩)
    · refine not_deactivated force.single.one_row fun pattern later => ?_
      rw [storedForce.onlyPattern] at later
      exact .inl (List.mem_singleton.mp later ▸ storedForce.active)
    · refine not_deactivated force.single.one_copy fun pattern later => ?_
      rw [storedForce.onlyActive] at later
      exact .inr ⟨copy, force.onlyActive ▸ List.mem_cons_self,
        (List.mem_singleton.mp later).symm ▸ rfl⟩

/-- Resolving the pattern ends a streak that is long enough. -/
theorem InForce.resolve (force : memory.InForce row copy)
    (within : row.resolutionProgress ≤ longer row.id) (saved : Bool)
    (enough : Constants.mistakeResolutionStreak ≤ longer row.id) :
    Tracked memory (resolvePattern saved copy memory).2 longer := by
  have own : ∀ id, Deactivated memory.patterns (resolvePattern saved copy memory).2.patterns id ∨
      Deactivated memory.activePatterns (resolvePattern saved copy memory).2.activePatterns id →
      id = row.id := by
    rintro id (⟨⟨pattern, among, named, -⟩, -⟩ | ⟨⟨pattern, among, named, -⟩, -⟩)
    · rw [force.onlyPattern] at among
      exact named.symm.trans (congrArg _ (List.mem_singleton.mp among))
    · rw [force.onlyActive] at among
      exact (named.symm.trans (congrArg _ (List.mem_singleton.mp among))).trans force.sameId
  cases saved with
  | false =>
    -- the database does not take it, and an inactive copy stays in memory
    have ended : (resolvePattern false copy memory).2 =
        { memory with
          activePatterns :=
            [{ copy with
                resolutionProgress := copy.resolutionProgress + 1
                active := false }] } := by
      simp [resolvePattern, bind_run, access, updateActive, force.onlyActive]
    rw [ended] at own ⊢
    refine ⟨.inr ⟨row, force.onlyPattern, force.isClass, .inr ⟨force.active, _, rfl, force.sameId,
      force.sameConditions⟩⟩, ⟨?_, ?_⟩, fun id gone => own id gone ▸ enough⟩
    · intro pattern among _
      rw [force.onlyPattern] at among
      exact List.mem_singleton.mp among ▸ within
    · intro pattern among active
      rw [List.mem_singleton.mp among] at active
      exact absurd active Bool.false_ne_true
  | true =>
    have ended : (resolvePattern true copy memory).2 =
        { memory with patterns := [{ row with active := false }], activePatterns := [] } := by
      simp [resolvePattern, bind_run, access, updateActive, updatePattern, force.onlyPattern,
        force.onlyActive, force.sameId]
    rw [ended] at own ⊢
    refine ⟨.inr ⟨_, rfl, force.isClass, .inl rfl⟩, ⟨?_, ?_⟩, fun id gone => own id gone ▸ enough⟩
    · intro pattern among active
      rw [List.mem_singleton.mp among] at active
      exact absurd active Bool.false_ne_true
    · intro pattern among
      exact absurd among List.not_mem_nil

end Tracking

/-- A closed trade that is not a loss is tracked within the streaks. -/
theorem tracked_profit (single : memory.SinglePattern) (earned : memory.Earned streak)
    (profit : ¬outcome.pnl < 0) :
    Tracked memory (learn memory (.closed outcome))
      (memory.streakAfter streak (.closed outcome)) := by
  have longer : memory.Earned (memory.streakAfter streak (.closed outcome)) :=
    { rows := fun row stored active => (earned.rows row stored active).trans
        (streak_after_profit (single.followed_row stored active) profit)
      copies := fun copy present active => (earned.copies copy present active).trans
        (streak_after_profit (single.followed_copy present) profit) }
  have kept := single
  obtain ⟨-, noneActive⟩ | ⟨row, onlyPattern, isClass, noneActive | ⟨active, copy, onlyActive,
    sameId, sameConditions⟩⟩ := single
  · rw [learn_profit_untaught profit noneActive]
    exact .refl kept longer
  · rw [learn_profit_untaught profit noneActive]
    exact .refl kept longer
  · have force : memory.InForce row copy :=
      ⟨onlyPattern, isClass, active, onlyActive, sameId, sameConditions⟩
    have present : copy ∈ memory.activePatterns := onlyActive ▸ List.mem_cons_self
    have within := longer.rows row (onlyPattern ▸ List.mem_cons_self) active
    rw [learn_profit_taught profit onlyActive]
    split_ifs with matching
    · obtain ⟨copyActive, fits⟩ := Bool.and_eq_true_iff.mp matching
      have count := @streak_after_followed memory streak copy (kept.followed_copy present) outcome
      rw [if_pos fits, sameId] at count
      have copyWithin := earned.copies copy present copyActive
      rw [sameId] at copyWithin
      unfold trackPattern
      by_cases gain : 0 < outcome.pnl
      · rw [if_pos gain] at count
        rw [if_pos (decide_eq_true gain)]
        split_ifs with enough
        · refine force.resolve within outcome.saved ?_
          rw [count]
          exact enough.trans (Nat.succ_le_succ copyWithin)
        · refine force.set_progress within outcome.saved ?_
          rw [count]
          exact Nat.succ_le_succ copyWithin
      · rw [if_neg fun isGain => gain (of_decide_eq_true isGain)]
        exact force.set_progress within outcome.saved (Nat.zero_le _)
    · exact .refl kept longer

/-- A restart keeps a single pattern and what it has earned, and deactivates nothing. -/
theorem tracked_restart (single : memory.SinglePattern) (earned : memory.Earned streak)
    (loaded : Bool) : Tracked memory (learn memory (.restarted loaded)) streak := by
  have fromRows : ∀ copy ∈ (learn memory (.restarted loaded)).activePatterns,
      copy ∈ memory.patterns ∧ copy.active = true :=
    fun _ present => (mem_load_patterns.mp present).2
  refine ⟨?_, ⟨earned.rows, ?_⟩, fun id gone => absurd gone (not_or.mpr ⟨?_, ?_⟩)⟩
  · obtain ⟨noPatterns, -⟩ | ⟨row, onlyPattern, isClass, -⟩ := single
    · refine .inl ⟨noPatterns, ?_⟩
      simp [learn, loadPatternsOnStartup, noPatterns]
    · refine .inr ⟨row, onlyPattern, isClass, ?_⟩
      by_cases force : row.active = true ∧ loaded = true
      · refine .inr ⟨force.1, row, ?_, rfl, rfl⟩
        simp [learn, loadPatternsOnStartup, onlyPattern, force.1, force.2]
      · refine .inl ?_
        cases loaded with
        | false => rfl
        | true =>
          have inactive : row.active = false := by simpa using force
          simp [learn, loadPatternsOnStartup, onlyPattern, inactive]
  · intro copy present active
    exact earned.rows copy (fromRows copy present).1 active
  · exact not_deactivated single.one_row fun pattern later => .inr ⟨pattern, later, rfl⟩
  · exact not_deactivated single.one_copy fun pattern later =>
      .inl (fromRows pattern later).2

/-- What a run of the loop keeps: the records are known, there is a single pattern, and its
progress is earned. -/
structure StreakInvariant (chronicle : StreakChronicle) : Prop where
  known : chronicle.memory.RecordsKnown
  single : chronicle.memory.SinglePattern
  earned : chronicle.memory.Earned chronicle.streak

/-- An event that spares progress keeps this, and deactivates patterns by their streaks only. -/
theorem StreakInvariant.step {chronicle : StreakChronicle} (holds : StreakInvariant chronicle)
    (event : LearningEvent) (spares : SparesProgress chronicle event) :
    StreakInvariant (chronicle.step event) ∧ ResolvesByStreak chronicle event := by
  have known : (chronicle.step event).memory.RecordsKnown := by
    intro record member
    unfold StreakChronicle.step at member
    dsimp only at member
    rw [learn_records] at member
    rcases List.mem_append.mp member with earlier | latest
    · exact holds.known record earlier
    · obtain ⟨outcome, _, rfl⟩ := List.mem_map.mp latest
      exact mistake_known outcome
  cases event with
  | restarted loaded =>
    have tracked := tracked_restart holds.single holds.earned loaded
    exact ⟨⟨known, tracked.single, tracked.earned⟩, tracked.byStreak⟩
  | closed outcome =>
    by_cases loss : outcome.pnl < 0
    · obtain ⟨single, flagged⟩ :
          (learn chronicle.memory (.closed outcome)).SinglePattern ∧
            Flagged chronicle.memory (learn chronicle.memory (.closed outcome)) := by
        cases isStored : outcome.stored with
        | false =>
          rw [learn_loss_refused loss isStored]
          exact ⟨holds.single, .refl _⟩
        | true =>
          rw [learn_loss loss isStored,
            detect_patterns_final (holds.known.with_record outcome)]
          have recorded : (chronicle.memory.withRecord outcome).SinglePattern := holds.single
          split_ifs
          · obtain ⟨single, flagged⟩ := flag_pattern_single recorded outcome.detection
            exact ⟨single, flagged.rows, flagged.copies⟩
          · exact ⟨recorded, (Flagged.refl chronicle.memory).rows,
              (Flagged.refl chronicle.memory).copies⟩
      refine ⟨⟨known, single, holds.earned.loss holds.single loss spares flagged⟩, ?_⟩
      intro id gone
      exact absurd gone (not_or.mpr (flagged.not_deactivated holds.single id))
    · have tracked := tracked_profit holds.single holds.earned loss
      exact ⟨⟨known, tracked.single, tracked.earned⟩, tracked.byStreak⟩

end Events

end MistakeMemory

/-- In every run of the loop in which no loss matches an active pattern that has made progress, a
pattern becomes inactive only by a streak: since it was created or reactivated, the required
number of matching trades were profits, with no matching loss between them. -/
theorem resolved_by_streak (events : List LearningEvent)
    (spares : Machines.Conforms StreakChronicle.step SparesProgress {} events) :
    ∀ reached event, reached ++ [event] <+: events →
      ResolvesByStreak (Machines.after StreakChronicle.step {} reached) event := by
  have initial : MistakeMemory.StreakInvariant {} :=
    ⟨fun _ member => absurd member (by simp), .inl ⟨rfl, rfl⟩, ⟨by simp, by simp⟩⟩
  refine Machines.conforms_iff_forall_prefix.mp (Machines.conforms_under ?_ ?_ initial spares)
  · exact fun _ event holds spared => (holds.step event spared).1
  · exact fun _ event holds spared => (holds.step event spared).2

/-- Five losses of a signal, and then profits of it at some times. -/
def lossesThenProfits (signal : AnalyzedSignal) (times : List ℚ) : List LearningEvent :=
  MistakeMemory.repeatedLosses signal [0, 60, 120, 180, 240] ++
    times.map fun time => .closed { MistakeMemory.lossAt signal time with pnl := 10 }

/-- Twenty profits resolve the pattern of five losses. -/
theorem twenty_profits_resolve :
    (Machines.after StreakChronicle.step {}
        (lossesThenProfits MistakeMemory.legacySignal (List.replicate 20 300))).memory.activePatterns =
          [] ∧
      ResolvesByStreak
        (Machines.after StreakChronicle.step {}
          (lossesThenProfits MistakeMemory.legacySignal (List.replicate 19 300)))
        (.closed { MistakeMemory.lossAt MistakeMemory.legacySignal 300 with pnl := 10 }) :=
  ⟨by decide +kernel, resolved_by_streak
    (lossesThenProfits MistakeMemory.legacySignal (List.replicate 20 300)) (by decide +kernel) _ _
    ⟨[], rfl⟩⟩

/-- After nineteen profits a loss does not start the streak anew: one more profit resolves the
pattern. -/
theorem loss_does_not_end_streak :
    ¬∀ (events : List LearningEvent) reached event, reached ++ [event] <+: events →
      ResolvesByStreak (Machines.after StreakChronicle.step {} reached) event := by
  intro claim
  have last := claim _
    (lossesThenProfits MistakeMemory.legacySignal (List.replicate 19 300) ++
      MistakeMemory.repeatedLosses MistakeMemory.legacySignal [360])
    (.closed { MistakeMemory.lossAt MistakeMemory.legacySignal 420 with pnl := 10 })
    (List.prefix_refl _) "pattern" (.inl (by decide +kernel))
  exact absurd last (by decide +kernel)

end IgTradingBot
