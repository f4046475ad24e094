import IgTradingBot.Learning.MistakeAnalyzer
import IgTradingBot.Library.KeyedRows
import IgTradingBot.Library.Machines
import Mathlib.Data.List.Basic

/-!
# Runs of the analyzer

Operations of the analyzer on its own, with losses of every class. The table has one row for each
class at most, as long as the identifiers of new patterns are new, and a detection changes the
rows class by class: what it makes of a row does not depend on the other classes.
-/

namespace IgTradingBot

open Sequential Sequential.Program

/-- Operations of the analyzer and of its storage. The program may be started again between
them. -/
inductive AnalyzerOperation where
  | storeRecord (record : MistakeRecord) (stored : Bool)
  | detectPatterns (script : DetectScript)
  | updateResolutionProgress (trade : ClosedTrade) (saved : Bool)
  | reactivatePattern (classification : MistakeClassification) (answered : Bool)
  | restarted (loaded : Bool)

/-- A pattern with an identifier was active and is not any more. -/
def Deactivated (before after : List MistakePattern) (id : String) : Prop :=
  (∃ pattern ∈ before, pattern.id = id ∧ pattern.active = true) ∧
    ∃ pattern ∈ after, pattern.id = id ∧ pattern.active = false

instance (before after : List MistakePattern) (id : String) :
    Decidable (Deactivated before after id) :=
  inferInstanceAs (Decidable (_ ∧ _))

namespace MistakeMemory

open MistakeAnalyzer

/-- The memory and the tables after an operation, also after one that raises an exception. -/
def operate (memory : MistakeMemory) : AnalyzerOperation → MistakeMemory
  | .storeRecord record stored => (storeRecord stored record memory).2
  | .detectPatterns script => (detectPatterns script memory).2
  | .updateResolutionProgress trade saved => (updateResolutionProgress saved trade memory).2
  | .reactivatePattern classification answered =>
    (access answered (reactivatePattern classification) memory).2
  | .restarted loaded => loadPatternsOnStartup loaded memory

/-- No two rows have the same identifier or the same class, and every active row has one copy in
memory at most. -/
structure Tidy (memory : MistakeMemory) : Prop where
  ids : KeyedRows.UniqueOn (fun pattern => some pattern.id) memory.patterns
  classes : KeyedRows.UniqueOn (fun pattern => some pattern.classification) memory.patterns
  copyIds : KeyedRows.UniqueOn (fun pattern => some pattern.id) memory.activePatterns
  copiesStored : ∀ copy ∈ memory.activePatterns,
    ∃ row ∈ memory.patterns, row.id = copy.id ∧ row.active = true

/-- The identifiers of new patterns differ from one another and from those of the stored ones, as
random ones do. -/
def FreshIds (memory : MistakeMemory) : AnalyzerOperation → Prop
  | .detectPatterns script =>
    (MistakeClassification.all.map script.patternId).Nodup ∧
      ∀ classification ∈ MistakeClassification.all, ∀ row ∈ memory.patterns,
        row.id ≠ script.patternId classification
  | _ => True

instance (memory : MistakeMemory) : ∀ operation, Decidable (memory.FreshIds operation)
  | .detectPatterns _ => inferInstanceAs (Decidable (_ ∧ _))
  | .storeRecord _ _ => inferInstanceAs (Decidable True)
  | .updateResolutionProgress _ _ => inferInstanceAs (Decidable True)
  | .reactivatePattern _ _ => inferInstanceAs (Decidable True)
  | .restarted _ => inferInstanceAs (Decidable True)

/-- The losses of a class in the window of a detection. -/
def classWindow (script : DetectScript) (classification : MistakeClassification)
    (memory : MistakeMemory) : List MistakeRecord :=
  memory.recordsByClassification classification (script.now - patternWindow)

/-- There are enough losses of a class in the window. -/
def Enough (script : DetectScript) (classification : MistakeClassification)
    (memory : MistakeMemory) : Prop :=
  Constants.mistakePatternThreshold ≤ (memory.classWindow script classification).length

instance (script : DetectScript) (classification : MistakeClassification)
    (memory : MistakeMemory) : Decidable (memory.Enough script classification) :=
  inferInstanceAs (Decidable (_ ≤ _))

/-- An active row with the losses in the window. -/
def counted (script : DetectScript) (memory : MistakeMemory) (row : MistakePattern) :
    MistakePattern :=
  { row with
    lossCount := (memory.classWindow script row.classification).length
    lastOccurrence :=
      ((memory.classWindow script row.classification).getLast?.map (·.createdAt)).getD 0 }

/-- What a flag makes of the row of its class. -/
def flaggedRow (script : DetectScript) (memory : MistakeMemory) (row : MistakePattern) :
    MistakePattern :=
  if row.active then memory.counted script row else reactivate row

/-- What a flag of a class makes of a row. -/
def flaggedFor (script : DetectScript) (memory : MistakeMemory)
    (classification : MistakeClassification) (row : MistakePattern) : MistakePattern :=
  if row.classification = classification ∧ memory.Enough script classification then
    memory.flaggedRow script row
  else row

/-- The row that a flag adds, if its class has enough losses and no row yet. -/
def newRows (script : DetectScript) (memory : MistakeMemory)
    (classification : MistakeClassification) : List MistakePattern :=
  if memory.Enough script classification ∧
      ∀ row ∈ memory.patterns, row.classification ≠ classification then
    [newPattern script classification (memory.classWindow script classification)]
  else []

/-- A pattern that joins the memory with a flag: the resolved one of the class comes back, or the
first one of the class is created. -/
def Joins (script : DetectScript) (memory : MistakeMemory)
    (classification : MistakeClassification) (copy : MistakePattern) : Prop :=
  memory.Enough script classification ∧
      (∃ row ∈ memory.patterns, row.classification = classification ∧ row.active = false ∧
        copy = reactivate row) ∨
    copy ∈ memory.newRows script classification

section Flags

variable {memory : MistakeMemory} {script : DetectScript}
  {classification : MistakeClassification}

/-- An identifier names one row. -/
theorem Tidy.eq_of_id (tidy : memory.Tidy) {row other : MistakePattern}
    (stored : row ∈ memory.patterns) (otherStored : other ∈ memory.patterns)
    (same : row.id = other.id) : row = other :=
  tidy.ids.eq_of_key stored otherStored (congrArg some same) rfl

/-- A class has one row. -/
theorem Tidy.eq_of_class (tidy : memory.Tidy) {row other : MistakePattern}
    (stored : row ∈ memory.patterns) (otherStored : other ∈ memory.patterns)
    (same : row.classification = other.classification) : row = other :=
  tidy.classes.eq_of_key stored otherStored (congrArg some same) rfl

/-- A row that is found as active is the stored row of its class. -/
theorem pattern_by_classification_some {row : MistakePattern}
    (found : memory.patternByClassification classification = some row) :
    row ∈ memory.patterns ∧ row.classification = classification ∧ row.active = true := by
  have picked := List.find?_some found
  simp only [Bool.and_eq_true, decide_eq_true_eq] at picked
  exact ⟨List.mem_of_find?_eq_some found, picked.1, picked.2⟩

/-- A row that is found as resolved is the stored row of its class. -/
theorem resolved_pattern_some {row : MistakePattern}
    (found : memory.resolvedPattern classification = some row) :
    row ∈ memory.patterns ∧ row.classification = classification ∧ row.active = false := by
  have picked := List.find?_some found
  simp only [Bool.and_eq_true, decide_eq_true_eq, Bool.not_eq_true'] at picked
  exact ⟨List.mem_of_find?_eq_some found, picked.1, picked.2⟩

/-- A class without an active and without a resolved row has none. -/
theorem no_row_of_none (noneActive : memory.patternByClassification classification = none)
    (noneResolved : memory.resolvedPattern classification = none) :
    ∀ row ∈ memory.patterns, row.classification ≠ classification := by
  intro row stored same
  have notActive := List.find?_eq_none.mp noneActive row stored
  have notResolved := List.find?_eq_none.mp noneResolved row stored
  cases active : row.active <;> simp [same, active] at notActive notResolved

/-- An update by the identifier of the row of a class is one of its class. -/
theorem Tidy.update_pattern (tidy : memory.Tidy) {row : MistakePattern}
    (stored : row ∈ memory.patterns) (isClass : row.classification = classification)
    (change : MistakePattern → MistakePattern) :
    (memory.updatePattern row.id change).patterns = memory.patterns.map fun other =>
      if other.classification = classification then change other else other := by
  refine List.map_congr_left fun other otherStored => ?_
  have sameRow : other.id = row.id ↔ other.classification = classification := by
    constructor
    · exact fun same => (tidy.eq_of_id otherStored stored same) ▸ isClass
    · exact fun same => congrArg _ (tidy.eq_of_class otherStored stored (same.trans isClass.symm))
  simp only [sameRow]

/-- A flag leaves everything as it is, counts the losses of the active row of the class, brings its
resolved row back, or adds a row. -/
theorem flag_pattern_cases (script : DetectScript) (classification : MistakeClassification)
    (memory : MistakeMemory) :
    ¬memory.Enough script classification ∧
        flagPattern script classification memory = memory ∨
      memory.Enough script classification ∧
        ((∃ row ∈ memory.patterns, row.classification = classification ∧ row.active = true ∧
            flagPattern script classification memory =
              memory.updatePattern row.id fun pattern =>
                { pattern with
                  lossCount := (memory.classWindow script classification).length
                  lastOccurrence := ((memory.classWindow script classification).getLast?.map
                    (·.createdAt)).getD 0 }) ∨
          (∃ row ∈ memory.patterns, row.classification = classification ∧ row.active = false ∧
            flagPattern script classification memory =
              { memory.updatePattern row.id reactivate with
                activePatterns :=
                  if reactivate row ∈ memory.activePatterns then memory.activePatterns
                  else memory.activePatterns ++ [reactivate row] }) ∨
          (∀ row ∈ memory.patterns, row.classification ≠ classification) ∧
            flagPattern script classification memory =
              { memory with
                patterns := newPattern script classification
                  (memory.classWindow script classification) :: memory.patterns
                activePatterns := memory.activePatterns ++
                  [newPattern script classification
                    (memory.classWindow script classification)] }) := by
  unfold flagPattern Enough classWindow
  dsimp only
  by_cases enough : Constants.mistakePatternThreshold ≤
      (memory.recordsByClassification classification (script.now - patternWindow)).length
  · rw [if_neg (not_lt.mpr enough)]
    refine .inr ⟨enough, ?_⟩
    cases found : memory.patternByClassification classification with
    | some row =>
      obtain ⟨stored, isClass, active⟩ := pattern_by_classification_some found
      exact .inl ⟨row, stored, isClass, active, rfl⟩
    | none =>
      cases resolved : memory.resolvedPattern classification with
      | some row =>
        obtain ⟨stored, isClass, inactive⟩ := resolved_pattern_some resolved
        refine .inr (.inl ⟨row, stored, isClass, inactive, ?_⟩)
        simp only [reactivatePattern, resolved]
        have sameCopies : (memory.updatePattern row.id reactivate).activePatterns =
            memory.activePatterns := rfl
        rw [sameCopies]
        split_ifs <;> rfl
      | none => exact .inr (.inr ⟨no_row_of_none found resolved, rfl⟩)
  · rw [if_pos (not_le.mp enough)]
    exact .inl ⟨enough, rfl⟩

/-- A class that has a row gets no new one. -/
theorem new_rows_of_row {row : MistakePattern} (stored : row ∈ memory.patterns)
    (isClass : row.classification = classification) :
    memory.newRows script classification = [] :=
  if_neg fun both => both.2 row stored isClass

/-- What a flag of a class makes of the table. -/
theorem Tidy.flag_pattern_rows (tidy : memory.Tidy) (script : DetectScript)
    (classification : MistakeClassification) :
    (flagPattern script classification memory).patterns =
      memory.newRows script classification ++
        memory.patterns.map (memory.flaggedFor script classification) := by
  have mapped : ∀ {row : MistakePattern}, row ∈ memory.patterns →
      row.classification = classification → memory.Enough script classification →
      ∀ change : MistakePattern → MistakePattern, change row = memory.flaggedRow script row →
      (memory.updatePattern row.id change).patterns =
        memory.patterns.map (memory.flaggedFor script classification) := by
    intro row stored isClass enough change same
    rw [tidy.update_pattern stored isClass]
    refine List.map_congr_left fun other otherStored => ?_
    unfold flaggedFor
    by_cases isOther : other.classification = classification
    · obtain rfl := tidy.eq_of_class otherStored stored (isOther.trans isClass.symm)
      rw [if_pos isOther, if_pos ⟨isOther, enough⟩, same]
    · rw [if_neg isOther, if_neg fun both => isOther both.1]
  obtain ⟨few, same⟩ | ⟨enough, ⟨row, stored, isClass, active, same⟩ |
    ⟨row, stored, isClass, inactive, same⟩ | ⟨noRow, same⟩⟩ :=
    flag_pattern_cases script classification memory
  · have unchanged : memory.flaggedFor script classification = id := by
      funext row
      exact if_neg fun both => few both.2
    rw [same, newRows, if_neg fun both => few both.1, unchanged, List.map_id, List.nil_append]
  · rw [same, new_rows_of_row stored isClass, List.nil_append]
    refine mapped stored isClass enough _ ?_
    rw [flaggedRow, if_pos active, counted, isClass]
  · rw [same, new_rows_of_row stored isClass, List.nil_append]
    refine mapped stored isClass enough _ ?_
    rw [flaggedRow, if_neg (by simp [inactive])]
  · have unchanged : memory.patterns.map (memory.flaggedFor script classification) =
        memory.patterns := by
      refine (List.map_congr_left fun row stored => ?_).trans (List.map_id _)
      exact if_neg fun both => noRow row stored both.1
    rw [same, newRows, if_pos ⟨enough, noRow⟩, unchanged]
    rfl

/-- A flag keeps the identifier and the class of a row. -/
theorem flagged_for_keys (row : MistakePattern) :
    (memory.flaggedFor script classification row).id = row.id ∧
      (memory.flaggedFor script classification row).classification = row.classification := by
  unfold flaggedFor flaggedRow
  split_ifs <;> exact ⟨rfl, rfl⟩

/-- A row that is added has the class of its flag and the identifier of the script. -/
theorem mem_new_rows {row : MistakePattern} :
    row ∈ memory.newRows script classification ↔
      memory.Enough script classification ∧
        (∀ stored ∈ memory.patterns, stored.classification ≠ classification) ∧
        row = newPattern script classification (memory.classWindow script classification) := by
  unfold newRows
  split_ifs with both
  · rw [List.mem_singleton]
    exact ⟨fun same => ⟨both.1, both.2, same⟩, fun all => all.2.2⟩
  · exact iff_of_false List.not_mem_nil fun all => both ⟨all.1, all.2.1⟩

/-- A change of a row that keeps its identifier, its class and its activity keeps the table tidy. -/
theorem Tidy.change_row (tidy : memory.Tidy) (id : String)
    {change : MistakePattern → MistakePattern}
    (keeps : ∀ row, (change row).id = row.id ∧ (change row).classification = row.classification ∧
      (row.active = true → (change row).active = true)) :
    (memory.updatePattern id change).Tidy := by
  refine ⟨tidy.ids.map fun row => ?_, tidy.classes.map fun row => ?_, tidy.copyIds, ?_⟩
  · split_ifs
    · exact congrArg some (keeps row).1
    · rfl
  · split_ifs
    · exact congrArg some (keeps row).2.1
    · rfl
  · intro copy present
    obtain ⟨row, stored, sameId, active⟩ := tidy.copiesStored copy present
    refine ⟨_, List.mem_map_of_mem stored, ?_⟩
    split_ifs
    · exact ⟨(keeps row).1.trans sameId, (keeps row).2.2 active⟩
    · exact ⟨sameId, active⟩

/-- A change of a copy that keeps its identifier keeps the table tidy. -/
theorem Tidy.change_copy (tidy : memory.Tidy) (id : String)
    {change : MistakePattern → MistakePattern} (keeps : ∀ copy, (change copy).id = copy.id) :
    (memory.updateActive id change).Tidy := by
  have sameId : ∀ copy : MistakePattern,
      (if copy.id = id then change copy else copy).id = copy.id := by
    intro copy
    split_ifs
    · exact keeps copy
    · rfl
  refine ⟨tidy.ids, tidy.classes, tidy.copyIds.map fun copy => congrArg some (sameId copy), ?_⟩
  intro copy present
  obtain ⟨before, wasPresent, rfl⟩ := List.mem_map.mp present
  rw [sameId]
  exact tidy.copiesStored before wasPresent

/-- No copy belongs to a resolved row. -/
theorem Tidy.no_copy (tidy : memory.Tidy) {row : MistakePattern} (stored : row ∈ memory.patterns)
    (inactive : row.active = false) : ∀ copy ∈ memory.activePatterns, copy.id ≠ row.id := by
  intro copy present sameId
  obtain ⟨other, otherStored, isCopy, active⟩ := tidy.copiesStored copy present
  rw [tidy.eq_of_id otherStored stored (isCopy.trans sameId), inactive] at active
  exact absurd active (by decide)

/-- A pattern with a new identifier, or one whose row has no copy yet, joins the memory. -/
theorem Tidy.join (tidy : memory.Tidy) {row : MistakePattern} (stored : row ∈ memory.patterns)
    (active : row.active = true) (apart : ∀ copy ∈ memory.activePatterns, copy.id ≠ row.id) :
    Tidy { memory with activePatterns := memory.activePatterns ++ [row] } where
  ids := tidy.ids
  classes := tidy.classes
  copyIds := tidy.copyIds.concat fun _ named copy present isCopy =>
    apart copy present (Option.some.inj (isCopy.trans named.symm))
  copiesStored := by
    intro copy present
    obtain old | new := List.mem_append.mp present
    · exact tidy.copiesStored copy old
    · obtain rfl := List.mem_singleton.mp new
      exact ⟨copy, stored, rfl, active⟩

/-- A resolved row that comes back joins the memory. -/
theorem Tidy.bring_back (tidy : memory.Tidy) {row : MistakePattern}
    (stored : row ∈ memory.patterns) (inactive : row.active = false) :
    Tidy
      { memory.updatePattern row.id reactivate with
        activePatterns :=
          if reactivate row ∈ memory.activePatterns then memory.activePatterns
          else memory.activePatterns ++ [reactivate row] } := by
  have apart := tidy.no_copy stored inactive
  have absent : reactivate row ∉ memory.activePatterns := fun present => apart _ present rfl
  dsimp only
  rw [if_neg absent]
  have changed : (memory.updatePattern row.id reactivate).Tidy :=
    tidy.change_row row.id fun _ => ⟨rfl, rfl, fun _ => rfl⟩
  exact changed.join (List.mem_map.mpr ⟨row, stored, if_pos rfl⟩) rfl apart

/-- A flag with a new identifier keeps the table tidy. -/
theorem Tidy.flag_pattern (tidy : memory.Tidy)
    (fresh : ∀ row ∈ memory.patterns, row.id ≠ script.patternId classification) :
    (flagPattern script classification memory).Tidy := by
  obtain ⟨-, same⟩ | ⟨-, ⟨row, -, -, -, same⟩ | ⟨row, stored, -, inactive, same⟩ |
    ⟨noRow, same⟩⟩ := flag_pattern_cases script classification memory
  · rw [same]
    exact tidy
  · rw [same]
    exact tidy.change_row row.id fun _ => ⟨rfl, rfl, id⟩
  · rw [same]
    exact tidy.bring_back stored inactive
  · rw [same]
    have created : Tidy { memory with
        patterns := newPattern script classification
          (memory.classWindow script classification) :: memory.patterns } := by
      refine ⟨tidy.ids.cons ?_, tidy.classes.cons ?_, tidy.copyIds, fun copy present => ?_⟩
      · exact fun _ named other stored isOther =>
          fresh other stored (Option.some.inj (isOther.trans named.symm))
      · exact fun _ named other stored isOther =>
          noRow other stored (Option.some.inj (isOther.trans named.symm))
      · obtain ⟨row, stored, isRow⟩ := tidy.copiesStored copy present
        exact ⟨row, List.mem_cons_of_mem _ stored, isRow⟩
    refine created.join List.mem_cons_self rfl fun copy present => ?_
    obtain ⟨row, stored, sameId, -⟩ := tidy.copiesStored copy present
    rw [← sameId]
    exact fresh row stored

/-- What a flag of a class adds to the memory. -/
theorem Tidy.mem_flag_pattern_active (tidy : memory.Tidy) (script : DetectScript)
    (classification : MistakeClassification) (copy : MistakePattern) :
    copy ∈ (flagPattern script classification memory).activePatterns ↔
      copy ∈ memory.activePatterns ∨ memory.Joins script classification copy := by
  unfold Joins
  obtain ⟨few, same⟩ | ⟨enough, ⟨row, stored, isClass, active, same⟩ |
    ⟨row, stored, isClass, inactive, same⟩ | ⟨noRow, same⟩⟩ :=
    flag_pattern_cases script classification memory
  · rw [same, newRows, if_neg fun both => few both.1]
    simp [few]
  · rw [same, new_rows_of_row stored isClass]
    refine (or_iff_left ?_).symm
    rintro (⟨-, other, otherStored, otherClass, otherInactive, -⟩ | none)
    · rw [tidy.eq_of_class otherStored stored (otherClass.trans isClass.symm), active]
        at otherInactive
      exact absurd otherInactive (by decide)
    · exact absurd none List.not_mem_nil
  · rw [same, new_rows_of_row stored isClass]
    have back : (∃ other ∈ memory.patterns, other.classification = classification ∧
        other.active = false ∧ copy = reactivate other) ↔ copy = reactivate row := by
      constructor
      · rintro ⟨other, otherStored, otherClass, -, isCopy⟩
        rwa [tidy.eq_of_class otherStored stored (otherClass.trans isClass.symm)] at isCopy
      · exact fun isCopy => ⟨row, stored, isClass, inactive, isCopy⟩
    rw [and_iff_right enough, back, or_iff_left List.not_mem_nil]
    dsimp only
    split_ifs with present
    · refine (or_iff_left_of_imp ?_).symm
      rintro rfl
      exact present
    · rw [List.mem_append, List.mem_singleton]
  · rw [same, newRows, if_pos ⟨enough, noRow⟩]
    dsimp only
    rw [List.mem_append]
    refine or_congr_right (or_iff_right ?_).symm
    rintro ⟨-, row, stored, isClass, -⟩
    exact noRow row stored isClass

end Flags

/-- The check of some classes, one after the other, until the database does not answer. -/
def detected (script : DetectScript) : List MistakeClassification → MistakeMemory → MistakeMemory
  | [], memory => memory
  | classification :: rest, memory =>
    if script.answered classification then
      detected script rest (flagPattern script classification memory)
    else memory

/-- The classes that a check reaches. -/
def reached (script : DetectScript) (classes : List MistakeClassification) :
    List MistakeClassification :=
  classes.takeWhile script.answered

/-- What a check of some classes makes of a row. -/
def detectedRow (script : DetectScript) (classes : List MistakeClassification)
    (memory : MistakeMemory) (row : MistakePattern) : MistakePattern :=
  if row.classification ∈ reached script classes ∧
      memory.Enough script row.classification then
    memory.flaggedRow script row
  else row

section Detection

variable {memory next : MistakeMemory} {script : DetectScript}

/-- A detection is a check of all classes. -/
theorem operate_detect (script : DetectScript) (memory : MistakeMemory) :
    memory.operate (.detectPatterns script) =
      detected script MistakeClassification.all memory := by
  change (forEach MistakeClassification.all (fun classification =>
    access (script.answered classification) (flagPattern script classification)) memory).2 = _
  generalize MistakeClassification.all = classes
  induction classes generalizing memory with
  | nil => rfl
  | cons classification rest inductionHypothesis =>
    unfold detected
    cases answered : script.answered classification with
    | false =>
      have raised : access (script.answered classification) (flagPattern script classification)
          memory = (.error .database, memory) := by
        rw [answered]
        rfl
      exact congrArg Prod.snd (bind_error raised)
    | true =>
      have changed : access (script.answered classification) (flagPattern script classification)
          memory = (.ok (), flagPattern script classification memory) := by
        rw [answered]
        rfl
      exact (congrArg Prod.snd (bind_ok changed)).trans
        (inductionHypothesis (flagPattern script classification memory))

/-- What is known of a check, class by class. -/
structure Detects (script : DetectScript) (classes : List MistakeClassification)
    (memory next : MistakeMemory) : Prop where
  records : next.records = memory.records
  tidy : next.Tidy
  rows : ∀ row, row ∈ next.patterns ↔
    (∃ classification ∈ reached script classes, row ∈ memory.newRows script classification) ∨
      ∃ before ∈ memory.patterns, row = memory.detectedRow script classes before
  copies : ∀ copy, copy ∈ next.activePatterns ↔
    copy ∈ memory.activePatterns ∨
      ∃ classification ∈ reached script classes, memory.Joins script classification copy

/-- The window of a class depends on the records only. -/
theorem class_window_congr (same : next.records = memory.records) (script : DetectScript)
    (classification : MistakeClassification) :
    next.classWindow script classification = memory.classWindow script classification := by
  unfold classWindow recordsByClassification
  rw [same]

/-- Whether there are enough losses depends on the records only. -/
theorem enough_congr (same : next.records = memory.records) (script : DetectScript)
    (classification : MistakeClassification) :
    next.Enough script classification ↔ memory.Enough script classification := by
  unfold Enough
  rw [class_window_congr same]

/-- What a flag makes of a row depends on the records only. -/
theorem flagged_row_congr (same : next.records = memory.records) (script : DetectScript)
    (row : MistakePattern) : next.flaggedRow script row = memory.flaggedRow script row := by
  unfold flaggedRow counted
  rw [class_window_congr same]

section Others

variable (tidy : memory.Tidy) (script : DetectScript)
  {classification other : MistakeClassification} (different : other ≠ classification)

include tidy different

/-- The rows of other classes are those from before the flag. -/
theorem Tidy.mem_flag_pattern_other {row : MistakePattern} (isOther : row.classification = other) :
    row ∈ (flagPattern script classification memory).patterns ↔ row ∈ memory.patterns := by
  rw [tidy.flag_pattern_rows, List.mem_append, List.mem_map]
  constructor
  · rintro (new | ⟨before, stored, rfl⟩)
    · obtain ⟨-, -, rfl⟩ := mem_new_rows.mp new
      exact absurd isOther.symm different
    · rw [(flagged_for_keys before).2] at isOther
      rwa [flaggedFor, if_neg fun both => different (isOther.symm.trans both.1)]
  · intro stored
    exact .inr ⟨row, stored, if_neg fun both => different (isOther.symm.trans both.1)⟩

/-- A flag adds no row of another class. -/
theorem Tidy.new_rows_flag_pattern :
    (flagPattern script classification memory).newRows script other =
      memory.newRows script other := by
  have records := flag_pattern_records script classification memory
  have noRow : (∀ row ∈ (flagPattern script classification memory).patterns,
      row.classification ≠ other) ↔ ∀ row ∈ memory.patterns, row.classification ≠ other := by
    constructor
    · exact fun none row stored isOther => none row
        ((tidy.mem_flag_pattern_other script different isOther).mpr stored) isOther
    · exact fun none row stored isOther => none row
        ((tidy.mem_flag_pattern_other script different isOther).mp stored) isOther
  simp only [newRows, enough_congr records, class_window_congr records, noRow]

/-- What joins the memory for another class does not depend on the flag. -/
theorem Tidy.joins_flag_pattern (copy : MistakePattern) :
    (flagPattern script classification memory).Joins script other copy ↔
      memory.Joins script other copy := by
  have records := flag_pattern_records script classification memory
  unfold Joins
  rw [tidy.new_rows_flag_pattern script different, enough_congr records]
  refine or_congr_left (and_congr_right fun _ => exists_congr fun row => ?_)
  constructor
  · rintro ⟨stored, isOther, rest⟩
    exact ⟨(tidy.mem_flag_pattern_other script different isOther).mp stored, isOther, rest⟩
  · rintro ⟨stored, isOther, rest⟩
    exact ⟨(tidy.mem_flag_pattern_other script different isOther).mpr stored, isOther, rest⟩

end Others

/-- A class that is checked first is reached first. -/
theorem reached_cons {classification : MistakeClassification}
    (answered : script.answered classification = true) (rest : List MistakeClassification) :
    reached script (classification :: rest) = classification :: reached script rest := by
  rw [reached, List.takeWhile_cons_of_pos answered]
  rfl

/-- The row of a class that is not checked stays. -/
theorem detected_row_of_unreached {classes : List MistakeClassification} {row : MistakePattern}
    (unreached : row.classification ∉ reached script classes) :
    memory.detectedRow script classes row = row :=
  if_neg fun both => unreached both.1

/-- A check counts the losses of an active row. -/
theorem detected_row_of_active {classes : List MistakeClassification} {row : MistakePattern}
    (active : row.active = true) :
    memory.detectedRow script classes row =
      if row.classification ∈ reached script classes ∧
          memory.Enough script row.classification then
        memory.counted script row
      else row := by
  rw [detectedRow, flaggedRow, if_pos active]

/-- A check brings a resolved row back. -/
theorem detected_row_of_resolved {classes : List MistakeClassification} {row : MistakePattern}
    (inactive : row.active = false) :
    memory.detectedRow script classes row =
      if row.classification ∈ reached script classes ∧
          memory.Enough script row.classification then
        reactivate row
      else row := by
  have notActive : ¬row.active = true := by simp [inactive]
  rw [detectedRow, flaggedRow, if_neg notActive]

/-- The check of the first class and of the rest make of a row what the check of all makes. -/
theorem detected_row_cons {classification : MistakeClassification}
    {rest : List MistakeClassification} (answered : script.answered classification = true)
    (once : classification ∉ rest) (row : MistakePattern) :
    (flagPattern script classification memory).detectedRow script rest
        (memory.flaggedFor script classification row) =
      memory.detectedRow script (classification :: rest) row := by
  have records := flag_pattern_records script classification memory
  by_cases isClass : row.classification = classification
  · have unreached : (memory.flaggedFor script classification row).classification ∉
        reached script rest := by
      rw [(flagged_for_keys row).2, isClass]
      exact fun later => once ((List.takeWhile_prefix _).subset later)
    rw [detected_row_of_unreached unreached, flaggedFor, detectedRow, reached_cons answered, isClass]
    simp only [true_and, List.mem_cons, true_or]
  · have same : memory.flaggedFor script classification row = row :=
      if_neg fun both => isClass both.1
    rw [same, detectedRow, detectedRow, reached_cons answered, flagged_row_congr records]
    simp only [List.mem_cons, isClass, false_or, enough_congr records]

/-- A check that reaches no class changes nothing. -/
theorem Tidy.detects_unreached (tidy : memory.Tidy) {classes : List MistakeClassification}
    (none : reached script classes = []) : Detects script classes memory memory := by
  refine ⟨rfl, tidy, fun row => ?_, fun copy => ?_⟩
  · have same : ∀ before, memory.detectedRow script classes before = before :=
      fun before => detected_row_of_unreached (by simp [none])
    simp [none, same]
  · simp [none]

section First

variable (tidy : memory.Tidy) {classification : MistakeClassification}
  {rest : List MistakeClassification}

include tidy

/-- The identifiers for the later classes are new after the flag of the first too. -/
theorem Tidy.fresh_flag_pattern (different : script.patternId.Injective)
    (notLater : classification ∉ rest)
    (fresh : ∀ later ∈ classification :: rest, ∀ row ∈ memory.patterns,
      row.id ≠ script.patternId later) :
    ∀ later ∈ rest, ∀ row ∈ (flagPattern script classification memory).patterns,
      row.id ≠ script.patternId later := by
  intro later among row stored
  rw [tidy.flag_pattern_rows, List.mem_append, List.mem_map] at stored
  obtain new | ⟨before, isStored, rfl⟩ := stored
  · obtain ⟨-, -, rfl⟩ := mem_new_rows.mp new
    exact fun same => notLater (different same ▸ among)
  · rw [(flagged_for_keys before).1]
    exact fresh later (List.mem_cons_of_mem _ among) before isStored

/-- The check of the rest takes the rows after the flag of the first: the new one, which it leaves
alone, and what the check of all makes of the earlier ones. -/
theorem Tidy.detected_rows_flag_pattern (answered : script.answered classification = true)
    (notLater : classification ∉ rest) (row : MistakePattern) :
    (∃ before ∈ (flagPattern script classification memory).patterns,
        row = (flagPattern script classification memory).detectedRow script rest before) ↔
      row ∈ memory.newRows script classification ∨ ∃ before ∈ memory.patterns,
        row = memory.detectedRow script (classification :: rest) before := by
  have unreached : ∀ new ∈ memory.newRows script classification,
      new.classification ∉ reached script rest := by
    intro new isNew later
    rw [(mem_new_rows.mp isNew).2.2] at later
    exact notLater ((List.takeWhile_prefix _).subset later)
  rw [tidy.flag_pattern_rows]
  constructor
  · rintro ⟨before, stored, rfl⟩
    obtain new | old := List.mem_append.mp stored
    · rw [detected_row_of_unreached (unreached before new)]
      exact .inl new
    · obtain ⟨first, isStored, rfl⟩ := List.mem_map.mp old
      exact .inr ⟨first, isStored, detected_row_cons answered notLater first⟩
  · rintro (new | ⟨before, stored, rfl⟩)
    · exact ⟨row, List.mem_append_left _ new,
        (detected_row_of_unreached (unreached row new)).symm⟩
    · exact ⟨_, List.mem_append_right _ (List.mem_map_of_mem stored),
        (detected_row_cons answered notLater before).symm⟩

/-- The flag of the first class and a check of the rest are a check of all. -/
theorem Tidy.detects_cons (answered : script.answered classification = true)
    (notLater : classification ∉ rest)
    (checked : Detects script rest (flagPattern script classification memory) next) :
    Detects script (classification :: rest) memory next := by
  have apart : ∀ later ∈ reached script rest, later ≠ classification := by
    rintro later among rfl
    exact notLater ((List.takeWhile_prefix _).subset among)
  refine ⟨checked.records.trans (flag_pattern_records script classification memory),
    checked.tidy, fun row => ?_, fun copy => ?_⟩
  · have rest_new : (∃ later ∈ reached script rest, row ∈
        (flagPattern script classification memory).newRows script later) ↔
        ∃ later ∈ reached script rest, row ∈ memory.newRows script later := by
      refine exists_congr fun later => and_congr_right fun among => ?_
      rw [tidy.new_rows_flag_pattern script (apart later among)]
    rw [checked.rows, rest_new, tidy.detected_rows_flag_pattern answered notLater row,
      reached_cons answered, List.exists_mem_cons_iff]
    exact or_left_comm.trans or_assoc.symm
  · have rest_joins : (∃ later ∈ reached script rest,
        (flagPattern script classification memory).Joins script later copy) ↔
        ∃ later ∈ reached script rest, memory.Joins script later copy := by
      refine exists_congr fun later => and_congr_right fun among => ?_
      exact tidy.joins_flag_pattern script (apart later among) copy
    rw [checked.copies, tidy.mem_flag_pattern_active, rest_joins, reached_cons answered,
      List.exists_mem_cons_iff, or_assoc]

end First

/-- A check of different classes with new identifiers. The induction is on the classes. -/
theorem Tidy.detects (tidy : memory.Tidy) {classes : List MistakeClassification}
    (once : classes.Nodup) (different : script.patternId.Injective)
    (fresh : ∀ classification ∈ classes, ∀ row ∈ memory.patterns,
      row.id ≠ script.patternId classification) :
    Detects script classes memory (detected script classes memory) := by
  induction classes generalizing memory with
  | nil => exact tidy.detects_unreached rfl
  | cons classification rest inductionHypothesis =>
    obtain ⟨notLater, onceRest⟩ := List.nodup_cons.mp once
    unfold detected
    cases answered : script.answered classification with
    | false =>
      refine tidy.detects_unreached ?_
      rw [reached, List.takeWhile_cons_of_neg (by simp [answered])]
    | true =>
      rw [if_pos rfl]
      have flagged := tidy.flag_pattern (fresh classification List.mem_cons_self)
      have checked := inductionHypothesis flagged onceRest
        (tidy.fresh_flag_pattern different notLater fresh)
      exact tidy.detects_cons answered notLater checked

/-- A detection checks all classes. -/
theorem Tidy.detects_all (tidy : memory.Tidy) (fresh : memory.FreshIds (.detectPatterns script)) :
    Detects script MistakeClassification.all memory (memory.operate (.detectPatterns script)) := by
  rw [operate_detect]
  refine tidy.detects (by decide) (fun first second same => ?_) fresh.2
  exact List.inj_on_of_nodup_map fresh.1 first.mem_all second.mem_all same

/-- A detection brings a resolved row back exactly where it reaches its class and finds enough
losses. -/
theorem Detects.back_iff {classes : List MistakeClassification}
    (detects : Detects script classes memory next) {row : MistakePattern}
    (stored : row ∈ memory.patterns) (inactive : row.active = false) :
    (∃ after ∈ next.patterns, after.id = row.id ∧ after.active = true) ↔
      row.classification ∈ reached script classes ∧
        memory.Enough script row.classification := by
  have image := (detects.rows _).mpr (.inr ⟨row, stored, rfl⟩)
  rw [detected_row_of_resolved inactive] at image
  split_ifs at image with both
  · exact iff_of_true ⟨_, image, rfl, rfl⟩ both
  · refine iff_of_false ?_ both
    rintro ⟨after, isAfter, named, active⟩
    rw [detects.tidy.eq_of_id isAfter image named, inactive] at active
    exact absurd active (by decide)

end Detection

section Tracking

variable {memory : MistakeMemory} {saved profitable : Bool} {pattern : MistakePattern}

/-- Setting the progress of a pattern changes its copy, and its row if the database takes it. -/
theorem set_progress_final (saved : Bool) (progress : ℕ) (pattern : MistakePattern)
    (memory : MistakeMemory) :
    (setProgress saved progress pattern memory).2 =
      let tracked := memory.updateActive pattern.id fun copy =>
        { copy with resolutionProgress := progress }
      if saved then
        tracked.updatePattern pattern.id fun row => { row with resolutionProgress := progress }
      else tracked := by
  cases saved <;> rfl

/-- Resolving a pattern takes its copy out of the memory and its row out of force, if the database
takes it; else an inactive copy stays. -/
theorem resolve_pattern_final (saved : Bool) (pattern : MistakePattern) (memory : MistakeMemory) :
    (resolvePattern saved pattern memory).2 =
      let resolved := memory.updateActive pattern.id fun copy =>
        { copy with resolutionProgress := copy.resolutionProgress + 1, active := false }
      if saved then
        let stored := resolved.updatePattern pattern.id fun row => { row with active := false }
        { stored with activePatterns := stored.activePatterns.filter (·.id ≠ pattern.id) }
      else resolved := by
  cases saved <;> rfl

/-- Setting the progress keeps the table tidy. -/
theorem Tidy.set_progress (tidy : memory.Tidy) (saved : Bool) (progress : ℕ)
    (pattern : MistakePattern) : (setProgress saved progress pattern memory).2.Tidy := by
  have tracked : (memory.updateActive pattern.id fun copy =>
      { copy with resolutionProgress := progress }).Tidy :=
    tidy.change_copy pattern.id fun _ => rfl
  rw [set_progress_final]
  dsimp only
  split_ifs
  · exact tracked.change_row pattern.id fun _ => ⟨rfl, rfl, id⟩
  · exact tracked

/-- Resolving a pattern keeps the table tidy. -/
theorem Tidy.resolve_pattern (tidy : memory.Tidy) (saved : Bool) (pattern : MistakePattern) :
    (resolvePattern saved pattern memory).2.Tidy := by
  have resolved : (memory.updateActive pattern.id fun copy =>
      { copy with resolutionProgress := copy.resolutionProgress + 1, active := false }).Tidy :=
    tidy.change_copy pattern.id fun _ => rfl
  rw [resolve_pattern_final]
  dsimp only
  split_ifs
  · refine ⟨resolved.ids.map fun row => ?_, resolved.classes.map fun row => ?_,
      resolved.copyIds.filter _, fun copy present => ?_⟩
    · split_ifs <;> rfl
    · split_ifs <;> rfl
    · obtain ⟨wasPresent, other⟩ := List.mem_filter.mp present
      obtain ⟨row, stored, sameId, active⟩ := resolved.copiesStored copy wasPresent
      refine ⟨row, List.mem_map.mpr ⟨row, stored, if_neg ?_⟩, sameId, active⟩
      rw [sameId]
      exact of_decide_eq_true other
  · exact resolved

/-- Tracking keeps the table tidy. -/
theorem Tidy.update_resolution_progress (tidy : memory.Tidy) (saved : Bool)
    (trade : ClosedTrade) : (updateResolutionProgress saved trade memory).2.Tidy := by
  have kept : Keeps Tidy (updateResolutionProgress saved trade) := by
    apply keeps_update_resolution_progress
    · exact fun _ pattern => keeps_of_final fun _ tidy => tidy.set_progress saved _ pattern
    · exact fun pattern => keeps_of_final fun _ tidy => tidy.resolve_pattern saved pattern
  exact kept.final tidy

/-- A start keeps the table tidy: the memory has the active rows, or none. -/
theorem Tidy.load_patterns (tidy : memory.Tidy) (loaded : Bool) :
    (loadPatternsOnStartup loaded memory).Tidy where
  ids := tidy.ids
  classes := tidy.classes
  copyIds := by
    unfold loadPatternsOnStartup
    dsimp only
    split_ifs
    · exact (tidy.ids.filter _).perm (List.perm_insertionSort _ _).symm
    · exact List.Pairwise.nil
  copiesStored := by
    intro copy present
    obtain ⟨-, stored, active⟩ := mem_load_patterns.mp present
    exact ⟨copy, stored, rfl, active⟩

/-- Every operation with new identifiers keeps the table tidy. -/
theorem Tidy.operate (tidy : memory.Tidy) (operation : AnalyzerOperation)
    (fresh : memory.FreshIds operation) : (memory.operate operation).Tidy := by
  cases operation with
  | storeRecord record stored =>
    cases stored
    · exact tidy
    · exact ⟨tidy.ids, tidy.classes, tidy.copyIds, tidy.copiesStored⟩
  | detectPatterns script =>
    exact (tidy.detects_all fresh).tidy
  | updateResolutionProgress trade saved => exact tidy.update_resolution_progress saved trade
  | reactivatePattern classification answered =>
    cases answered
    · exact tidy
    · change (reactivatePattern classification memory).Tidy
      unfold reactivatePattern
      cases found : memory.resolvedPattern classification with
      | none => exact tidy
      | some row =>
        obtain ⟨stored, -, inactive⟩ := resolved_pattern_some found
        have back := tidy.bring_back stored inactive
        have sameCopies : (memory.updatePattern row.id reactivate).activePatterns =
            memory.activePatterns := rfl
        dsimp only
        rw [sameCopies]
        split_ifs at back ⊢ <;> exact back
  | restarted loaded => exact tidy.load_patterns loaded

end Tracking

/-- An analyzer without history is tidy. -/
theorem tidy_empty : Tidy {} := ⟨.nil, .nil, .nil, by simp⟩

end MistakeMemory

end IgTradingBot
