import IgTradingBot.News.CrisisDetector
import IgTradingBot.Library.KeyedRows
import IgTradingBot.Library.Machines

/-!
# Runs of the crisis detector

Calls of the detector in any order, and what the check of the active crises with the reading of an
article makes of each of them: it touches the crisis that it checks and no other.
-/

namespace IgTradingBot

/-- A call of the detector. -/
inductive CrisisCall where
  | evaluate (article : CrisisArticle) (crisisId articleId : String) (now : ℚ)
  | checkPersistence (crisisId : String) (currentSentiments : Option (List ℚ))
      (currentTime : Option ℚ) (now : ℚ)
  | resolveCrisis (crisisId : String) (now : ℚ)
  | dispatchPendingEvents (taken : Bool)

namespace CrisisDetector

/-- The detector after a call. -/
def call (lower : String → String) (detector : CrisisDetector) : CrisisCall → CrisisDetector
  | .evaluate article crisisId articleId now =>
    (detector.evaluate lower article crisisId articleId now).2
  | .checkPersistence crisisId currentSentiments currentTime now =>
    (detector.checkPersistence crisisId currentSentiments currentTime now).2
  | .resolveCrisis crisisId now => detector.resolveCrisis crisisId now
  | .dispatchPendingEvents taken => (detector.dispatchPendingEvents taken).2

/-- An identifier for a crisis is new. -/
def FreshId (detector : CrisisDetector) : CrisisCall → Prop
  | .evaluate _ crisisId _ _ => crisisId ∉ detector.activeCrises.map (·.id)
  | _ => True

instance (detector : CrisisDetector) : ∀ call, Decidable (detector.FreshId call)
  | .evaluate _ _ _ _ => inferInstanceAs (Decidable (_ ∉ _))
  | .checkPersistence _ _ _ _ => inferInstanceAs (Decidable True)
  | .resolveCrisis _ _ => inferInstanceAs (Decidable True)
  | .dispatchPendingEvents _ => inferInstanceAs (Decidable True)

/-- The reading of an article lets a crisis last too long. -/
def Lasts (sentiment : ℚ) (region : Option String) (receivedAt : ℚ) (detector : CrisisDetector)
    (crisis : CrisisAlertData) : Prop :=
  relevant (regionOrGlobal (some crisis.region)) (regionOrGlobal region) = true ∧
    recovers sentiment = false ∧ persistence ≤ receivedAt - crisis.startedAt ∧
    ∀ readings ∈ detector.crisisSentiments crisis.id, ∀ reading ∈ readings,
      recovers reading.sentimentScore = false

instance (sentiment : ℚ) (region : Option String) (receivedAt : ℚ) (detector : CrisisDetector)
    (crisis : CrisisAlertData) : Decidable (detector.Lasts sentiment region receivedAt crisis) :=
  inferInstanceAs (Decidable (_ ∧ _ ∧ _ ∧ _))

/-- What the reading of an article makes of a crisis that is checked. -/
def checkedCrisis (sentiment : ℚ) (region : Option String) (receivedAt now : ℚ)
    (detector : CrisisDetector) (crisis : CrisisAlertData) : CrisisAlertData :=
  if relevant (regionOrGlobal (some crisis.region)) (regionOrGlobal region) = true ∧
      recovers sentiment = true then
    { crisis with active := false, resolvedAt := some now }
  else if detector.Lasts sentiment region receivedAt crisis then
    { crisis with escalatedToKillSwitch := true }
  else crisis

/-- No two crises have the same identifier. -/
def UniqueIds (detector : CrisisDetector) : Prop :=
  KeyedRows.UniqueOn (fun crisis => some crisis.id) detector.activeCrises

section Edits

variable {detector : CrisisDetector}

/-- An identifier names one crisis. -/
theorem UniqueIds.eq_of_id (ids : detector.UniqueIds) {crisis other : CrisisAlertData}
    (member : crisis ∈ detector.activeCrises) (otherMember : other ∈ detector.activeCrises)
    (same : crisis.id = other.id) : crisis = other :=
  KeyedRows.UniqueOn.eq_of_key ids member otherMember (congrArg some same) rfl

/-- A query by the identifier of a crisis finds it. -/
theorem UniqueIds.get_crisis (ids : detector.UniqueIds) {crisis : CrisisAlertData}
    (member : crisis ∈ detector.activeCrises) : detector.getCrisis crisis.id = some crisis := by
  have named : ∀ other : CrisisAlertData, decide (other.id = crisis.id) = true →
      some other.id = some crisis.id := fun other picked => congrArg some (of_decide_eq_true picked)
  exact KeyedRows.UniqueOn.find_eq ids named member (decide_eq_true rfl)

/-- A query by an identifier finds a crisis that has it. -/
theorem get_crisis_some {crisisId : String} {crisis : CrisisAlertData}
    (found : detector.getCrisis crisisId = some crisis) :
    crisis ∈ detector.activeCrises ∧ crisis.id = crisisId := by
  have picked := List.find?_some found
  exact ⟨List.mem_of_find?_eq_some found, of_decide_eq_true picked⟩

/-- A change of a crisis touches no other. -/
theorem UniqueIds.update_crisis (ids : detector.UniqueIds) {crisis : CrisisAlertData}
    (member : crisis ∈ detector.activeCrises) (change : CrisisAlertData → CrisisAlertData) :
    (detector.updateCrisis crisis.id change).activeCrises =
      detector.activeCrises.map fun other => if other = crisis then change crisis else other := by
  refine List.map_congr_left fun other isOther => ?_
  by_cases same : other = crisis
  · rw [if_pos same, if_pos (congrArg _ same), same]
  · rw [if_neg same, if_neg fun sameId => same (ids.eq_of_id isOther member sameId)]

/-- A resolved crisis is not active, and its keys and readings are gone. -/
theorem UniqueIds.resolve_crisis (ids : detector.UniqueIds) {crisis : CrisisAlertData}
    (member : crisis ∈ detector.activeCrises) (now : ℚ) :
    detector.resolveCrisis crisis.id now =
      { detector with
          activeCrises := detector.activeCrises.map fun other =>
            if other = crisis then { crisis with active := false, resolvedAt := some now } else other
          activeCrisisKeys := fun key =>
            if detector.activeCrisisKeys key = some crisis.id then none
            else detector.activeCrisisKeys key
          crisisSentiments := Function.update detector.crisisSentiments crisis.id none } := by
  unfold resolveCrisis
  rw [ids.get_crisis member]
  dsimp only
  rw [ids.update_crisis member]
  rfl

/-- An escalated crisis asks for the kill switch, where there is a bus. -/
theorem UniqueIds.escalate (ids : detector.UniqueIds) {crisis : CrisisAlertData}
    (member : crisis ∈ detector.activeCrises) :
    detector.escalate crisis =
      { detector with
          activeCrises := detector.activeCrises.map fun other =>
            if other = crisis then { crisis with escalatedToKillSwitch := true } else other
          pendingKillSwitchEvent :=
            if detector.hasEventBus = true then some (activationOf crisis)
            else detector.pendingKillSwitchEvent } := by
  have crises := ids.update_crisis member fun crisis => { crisis with escalatedToKillSwitch := true }
  have escalated : (detector.updateCrisis crisis.id fun crisis =>
      { crisis with escalatedToKillSwitch := true }) =
        { detector with
            activeCrises := detector.activeCrises.map fun other =>
              if other = crisis then { crisis with escalatedToKillSwitch := true } else other } := by
    rw [← crises]
    rfl
  unfold CrisisDetector.escalate emitKillSwitchActivation
  rw [escalated]
  dsimp only
  split_ifs <;> rfl

end Edits

section Check

variable (sentiment : ℚ) (region : Option String) (receivedAt now : ℚ) {detector : CrisisDetector}

/-- A check keeps the identifier of a crisis. -/
theorem checked_crisis_id (crisis : CrisisAlertData) :
    (detector.checkedCrisis sentiment region receivedAt now crisis).id = crisis.id := by
  unfold checkedCrisis
  split_ifs <;> rfl

/-- What a check makes of a crisis depends on the readings that are noted for it. -/
theorem checked_crisis_congr {other : CrisisDetector} {crisis : CrisisAlertData}
    (same : other.crisisSentiments crisis.id = detector.crisisSentiments crisis.id) :
    (other.Lasts sentiment region receivedAt crisis ↔
        detector.Lasts sentiment region receivedAt crisis) ∧
      other.checkedCrisis sentiment region receivedAt now crisis =
        detector.checkedCrisis sentiment region receivedAt now crisis := by
  have lasts : other.Lasts sentiment region receivedAt crisis ↔
      detector.Lasts sentiment region receivedAt crisis := by
    unfold Lasts
    rw [same]
  exact ⟨lasts, by simp only [checkedCrisis, lasts]⟩

/-- The check of one crisis: it changes this crisis, and puts its activation into the place for
what is to be published if it lasts too long. -/
structure ChecksOne (crisis : CrisisAlertData) (detector next : CrisisDetector) : Prop where
  crises : next.activeCrises = detector.activeCrises.map fun other =>
    if other = crisis then detector.checkedCrisis sentiment region receivedAt now crisis else other
  sentiments : ∀ other, other ≠ crisis.id →
    next.crisisSentiments other = detector.crisisSentiments other
  pending : next.pendingKillSwitchEvent =
    if detector.Lasts sentiment region receivedAt crisis ∧ detector.hasEventBus = true then
      some (activationOf crisis)
    else detector.pendingKillSwitchEvent
  bus : next.hasEventBus = detector.hasEventBus

/-- A reading that is no recovery lets a crisis last too long exactly where the check says so. -/
theorem lasts_iff {crisis : CrisisAlertData}
    (about : relevant (regionOrGlobal (some crisis.region)) (regionOrGlobal region) = true)
    (noRecovery : recovers sentiment = false) :
    detector.Lasts sentiment region receivedAt crisis ↔
      persistence ≤ receivedAt - crisis.startedAt ∧
        (!(((detector.noteSentiment crisis.id ⟨sentiment, regionOrGlobal region, receivedAt⟩
          ).crisisSentiments crisis.id).getD []).any fun reading =>
            recovers reading.sentimentScore) = true := by
  have noted : (detector.noteSentiment crisis.id
      ⟨sentiment, regionOrGlobal region, receivedAt⟩).crisisSentiments crisis.id =
        (detector.crisisSentiments crisis.id).map
          (· ++ [⟨sentiment, regionOrGlobal region, receivedAt⟩]) := Function.update_self ..
  rw [noted, Lasts, and_iff_right about, and_iff_right noRecovery]
  refine and_congr_right fun _ => ?_
  cases detector.crisisSentiments crisis.id with
  | none => simp
  | some readings => simp [noRecovery]

/-- A check that leaves its crisis as it is changes at most the readings of it. -/
theorem checks_one_unchanged {crisis : CrisisAlertData}
    (same : detector.checkedCrisis sentiment region receivedAt now crisis = crisis)
    (notLasting : ¬detector.Lasts sentiment region receivedAt crisis)
    (sentiments : String → Option (List CrisisSentimentRecord))
    (others : ∀ other, other ≠ crisis.id → sentiments other = detector.crisisSentiments other) :
    ChecksOne sentiment region receivedAt now crisis detector
      { detector with crisisSentiments := sentiments } := by
  refine ⟨?_, others, (if_neg fun both => notLasting both.1).symm, rfl⟩
  refine (List.map_id'' (fun other => ?_) _).symm
  split_ifs with isChecked
  · rw [same, isChecked]
  · rfl

/-- The check of a crisis. The cases are those of its reading: not relevant, a recovery, or another
reading, with which the crisis may last too long. -/
theorem check_active_crisis (ids : detector.UniqueIds) {crisis : CrisisAlertData}
    (member : crisis ∈ detector.activeCrises) :
    ChecksOne sentiment region receivedAt now crisis detector
      (detector.checkActiveCrisis sentiment region receivedAt now crisis) := by
  unfold checkActiveCrisis
  by_cases about : relevant (regionOrGlobal (some crisis.region)) (regionOrGlobal region) = true
  · rw [if_neg (by simp [about])]
    have noted_ids : (detector.noteSentiment crisis.id
        ⟨sentiment, regionOrGlobal region, receivedAt⟩).UniqueIds := ids
    cases recovering : recovers sentiment with
    | true =>
      have notLasting : ¬detector.Lasts sentiment region receivedAt crisis :=
        fun lasts => absurd (lasts.2.1.symm.trans recovering) (by decide)
      have resolved : detector.checkedCrisis sentiment region receivedAt now crisis =
          { crisis with active := false, resolvedAt := some now } := if_pos ⟨about, recovering⟩
      rw [if_pos rfl, noted_ids.resolve_crisis member]
      refine ⟨?_, fun other different => ?_, ?_, rfl⟩
      · rw [resolved]
        rfl
      · exact (Function.update_of_ne different _ _).trans (Function.update_of_ne different _ _)
      · rw [if_neg fun both => notLasting both.1]
        rfl
    | false =>
      rw [if_neg Bool.false_ne_true]
      by_cases lasts : detector.Lasts sentiment region receivedAt crisis
      · have escalated : detector.checkedCrisis sentiment region receivedAt now crisis =
            { crisis with escalatedToKillSwitch := true } :=
          (if_neg fun both => absurd (recovering.symm.trans both.2) (by decide)).trans
            (if_pos lasts)
        rw [if_pos ((lasts_iff sentiment region receivedAt about recovering).mp lasts)]
        rw [noted_ids.escalate member]
        refine ⟨?_, fun other different => Function.update_of_ne different _ _, ?_, rfl⟩
        · rw [escalated]
          rfl
        · simp only [and_iff_right lasts]
          rfl
      · rw [if_neg fun both =>
          lasts ((lasts_iff sentiment region receivedAt about recovering).mpr both)]
        refine checks_one_unchanged sentiment region receivedAt now ?_ lasts _
          fun other different => Function.update_of_ne different _ _
        rw [checkedCrisis, if_neg (by simp [recovering]), if_neg lasts]
  · rw [if_pos (by simp [about])]
    have lasts : ¬detector.Lasts sentiment region receivedAt crisis := fun lasts => about lasts.1
    refine checks_one_unchanged sentiment region receivedAt now ?_ lasts _ fun _ _ => rfl
    rw [checkedCrisis, if_neg fun both => about both.1, if_neg lasts]

/-- A check keeps the identifiers unique. -/
theorem ChecksOne.unique_ids {crisis : CrisisAlertData} {next : CrisisDetector}
    (checks : ChecksOne sentiment region receivedAt now crisis detector next)
    (ids : detector.UniqueIds) : next.UniqueIds := by
  unfold UniqueIds
  rw [checks.crises]
  refine KeyedRows.UniqueOn.map ids fun other => congrArg some ?_
  split_ifs with same
  · exact (checked_crisis_id sentiment region receivedAt now crisis).trans (same ▸ rfl)
  · rfl

/-- The check of some crises: each of them changes on its own, and the last one that lasts too long
asks for the kill switch. -/
structure ChecksAll (checked : List CrisisAlertData) (detector next : CrisisDetector) : Prop where
  crises : next.activeCrises = detector.activeCrises.map fun other =>
    if other ∈ checked then detector.checkedCrisis sentiment region receivedAt now other else other
  pending : next.pendingKillSwitchEvent =
    if detector.hasEventBus = true then
      (((checked.filter (detector.Lasts sentiment region receivedAt)).getLast?).map activationOf).or
        detector.pendingKillSwitchEvent
    else detector.pendingKillSwitchEvent
  bus : next.hasEventBus = detector.hasEventBus

/-- A check keeps the identifiers. -/
theorem ChecksAll.same_ids {checked : List CrisisAlertData} {next : CrisisDetector}
    (checks : ChecksAll sentiment region receivedAt now checked detector next) :
    next.activeCrises.map (·.id) = detector.activeCrises.map (·.id) := by
  rw [checks.crises, List.map_map]
  refine List.map_congr_left fun other _ => ?_
  rw [Function.comp_apply]
  split_ifs
  · exact checked_crisis_id sentiment region receivedAt now other
  · rfl

/-- The check of a crisis and then of others, each of which is as it was before, checks all of
them. -/
theorem ChecksOne.cons {crisis : CrisisAlertData} {rest : List CrisisAlertData}
    {next last : CrisisDetector}
    (checks : ChecksOne sentiment region receivedAt now crisis detector next)
    (all : ChecksAll sentiment region receivedAt now rest next last)
    (different : ∀ other ∈ rest, other.id ≠ crisis.id) :
    ChecksAll sentiment region receivedAt now (crisis :: rest) detector last := by
  have same : ∀ other ∈ rest,
      (next.Lasts sentiment region receivedAt other ↔
          detector.Lasts sentiment region receivedAt other) ∧
        next.checkedCrisis sentiment region receivedAt now other =
          detector.checkedCrisis sentiment region receivedAt now other :=
    fun other later => checked_crisis_congr sentiment region receivedAt now
      (checks.sentiments other.id (different other later))
  refine ⟨?_, ?_, all.bus.trans checks.bus⟩
  · rw [all.crises, checks.crises, List.map_map]
    refine List.map_congr_left fun other _ => ?_
    rw [Function.comp_apply]
    by_cases isFirst : other = crisis
    · have checkedNotLater : detector.checkedCrisis sentiment region receivedAt now crisis ∉ rest :=
        fun later => different _ later (checked_crisis_id sentiment region receivedAt now crisis)
      rw [if_pos isFirst, if_neg checkedNotLater, isFirst, if_pos List.mem_cons_self]
    · rw [if_neg isFirst]
      simp only [List.mem_cons, isFirst, false_or]
      split_ifs with later
      · exact (same other later).2
      · rfl
  · have lasting : rest.filter (next.Lasts sentiment region receivedAt) =
        rest.filter (detector.Lasts sentiment region receivedAt) :=
      List.filter_congr fun other later => decide_eq_decide.mpr (same other later).1
    have filtered : List.filter (detector.Lasts sentiment region receivedAt) (crisis :: rest) =
        if detector.Lasts sentiment region receivedAt crisis then
          crisis :: rest.filter (detector.Lasts sentiment region receivedAt)
        else rest.filter (detector.Lasts sentiment region receivedAt) := by
      rw [List.filter_cons]
      simp only [decide_eq_true_eq]
    rw [all.pending, checks.bus, checks.pending, lasting, filtered]
    by_cases bus : detector.hasEventBus = true
    · rw [if_pos bus, if_pos bus]
      by_cases lasts : detector.Lasts sentiment region receivedAt crisis
      · rw [if_pos ⟨lasts, bus⟩, if_pos lasts, List.getLast?_cons]
        cases (rest.filter (detector.Lasts sentiment region receivedAt)).getLast? <;> rfl
      · rw [if_neg fun both => lasts both.1, if_neg lasts]
    · rw [if_neg bus, if_neg bus, if_neg fun both => bus both.2]

/-- The check of crises one after the other. The induction is on the crises: what is left to check
is as it was, since each check touches its own crisis. -/
theorem check_crises (ids : detector.UniqueIds) {crises : List CrisisAlertData}
    (members : ∀ crisis ∈ crises, crisis ∈ detector.activeCrises) (once : crises.Nodup) :
    ChecksAll sentiment region receivedAt now crises detector
      (detector.checkCrises sentiment region receivedAt now crises) := by
  induction crises generalizing detector with
  | nil =>
    refine ⟨?_, ?_, rfl⟩
    · simp [checkCrises]
    · exact (ite_self _).symm
  | cons crisis rest inductionHypothesis =>
    obtain ⟨notLater, onceRest⟩ := List.nodup_cons.mp once
    have member := members crisis List.mem_cons_self
    have checks := check_active_crisis sentiment region receivedAt now ids member
    have apart : ∀ other ∈ rest, other ≠ crisis := fun other later same => notLater (same ▸ later)
    have laterMembers : ∀ other ∈ rest, other ∈
        (detector.checkActiveCrisis sentiment region receivedAt now crisis).activeCrises := by
      intro other later
      rw [checks.crises]
      exact List.mem_map.mpr ⟨other, members other (List.mem_cons_of_mem _ later),
        if_neg (apart other later)⟩
    refine checks.cons sentiment region receivedAt now (inductionHypothesis
      (checks.unique_ids sentiment region receivedAt now ids) laterMembers onceRest) ?_
    intro other later same
    exact apart other later
      (ids.eq_of_id (members other (List.mem_cons_of_mem _ later)) member same)

end Check

/-- The check of all active crises with an article. -/
theorem check_active_crises_on_article (sentiment : ℚ) (region : Option String)
    (receivedAt now : ℚ) {detector : CrisisDetector} (ids : detector.UniqueIds) :
    ChecksAll sentiment region receivedAt now detector.crisesToCheck detector
      (detector.checkActiveCrisesOnArticle sentiment region receivedAt now) := by
  have once : detector.activeCrises.Nodup := by
    refine List.Pairwise.imp (fun apart same => ?_) ids
    exact apart _ rfl (same ▸ rfl)
  exact check_crises sentiment region receivedAt now ids (fun _ => List.mem_of_mem_filter)
    (once.filter _)

end CrisisDetector

end IgTradingBot
