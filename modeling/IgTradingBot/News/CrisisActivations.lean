import IgTradingBot.Library.Outboxes
import IgTradingBot.News.CrisisKeys

/-!
# Activations of crises

An escalated crisis asks for the kill switch with one activation, which waits in the detector until
it is published. There is one place for it, a bus may not take it, and the check of persistence asks
again for a crisis that is escalated: the detector's place and what the bus took are an outbox, with
an activation due for every escalated crisis.
-/

namespace IgTradingBot

/-- A detector with a bus, and the activations that the bus took. -/
structure CrisisHistory where
  detector : CrisisDetector := { hasEventBus := true }
  published : List CrisisActivation := []

namespace CrisisDetector

/-- A crisis persisted without recovery. -/
def persists (crisisId : String) (currentSentiments : Option (List ℚ)) (currentTime : Option ℚ)
    (now : ℚ) (detector : CrisisDetector) (crisis : CrisisAlertData) : Bool :=
  crisis.active && !decide (currentTime.getD now - crisis.startedAt < persistence) &&
    !(detector.sentimentsOf crisisId currentSentiments).any recovers

/-- The crises that a call escalates. -/
def escalations (detector : CrisisDetector) : CrisisCall → List CrisisAlertData
  | .evaluate article _ _ now => detector.crisesToCheck.filter
      (detector.Lasts article.sentimentScore article.region (article.receivedAt.getD now))
  | .checkPersistence crisisId currentSentiments currentTime now =>
    (detector.getCrisis crisisId).toList.filter
      (detector.persists crisisId currentSentiments currentTime now)
  | .resolveCrisis _ _ => []
  | .dispatchPendingEvents _ => []

/-- The crisis with an identifier is escalated. -/
def Escalated (detector : CrisisDetector) (crisisId : String) : Prop :=
  ∃ crisis ∈ detector.activeCrises, crisis.id = crisisId ∧ crisis.escalatedToKillSwitch = true

/-- A call escalates some crises, and the activation of the last one waits if there is a bus. The
others stay as they are, and a new one is not escalated. -/
structure Escalates (escalated : List CrisisAlertData) (detector next : CrisisDetector) :
    Prop where
  among : ∀ crisis ∈ escalated, crisis ∈ detector.activeCrises
  crises : ∃ edit opened, next.activeCrises = detector.activeCrises.map edit ++ opened ∧
    (∀ crisis ∈ detector.activeCrises, (edit crisis).id = crisis.id ∧
      ((edit crisis).escalatedToKillSwitch = true ↔
        crisis.escalatedToKillSwitch = true ∨ crisis ∈ escalated)) ∧
    ∀ crisis ∈ opened, crisis.escalatedToKillSwitch = false
  pending : next.pendingKillSwitchEvent =
    if detector.hasEventBus = true then
      (escalated.getLast?.map activationOf).or detector.pendingKillSwitchEvent
    else detector.pendingKillSwitchEvent
  bus : next.hasEventBus = detector.hasEventBus

section Calls

variable {detector next : CrisisDetector} {escalated : List CrisisAlertData}

/-- A crisis is escalated after a call if it was, or the call escalates it. -/
theorem Escalates.escalated_iff (escalates : Escalates escalated detector next)
    (crisisId : String) :
    next.Escalated crisisId ↔
      detector.Escalated crisisId ∨ ∃ crisis ∈ escalated, crisis.id = crisisId := by
  obtain ⟨edit, opened, crises, edited, new⟩ := escalates.crises
  constructor
  · rintro ⟨later, member, rfl, isEscalated⟩
    rw [crises] at member
    obtain old | isNew := List.mem_append.mp member
    · obtain ⟨crisis, before, rfl⟩ := List.mem_map.mp old
      obtain ⟨sameId, escalation⟩ := edited crisis before
      obtain was | now := escalation.mp isEscalated
      · exact Or.inl ⟨crisis, before, sameId.symm, was⟩
      · exact Or.inr ⟨crisis, now, sameId.symm⟩
    · exact absurd (isEscalated.symm.trans (new later isNew)) (by decide)
  · rintro (⟨crisis, before, rfl, was⟩ | ⟨crisis, now, rfl⟩)
    · obtain ⟨sameId, escalation⟩ := edited crisis before
      exact ⟨edit crisis, crises ▸ List.mem_append_left _ (List.mem_map_of_mem before), sameId,
        escalation.mpr (Or.inl was)⟩
    · obtain ⟨sameId, escalation⟩ := edited crisis (escalates.among crisis now)
      exact ⟨edit crisis, crises ▸ List.mem_append_left _
        (List.mem_map_of_mem (escalates.among crisis now)), sameId, escalation.mpr (Or.inr now)⟩

/-- A call that edits the crises, and neither escalates one nor asks for the kill switch. -/
theorem escalates_none {edit : CrisisAlertData → CrisisAlertData}
    (crises : next.activeCrises = detector.activeCrises.map edit)
    (edited : ∀ crisis, (edit crisis).id = crisis.id ∧
      (edit crisis).escalatedToKillSwitch = crisis.escalatedToKillSwitch)
    (pending : next.pendingKillSwitchEvent = detector.pendingKillSwitchEvent)
    (bus : next.hasEventBus = detector.hasEventBus) : Escalates [] detector next where
  among := by simp
  crises := by
    refine ⟨edit, [], crises.trans (List.append_nil _).symm, fun crisis _ => ?_, by simp⟩
    obtain ⟨sameId, same⟩ := edited crisis
    exact ⟨sameId, by simp [same]⟩
  pending := pending.trans (ite_self _).symm
  bus := bus

/-- The call that changes nothing escalates no crisis. -/
theorem escalates_refl : Escalates [] detector detector :=
  escalates_none (List.map_id _).symm (fun _ => ⟨rfl, rfl⟩) rfl rfl

/-- A resolved crisis is not escalated by this. -/
theorem UniqueIds.escalates_resolve (ids : detector.UniqueIds) (crisisId : String) (now : ℚ) :
    Escalates [] detector (detector.resolveCrisis crisisId now) := by
  cases found : detector.getCrisis crisisId with
  | none =>
    unfold resolveCrisis
    rw [found]
    exact escalates_refl
  | some crisis =>
    obtain ⟨member, rfl⟩ := get_crisis_some found
    rw [ids.resolve_crisis member]
    refine escalates_none rfl (fun other => ?_) rfl rfl
    split_ifs with same
    · exact same ▸ ⟨rfl, rfl⟩
    · exact ⟨rfl, rfl⟩

/-- An article escalates the active crises that last too long with it. -/
theorem UniqueIds.escalates_evaluate (ids : detector.UniqueIds) (lower : String → String)
    (article : CrisisArticle) (crisisId articleId : String) (now : ℚ) :
    Escalates (detector.escalations (.evaluate article crisisId articleId now)) detector
      (detector.evaluate lower article crisisId articleId now).2 := by
  have checks := check_active_crises_on_article article.sentimentScore article.region
    (article.receivedAt.getD now) now ids
  set checked := detector.checkActiveCrisesOnArticle article.sentimentScore article.region
    (article.receivedAt.getD now) now with isChecked
  have opens : ∃ opened, (detector.evaluate lower article crisisId articleId now).2.activeCrises =
        checked.activeCrises ++ opened ∧
      (∀ crisis ∈ opened, crisis.escalatedToKillSwitch = false) ∧
      (detector.evaluate lower article crisisId articleId now).2.hasEventBus =
        checked.hasEventBus ∧
      (detector.evaluate lower article crisisId articleId now).2.pendingKillSwitchEvent =
        checked.pendingKillSwitchEvent := by
    unfold evaluate checkCrisisConditions
    rw [← isChecked]
    dsimp only
    split_ifs
    · exact ⟨[], by simp, by simp, rfl, rfl⟩
    · split
      · exact ⟨[], by simp, by simp, rfl, rfl⟩
      · exact ⟨_, rfl, by simp [newCrisis], rfl, rfl⟩
  obtain ⟨opened, crises, new, bus, pending⟩ := opens
  refine ⟨fun crisis among => ?_, ⟨_, opened, checks.crises ▸ crises, ?_, new⟩,
    pending.trans checks.pending, bus.trans checks.bus⟩
  · exact List.mem_of_mem_filter (List.mem_of_mem_filter among)
  · intro crisis _
    have lasting : crisis ∈ detector.escalations (.evaluate article crisisId articleId now) ↔
        crisis ∈ detector.crisesToCheck ∧ detector.Lasts article.sentimentScore article.region
          (article.receivedAt.getD now) crisis := by
      simp [escalations]
    rw [lasting]
    split_ifs with toCheck
    · refine ⟨checked_crisis_id _ _ _ _ crisis, ?_⟩
      unfold checkedCrisis
      split_ifs with recovery lasts
      · have noRecovery : ¬detector.Lasts article.sentimentScore article.region
            (article.receivedAt.getD now) crisis :=
          fun lasts => absurd (recovery.2.symm.trans lasts.2.1) (by decide)
        simp [noRecovery]
      · simp [toCheck, lasts]
      · simp [lasts]
    · simp [toCheck]

/-- A check of persistence escalates its crisis, if it persisted without recovery. -/
theorem UniqueIds.escalates_persistence (ids : detector.UniqueIds) (crisisId : String)
    (currentSentiments : Option (List ℚ)) (currentTime : Option ℚ) (now : ℚ) :
    Escalates
      (detector.escalations (.checkPersistence crisisId currentSentiments currentTime now)) detector
      (detector.checkPersistence crisisId currentSentiments currentTime now).2 := by
  unfold checkPersistence escalations
  dsimp only
  cases found : detector.getCrisis crisisId with
  | none => exact escalates_refl
  | some crisis =>
    obtain ⟨member, -⟩ := get_crisis_some found
    dsimp only [Option.toList_some]
    cases persisted : detector.persists crisisId currentSentiments currentTime now crisis with
    | true =>
      obtain ⟨⟨active, late⟩, noRecovery⟩ : (crisis.active = true ∧
          ¬currentTime.getD now - crisis.startedAt < persistence) ∧
            ¬(detector.sentimentsOf crisisId currentSentiments).any recovers = true := by
        simpa only [persists, Bool.and_eq_true, Bool.not_eq_true', decide_eq_false_iff_not,
          Bool.not_eq_true] using persisted
      rw [List.filter_singleton, persisted, if_neg (by simp [active]), if_neg late,
        if_neg noRecovery, ids.escalate member]
      refine ⟨by simpa using member, ⟨_, [], (List.append_nil _).symm, ?_, by simp⟩, rfl, rfl⟩
      intro other _
      split_ifs with same
      · simp [same]
      · simp [same]
    | false =>
      rw [List.filter_singleton, persisted]
      split_ifs with inactive early recovered
      · exact escalates_refl
      · exact escalates_refl
      · exact ids.escalates_resolve crisisId now
      · simp_all [persists]

end Calls

/-- A crisis may be escalated: its activation is the first one and none waits, or its own one
waits. -/
def MayEscalate (detector : CrisisDetector) (crisis : CrisisAlertData) : Prop :=
  (detector.pendingKillSwitchEvent = none ∧ crisis.escalatedToKillSwitch = false) ∨
    ∃ waiting ∈ detector.pendingKillSwitchEvent, waiting.crisisId = crisis.id

instance (detector : CrisisDetector) (crisis : CrisisAlertData) :
    Decidable (detector.MayEscalate crisis) :=
  inferInstanceAs (Decidable (_ ∨ ∃ waiting ∈ _, _))

/-- An activation that waits is lost with a call. -/
def Drops (detector : CrisisDetector) : CrisisCall → Prop
  | .dispatchPendingEvents taken =>
    taken = false ∧ detector.pendingKillSwitchEvent.isSome = true
  | _ => False

instance (detector : CrisisDetector) : ∀ call, Decidable (detector.Drops call)
  | .evaluate _ _ _ _ => inferInstanceAs (Decidable False)
  | .checkPersistence _ _ _ _ => inferInstanceAs (Decidable False)
  | .resolveCrisis _ _ => inferInstanceAs (Decidable False)
  | .dispatchPendingEvents _ => inferInstanceAs (Decidable (_ ∧ _))

/-- A call escalates at most one crisis, which may be escalated, and drops no activation. -/
def Delivers (detector : CrisisDetector) (call : CrisisCall) : Prop :=
  (detector.escalations call).length ≤ 1 ∧
    (∀ crisis ∈ detector.escalations call, detector.MayEscalate crisis) ∧ ¬detector.Drops call

instance (detector : CrisisDetector) (call : CrisisCall) : Decidable (detector.Delivers call) :=
  inferInstanceAs (Decidable (_ ∧ (∀ crisis ∈ _, _) ∧ _))

end CrisisDetector

namespace CrisisHistory

open CrisisDetector

/-- What is published with a call. -/
def publishedBy (detector : CrisisDetector) : CrisisCall → Option CrisisActivation
  | .dispatchPendingEvents taken => (detector.dispatchPendingEvents taken).1
  | _ => none

/-- A call of the detector. -/
def step (lower : String → String) (history : CrisisHistory) (call : CrisisCall) :
    CrisisHistory where
  detector := history.detector.call lower call
  published := history.published ++ (publishedBy history.detector call).toList

/-- Every escalated crisis has either exactly one activation that was published, or exactly one that
is to be published. -/
def ExactlyOnce (history : CrisisHistory) : Prop :=
  ∀ crisis ∈ history.detector.activeCrises, crisis.escalatedToKillSwitch = true →
    history.published.countP (fun activation => activation.crisisId = crisis.id) +
      history.detector.pendingKillSwitchEvent.toList.countP
        (fun activation => activation.crisisId = crisis.id) = 1

instance (history : CrisisHistory) : Decidable history.ExactlyOnce :=
  inferInstanceAs (Decidable (∀ crisis ∈ _, _ → _))

/-- The outbox of a detector. -/
def outbox (history : CrisisHistory) : Outbox CrisisActivation where
  sent := history.published
  waiting := history.detector.pendingKillSwitchEvent

/-- A history of calls with a bus, with activations of escalated crises only. -/
structure Sound (history : CrisisHistory) : Prop where
  keyed : history.detector.Keyed
  bus : history.detector.hasEventBus = true
  only : history.outbox.OnlyDue (·.crisisId) history.detector.Escalated

section Calls

variable {history : CrisisHistory} {lower : String → String}

/-- Exactly one activation of every escalated crisis is one message for every due key. -/
theorem exactly_once_iff :
    history.ExactlyOnce ↔ history.outbox.Once (·.crisisId) history.detector.Escalated := by
  have counted : ∀ crisisId, history.outbox.copies (·.crisisId) crisisId =
      history.published.countP (fun activation => activation.crisisId = crisisId) +
        history.detector.pendingKillSwitchEvent.toList.countP
          (fun activation => activation.crisisId = crisisId) :=
    fun crisisId => Outbox.copies_eq crisisId
  constructor
  · rintro once _ ⟨crisis, member, rfl, escalated⟩
    exact (counted crisis.id).trans (once crisis member escalated)
  · intro once crisis member escalated
    exact (counted crisis.id).symm.trans (once crisis.id ⟨crisis, member, rfl, escalated⟩)

/-- The outbox after a call that escalates some crises: the activation of the last one is put. -/
theorem outbox_escalates (bus : history.detector.hasEventBus = true)
    {escalated : List CrisisAlertData} {next : CrisisDetector}
    (escalates : Escalates escalated history.detector next) :
    CrisisHistory.outbox ⟨next, history.published⟩ =
      match escalated.getLast? with
      | none => history.outbox
      | some crisis => history.outbox.put (activationOf crisis) := by
  unfold outbox
  rw [escalates.pending, if_pos bus]
  cases escalated.getLast? <;> rfl

/-- A call that escalates some crises keeps the history sound. -/
theorem Sound.escalates (sound : history.Sound) {escalated : List CrisisAlertData}
    {next : CrisisDetector} (escalates : Escalates escalated history.detector next)
    (keyed : next.Keyed) : Sound ⟨next, history.published⟩ := by
  refine ⟨keyed, escalates.bus.trans sound.bus, ?_⟩
  have more : ∀ crisisId, history.detector.Escalated crisisId → next.Escalated crisisId :=
    fun crisisId was => (escalates.escalated_iff crisisId).mpr (Or.inl was)
  rw [outbox_escalates sound.bus escalates]
  split
  · exact fun message among => more _ (sound.only message among)
  · rename_i crisis last
    refine sound.only.put more ((escalates.escalated_iff _).mpr (Or.inr ?_))
    exact ⟨crisis, List.mem_of_getLast? last, rfl⟩

/-- A call that escalates some crises keeps one activation for each exactly where it escalates at
most one, which may be escalated. -/
theorem Sound.escalates_once_iff (sound : history.Sound) (once : history.ExactlyOnce)
    {escalated : List CrisisAlertData} {next : CrisisDetector}
    (escalates : Escalates escalated history.detector next)
    (apart : escalated.Nodup) (several : 1 < escalated.length →
      ∀ crisis ∈ escalated, crisis.escalatedToKillSwitch = false) :
    ExactlyOnce ⟨next, history.published⟩ ↔
      escalated.length ≤ 1 ∧ ∀ crisis ∈ escalated, history.detector.MayEscalate crisis := by
  have ids := sound.keyed.ids
  have notDue : ∀ crisis ∈ escalated, crisis.escalatedToKillSwitch = false →
      ¬history.detector.Escalated crisis.id := by
    rintro crisis among notEscalated ⟨other, member, sameId, isEscalated⟩
    obtain rfl := ids.eq_of_id member (escalates.among crisis among) sameId
    exact absurd (isEscalated.symm.trans notEscalated) (by decide)
  have due := escalates.escalated_iff
  rw [exactly_once_iff] at once ⊢
  rw [outbox_escalates sound.bus escalates]
  match escalated, apart, several with
  | [], _, _ =>
    refine iff_of_true (fun crisisId isDue => once crisisId ?_) (by simp)
    simpa using (due crisisId).mp isDue
  | [crisis], _, _ =>
    have more : ∀ crisisId, next.Escalated crisisId ↔
        history.detector.Escalated crisisId ∨ crisisId = (activationOf crisis).crisisId := by
      intro crisisId
      rw [due crisisId]
      simp [activationOf, eq_comm]
    have escalatedIff : history.detector.Escalated crisis.id ↔
        crisis.escalatedToKillSwitch = true := by
      refine ⟨fun was => ?_, fun was =>
        ⟨crisis, escalates.among crisis List.mem_cons_self, rfl, was⟩⟩
      by_contra notEscalated
      exact notDue crisis List.mem_cons_self (Bool.eq_false_iff.mpr notEscalated) was
    refine (sound.only.put_once_iff once more).trans ?_
    simp [MayEscalate, outbox, activationOf, escalatedIff]
  | first :: second :: rest, apart, several =>
    refine iff_of_false ?_ (by simp)
    obtain ⟨last, isLast⟩ : ∃ last, (first :: second :: rest).getLast? = some last :=
      ⟨_, List.getLast?_cons_cons.trans (List.getLast?_cons)⟩
    have among : last ∈ second :: rest := by
      rw [List.getLast?_cons_cons] at isLast
      exact List.mem_of_getLast? isLast
    have different : last.id ≠ first.id := by
      intro sameId
      have same := ids.eq_of_id (escalates.among last (List.mem_cons_of_mem _ among))
        (escalates.among first List.mem_cons_self) sameId
      exact (List.nodup_cons.mp apart).1 (same ▸ among)
    have firstNotDue : ¬history.detector.Escalated first.id :=
      notDue first List.mem_cons_self (several (by simp) first List.mem_cons_self)
    rw [isLast]
    exact sound.only.put_not_once firstNotDue
      ((due first.id).mpr (Or.inr ⟨first, List.mem_cons_self, rfl⟩)) different

/-- A dispatch hands over the activation that waits, and escalates nothing. -/
theorem outbox_dispatch (lower : String → String) (bus : history.detector.hasEventBus = true)
    (taken : Bool) :
    (history.step lower (.dispatchPendingEvents taken)).outbox = history.outbox.dispatch taken ∧
      (history.step lower (.dispatchPendingEvents taken)).detector.Escalated =
        history.detector.Escalated ∧
      (history.step lower (.dispatchPendingEvents taken)).detector.hasEventBus = true := by
  have escalated : (history.step lower (.dispatchPendingEvents taken)).detector.activeCrises =
      history.detector.activeCrises ∧
        (history.step lower (.dispatchPendingEvents taken)).detector.hasEventBus = true := by
    simp only [step, CrisisDetector.call, dispatchPendingEvents]
    split <;> simp [bus]
  refine ⟨?_, ?_, escalated.2⟩
  · simp only [step, outbox, publishedBy, CrisisDetector.call, dispatchPendingEvents,
      Outbox.dispatch]
    cases waits : history.detector.pendingKillSwitchEvent with
    | none => simp [waits]
    | some activation => cases taken <;> simp [bus]
  · unfold Escalated
    rw [escalated.1]

/-- What a call other than a dispatch escalates, and that nothing is published with it. -/
theorem Sound.escalates_call (sound : history.Sound) (lower : String → String) (call : CrisisCall)
    (noDispatch : ∀ taken, call ≠ .dispatchPendingEvents taken) :
    Escalates (history.detector.escalations call) history.detector
        (history.detector.call lower call) ∧
      history.step lower call = ⟨history.detector.call lower call, history.published⟩ ∧
      ¬history.detector.Drops call := by
  have ids := sound.keyed.ids
  cases call with
  | evaluate article crisisId articleId now =>
    exact ⟨ids.escalates_evaluate lower article crisisId articleId now,
      congrArg _ (List.append_nil _), id⟩
  | checkPersistence crisisId currentSentiments currentTime now =>
    exact ⟨ids.escalates_persistence crisisId currentSentiments currentTime now,
      congrArg _ (List.append_nil _), id⟩
  | resolveCrisis crisisId now =>
    exact ⟨ids.escalates_resolve crisisId now, congrArg _ (List.append_nil _), id⟩
  | dispatchPendingEvents taken => exact absurd rfl (noDispatch taken)

/-- A call escalates each crisis once, and several only if none of them was escalated. -/
theorem Sound.escalations_apart (sound : history.Sound) (call : CrisisCall) :
    (history.detector.escalations call).Nodup ∧
      (1 < (history.detector.escalations call).length →
        ∀ crisis ∈ history.detector.escalations call, crisis.escalatedToKillSwitch = false) := by
  cases call with
  | evaluate article crisisId articleId now =>
    have apart : history.detector.activeCrises.Nodup := by
      refine List.Pairwise.imp (fun apart same => ?_) sound.keyed.ids
      exact apart _ rfl (same ▸ rfl)
    refine ⟨(apart.filter _).filter _, fun _ crisis among => ?_⟩
    have kind := (List.mem_filter.mp (List.mem_of_mem_filter among)).2
    exact (Bool.not_eq_true' _).mp (Bool.and_eq_true_iff.mp kind).2
  | checkPersistence crisisId currentSentiments currentTime now =>
    have atMostOne : ((history.detector.getCrisis crisisId).toList.filter
        (history.detector.persists crisisId currentSentiments currentTime now)).length ≤ 1 :=
      (List.length_filter_le _ _).trans (Option.length_toList_le)
    refine ⟨?_, fun several => absurd several (not_lt.mpr atMostOne)⟩
    exact List.Pairwise.filter _ (by cases history.detector.getCrisis crisisId <;> simp)
  | resolveCrisis crisisId now => exact ⟨List.nodup_nil, by simp [escalations]⟩
  | dispatchPendingEvents taken => exact ⟨List.nodup_nil, by simp [escalations]⟩

/-- Every call with a new identifier keeps a history sound. -/
theorem Sound.step (sound : history.Sound) {call : CrisisCall}
    (fresh : history.detector.FreshId call) : (history.step lower call).Sound := by
  have keyed : (history.detector.call lower call).Keyed := sound.keyed.call fresh
  by_cases dispatch : ∃ taken, call = .dispatchPendingEvents taken
  · obtain ⟨taken, rfl⟩ := dispatch
    obtain ⟨handedOver, due, bus⟩ := outbox_dispatch lower sound.bus taken
    refine ⟨keyed, bus, ?_⟩
    rw [handedOver, due]
    exact sound.only.dispatch taken
  · obtain ⟨escalates, next, -⟩ := sound.escalates_call lower call
      fun taken same => dispatch ⟨taken, same⟩
    rw [next]
    exact sound.escalates escalates keyed

/-- A call keeps one activation for every escalated crisis exactly where it delivers. -/
theorem Sound.step_once_iff (sound : history.Sound) (once : history.ExactlyOnce)
    (call : CrisisCall) (fresh : history.detector.FreshId call) :
    (history.step lower call).ExactlyOnce ↔ history.detector.Delivers call := by
  by_cases dispatch : ∃ taken, call = .dispatchPendingEvents taken
  · obtain ⟨taken, rfl⟩ := dispatch
    obtain ⟨handedOver, due, -⟩ := outbox_dispatch lower sound.bus taken
    rw [exactly_once_iff] at once ⊢
    rw [handedOver, due]
    refine (sound.only.dispatch_once_iff once taken).trans ?_
    cases taken <;> simp [Delivers, Drops, escalations, outbox]
  · obtain ⟨escalates, next, noDrop⟩ := sound.escalates_call lower call
      fun taken same => dispatch ⟨taken, same⟩
    obtain ⟨apart, several⟩ := sound.escalations_apart call
    rw [next]
    refine (sound.escalates_once_iff once escalates apart several).trans ?_
    exact ⟨fun ⟨few, may⟩ => ⟨few, may, noDrop⟩, fun ⟨few, may, _⟩ => ⟨few, may⟩⟩

/-- No crisis is escalated at first. -/
theorem sound_new : Sound {} ∧ ExactlyOnce {} := by
  refine ⟨⟨keyed_new true, rfl, fun message among => absurd among (by simp [outbox, Outbox.messages])⟩,
    fun crisis member => absurd member (by simp)⟩

end Calls

/-- The identifiers for crises in a history are new. -/
def FreshIds (history : CrisisHistory) (call : CrisisCall) : Prop := history.detector.FreshId call

instance (history : CrisisHistory) (call : CrisisCall) : Decidable (history.FreshIds call) :=
  inferInstanceAs (Decidable (history.detector.FreshId call))

/-- A call escalates at most one crisis, which may be escalated, and drops no activation. -/
def Delivers (history : CrisisHistory) (call : CrisisCall) : Prop :=
  history.detector.Delivers call

instance (history : CrisisHistory) (call : CrisisCall) : Decidable (history.Delivers call) :=
  inferInstanceAs (Decidable (history.detector.Delivers call))

/-- In every run of calls with a bus, in which the identifiers of crises are new: every
escalated crisis has one activation, published or pending, in every state exactly when every call
delivers. -/
theorem activations_once_iff (lower : String → String) (calls : List CrisisCall)
    (fresh : Machines.Conforms (step lower) FreshIds {} calls) :
    (∀ reached, reached <+: calls → ExactlyOnce (Machines.after (step lower) {} reached)) ↔
      Machines.Conforms (step lower) Delivers {} calls :=
  Machines.always_iff_conforms_under (fun _ _ sound fresh => sound.step fresh)
    (fun _ call sound fresh once => sound.step_once_iff once call fresh) sound_new.1 sound_new.2
    fresh

/-- Three bad articles about a region, and an article that escalates its crisis. -/
def escalation (region crisisId : String) : List CrisisCall :=
  [badArticle region 0 crisisId, badArticle region 1 crisisId, badArticle region 2 crisisId,
    .evaluate { receivedAt := some 3000, sentimentScore := -4 / 10, region := some region } "other"
      "article" 3000]

/-- A crisis is escalated, and its activation is published. -/
theorem one_crisis_is_published_once :
    Machines.Conforms (step String.toLower) Delivers {}
        (escalation "europe" "first" ++ [.dispatchPendingEvents true]) ∧
      ∀ reached, reached <+: escalation "europe" "first" ++ [.dispatchPendingEvents true] →
        ExactlyOnce (Machines.after (step String.toLower) {} reached) :=
  have delivers : Machines.Conforms (step String.toLower) Delivers {}
      (escalation "europe" "first" ++ [.dispatchPendingEvents true]) := by decide +kernel
  ⟨delivers, (activations_once_iff String.toLower _ (by decide +kernel)).mpr delivers⟩

/-- Bad articles about two regions, and an article about none that escalates both crises. -/
def twoEscalations : List CrisisCall :=
  [badArticle "europe" 0 "first", badArticle "europe" 1 "first", badArticle "europe" 2 "first",
    badArticle "asia" 3 "second", badArticle "asia" 4 "second", badArticle "asia" 5 "second",
    .evaluate { receivedAt := some 3000, sentimentScore := -4 / 10 } "other" "article" 3000]

/-- The activation of the second crisis takes the place of the first one's. -/
theorem second_activation_replaces_first :
    ¬∀ reached, reached <+: twoEscalations →
      ExactlyOnce (Machines.after (step String.toLower) {} reached) := by
  intro once
  exact absurd (once twoEscalations (List.prefix_refl _)) (by decide +kernel)

end CrisisHistory

end IgTradingBot
