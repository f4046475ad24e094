import IgTradingBot.News.CrisisRuns
import Mathlib.Algebra.Order.Ring.Rat

/-!
# Keys of active crises

The detector keeps the crises in one table and the keys of the groups that have an active crisis in
another. The keys and the active crises correspond one to one, and a crisis is named after its
key. An article is matched with a crisis by this name, and not by its groups: a recovery in the
group of a crisis is missed where the region of the article is not the name of the crisis.
-/

namespace IgTradingBot

namespace CrisisDetector

/-- Keys and active crises correspond one to one. -/
structure KeysMatch (detector : CrisisDetector) : Prop where
  leads : ∀ key crisisId, detector.activeCrisisKeys key = some crisisId →
    ∃! crisis, crisis ∈ detector.activeCrises ∧ crisis.active = true ∧ crisis.id = crisisId
  keyed : ∀ crisis ∈ detector.activeCrises, crisis.active = true →
    ∃! key, detector.activeCrisisKeys key = some crisis.id
  dropped : ∀ crisis ∈ detector.activeCrises, crisis.active = false →
    ∀ key, detector.activeCrisisKeys key ≠ some crisis.id

/-- Every key leads to an active crisis that is named after it, and every active crisis has one
key. -/
structure Keyed (detector : CrisisDetector) : Prop where
  ids : detector.UniqueIds
  leads : ∀ key crisisId, detector.activeCrisisKeys key = some crisisId →
    ∃ crisis ∈ detector.activeCrises, crisis.id = crisisId ∧ crisis.active = true ∧
      crisis.region = resolveRegionLabel key
  keyed : ∀ crisis ∈ detector.activeCrises, crisis.active = true →
    ∃ key, detector.activeCrisisKeys key = some crisis.id
  once : ∀ key other crisisId, detector.activeCrisisKeys key = some crisisId →
    detector.activeCrisisKeys other = some crisisId → key = other

section Keys

variable {detector : CrisisDetector}

/-- The keys of a keyed detector match its crises. -/
theorem Keyed.keys_match (keyed : detector.Keyed) : detector.KeysMatch where
  leads key crisisId leads := by
    obtain ⟨crisis, member, named, active, -⟩ := keyed.leads key crisisId leads
    refine ⟨crisis, ⟨member, active, named⟩, ?_⟩
    rintro other ⟨otherMember, -, otherNamed⟩
    exact keyed.ids.eq_of_id otherMember member (otherNamed.trans named.symm)
  keyed crisis member active := by
    obtain ⟨key, leads⟩ := keyed.keyed crisis member active
    exact ⟨key, leads, fun other otherLeads => keyed.once other key crisis.id otherLeads leads⟩
  dropped crisis member inactive key leads := by
    obtain ⟨other, otherMember, named, active, -⟩ := keyed.leads key crisis.id leads
    obtain rfl := keyed.ids.eq_of_id otherMember member named
    exact absurd (active.symm.trans inactive) (by decide)

/-- A change that leaves identifier, activity and name of a crisis alone keeps the detector
keyed. -/
theorem Keyed.update_crisis (keyed : detector.Keyed) (crisisId : String)
    {change : CrisisAlertData → CrisisAlertData}
    (keeps : ∀ crisis, (change crisis).id = crisis.id ∧ (change crisis).active = crisis.active ∧
      (change crisis).region = crisis.region) :
    (detector.updateCrisis crisisId change).Keyed := by
  have same : ∀ crisis : CrisisAlertData,
      (if crisis.id = crisisId then change crisis else crisis).id = crisis.id ∧
        (if crisis.id = crisisId then change crisis else crisis).active = crisis.active ∧
        (if crisis.id = crisisId then change crisis else crisis).region = crisis.region := by
    intro crisis
    split_ifs
    · exact keeps crisis
    · exact ⟨rfl, rfl, rfl⟩
  constructor
  · exact KeyedRows.UniqueOn.map keyed.ids fun crisis => congrArg some (same crisis).1
  · intro key leadsTo leads
    obtain ⟨crisis, member, named, active, label⟩ := keyed.leads key leadsTo leads
    obtain ⟨sameId, sameActive, sameRegion⟩ := same crisis
    exact ⟨_, List.mem_map_of_mem member, sameId.trans named, sameActive.trans active,
      sameRegion.trans label⟩
  · intro changed member active
    obtain ⟨crisis, before, rfl⟩ := List.mem_map.mp member
    obtain ⟨sameId, sameActive, -⟩ := same crisis
    rw [sameId]
    exact keyed.keyed crisis before (sameActive.symm.trans active)
  · exact keyed.once

/-- An escalation keeps the detector keyed. -/
theorem Keyed.escalate (keyed : detector.Keyed) (crisis : CrisisAlertData) :
    (detector.escalate crisis).Keyed := by
  have escalated : (detector.updateCrisis crisis.id fun crisis =>
      { crisis with escalatedToKillSwitch := true }).Keyed :=
    keyed.update_crisis crisis.id fun _ => ⟨rfl, rfl, rfl⟩
  unfold CrisisDetector.escalate emitKillSwitchActivation
  split_ifs
  · exact ⟨escalated.1, escalated.2, escalated.3, escalated.4⟩
  · exact escalated

/-- A resolved crisis leaves both tables in step. -/
theorem Keyed.resolve_crisis (keyed : detector.Keyed) (crisisId : String) (now : ℚ) :
    (detector.resolveCrisis crisisId now).Keyed := by
  cases found : detector.getCrisis crisisId with
  | none =>
    unfold resolveCrisis
    rw [found]
    exact keyed
  | some crisis =>
    obtain ⟨member, rfl⟩ := get_crisis_some found
    rw [keyed.ids.resolve_crisis member]
    constructor
    · refine KeyedRows.UniqueOn.map keyed.ids fun other => congrArg some ?_
      split_ifs with same
      · exact same ▸ rfl
      · rfl
    · intro key leadsTo leads
      dsimp only at leads
      split_ifs at leads with own
      obtain ⟨other, otherMember, named, active, label⟩ := keyed.leads key leadsTo leads
      have different : other ≠ crisis := by
        rintro rfl
        exact own (named ▸ leads)
      exact ⟨other, List.mem_map.mpr ⟨other, otherMember, if_neg different⟩, named, active, label⟩
    · intro changed changedMember active
      obtain ⟨other, otherMember, rfl⟩ := List.mem_map.mp changedMember
      split_ifs at active ⊢ with same
      obtain ⟨key, leads⟩ := keyed.keyed other otherMember active
      refine ⟨key, (if_neg fun own => same ?_).trans leads⟩
      exact keyed.ids.eq_of_id otherMember member (Option.some.inj (leads.symm.trans own))
    · intro key other leadsTo leads otherLeads
      dsimp only at leads otherLeads
      split_ifs at leads otherLeads
      exact keyed.once key other leadsTo leads otherLeads

/-- A new crisis enters both tables under a key that has none. -/
theorem Keyed.open_crisis (keyed : detector.Keyed) {groupingKey : String}
    {crisis : CrisisAlertData} (free : detector.activeCrisisKeys groupingKey = none)
    (new : crisis.id ∉ detector.activeCrises.map (·.id)) (active : crisis.active = true)
    (label : crisis.region = resolveRegionLabel groupingKey) :
    (detector.openCrisis groupingKey crisis).Keyed := by
  have unknown : ∀ key, detector.activeCrisisKeys key ≠ some crisis.id := by
    intro key leads
    obtain ⟨other, member, named, -⟩ := keyed.leads key crisis.id leads
    exact new (named ▸ List.mem_map_of_mem member)
  constructor
  · refine KeyedRows.UniqueOn.concat keyed.ids fun crisisId named other member otherNamed => ?_
    obtain rfl := Option.some.inj named
    exact new (List.mem_map.mpr ⟨other, member, Option.some.inj otherNamed⟩)
  · intro key leadsTo leads
    change Function.update detector.activeCrisisKeys groupingKey (some crisis.id) key =
      some leadsTo at leads
    by_cases own : key = groupingKey
    · subst own
      rw [Function.update_self] at leads
      exact ⟨crisis, List.mem_append_right _ List.mem_cons_self, Option.some.inj leads, active,
        label⟩
    · rw [Function.update_of_ne own] at leads
      obtain ⟨other, member, facts⟩ := keyed.leads key leadsTo leads
      exact ⟨other, List.mem_append_left _ member, facts⟩
  · intro other member otherActive
    obtain old | isNew := List.mem_append.mp member
    · obtain ⟨key, leads⟩ := keyed.keyed other old otherActive
      have different : key ≠ groupingKey := by
        rintro rfl
        exact absurd (leads.symm.trans free) (by simp)
      exact ⟨key, (Function.update_of_ne different _ _).trans leads⟩
    · obtain rfl := List.mem_singleton.mp isNew
      exact ⟨groupingKey, Function.update_self ..⟩
  · intro key other leadsTo leads otherLeads
    change Function.update detector.activeCrisisKeys groupingKey (some crisis.id) key =
      some leadsTo at leads
    change Function.update detector.activeCrisisKeys groupingKey (some crisis.id) other =
      some leadsTo at otherLeads
    by_cases own : key = groupingKey <;> by_cases otherOwn : other = groupingKey
    · exact own.trans otherOwn.symm
    · subst own
      rw [Function.update_self] at leads
      rw [Function.update_of_ne otherOwn, ← leads] at otherLeads
      exact absurd otherLeads (unknown other)
    · subst otherOwn
      rw [Function.update_self] at otherLeads
      rw [Function.update_of_ne own, ← otherLeads] at leads
      exact absurd leads (unknown key)
    · rw [Function.update_of_ne own] at leads
      rw [Function.update_of_ne otherOwn] at otherLeads
      exact keyed.once key other leadsTo leads otherLeads

/-- The check of a crisis leaves both tables in step. -/
theorem Keyed.check_active_crisis (keyed : detector.Keyed) (sentiment : ℚ)
    (region : Option String) (receivedAt now : ℚ) (crisis : CrisisAlertData) :
    (detector.checkActiveCrisis sentiment region receivedAt now crisis).Keyed := by
  have noted : (detector.noteSentiment crisis.id
      ⟨sentiment, regionOrGlobal region, receivedAt⟩).Keyed := ⟨keyed.1, keyed.2, keyed.3, keyed.4⟩
  unfold checkActiveCrisis
  dsimp only
  split_ifs
  · exact keyed
  · exact noted.resolve_crisis crisis.id now
  · exact noted.escalate crisis
  · exact noted

/-- The check of crises leaves both tables in step. The induction is on the crises. -/
theorem Keyed.check_crises (keyed : detector.Keyed) (sentiment : ℚ) (region : Option String)
    (receivedAt now : ℚ) (crises : List CrisisAlertData) :
    (detector.checkCrises sentiment region receivedAt now crises).Keyed := by
  induction crises generalizing detector with
  | nil => exact keyed
  | cons crisis rest inductionHypothesis =>
    exact inductionHypothesis (keyed.check_active_crisis sentiment region receivedAt now crisis)

/-- A group with an active crisis does not open another. -/
theorem crisis_group_free {lower : String → String} {newRecord : CrisisArticleRecord} {now : ℚ}
    {groupingKey : String} (found : detector.crisisGroup lower newRecord now = some groupingKey) :
    detector.activeCrisisKeys groupingKey = none := by
  have picked := List.find?_some found
  exact Option.isNone_iff_eq_none.mp (Bool.and_eq_true_iff.mp picked).1

/-- The evaluation of an article leaves both tables in step. -/
theorem Keyed.evaluate (keyed : detector.Keyed) {lower : String → String}
    {article : CrisisArticle} {crisisId articleId : String} {now : ℚ}
    (new : crisisId ∉ detector.activeCrises.map (·.id)) :
    (detector.evaluate lower article crisisId articleId now).2.Keyed := by
  have checked := keyed.check_crises article.sentimentScore article.region
    (article.receivedAt.getD now) now detector.crisesToCheck
  have sameIds := (check_active_crises_on_article article.sentimentScore article.region
    (article.receivedAt.getD now) now keyed.ids).same_ids
  unfold CrisisDetector.evaluate
  dsimp only
  split_ifs
  · exact checked
  · have noted : ({ detector.checkActiveCrisesOnArticle article.sentimentScore article.region
        (article.receivedAt.getD now) now with
          recentArticles := pruneOldArticles now
            ((detector.checkActiveCrisesOnArticle article.sentimentScore article.region
              (article.receivedAt.getD now) now).recentArticles ++
                [recordOf article articleId now]) } : CrisisDetector).Keyed :=
      ⟨checked.1, checked.2, checked.3, checked.4⟩
    unfold checkCrisisConditions
    split
    · exact noted
    · rename_i groupingKey found
      refine noted.open_crisis (crisis_group_free found) ?_ rfl rfl
      exact sameIds.symm ▸ new

/-- A check of persistence leaves both tables in step. -/
theorem Keyed.check_persistence (keyed : detector.Keyed) (crisisId : String)
    (currentSentiments : Option (List ℚ)) (currentTime : Option ℚ) (now : ℚ) :
    (detector.checkPersistence crisisId currentSentiments currentTime now).2.Keyed := by
  unfold checkPersistence
  split
  · exact keyed
  · rename_i crisis found
    split_ifs
    · exact keyed
    · exact keyed
    · exact keyed.resolve_crisis crisisId now
    · exact keyed.escalate crisis

/-- Every call with a new identifier leaves both tables in step. -/
theorem Keyed.call (keyed : detector.Keyed) {lower : String → String} {call : CrisisCall}
    (fresh : detector.FreshId call) : (detector.call lower call).Keyed := by
  cases call with
  | evaluate article crisisId articleId now => exact keyed.evaluate fresh
  | checkPersistence crisisId currentSentiments currentTime now =>
    exact keyed.check_persistence crisisId currentSentiments currentTime now
  | resolveCrisis crisisId now => exact keyed.resolve_crisis crisisId now
  | dispatchPendingEvents taken =>
    change (detector.dispatchPendingEvents taken).2.Keyed
    unfold dispatchPendingEvents
    split
    · exact keyed
    · split_ifs
      · exact ⟨keyed.1, keyed.2, keyed.3, keyed.4⟩
      · exact ⟨keyed.1, keyed.2, keyed.3, keyed.4⟩
      · exact keyed

/-- A new detector has no crises and no keys. -/
theorem keyed_new (hasEventBus : Bool) : Keyed { hasEventBus } where
  ids := List.Pairwise.nil
  leads _ _ leads := absurd leads (by simp)
  keyed _ member := absurd member (by simp)
  once _ _ _ leads := absurd leads (by simp)

end Keys

section Runs

variable (lower : String → String) (hasEventBus : Bool) (calls : List CrisisCall)

/-- After every run of calls in which the identifiers of crises are new, both tables are in
step. -/
theorem keyed_after (fresh : Machines.Conforms (call lower) FreshId { hasEventBus } calls) :
    (Machines.after (call lower) { hasEventBus } calls).Keyed := by
  have kept : ∀ (detector : CrisisDetector) (call : CrisisCall), detector.Keyed →
      detector.FreshId call → (detector.call lower call).Keyed := fun _ _ keyed fresh => keyed.call fresh
  exact Machines.after_keeps kept (keyed_new hasEventBus) fresh

/-- After every run of calls in which the identifiers of crises are new: every key leads to exactly
one active crisis, every active crisis has exactly one key, and a resolved one has none. -/
theorem keys_match_crises
    (fresh : Machines.Conforms (call lower) FreshId { hasEventBus } calls) :
    (Machines.after (call lower) { hasEventBus } calls).KeysMatch :=
  (keyed_after lower hasEventBus calls fresh).keys_match

end Runs

/-- A bad article about a region. -/
def badArticle (region : String) (now : ℚ) (crisisId : String) : CrisisCall :=
  .evaluate
    { sentimentScore := -8 / 10
      impactLevel := "HIGH"
      receivedAt := some now
      region := some region } crisisId "article" now

/-- Bad articles open a crisis, which is resolved, and then another. -/
theorem two_crises_match_their_keys :
    KeysMatch (Machines.after (call String.toLower) {}
      [badArticle "Europe" 0 "first", badArticle "Europe" 1 "first", badArticle "europe" 2 "first",
        .resolveCrisis "first" 3, badArticle "Europe" 4 "second"]) :=
  keys_match_crises String.toLower false _ (by decide +kernel)

/-- The article of a call resolves the crises whose groups it belongs to, if it is a recovery. -/
def RecoveryResolves (lower : String → String) (detector next : CrisisDetector) :
    CrisisCall → Prop
  | .evaluate article _ articleId now => recovers article.sentimentScore = true →
    ∀ crisis ∈ detector.crisesToCheck,
      ∀ key ∈ getGroupingKeys lower (recordOf article articleId now),
        detector.activeCrisisKeys key = some crisis.id →
          ∃ resolved ∈ next.activeCrises, resolved.id = crisis.id ∧ resolved.active = false
  | _ => True

/-- The region of an article is the name in a key, letter for letter, or one of them is the global
one. -/
def SpellsName (region : Option String) (key : String) : Prop :=
  let name := regionOrGlobal (some (resolveRegionLabel key))
  name = regionOrGlobal region ∨ name = "global" ∨ regionOrGlobal region = "global"

instance (region : Option String) (key : String) : Decidable (SpellsName region key) :=
  inferInstanceAs (Decidable (_ ∨ _ ∨ _))

/-- The article of a call spells its region as the keys of the crises whose groups it belongs to,
if it is a recovery. -/
def SpellsNames (lower : String → String) (detector : CrisisDetector) : CrisisCall → Prop
  | .evaluate article _ articleId now => recovers article.sentimentScore = true →
    ∀ crisis ∈ detector.crisesToCheck,
      ∀ key ∈ getGroupingKeys lower (recordOf article articleId now),
        detector.activeCrisisKeys key = some crisis.id → SpellsName article.region key
  | _ => True

instance (lower : String → String) (detector : CrisisDetector) :
    ∀ call, Decidable (detector.SpellsNames lower call)
  | .evaluate _ _ _ _ => inferInstanceAs (Decidable (_ → ∀ crisis ∈ _, ∀ key ∈ _, _ → _))
  | .checkPersistence _ _ _ _ => inferInstanceAs (Decidable True)
  | .resolveCrisis _ _ => inferInstanceAs (Decidable True)
  | .dispatchPendingEvents _ => inferInstanceAs (Decidable True)

section Recoveries

variable {detector : CrisisDetector} {lower : String → String}

/-- A recovery is no bad article, so it only checks the active crises. -/
theorem evaluate_recovery {article : CrisisArticle} {crisisId articleId : String} {now : ℚ}
    (recovery : recovers article.sentimentScore = true) :
    (detector.evaluate lower article crisisId articleId now).2 =
      detector.checkActiveCrisesOnArticle article.sentimentScore article.region
        (article.receivedAt.getD now) now := by
  have above : Constants.newsCrisisRecoveryThreshold < article.sentimentScore :=
    of_decide_eq_true recovery
  have below : Constants.newsCrisisSentimentThreshold < Constants.newsCrisisRecoveryThreshold := by
    decide +kernel
  have notBad : Constants.newsCrisisSentimentThreshold < article.sentimentScore := below.trans above
  unfold evaluate
  rw [if_pos (Or.inr notBad)]

/-- A recovery resolves a crisis exactly where its region is the name of the crisis, or one of them
is the global one. -/
theorem recovery_resolves_iff (ids : detector.UniqueIds) {article : CrisisArticle}
    {crisisId articleId : String} {now : ℚ} (recovery : recovers article.sentimentScore = true)
    {crisis : CrisisAlertData} (toCheck : crisis ∈ detector.crisesToCheck) :
    (∃ resolved ∈ (detector.evaluate lower article crisisId articleId now).2.activeCrises,
        resolved.id = crisis.id ∧ resolved.active = false) ↔
      relevant (regionOrGlobal (some crisis.region)) (regionOrGlobal article.region) = true := by
  obtain ⟨member, kind⟩ := List.mem_filter.mp toCheck
  have active : crisis.active = true := (Bool.and_eq_true_iff.mp kind).1
  rw [evaluate_recovery recovery, (check_active_crises_on_article article.sentimentScore
    article.region (article.receivedAt.getD now) now ids).crises]
  constructor
  · rintro ⟨resolved, isResolved, named, inactive⟩
    obtain ⟨other, otherMember, rfl⟩ := List.mem_map.mp isResolved
    have sameId : other.id = crisis.id := by
      rw [← named]
      split_ifs
      · exact (checked_crisis_id _ _ _ _ other).symm
      · rfl
    obtain rfl := ids.eq_of_id otherMember member sameId
    rw [if_pos toCheck] at inactive
    by_contra about
    rw [checkedCrisis, if_neg fun both => about both.1,
      if_neg fun lasts : Lasts _ _ _ _ _ => about lasts.1] at inactive
    exact absurd (active.symm.trans inactive) (by decide)
  · intro about
    refine ⟨_, List.mem_map_of_mem member, ?_⟩
    rw [if_pos toCheck, checkedCrisis, if_pos ⟨about, recovery⟩]
    exact ⟨rfl, rfl⟩

/-- A call resolves the crises of a recovery exactly where the names are spelled alike. -/
theorem call_resolves_iff (lower : String → String) (keyed : detector.Keyed) (call : CrisisCall) :
    RecoveryResolves lower detector (detector.call lower call) call ↔
      detector.SpellsNames lower call := by
  cases call with
  | evaluate article crisisId articleId now =>
    refine forall_congr' fun recovery => forall₂_congr fun crisis toCheck =>
      forall₃_congr fun key _ leads => ?_
    refine (recovery_resolves_iff keyed.ids recovery toCheck).trans ?_
    obtain ⟨other, otherMember, named, -, label⟩ := keyed.leads key crisis.id leads
    obtain rfl := keyed.ids.eq_of_id otherMember (List.mem_of_mem_filter toCheck) named
    rw [label]
    simp [relevant, SpellsName, or_assoc]
  | checkPersistence crisisId currentSentiments currentTime now => exact Iff.rfl
  | resolveCrisis crisisId now => exact Iff.rfl
  | dispatchPendingEvents taken => exact Iff.rfl

end Recoveries

/-- In every run of calls in which the identifiers of crises are new: an article above the recovery
threshold resolves the active crises, not escalated yet, whose groups it belongs to, exactly when
each such article spells its region as their keys do. -/
theorem recoveries_resolve_iff (lower : String → String) (hasEventBus : Bool)
    (calls : List CrisisCall)
    (fresh : Machines.Conforms (call lower) FreshId { hasEventBus } calls) :
    (∀ reached next, reached ++ [next] <+: calls →
        RecoveryResolves lower (Machines.after (call lower) { hasEventBus } reached)
          (Machines.after (call lower) { hasEventBus } (reached ++ [next])) next) ↔
      Machines.Conforms (call lower) (SpellsNames lower) { hasEventBus } calls := by
  have kept : ∀ (detector : CrisisDetector) (call : CrisisCall), detector.Keyed →
      detector.FreshId call → (detector.call lower call).Keyed := fun _ _ keyed fresh => keyed.call fresh
  have same : ∀ (detector : CrisisDetector) (call : CrisisCall), detector.Keyed →
      detector.FreshId call → (RecoveryResolves lower detector (detector.call lower call) call ↔
        detector.SpellsNames lower call) := fun _ call keyed _ => call_resolves_iff lower keyed call
  rw [← Machines.conforms_congr_under kept same (keyed_new hasEventBus) fresh,
    Machines.conforms_iff_forall_prefix]
  refine forall₂_congr fun reached next => imp_congr_right fun _ => ?_
  rw [Machines.after_append]
  rfl

/-- Three bad articles about a region, and then a good one. -/
def recovery (region : String) : List CrisisCall :=
  [badArticle region 0 "first", badArticle region 1 "first", badArticle region 2 "first",
    .evaluate { receivedAt := some 3, region := some region } "second" "article" 3]

/-- A good article about a region that is spelled in lower case resolves its crisis. -/
theorem lower_case_recovery_resolves :
    Machines.Conforms (call String.toLower) (SpellsNames String.toLower) {} (recovery "europe") ∧
      ∀ reached next, reached ++ [next] <+: recovery "europe" →
        RecoveryResolves String.toLower (Machines.after (call String.toLower) {} reached)
          (Machines.after (call String.toLower) {} (reached ++ [next])) next :=
  have spelled : Machines.Conforms (call String.toLower) (SpellsNames String.toLower) {}
      (recovery "europe") := by decide +kernel
  ⟨spelled, (recoveries_resolve_iff String.toLower false _ (by decide +kernel)).mpr spelled⟩

/-- The crisis of a region that is spelled with a capital is open after a good article about it. -/
theorem capital_recovery_is_missed :
    ¬∀ reached next, reached ++ [next] <+: recovery "Europe" →
      RecoveryResolves String.toLower (Machines.after (call String.toLower) {} reached)
        (Machines.after (call String.toLower) {} (reached ++ [next])) next := by
  intro resolves
  have keyed := keyed_after String.toLower false ((recovery "Europe").take 3) (by decide +kernel)
  have good := call_resolves_iff String.toLower keyed
    (.evaluate { receivedAt := some 3, region := some "Europe" } "second" "article" 3)
  have resolved := resolves ((recovery "Europe").take 3) _ (List.prefix_refl _)
  rw [Machines.after_append] at resolved
  exact absurd (good.mp resolved) (by decide +kernel)

end CrisisDetector

end IgTradingBot
