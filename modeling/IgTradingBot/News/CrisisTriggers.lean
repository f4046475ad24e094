import IgTradingBot.Library.Windows
import IgTradingBot.News.CrisisKeys

/-!
# Articles that open a crisis

The detector keeps the bad articles that are not too old at its last reading of the clock. For every
later reading this shows as much as the whole history of bad articles, so a crisis is opened by the
articles of the window in which the clock is read. The window has no far edge: an article that is
dated after the reading counts.
-/

namespace IgTradingBot

namespace CrisisDetector

open SlidingWindows (trailing Shows)

/-- An article counts for a crisis: its impact is high and its sentiment bad. -/
def Qualifies (article : CrisisArticle) : Prop :=
  article.impactLevel = "HIGH" ∧ article.sentimentScore ≤ Constants.newsCrisisSentimentThreshold

instance (article : CrisisArticle) : Decidable (Qualifies article) :=
  inferInstanceAs (Decidable (_ ∧ _))

/-- The record of the article of a call, if it counts for a crisis. -/
def qualifyingRecord : CrisisCall → Option CrisisArticleRecord
  | .evaluate article _ articleId now =>
    if Qualifies article then some (recordOf article articleId now) else none
  | _ => none

/-- The records of all articles of some calls that count for a crisis. -/
def qualifyingRecords (calls : List CrisisCall) : List CrisisArticleRecord :=
  calls.filterMap qualifyingRecord

/-- The reading of the clock of a call. -/
def clockOf : CrisisCall → Option ℚ
  | .evaluate _ _ _ now => some now
  | .checkPersistence _ _ _ now => some now
  | .resolveCrisis _ now => some now
  | .dispatchPendingEvents _ => none

/-- The clock does not go backwards in some calls. -/
def Forwards (calls : List CrisisCall) : Prop := (calls.filterMap clockOf).Pairwise (· ≤ ·)

instance (calls : List CrisisCall) : Decidable (Forwards calls) :=
  inferInstanceAs (Decidable (List.Pairwise _ _))

/-- A group has an active crisis. -/
def HasActiveCrisis (groupingKey : String) (detector : CrisisDetector) : Prop :=
  ∃ crisis ∈ detector.activeCrises, crisis.active = true ∧
    detector.activeCrisisKeys groupingKey = some crisis.id

instance (groupingKey : String) (detector : CrisisDetector) :
    Decidable (detector.HasActiveCrisis groupingKey) :=
  inferInstanceAs (Decidable (∃ crisis ∈ _, _))

/-- A group has an active crisis where its key leads to one. -/
theorem Keyed.has_active_crisis_iff {detector : CrisisDetector} (keyed : detector.Keyed)
    (groupingKey : String) :
    detector.HasActiveCrisis groupingKey ↔
      (detector.activeCrisisKeys groupingKey).isSome = true := by
  constructor
  · rintro ⟨crisis, -, -, leads⟩
    rw [leads]
    rfl
  · intro listed
    obtain ⟨crisisId, leads⟩ := Option.isSome_iff_exists.mp listed
    obtain ⟨crisis, member, rfl, active, -⟩ := keyed.leads groupingKey crisisId leads
    exact ⟨crisis, member, active, leads⟩

section Checks

variable {detector : CrisisDetector}

/-- A crisis that is resolved leaves the articles that are kept. -/
theorem recent_articles_resolve (crisisId : String) (now : ℚ) :
    (detector.resolveCrisis crisisId now).recentArticles = detector.recentArticles := by
  unfold resolveCrisis
  split <;> rfl

/-- A crisis that is escalated leaves the articles that are kept and the keys. -/
theorem escalate_leaves (crisis : CrisisAlertData) :
    (detector.escalate crisis).recentArticles = detector.recentArticles ∧
      (detector.escalate crisis).activeCrisisKeys = detector.activeCrisisKeys := by
  unfold escalate emitKillSwitchActivation
  split <;> exact ⟨rfl, rfl⟩

/-- The check of a crisis leaves the articles that are kept, and the keys unless it is a recovery. -/
theorem check_leaves (sentiment : ℚ) (region : Option String) (receivedAt now : ℚ)
    (crisis : CrisisAlertData) :
    (detector.checkActiveCrisis sentiment region receivedAt now crisis).recentArticles =
        detector.recentArticles ∧
      (recovers sentiment = false →
        (detector.checkActiveCrisis sentiment region receivedAt now crisis).activeCrisisKeys =
          detector.activeCrisisKeys) := by
  unfold checkActiveCrisis
  dsimp only
  split_ifs with unrelated recovery
  · exact ⟨rfl, fun _ => rfl⟩
  · exact ⟨recent_articles_resolve _ _, fun notRecovery => absurd recovery (by simp [notRecovery])⟩
  · exact ⟨(escalate_leaves crisis).1, fun _ => (escalate_leaves crisis).2⟩
  · exact ⟨rfl, fun _ => rfl⟩

/-- The check of crises leaves the articles that are kept, and the keys unless it is a recovery. The
induction is on the crises. -/
theorem checks_leave (sentiment : ℚ) (region : Option String) (receivedAt now : ℚ)
    (crises : List CrisisAlertData) :
    (detector.checkCrises sentiment region receivedAt now crises).recentArticles =
        detector.recentArticles ∧
      (recovers sentiment = false →
        (detector.checkCrises sentiment region receivedAt now crises).activeCrisisKeys =
          detector.activeCrisisKeys) := by
  induction crises generalizing detector with
  | nil => exact ⟨rfl, fun _ => rfl⟩
  | cons crisis rest inductionHypothesis =>
    obtain ⟨articles, keys⟩ :=
      @check_leaves detector sentiment region receivedAt now crisis
    obtain ⟨laterArticles, laterKeys⟩ :=
      @inductionHypothesis (detector.checkActiveCrisis sentiment region receivedAt now crisis)
    exact ⟨laterArticles.trans articles,
      fun notRecovery => (laterKeys notRecovery).trans (keys notRecovery)⟩

/-- An article that counts for a crisis is no recovery. -/
theorem not_recovers_of_qualifies {article : CrisisArticle} (qualifies : Qualifies article) :
    recovers article.sentimentScore = false := by
  have below : Constants.newsCrisisSentimentThreshold ≤ Constants.newsCrisisRecoveryThreshold := by
    decide +kernel
  exact decide_eq_false (not_lt.mpr (qualifies.2.trans below))

end Checks

/-- The detector that has checked its crises with an article and has kept its record. -/
def noted (article : CrisisArticle) (articleId : String) (now : ℚ) (detector : CrisisDetector) :
    CrisisDetector :=
  let checked := detector.checkActiveCrisesOnArticle article.sentimentScore article.region
    (article.receivedAt.getD now) now
  { checked with
      recentArticles :=
        pruneOldArticles now (checked.recentArticles ++ [recordOf article articleId now]) }

/-- The articles of a history that count in a reading of the clock for a group: those that are dated
in the last ten minutes or after the reading. -/
def countedArticles (lower : String → String) (now : ℚ) (groupingKey : String)
    (records : List CrisisArticleRecord) : List CrisisArticleRecord :=
  records.filter fun record =>
    now - timeWindow ≤ record.receivedAt ∧ groupingKey ∈ getGroupingKeys lower record

section Evaluations

variable {detector : CrisisDetector} {lower : String → String} {article : CrisisArticle}

/-- An article that counts is kept, and then looked at with those of its groups. -/
theorem evaluate_of_qualifies (qualifies : Qualifies article) (crisisId articleId : String)
    (now : ℚ) :
    detector.evaluate lower article crisisId articleId now =
      (detector.noted article articleId now).checkCrisisConditions lower
        (recordOf article articleId now) crisisId now := by
  unfold evaluate
  dsimp only
  rw [if_neg (not_or.mpr ⟨not_not.mpr qualifies.1, not_lt.mpr qualifies.2⟩)]
  rfl

/-- An article that does not count opens no crisis. -/
theorem evaluate_of_not_qualifies (other : ¬Qualifies article) (crisisId articleId : String)
    (now : ℚ) :
    detector.evaluate lower article crisisId articleId now =
      (none, detector.checkActiveCrisesOnArticle article.sentimentScore article.region
        (article.receivedAt.getD now) now) := by
  unfold evaluate
  dsimp only
  refine if_pos ?_
  by_contra neither
  obtain ⟨high, bad⟩ := not_or.mp neither
  exact other ⟨not_not.mp high, not_lt.mp bad⟩

/-- The articles that are kept after an article that counts. -/
theorem recent_articles_noted (articleId : String) (now : ℚ) :
    (detector.noted article articleId now).recentArticles =
      pruneOldArticles now (detector.recentArticles ++ [recordOf article articleId now]) := by
  have same := (@checks_leave detector article.sentimentScore article.region
    (article.receivedAt.getD now) now detector.crisesToCheck).1
  exact congrArg (fun articles => pruneOldArticles now (articles ++ [recordOf article articleId now]))
    same

/-- A check of the conditions leaves the articles that are kept. -/
theorem recent_articles_conditions (record : CrisisArticleRecord) (crisisId : String) (now : ℚ) :
    (detector.checkCrisisConditions lower record crisisId now).2.recentArticles =
      detector.recentArticles := by
  unfold checkCrisisConditions
  split <;> rfl

/-- The articles that are kept after a call with an article that counts. -/
theorem recent_articles_call (lower : String → String) (detector : CrisisDetector)
    {article : CrisisArticle} (qualifies : Qualifies article) (crisisId articleId : String) (now : ℚ) :
    (detector.call lower (.evaluate article crisisId articleId now)).recentArticles =
      pruneOldArticles now (detector.recentArticles ++ [recordOf article articleId now]) := by
  change (detector.evaluate lower article crisisId articleId now).2.recentArticles = _
  rw [evaluate_of_qualifies qualifies, recent_articles_conditions, recent_articles_noted]

/-- A call without an article that counts leaves the articles that are kept. -/
theorem recent_articles_call_other (lower : String → String) (detector : CrisisDetector)
    {call : CrisisCall} (other : qualifyingRecord call = none) :
    (detector.call lower call).recentArticles = detector.recentArticles := by
  cases call with
  | evaluate article crisisId articleId now =>
    have notQualifies : ¬Qualifies article := by
      intro qualifies
      rw [qualifyingRecord, if_pos qualifies] at other
      exact absurd other (by simp)
    change (detector.evaluate lower article crisisId articleId now).2.recentArticles = _
    rw [evaluate_of_not_qualifies notQualifies]
    exact (checks_leave _ _ _ _ _).1
  | checkPersistence crisisId currentSentiments currentTime now =>
    change (detector.checkPersistence crisisId currentSentiments currentTime now).2.recentArticles = _
    unfold checkPersistence
    split
    · rfl
    · split_ifs
      · rfl
      · rfl
      · exact recent_articles_resolve _ _
      · exact (escalate_leaves _).1
  | resolveCrisis crisisId now => exact recent_articles_resolve crisisId now
  | dispatchPendingEvents taken =>
    change (detector.dispatchPendingEvents taken).2.recentArticles = _
    unfold dispatchPendingEvents
    split
    · rfl
    · split_ifs <;> rfl

/-- Where what is kept shows a history, the articles of a group that are looked at are those of the
history. -/
theorem counted_of_shows {now : ℚ} {records : List CrisisArticleRecord}
    (shows : Shows (·.receivedAt) timeWindow now detector.recentArticles records)
    (groupingKey : String) :
    getArticlesForKey lower (detector.getArticlesInWindow now) groupingKey =
      countedArticles lower now groupingKey records := by
  have window : detector.getArticlesInWindow now = trailing (·.receivedAt) timeWindow now records :=
    shows now le_rfl
  rw [getArticlesForKey, window, trailing, List.filter_filter]
  refine List.filter_congr fun record _ => ?_
  rw [Bool.and_comm, Bool.decide_and]

/-- An article that counts opens a crisis for a group that no key leads to a crisis from and that has
enough articles. -/
theorem evaluate_opens_iff (qualifies : Qualifies article) (crisisId articleId : String) (now : ℚ)
    {records : List CrisisArticleRecord}
    (shows : Shows (·.receivedAt) timeWindow now
      (detector.noted article articleId now).recentArticles records) :
    (detector.evaluate lower article crisisId articleId now).1.isSome = true ↔
      ∃ groupingKey ∈ getGroupingKeys lower (recordOf article articleId now),
        detector.activeCrisisKeys groupingKey = none ∧
          Constants.newsCrisisArticleThreshold ≤
            (countedArticles lower now groupingKey records).length := by
  have opens : (detector.evaluate lower article crisisId articleId now).1.isSome =
      ((detector.noted article articleId now).crisisGroup lower (recordOf article articleId now)
        now).isSome := by
    rw [evaluate_of_qualifies qualifies, checkCrisisConditions]
    cases (detector.noted article articleId now).crisisGroup lower
      (recordOf article articleId now) now <;> rfl
  have keys : (detector.noted article articleId now).activeCrisisKeys = detector.activeCrisisKeys :=
    (checks_leave _ _ _ _ _).2 (not_recovers_of_qualifies qualifies)
  rw [opens, crisisGroup, List.find?_isSome]
  refine exists_congr fun groupingKey => and_congr_right fun _ => ?_
  rw [counted_of_shows shows, keys, Bool.and_eq_true, Option.isNone_iff_eq_none,
    decide_eq_true_eq]

end Evaluations

section Runs

variable (lower : String → String) (hasEventBus : Bool)

/-- A call with a record is one with an article that counts. -/
theorem exists_of_qualifying_record {call : CrisisCall} {record : CrisisArticleRecord}
    (counts : qualifyingRecord call = some record) :
    ∃ article crisisId articleId now, call = .evaluate article crisisId articleId now ∧
      Qualifies article ∧ record = recordOf article articleId now := by
  cases call with
  | evaluate article crisisId articleId now =>
    rw [qualifyingRecord] at counts
    split_ifs at counts with qualifies
    exact ⟨article, crisisId, articleId, now, rfl, qualifies, (Option.some.inj counts).symm⟩
  | checkPersistence | resolveCrisis | dispatchPendingEvents =>
    exact absurd counts (by simp [qualifyingRecord])

/-- After calls with a clock that does not go backwards, the articles that are kept show those of the
whole history that are not too old at a reading from then on. The induction is on the calls, from the
last one. -/
theorem shows_history {calls : List CrisisCall} (forwards : Forwards calls) {now : ℚ}
    (untilNow : ∀ reading ∈ calls.filterMap clockOf, reading ≤ now) :
    Shows (·.receivedAt) timeWindow now
      (Machines.after (call lower) { hasEventBus } calls).recentArticles
      (qualifyingRecords calls) := by
  induction calls using List.reverseRecOn generalizing now with
  | nil => exact SlidingWindows.shows_nil now
  | append_singleton calls last inductionHypothesis =>
    rw [Forwards, List.filterMap_append, List.pairwise_append] at forwards
    obtain ⟨before, -, ordered⟩ := forwards
    rw [List.filterMap_append] at untilNow
    rw [Machines.after_append, qualifyingRecords, List.filterMap_append]
    cases counts : qualifyingRecord last with
    | none =>
      have shown := inductionHypothesis before fun reading member =>
        untilNow reading (List.mem_append_left _ member)
      rw [List.filterMap_cons_none counts, List.filterMap_nil, List.append_nil]
      rw [← recent_articles_call_other lower _ counts] at shown
      exact shown
    | some record =>
      obtain ⟨article, crisisId, articleId, reading, rfl, qualifies, rfl⟩ :=
        exists_of_qualifying_record counts
      have shown := inductionHypothesis before fun earlier member =>
        ordered earlier member reading (List.mem_singleton_self reading)
      have later : reading ≤ now :=
        untilNow reading (List.mem_append_right _ (List.mem_singleton_self reading))
      have kept := recent_articles_call lower (Machines.after (call lower) { hasEventBus } calls)
        qualifies crisisId articleId reading
      rw [List.filterMap_cons_some counts, List.filterMap_nil, Machines.after_cons,
        Machines.after_nil, kept]
      exact ((shown.append (recordOf article articleId reading)).trim).wait later

/-- After every run of calls with new identifiers of crises and a clock that does not go backwards:
an article opens a crisis exactly when it counts for one, and one of its groups without an active
crisis has enough articles of the whole history, this one with it, that count for a crisis and are
not dated before the last ten minutes. -/
theorem opens_crisis_iff (calls : List CrisisCall) (article : CrisisArticle)
    (crisisId articleId : String) (now : ℚ)
    (fresh : Machines.Conforms (call lower) FreshId { hasEventBus } calls)
    (forwards : Forwards (calls ++ [.evaluate article crisisId articleId now])) :
    ((Machines.after (call lower) { hasEventBus } calls).evaluate lower article crisisId articleId
        now).1.isSome = true ↔
      Qualifies article ∧
        ∃ groupingKey ∈ getGroupingKeys lower (recordOf article articleId now),
          ¬(Machines.after (call lower) { hasEventBus } calls).HasActiveCrisis groupingKey ∧
            Constants.newsCrisisArticleThreshold ≤
              (countedArticles lower now groupingKey (qualifyingRecords
                (calls ++ [.evaluate article crisisId articleId now]))).length := by
  set detector := Machines.after (call lower) { hasEventBus } calls with isDetector
  have keyed : detector.Keyed := keyed_after lower hasEventBus calls fresh
  by_cases qualifies : Qualifies article
  · have untilNow : ∀ reading ∈ (calls ++ [CrisisCall.evaluate article crisisId articleId now]
        ).filterMap clockOf, reading ≤ now := by
      intro reading member
      rw [Forwards, List.filterMap_append, List.pairwise_append] at forwards
      rw [List.filterMap_append] at member
      obtain earlier | last := List.mem_append.mp member
      · exact forwards.2.2 reading earlier now (List.mem_singleton_self now)
      · exact (List.mem_singleton.mp last).le
    have shown := shows_history lower hasEventBus forwards untilNow
    have kept := recent_articles_call lower detector qualifies crisisId articleId now
    rw [Machines.after_append, Machines.after_cons, Machines.after_nil, ← isDetector, kept,
      ← recent_articles_noted] at shown
    rw [evaluate_opens_iff qualifies crisisId articleId now shown, and_iff_right qualifies]
    refine exists_congr fun groupingKey => and_congr_right fun _ => and_congr_left fun _ => ?_
    rw [keyed.has_active_crisis_iff, Bool.not_eq_true, Option.isSome_eq_false_iff,
      Option.isNone_iff_eq_none]
  · rw [evaluate_of_not_qualifies qualifies]
    exact iff_of_false Bool.false_ne_true fun both => qualifies both.1

end Runs

/-- A bad article about Europe with a date. -/
def europeArticle (receivedAt : ℚ) : CrisisArticle where
  sentimentScore := -8 / 10
  impactLevel := "HIGH"
  receivedAt := some receivedAt
  region := some "Europe"

/-- Bad articles about Europe that are evaluated in the first two seconds, and their date. -/
def europeCalls (receivedAt : ℚ) : List CrisisCall :=
  [.evaluate (europeArticle receivedAt) "first" "article" 0,
    .evaluate (europeArticle receivedAt) "first" "article" 1]

/-- The third of three bad articles about Europe in two seconds opens a crisis. -/
theorem third_article_opens_crisis :
    ((Machines.after (call String.toLower) {} (europeCalls 0)).evaluate String.toLower
      (europeArticle 0) "first" "article" 2).1.isSome = true :=
  (opens_crisis_iff String.toLower false (europeCalls 0) (europeArticle 0) "first" "article" 2
    (by decide +kernel) (by decide +kernel)).mpr
      ⟨by decide +kernel, "region:europe", by decide +kernel, by decide +kernel, by decide +kernel⟩

/-- Three bad articles about Europe that are dated a day ahead open a crisis, though none of them was
received in the last ten minutes. -/
theorem articles_ahead_open_crisis :
    ((Machines.after (call String.toLower) {} (europeCalls 86400)).evaluate String.toLower
        (europeArticle 86400) "first" "article" 2).1.isSome = true ∧
      ¬∃ groupingKey ∈ getGroupingKeys String.toLower (recordOf (europeArticle 86400) "article" 2),
        ¬(Machines.after (call String.toLower) {} (europeCalls 86400)).HasActiveCrisis groupingKey ∧
          Constants.newsCrisisArticleThreshold ≤
            ((qualifyingRecords
              (europeCalls 86400 ++ [.evaluate (europeArticle 86400) "first" "article" 2])).filter
                fun record => 2 - timeWindow ≤ record.receivedAt ∧ record.receivedAt ≤ 2 ∧
                  groupingKey ∈ getGroupingKeys String.toLower record).length := by
  decide +kernel

end CrisisDetector

end IgTradingBot
