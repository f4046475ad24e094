import IgTradingBot.Library.Histories
import IgTradingBot.News.CorrelationMapper
import IgTradingBot.News.CrisisKeys

/-!
# Articles of the news engine

The callback of the sources in `news_engine.py`. An article whose body came recently is dropped. The
others go through the analysis, the crisis detector and the event bus, and each is awaited there while
other articles come in. A run is any order of articles, of publications that end and of callbacks that
are cancelled at what they await.
-/

namespace IgTradingBot

open Machines

/-- An article of a source. -/
structure RawArticle where
  headline : String
  body : String
  sourceName : String
  sourceTier : ℚ
  publishedAt : Option ℚ := none
  receivedAt : ℚ
  category : Option String := none
  deriving DecidableEq, Repr

/-- The article in the pipeline, with what the stages add to it. -/
structure NewsItem (H : Type) where
  id : String
  raw : RawArticle
  ingestionDelaySeconds : Option ℚ
  delayed : Bool
  bodyHash : H
  sentimentScore : ℚ
  impactLevel : String
  correlatedInstruments : List String
  deriving DecidableEq, Repr

/-- The publication that a callback awaits, or how it ended. A cancelled one may have published its
article. -/
inductive ArticleStage where
  | notifying
  | alerting
  | dispatching
  | publishing
  | processed
  | cancelled (published : Bool)
  deriving DecidableEq, Repr

structure ArticleTask (H : Type) where
  article : NewsItem H
  stage : ArticleStage
  deriving DecidableEq, Repr

/-- What is given to the event bus, whether it takes it or not. -/
inductive NewsPublication (H : Type) where
  | highImpact (article : NewsItem H)
  | crisisAlert (crisis : CrisisAlertData)
  | killSwitch (activation : CrisisActivation)
  | article (article : NewsItem H)
  deriving DecidableEq, Repr

/-- Functions of the standard library: `str.lower`, whether `str.strip` leaves nothing, and the hash. -/
structure TextTools (H : Type) where
  lower : String → String
  isBlank : String → Bool
  sha256 : String → H

/-- The part of the engine that handles articles, with the callbacks. `received` and `published` are kept
for the theorems. -/
structure ArticleIntake (H : Type) where
  crisisDetector : CrisisDetector
  correlationMapper : CorrelationMapper := CorrelationMapper.initial
  seenArticles : List H := []
  articlesProcessed : ℕ := 0
  articlesDeduplicated : ℕ := 0
  articlesDelayed : ℕ := 0
  tasks : List (ArticleTask H) := []
  received : List H := []
  published : List (NewsPublication H) := []

/-- What can happen next. An article comes with its identifier and the score of the model. The clock and
the identifier for a crisis are those of an evaluation, if the move comes to one. -/
inductive IntakeMove where
  | receive (raw : RawArticle) (id : String) (score : ℚ) (crisisId : String) (now : ℚ)
  | resume (task : ℕ) (crisisId : String) (now : ℚ)
  | cancel (task : ℕ)
  deriving DecidableEq, Repr

namespace ArticleStage

/-- The callback published its article. -/
def hasPublished : ArticleStage → Bool
  | publishing | processed => true
  | cancelled published => published
  | _ => false

end ArticleStage

namespace ArticleIntake

def newsMaxIngestionDelaySeconds : ℚ := 30

def dedupCacheMaxSize : ℕ := 10000

def sourceCredibilityTier1 : ℚ := 1

def sourceCredibilityTier2 : ℚ := 7 / 10

/-- `SentimentAnalyzer.analyze`, given the score of its model. -/
def analyze (isBlank : String → Bool) (text : String) (score : ℚ) : ℚ :=
  if isBlank text then 0 else max (-1) (min 1 score)

def classifyImpact (sentimentScore sourceTier : ℚ) (corroboration : ℕ) : String :=
  let magnitude := |sentimentScore|
  if sourceCredibilityTier1 ≤ sourceTier ∧ 7 / 10 < magnitude then "HIGH"
  else if 2 ≤ corroboration ∧ 1 / 2 < magnitude then "HIGH"
  else if sourceCredibilityTier2 ≤ sourceTier ∧ 1 / 2 < magnitude then "MEDIUM"
  else if sourceCredibilityTier1 ≤ sourceTier ∧ 3 / 10 < magnitude then "MEDIUM"
  else "LOW"

variable {H : Type}

/-- The recent bad articles of other sources. -/
def countCorroboration (source : String) (intake : ArticleIntake H) : ℕ :=
  intake.crisisDetector.recentArticles.countP fun article => article.source ≠ source

/-- The article that the crisis detector gets. Sources give no region and no asset class. -/
def crisisArticle (article : NewsItem H) : CrisisArticle where
  id := some article.id
  source := article.raw.sourceName
  headline := article.raw.headline
  sentimentScore := article.sentimentScore
  impactLevel := article.impactLevel
  receivedAt := some article.raw.receivedAt
  category := article.raw.category

/-- The callback at a place comes to a stage. -/
def enter (place : ℕ) (article : NewsItem H) (stage : ArticleStage) (intake : ArticleIntake H) :
    ArticleIntake H :=
  { intake with tasks := intake.tasks.set place ⟨article, stage⟩ }

/-- The callback at a place awaits a publication. -/
def await (place : ℕ) (article : NewsItem H) (stage : ArticleStage)
    (publication : NewsPublication H) (intake : ArticleIntake H) : ArticleIntake H :=
  { intake.enter place article stage with published := intake.published ++ [publication] }

def finish (place : ℕ) (article : NewsItem H) (intake : ArticleIntake H) : ArticleIntake H :=
  { intake.enter place article .processed with articlesProcessed := intake.articlesProcessed + 1 }

def publishArticleEvent (place : ℕ) (article : NewsItem H) (intake : ArticleIntake H) :
    ArticleIntake H :=
  if intake.crisisDetector.hasEventBus then
    intake.await place article .publishing (.article article)
  else intake.finish place article

/-- `dispatch_pending_events` up to what it awaits, and what follows where it awaits nothing. -/
def dispatchPendingEvents (place : ℕ) (article : NewsItem H) (intake : ArticleIntake H) :
    ArticleIntake H :=
  match intake.crisisDetector.pendingKillSwitchEvent with
  | some activation =>
    if intake.crisisDetector.hasEventBus then
      intake.await place article .dispatching (.killSwitch activation)
    else intake.publishArticleEvent place article
  | none => intake.publishArticleEvent place article

/-- The end of `dispatch_pending_events`. -/
def clearPending (intake : ArticleIntake H) : ArticleIntake H :=
  { intake with
    crisisDetector := { intake.crisisDetector with pendingKillSwitchEvent := none } }

/-- The stages from the crisis detector on. -/
def evaluateArticle (lower : String → String) (place : ℕ) (article : NewsItem H)
    (crisisId : String) (now : ℚ) (intake : ArticleIntake H) : ArticleIntake H :=
  let (crisis, crisisDetector) :=
    intake.crisisDetector.evaluate lower (crisisArticle article) crisisId article.id now
  let evaluated := { intake with crisisDetector }
  match crisis with
  | some crisis =>
    if crisisDetector.hasEventBus then
      evaluated.await place article .alerting (.crisisAlert crisis)
    else evaluated.dispatchPendingEvents place article
  | none => evaluated.dispatchPendingEvents place article

/-- The article with what the analysis finds. -/
def analyzed (tools : TextTools H) (raw : RawArticle) (id : String) (score : ℚ)
    (intake : ArticleIntake H) : NewsItem H :=
  let delay := raw.publishedAt.map fun publishedAt => raw.receivedAt - publishedAt
  let sentimentScore := analyze tools.isBlank (raw.headline ++ " " ++ raw.body) score
  { id
    raw
    ingestionDelaySeconds := delay
    delayed := delay.any fun delay => newsMaxIngestionDelaySeconds < delay
    bodyHash := tools.sha256 raw.body
    sentimentScore
    impactLevel :=
      classifyImpact sentimentScore raw.sourceTier (intake.countCorroboration raw.sourceName)
    correlatedInstruments :=
      if truthyText raw.category then
        intake.correlationMapper.getAffectedInstruments tools.lower (raw.category.getD "") none
      else [] }

variable [DecidableEq H]

/-- `on_article_received` up to what it awaits first. -/
def onArticleReceived (tools : TextTools H) (raw : RawArticle) (id : String) (score : ℚ)
    (crisisId : String) (now : ℚ) (intake : ArticleIntake H) : ArticleIntake H :=
  let article := intake.analyzed tools raw id score
  let counted : ArticleIntake H := { intake with
    articlesDelayed := intake.articlesDelayed + if article.delayed then 1 else 0
    received := intake.received ++ [article.bodyHash] }
  if article.bodyHash ∈ intake.seenArticles then
    { counted with articlesDeduplicated := intake.articlesDeduplicated + 1 }
  else
    let place := intake.tasks.length
    let recorded : ArticleIntake H := { counted with
      seenArticles := Histories.remember dedupCacheMaxSize intake.seenArticles article.bodyHash
      tasks := intake.tasks ++ [⟨article, .notifying⟩] }
    if article.impactLevel = "HIGH" ∧ intake.crisisDetector.hasEventBus = true then
      recorded.await place article .notifying (.highImpact article)
    else recorded.evaluateArticle tools.lower place article crisisId now

/-- What a callback awaits ends. -/
def resume (lower : String → String) (place : ℕ) (crisisId : String) (now : ℚ)
    (intake : ArticleIntake H) : ArticleIntake H :=
  match intake.tasks[place]? with
  | none => intake
  | some task =>
    match task.stage with
    | .notifying => intake.evaluateArticle lower place task.article crisisId now
    | .alerting => intake.dispatchPendingEvents place task.article
    | .dispatching => intake.clearPending.publishArticleEvent place task.article
    | .publishing => intake.finish place task.article
    | .processed | .cancelled _ => intake

/-- A callback is cancelled at what it awaits. -/
def cancel (place : ℕ) (intake : ArticleIntake H) : ArticleIntake H :=
  match intake.tasks[place]? with
  | none => intake
  | some task =>
    match task.stage with
    | .notifying | .alerting => intake.enter place task.article (.cancelled false)
    | .dispatching => intake.clearPending.enter place task.article (.cancelled false)
    | .publishing => intake.enter place task.article (.cancelled true)
    | .processed | .cancelled _ => intake

/-- One move of a run. -/
def step (tools : TextTools H) (intake : ArticleIntake H) : IntakeMove → ArticleIntake H
  | .receive raw id score crisisId now =>
    intake.onArticleReceived tools raw id score crisisId now
  | .resume place crisisId now => intake.resume tools.lower place crisisId now
  | .cancel place => intake.cancel place

/-- The engine at first. -/
def initial (mapper : CorrelationMapper) (hasEventBus : Bool) : ArticleIntake H where
  crisisDetector := { hasEventBus }
  correlationMapper := mapper

/-- The hashes of the articles that come, in their order. -/
def hashesOf (tools : TextTools H) (moves : List IntakeMove) : List H :=
  moves.filterMap fun
    | .receive raw _ _ _ _ => some (tools.sha256 raw.body)
    | _ => none

end ArticleIntake

namespace CrisisDetector

variable {detector : CrisisDetector}

/-- An evaluation leaves the event bus alone. -/
@[simp] theorem hasEventBus_evaluate (lower : String → String) (article : CrisisArticle)
    (crisisId articleId : String) (now : ℚ) :
    (detector.evaluate lower article crisisId articleId now).2.hasEventBus =
      detector.hasEventBus := by
  have resolved (detector : CrisisDetector) (crisisId : String) :
      (detector.resolveCrisis crisisId now).hasEventBus = detector.hasEventBus := by
    rw [resolveCrisis]
    split <;> rfl
  have escalated (detector : CrisisDetector) (crisis : CrisisAlertData) :
      (detector.escalate crisis).hasEventBus = detector.hasEventBus := by
    rw [escalate, emitKillSwitchActivation]
    split <;> rfl
  have checked (crises : List CrisisAlertData) (detector : CrisisDetector) :
      (detector.checkCrises article.sentimentScore article.region (article.receivedAt.getD now)
        now crises).hasEventBus = detector.hasEventBus := by
    induction crises generalizing detector with
    | nil => rfl
    | cons crisis rest inductionHypothesis =>
      refine (inductionHypothesis _).trans ?_
      unfold checkActiveCrisis
      dsimp only
      split_ifs
      · rfl
      · exact resolved _ _
      · exact escalated _ _
      · rfl
  rw [evaluate]
  dsimp only
  split
  · exact checked _ _
  · rw [checkCrisisConditions]
    split
    · exact checked _ _
    · exact checked _ _

end CrisisDetector

namespace ArticleIntake

variable {H : Type}

/-! ## Articles -/

section Stages

variable {intake next last : ArticleIntake H} {place : ℕ} {article : NewsItem H}
  {stage : ArticleStage}

/-- The callback of an article comes to a stage: this is all that its part of the pipeline does to the
accounts. -/
structure Enters [DecidableEq H] (place : ℕ) (article : NewsItem H) (stage : ArticleStage)
    (intake next : ArticleIntake H) : Prop where
  tasks : next.tasks = intake.tasks.set place ⟨article, stage⟩
  seenArticles : next.seenArticles = intake.seenArticles
  articlesDeduplicated : next.articlesDeduplicated = intake.articlesDeduplicated
  received : next.received = intake.received
  bus : next.crisisDetector.hasEventBus = intake.crisisDetector.hasEventBus
  articlesProcessed : next.articlesProcessed =
    intake.articlesProcessed + if stage = .processed then 1 else 0
  published : ∀ item, next.published.count (.article item) =
    intake.published.count (.article item) +
      if article = item then if stage = .publishing then 1 else 0 else 0

/-- The stages that a callback can go on to before its article is published. -/
def Follows (hasEventBus : Bool) (stage : ArticleStage) : Prop :=
  stage = .alerting ∨ stage = .dispatching ∨ stage = .publishing ∨
    stage = .processed ∧ hasEventBus = false

variable [DecidableEq H]

theorem enters_await_highImpact (place : ℕ) (article : NewsItem H) (intake : ArticleIntake H) :
    Enters place article .notifying intake
      (intake.await place article .notifying (.highImpact article)) :=
  ⟨rfl, rfl, rfl, rfl, rfl, rfl, fun item => by simp [await, List.count_append]⟩

theorem enters_finish (place : ℕ) (article : NewsItem H) (intake : ArticleIntake H) :
    Enters place article .processed intake (intake.finish place article) :=
  ⟨rfl, rfl, rfl, rfl, rfl, rfl, fun item => by simp [finish, enter]⟩

theorem enters_publishArticleEvent (place : ℕ) (article : NewsItem H) (intake : ArticleIntake H) :
    ∃ stage, Follows intake.crisisDetector.hasEventBus stage ∧
      Enters place article stage intake (intake.publishArticleEvent place article) := by
  rw [publishArticleEvent]
  split
  case isTrue bus =>
    refine ⟨.publishing, .inr (.inr (.inl rfl)), rfl, rfl, rfl, rfl, rfl, rfl, fun item => ?_⟩
    simp [await, List.count_append, List.count_singleton]
  case isFalse noBus =>
    exact ⟨.processed, .inr (.inr (.inr ⟨rfl, by simpa using noBus⟩)), enters_finish ..⟩

theorem enters_dispatchPendingEvents (place : ℕ) (article : NewsItem H)
    (intake : ArticleIntake H) :
    ∃ stage, Follows intake.crisisDetector.hasEventBus stage ∧
      Enters place article stage intake (intake.dispatchPendingEvents place article) := by
  rw [dispatchPendingEvents]
  split
  · split
    · refine ⟨.dispatching, .inr (.inl rfl), rfl, rfl, rfl, rfl, rfl, rfl, fun item => ?_⟩
      simp [await, List.count_append]
    · exact enters_publishArticleEvent place article intake
  · exact enters_publishArticleEvent place article intake

theorem enters_evaluateArticle (lower : String → String) (place : ℕ) (article : NewsItem H)
    (crisisId : String) (now : ℚ) (intake : ArticleIntake H) :
    ∃ stage, Follows intake.crisisDetector.hasEventBus stage ∧
      Enters place article stage intake
        (intake.evaluateArticle lower place article crisisId now) := by
  have bus : (intake.crisisDetector.evaluate lower (crisisArticle article) crisisId article.id
      now).2.hasEventBus = intake.crisisDetector.hasEventBus :=
    CrisisDetector.hasEventBus_evaluate ..
  rw [evaluateArticle]
  generalize intake.crisisDetector.evaluate lower (crisisArticle article) crisisId article.id now =
    outcome at bus
  obtain ⟨crisis, detector⟩ := outcome
  dsimp only at bus ⊢
  have dispatched := enters_dispatchPendingEvents place article
    { intake with crisisDetector := detector }
  obtain ⟨stage, follows, enters⟩ := dispatched
  have whole : Follows intake.crisisDetector.hasEventBus stage ∧
      Enters place article stage intake
        (({ intake with crisisDetector := detector } : ArticleIntake H).dispatchPendingEvents place
          article) :=
    ⟨bus ▸ follows, enters.1, enters.2, enters.3, enters.4, enters.5.trans bus, enters.6, enters.7⟩
  cases crisis with
  | none => exact ⟨stage, whole⟩
  | some crisis =>
    dsimp only
    split
    · refine ⟨.alerting, .inl rfl, rfl, rfl, rfl, rfl, bus, rfl, fun item => ?_⟩
      simp [await, List.count_append]
    · exact ⟨stage, whole⟩

/-- The accounts of the engine: what came in is dropped or has a callback, the memory has the last
articles that were not dropped, and each of them is published once at most. -/
structure Accounts (intake : ArticleIntake H) : Prop where
  seenArticles : intake.seenArticles =
    (Histories.admittedOf dedupCacheMaxSize intake.received).rtake dedupCacheMaxSize
  admitted : intake.tasks.map (fun task => task.article.bodyHash) =
    Histories.admittedOf dedupCacheMaxSize intake.received
  received : intake.received.length = intake.articlesDeduplicated + intake.tasks.length
  articlesProcessed : intake.articlesProcessed =
    intake.tasks.countP fun task => task.stage = .processed
  published : intake.crisisDetector.hasEventBus = true → ∀ item,
    intake.published.count (.article item) =
      intake.tasks.countP fun task => task.article = item ∧ task.stage.hasPublished = true

/-- A callback that goes on keeps the accounts, if it is not over and publishes its article once. -/
theorem Accounts.enters (accounts : intake.Accounts) {former : ArticleStage}
    (known : intake.tasks[place]? = some ⟨article, former⟩)
    (enters : Enters place article stage intake next) (goesOn : former ≠ .processed)
    (once : intake.crisisDetector.hasEventBus = true → stage.hasPublished.toNat =
      former.hasPublished.toNat + if stage = .publishing then 1 else 0) : next.Accounts := by
  obtain ⟨inside, isTask⟩ := List.getElem?_eq_some_iff.mp known
  obtain ⟨seenArticles, admitted, received, articlesProcessed, published⟩ := accounts
  refine ⟨?_, ?_, ?_, ?_, ?_⟩
  · rw [enters.seenArticles, enters.received, seenArticles]
  · rw [enters.received, enters.tasks, ← admitted, List.map_set]
    refine List.ext_getElem? fun other => ?_
    obtain rfl | apart := eq_or_ne place other
    · simp [List.getElem?_set_self', known]
    · rw [List.getElem?_set_ne apart]
  · rw [enters.received, enters.articlesDeduplicated, enters.tasks, List.length_set]
    exact received
  · rw [enters.articlesProcessed, enters.tasks, List.countP_set inside, isTask, articlesProcessed]
    simp [goesOn]
  · intro bus item
    rw [enters.bus] at bus
    have still := once bus
    rw [enters.published, enters.tasks, List.countP_set inside, isTask, published bus]
    have counted : article = item → former.hasPublished = true →
        0 < intake.tasks.countP fun task => task.article = item ∧ task.stage.hasPublished = true := by
      rintro rfl hasPublished
      refine List.countP_pos_iff.mpr ⟨_, List.mem_of_getElem? known, ?_⟩
      simp [hasPublished]
    have weight (stage : ArticleStage) : (if decide ((⟨article, stage⟩ : ArticleTask H).article =
        item ∧ stage.hasPublished = true) = true then 1 else 0) =
          if article = item then stage.hasPublished.toNat else 0 := by
      cases stage.hasPublished <;> simp
    rw [weight former, weight stage]
    by_cases same : article = item
    · rw [if_pos same, if_pos same, if_pos same, still]
      cases before : former.hasPublished with
      | false => rw [Bool.toNat_false, Nat.sub_zero, Nat.zero_add]
      | true =>
        have some := counted same before
        rw [Bool.toNat_true]
        omega
    · rw [if_neg same, if_neg same, if_neg same]
      rfl

/-- A callback before the publication of its article goes on. -/
theorem Accounts.follows (accounts : intake.Accounts) {former : ArticleStage}
    (known : intake.tasks[place]? = some ⟨article, former⟩)
    (enters : ∃ stage, Follows intake.crisisDetector.hasEventBus stage ∧
      Enters place article stage intake next)
    (unpublished : former.hasPublished = false) : next.Accounts := by
  obtain ⟨stage, follows, enters⟩ := enters
  refine accounts.enters known enters (fun isOver => ?_) fun bus => ?_
  · rw [isOver] at unpublished
    cases unpublished
  · rw [unpublished]
    obtain rfl | rfl | rfl | ⟨-, noBus⟩ := follows
    · rfl
    · rfl
    · rfl
    · rw [noBus] at bus
      cases bus

theorem Accounts.clearPending (accounts : intake.Accounts) : intake.clearPending.Accounts :=
  ⟨accounts.1, accounts.2, accounts.3, accounts.4, accounts.5⟩

/-- A callback that is cancelled keeps the accounts. -/
theorem Accounts.cancelled (accounts : intake.Accounts) {former : ArticleStage}
    (known : intake.tasks[place]? = some ⟨article, former⟩) (goesOn : former ≠ .processed) :
    (intake.enter place article (.cancelled former.hasPublished)).Accounts :=
  accounts.enters known ⟨rfl, rfl, rfl, rfl, rfl, by simp [enter], fun item => by simp [enter]⟩
    goesOn fun _ => by simp [ArticleStage.hasPublished]

/-- An article that comes is accounted for. -/
theorem Accounts.receive (accounts : intake.Accounts) (tools : TextTools H) (raw : RawArticle)
    (id : String) (score : ℚ) (crisisId : String) (now : ℚ) :
    (intake.onArticleReceived tools raw id score crisisId now).Accounts := by
  rw [onArticleReceived]
  generalize intake.analyzed tools raw id score = article
  obtain ⟨seenArticles, admitted, received, articlesProcessed, published⟩ := accounts
  dsimp only
  split
  case isTrue seen =>
    rw [seenArticles] at seen
    have same : Histories.admittedOf dedupCacheMaxSize (intake.received ++ [article.bodyHash]) =
        Histories.admittedOf dedupCacheMaxSize intake.received :=
      (Histories.admittedOf_concat ..).trans (if_pos seen)
    refine ⟨?_, ?_, ?_, articlesProcessed, published⟩
    · dsimp only
      rw [same]
      exact seenArticles
    · dsimp only
      rw [same]
      exact admitted
    · dsimp only
      rw [List.length_append, received, List.length_singleton]
      omega
  case isFalse new =>
    rw [seenArticles] at new
    have more : Histories.admittedOf dedupCacheMaxSize (intake.received ++ [article.bodyHash]) =
        Histories.admittedOf dedupCacheMaxSize intake.received ++ [article.bodyHash] :=
      (Histories.admittedOf_concat ..).trans (if_neg new)
    have recorded : Accounts { intake with
        articlesDelayed := intake.articlesDelayed + if article.delayed then 1 else 0
        received := intake.received ++ [article.bodyHash]
        seenArticles := Histories.remember dedupCacheMaxSize intake.seenArticles article.bodyHash
        tasks := intake.tasks ++ [⟨article, .notifying⟩] } := by
      refine ⟨?_, ?_, ?_, ?_, fun bus item => ?_⟩
      · dsimp only
        rw [more, seenArticles]
        exact Histories.remember_rtake new
      · dsimp only
        rw [more, List.map_append, admitted, List.map_singleton]
      · dsimp only
        rw [List.length_append, List.length_append, received, List.length_singleton,
          List.length_singleton, Nat.add_assoc]
      · dsimp only
        rw [List.countP_append, ← articlesProcessed]
        rfl
      · refine (published bus item).trans ?_
        rw [List.countP_append]
        simp [ArticleStage.hasPublished]
    have known : (intake.tasks ++ [(⟨article, .notifying⟩ : ArticleTask H)])[
        intake.tasks.length]? = some ⟨article, .notifying⟩ := List.getElem?_concat_length
    split
    · exact recorded.enters known (enters_await_highImpact ..) (by decide) fun _ => rfl
    · exact recorded.follows known (enters_evaluateArticle ..) rfl

/-- Every move keeps the accounts. -/
theorem Accounts.step (accounts : intake.Accounts) (tools : TextTools H) (move : IntakeMove) :
    (intake.step tools move).Accounts := by
  cases move with
  | receive raw id score crisisId now => exact accounts.receive tools raw id score crisisId now
  | resume place crisisId now =>
    rw [ArticleIntake.step, resume]
    split
    · exact accounts
    · next task found =>
      obtain ⟨article, former⟩ := task
      cases former with
      | notifying => exact accounts.follows found (enters_evaluateArticle ..) rfl
      | alerting => exact accounts.follows found (enters_dispatchPendingEvents ..) rfl
      | dispatching =>
        exact accounts.clearPending.follows found (enters_publishArticleEvent ..) rfl
      | publishing =>
        exact accounts.enters found (enters_finish ..) (by decide) fun _ => rfl
      | processed => exact accounts
      | cancelled => exact accounts
  | cancel place =>
    rw [ArticleIntake.step, cancel]
    split
    · exact accounts
    · next task found =>
      obtain ⟨article, former⟩ := task
      cases former with
      | notifying => exact accounts.cancelled found (by decide)
      | alerting => exact accounts.cancelled found (by decide)
      | dispatching => exact accounts.clearPending.cancelled found (by decide)
      | publishing => exact accounts.cancelled found (by decide)
      | processed => exact accounts
      | cancelled => exact accounts

/-- A move leaves the event bus alone, and an article that comes is noted. -/
theorem hasEventBus_received_step (tools : TextTools H) (move : IntakeMove)
    (intake : ArticleIntake H) :
    (intake.step tools move).crisisDetector.hasEventBus = intake.crisisDetector.hasEventBus ∧
      (intake.step tools move).received = intake.received ++ hashesOf tools [move] := by
  have still {place : ℕ} {article : NewsItem H} (former : ArticleIntake H) {next : ArticleIntake H}
      (enters : ∃ stage, Follows former.crisisDetector.hasEventBus stage ∧
        Enters place article stage former next) :
      next.crisisDetector.hasEventBus = former.crisisDetector.hasEventBus ∧
        next.received = former.received := by
    obtain ⟨stage, -, enters⟩ := enters
    exact ⟨enters.bus, enters.received⟩
  cases move with
  | receive raw id score crisisId now =>
    have noted : hashesOf tools [.receive raw id score crisisId now] =
        [(intake.analyzed tools raw id score).bodyHash] := rfl
    rw [ArticleIntake.step, onArticleReceived, noted]
    generalize intake.analyzed tools raw id score = article
    dsimp only
    split
    · exact ⟨rfl, rfl⟩
    · split
      · exact ⟨(enters_await_highImpact ..).bus, (enters_await_highImpact ..).received⟩
      · exact still _ (enters_evaluateArticle ..)
  | resume place crisisId now =>
    have nothing : hashesOf tools [.resume place crisisId now] = [] := rfl
    rw [ArticleIntake.step, resume, nothing, List.append_nil]
    split
    · exact ⟨rfl, rfl⟩
    · split
      · exact still _ (enters_evaluateArticle ..)
      · exact still _ (enters_dispatchPendingEvents ..)
      · exact still intake.clearPending (enters_publishArticleEvent ..)
      · exact ⟨rfl, rfl⟩
      · exact ⟨rfl, rfl⟩
      · exact ⟨rfl, rfl⟩
  | cancel place =>
    have nothing : hashesOf tools [.cancel place] = [] := rfl
    rw [ArticleIntake.step, cancel, nothing, List.append_nil]
    split
    · exact ⟨rfl, rfl⟩
    · split <;> exact ⟨rfl, rfl⟩

/-- A run leaves the event bus alone, and the articles that come are noted in their order. -/
theorem hasEventBus_received_after (tools : TextTools H) (intake : ArticleIntake H)
    (moves : List IntakeMove) :
    (after (step tools) intake moves).crisisDetector.hasEventBus =
        intake.crisisDetector.hasEventBus ∧
      (after (step tools) intake moves).received = intake.received ++ hashesOf tools moves := by
  induction moves generalizing intake with
  | nil => exact ⟨rfl, (List.append_nil _).symm⟩
  | cons move rest inductionHypothesis =>
    obtain ⟨bus, received⟩ := hasEventBus_received_step tools move intake
    obtain ⟨restBus, restReceived⟩ := inductionHypothesis (intake.step tools move)
    refine ⟨restBus.trans bus, restReceived.trans ?_⟩
    rw [received, List.append_assoc, hashesOf, hashesOf, ← List.filterMap_append]
    rfl

/-- In every run, the articles that are not dropped are decided by the order in which articles come:
those whose body was not among the last ten thousand of them. So equal bodies are that far apart.
Whatever is not dropped is processed, or under way, or was cancelled, and is published once at most. -/
theorem admitted_articles_published_once (tools : TextTools H) (mapper : CorrelationMapper)
    (hasEventBus : Bool) (moves : List IntakeMove) :
    let intake := after (step tools) (initial mapper hasEventBus) moves
    let admitted := Histories.admittedOf dedupCacheMaxSize (hashesOf tools moves)
    intake.tasks.map (fun task => task.article.bodyHash) = admitted ∧
      Histories.Spaced dedupCacheMaxSize admitted ∧
      (hashesOf tools moves).length = intake.articlesDeduplicated + intake.tasks.length ∧
      intake.articlesProcessed = (intake.tasks.countP fun task => task.stage = .processed) ∧
      (hasEventBus = true → ∀ article, intake.published.count (.article article) =
        intake.tasks.countP fun task =>
          task.article = article ∧ task.stage.hasPublished = true) := by
  dsimp only
  have accounts : (after (step tools) (initial mapper hasEventBus) moves).Accounts :=
    after_keeps_always (fun _ move accounts => accounts.step tools move) moves
      ⟨(List.rtake_nil _).symm, rfl, rfl, rfl, fun _ _ => rfl⟩
  obtain ⟨bus, received⟩ := hasEventBus_received_after tools (initial mapper hasEventBus) moves
  rw [initial, List.nil_append] at received
  obtain ⟨-, admitted, length, processed, published⟩ := accounts
  rw [initial, received] at admitted length
  exact ⟨admitted, Histories.spaced_admittedOf _ _, length, processed,
    fun isBus => published (bus.trans isBus)⟩

end Stages

end ArticleIntake

/-! ## Crises -/

namespace CrisisDetector

section OneCrisis

variable {detector : CrisisDetector} {crisis other : CrisisAlertData} {lower : String → String}
  {article : CrisisArticle} {crisisId articleId : String} {now : ℚ}

/-- A crisis of the detector was escalated to the kill switch. -/
def HasEscalated (detector : CrisisDetector) (crisis : CrisisAlertData) : Prop :=
  crisis ∈ detector.activeCrises ∧ crisis.escalatedToKillSwitch = true

/-- All crises are of the global group, and an escalated one stays active. -/
structure IsGlobal (detector : CrisisDetector) : Prop where
  keyed : detector.Keyed
  keys : ∀ key crisisId, detector.activeCrisisKeys key = some crisisId → key = "global"
  active : ∀ crisis, detector.HasEscalated crisis → crisis.active = true

/-- An active crisis has the global key. -/
theorem IsGlobal.key (isGlobal : detector.IsGlobal) (member : crisis ∈ detector.activeCrises)
    (active : crisis.active = true) : detector.activeCrisisKeys "global" = some crisis.id := by
  obtain ⟨key, leads⟩ := isGlobal.keyed.keyed crisis member active
  obtain rfl := isGlobal.keys key crisis.id leads
  exact leads

/-- At most one crisis is active. -/
theorem IsGlobal.eq_of_active (isGlobal : detector.IsGlobal)
    (member : crisis ∈ detector.activeCrises) (active : crisis.active = true)
    (otherMember : other ∈ detector.activeCrises) (otherActive : other.active = true) :
    crisis = other := by
  have leads := isGlobal.key member active
  rw [isGlobal.key otherMember otherActive] at leads
  exact isGlobal.keyed.ids.eq_of_id member otherMember (Option.some.inj leads).symm

/-- With an escalated crisis, there is none to check. -/
theorem IsGlobal.crisesToCheck_eq_nil (isGlobal : detector.IsGlobal)
    (escalated : detector.HasEscalated crisis) : detector.crisesToCheck = [] := by
  refine List.filter_eq_nil_iff.mpr fun other member toCheck => ?_
  rw [Bool.and_eq_true, Bool.not_eq_true'] at toCheck
  obtain rfl := isGlobal.eq_of_active escalated.1 (isGlobal.active crisis escalated) member
    toCheck.1
  exact absurd (escalated.2.symm.trans toCheck.2) (by decide)

/-- A check of crises gives no group a key. -/
theorem key_check_crises (sentiment : ℚ) (region : Option String) (receivedAt : ℚ)
    (crises : List CrisisAlertData) {key known : String}
    (leads : (detector.checkCrises sentiment region receivedAt now crises).activeCrisisKeys key =
      some known) : detector.activeCrisisKeys key = some known := by
  induction crises generalizing detector with
  | nil => exact leads
  | cons crisis rest inductionHypothesis =>
    have still := inductionHypothesis leads
    clear leads inductionHypothesis
    unfold checkActiveCrisis at still
    dsimp only at still
    split_ifs at still
    · exact still
    · rw [resolveCrisis] at still
      split at still
      · exact still
      · dsimp only at still
        split_ifs at still
        exact still
    · rw [escalate, emitKillSwitchActivation] at still
      split_ifs at still
      · exact still
      · exact still
    · exact still

/-- An article without region and asset class is of the global group. -/
theorem getGroupingKeys_recordOf (region : article.region = none)
    (assetClass : article.assetClass = none) :
    getGroupingKeys lower (recordOf article articleId now) = ["global"] := by
  simp [getGroupingKeys, recordOf, region, assetClass, truthyText]

/-- No crisis is opened while one is active, and otherwise one of the global group. -/
theorem crisisGroup_eq (region : article.region = none) (assetClass : article.assetClass = none)
    {groupingKey : String}
    (found : detector.crisisGroup lower (recordOf article articleId now) now = some groupingKey) :
    groupingKey = "global" ∧ detector.activeCrisisKeys "global" = none := by
  have free := crisis_group_free found
  have member := List.mem_of_find?_eq_some found
  rw [getGroupingKeys_recordOf region assetClass, List.mem_singleton] at member
  exact ⟨member, member ▸ free⟩

/-- What an article does to the crises: an escalated one stays and none begins, or the active one is
escalated and none begins, or none is escalated. -/
structure Evaluates (detector next : CrisisDetector) (alert : Option CrisisAlertData) : Prop where
  isGlobal : next.IsGlobal
  stays : (∃ crisis, detector.HasEscalated crisis) → alert = none ∧
    next.pendingKillSwitchEvent = detector.pendingKillSwitchEvent ∧
    ∀ crisis, next.HasEscalated crisis ↔ detector.HasEscalated crisis
  escalates : (¬∃ crisis, detector.HasEscalated crisis) →
    (alert = none ∧ ∃ crisis, next.HasEscalated crisis ∧ next.pendingKillSwitchEvent =
      if detector.hasEventBus = true then some (activationOf crisis)
      else detector.pendingKillSwitchEvent) ∨
    (¬∃ crisis, next.HasEscalated crisis) ∧
      next.pendingKillSwitchEvent = detector.pendingKillSwitchEvent

/-- The reading of an article escalates a crisis that lasts too long with it. -/
theorem escalated_checkedCrisis_iff (sentiment : ℚ) (region : Option String) (receivedAt : ℚ) :
    (detector.checkedCrisis sentiment region receivedAt now crisis).escalatedToKillSwitch = true ↔
      crisis.escalatedToKillSwitch = true ∨ detector.Lasts sentiment region receivedAt crisis := by
  rw [checkedCrisis]
  split_ifs with recovery lasts
  · refine (or_iff_left fun lasts : Lasts .. => ?_).symm
    exact absurd (recovery.2.symm.trans lasts.2.1) (by decide)
  · exact iff_of_true rfl (.inr lasts)
  · exact (or_iff_left lasts).symm

/-- A crisis that lasts too long stays active. -/
theorem active_checkedCrisis {sentiment : ℚ} {region : Option String} {receivedAt : ℚ}
    (lasts : detector.Lasts sentiment region receivedAt crisis) :
    (detector.checkedCrisis sentiment region receivedAt now crisis).active = crisis.active := by
  rw [checkedCrisis, if_neg, if_pos lasts]
  exact fun recovery => absurd (recovery.2.symm.trans lasts.2.1) (by decide)

/-- The check of the active crises with a reading. -/
theorem IsGlobal.evaluates_check (isGlobal : detector.IsGlobal) (sentiment : ℚ)
    (region : Option String) (receivedAt now : ℚ) :
    Evaluates detector (detector.checkActiveCrisesOnArticle sentiment region receivedAt now)
      none := by
  have checks := check_active_crises_on_article sentiment region receivedAt now isGlobal.keyed.ids
  have escalatedIff : ∀ crisis,
      (detector.checkActiveCrisesOnArticle sentiment region receivedAt now).HasEscalated crisis →
        detector.HasEscalated crisis ∨ ∃ other ∈ detector.crisesToCheck,
          detector.Lasts sentiment region receivedAt other ∧
            crisis = detector.checkedCrisis sentiment region receivedAt now other := by
    rintro crisis ⟨member, escalated⟩
    rw [checks.crises] at member
    obtain ⟨other, otherMember, rfl⟩ := List.mem_map.mp member
    split_ifs at escalated ⊢ with toCheck
    · obtain already | lasts := (escalated_checkedCrisis_iff ..).mp escalated
      · have kind := (List.mem_filter.mp toCheck).2
        rw [already, Bool.not_true, Bool.and_false] at kind
        cases kind
      · exact .inr ⟨other, toCheck, lasts, rfl⟩
    · exact .inl ⟨otherMember, escalated⟩
  refine ⟨⟨isGlobal.keyed.check_crises .., fun key crisisId leads =>
    isGlobal.keys key crisisId (key_check_crises _ _ _ _ leads), fun crisis escalated => ?_⟩, ?_, ?_⟩
  · obtain already | ⟨other, toCheck, lasts, rfl⟩ := escalatedIff crisis escalated
    · exact isGlobal.active crisis already
    · rw [active_checkedCrisis lasts]
      exact (Bool.and_eq_true_iff.mp (List.mem_filter.mp toCheck).2).1
  · rintro ⟨crisis, escalated⟩
    have same : detector.checkActiveCrisesOnArticle sentiment region receivedAt now = detector := by
      rw [checkActiveCrisesOnArticle, isGlobal.crisesToCheck_eq_nil escalated]
      rfl
    rw [same]
    exact ⟨rfl, rfl, fun _ => Iff.rfl⟩
  · intro noneYet
    have pending := checks.pending
    cases lasting : (detector.crisesToCheck.filter
        (detector.Lasts sentiment region receivedAt)).getLast? with
    | none =>
      refine .inr ⟨?_, ?_⟩
      · rintro ⟨crisis, escalated⟩
        obtain already | ⟨other, toCheck, lasts, -⟩ := escalatedIff crisis escalated
        · exact noneYet ⟨crisis, already⟩
        · refine List.filter_eq_nil_iff.mp (List.getLast?_eq_none_iff.mp lasting) other toCheck ?_
          exact decide_eq_true lasts
      · rw [pending, lasting]
        exact ite_self _
    | some crisis =>
      have member := List.mem_of_getLast? lasting
      have toCheck := List.mem_of_mem_filter member
      have lasts : detector.Lasts sentiment region receivedAt crisis :=
        by simpa using (List.mem_filter.mp member).2
      refine .inl ⟨rfl, detector.checkedCrisis sentiment region receivedAt now crisis, ⟨?_, ?_⟩, ?_⟩
      · rw [checks.crises]
        exact List.mem_map.mpr ⟨crisis, List.mem_of_mem_filter toCheck, if_pos toCheck⟩
      · exact (escalated_checkedCrisis_iff ..).mpr (.inr lasts)
      · have same : activationOf (detector.checkedCrisis sentiment region receivedAt now crisis) =
            activationOf crisis := by
          rw [checkedCrisis, if_neg, if_pos lasts]
          · rfl
          · exact fun recovery => absurd (recovery.2.symm.trans lasts.2.1) (by decide)
        rw [pending, lasting, same]
        rfl

/-- The crises with a new one, where the global group had none. -/
theorem Evaluates.opens {next : CrisisDetector} {alert : Option CrisisAlertData}
    (evaluates : Evaluates detector next alert) (free : next.activeCrisisKeys "global" = none)
    (begins : crisis.escalatedToKillSwitch = false)
    (keyed : (next.openCrisis "global" crisis).Keyed) :
    Evaluates detector (next.openCrisis "global" crisis) (some crisis) := by
  have noneNext : ¬∃ crisis, next.HasEscalated crisis := by
    rintro ⟨other, escalated⟩
    have leads := evaluates.isGlobal.key escalated.1 (evaluates.isGlobal.active other escalated)
    rw [free] at leads
    cases leads
  have noneYet : ¬∃ crisis, detector.HasEscalated crisis := by
    rintro ⟨other, escalated⟩
    obtain ⟨-, -, still⟩ := evaluates.stays ⟨other, escalated⟩
    exact noneNext ⟨other, (still other).mpr escalated⟩
  have pending : next.pendingKillSwitchEvent = detector.pendingKillSwitchEvent := by
    obtain ⟨-, other, escalated, -⟩ | ⟨-, pending⟩ := evaluates.escalates noneYet
    · exact absurd ⟨other, escalated⟩ noneNext
    · exact pending
  have noneOpened : ∀ other, ¬(next.openCrisis "global" crisis).HasEscalated other := by
    rintro other ⟨member, escalated⟩
    obtain old | isNew := List.mem_append.mp member
    · exact noneNext ⟨other, old, escalated⟩
    · obtain rfl := List.mem_singleton.mp isNew
      exact absurd (escalated.symm.trans begins) (by decide)
  refine ⟨⟨keyed, fun key known leads => ?_, fun other escalated => ?_⟩, fun some => ?_,
    fun _ => .inr ⟨?_, pending⟩⟩
  · by_contra different
    have old : next.activeCrisisKeys key = some known :=
      (Function.update_of_ne different _ _).symm.trans leads
    exact different (evaluates.isGlobal.keys key known old)
  · exact absurd escalated (noneOpened other)
  · exact absurd some noneYet
  · rintro ⟨other, escalated⟩
    exact noneOpened other escalated

/-- What an article without region and asset class does. -/
theorem IsGlobal.evaluates (isGlobal : detector.IsGlobal) (region : article.region = none)
    (assetClass : article.assetClass = none)
    (new : crisisId ∉ detector.activeCrises.map (·.id)) :
    Evaluates detector (detector.evaluate lower article crisisId articleId now).2
      (detector.evaluate lower article crisisId articleId now).1 := by
  have checked := isGlobal.evaluates_check article.sentimentScore article.region
    (article.receivedAt.getD now) now
  have keyed : (detector.evaluate lower article crisisId articleId now).2.Keyed :=
    isGlobal.keyed.evaluate new
  rw [evaluate] at keyed ⊢
  revert checked keyed
  generalize detector.checkActiveCrisesOnArticle article.sentimentScore article.region
    (article.receivedAt.getD now) now = next
  intro checked keyed
  dsimp only at keyed ⊢
  split
  · exact checked
  · next bad =>
    have noted (recentArticles : List CrisisArticleRecord) :
        Evaluates detector { next with recentArticles } none :=
      ⟨⟨⟨checked.1.1.1, checked.1.1.2, checked.1.1.3, checked.1.1.4⟩, checked.1.2, checked.1.3⟩,
        checked.2, checked.3⟩
    rw [if_neg bad, checkCrisisConditions] at keyed
    rw [checkCrisisConditions]
    generalize found : crisisGroup lower (recordOf article articleId now) now _ = group at keyed ⊢
    cases group with
    | none => exact noted _
    | some groupingKey =>
      obtain ⟨rfl, free⟩ := crisisGroup_eq region assetClass found
      exact (noted _).opens free rfl keyed

end OneCrisis

end CrisisDetector

namespace NewsPublication

variable {H : Type}

def asksForKillSwitch : NewsPublication H → Bool
  | killSwitch _ => true
  | _ => false

def alertsOfCrisis : NewsPublication H → Bool
  | crisisAlert _ => true
  | _ => false

end NewsPublication

namespace ArticleIntake

section Requests

variable {H : Type} {intake next : ArticleIntake H} {place : ℕ} {article : NewsItem H}
  {stage : ArticleStage}

/-- The request for an escalated crisis, and for no other one, is published or about to be. -/
structure Owes (intake : ArticleIntake H) : Prop where
  isGlobal : intake.crisisDetector.IsGlobal
  bus : ∀ activation ∈ intake.crisisDetector.pendingKillSwitchEvent,
    intake.crisisDetector.hasEventBus = true
  requested : ∀ activation, (.killSwitch activation ∈ intake.published ∨
      activation ∈ intake.crisisDetector.pendingKillSwitchEvent) ↔
    intake.crisisDetector.hasEventBus = true ∧ ∃ crisis,
      intake.crisisDetector.HasEscalated crisis ∧ activation = CrisisDetector.activationOf crisis
  ordered : intake.published.Pairwise fun former latter =>
    former.asksForKillSwitch = true → latter.alertsOfCrisis = false

/-- The request that waits is published already. -/
structure Requests (intake : ArticleIntake H) : Prop extends intake.Owes where
  pending : ∀ activation ∈ intake.crisisDetector.pendingKillSwitchEvent,
    .killSwitch activation ∈ intake.published

/-- What is published is none of a request and an alert. -/
theorem Requests.more (requests : intake.Requests)
    (same : next.crisisDetector = intake.crisisDetector) (more : List (NewsPublication H))
    (published : next.published = intake.published ++ more)
    (quiet : ∀ publication ∈ more, publication.asksForKillSwitch = false ∧
      publication.alertsOfCrisis = false) : next.Requests := by
  obtain ⟨⟨isGlobal, bus, requested, ordered⟩, pending⟩ := requests
  refine ⟨⟨same ▸ isGlobal, same ▸ bus, fun activation => ?_, ?_⟩, fun activation waits => ?_⟩
  · have others : .killSwitch activation ∉ more := fun member => by
      cases (quiet _ member).1
    rw [same, published, List.mem_append, or_iff_left others]
    exact requested activation
  · rw [published, List.pairwise_append]
    refine ⟨ordered, ?_, fun former _ latter member _ => (quiet latter member).2⟩
    exact List.pairwise_of_forall_mem_list fun former member latter _ asks => by
      rw [(quiet former member).1] at asks
      cases asks
  · rw [published]
    exact List.mem_append_left more (pending activation (same ▸ waits))

theorem Requests.enter (requests : intake.Requests) :
    (intake.enter place article stage).Requests :=
  requests.more rfl [] (List.append_nil _).symm (by simp)

theorem Requests.finish (requests : intake.Requests) : (intake.finish place article).Requests :=
  requests.more rfl [] (List.append_nil _).symm (by simp)

theorem Requests.awaitHighImpact (requests : intake.Requests) :
    (intake.await place article stage (.highImpact article)).Requests := by
  refine requests.more rfl [.highImpact article] rfl ?_
  simp [NewsPublication.asksForKillSwitch, NewsPublication.alertsOfCrisis]

theorem Requests.publishArticleEvent (requests : intake.Requests) :
    (intake.publishArticleEvent place article).Requests := by
  rw [ArticleIntake.publishArticleEvent]
  split
  · refine requests.more rfl [.article article] rfl ?_
    simp [NewsPublication.asksForKillSwitch, NewsPublication.alertsOfCrisis]
  · exact requests.finish

theorem Requests.clearPending (requests : intake.Requests) : intake.clearPending.Requests := by
  obtain ⟨⟨isGlobal, -, requested, ordered⟩, pending⟩ := requests
  obtain ⟨keyed, keys, active⟩ := isGlobal
  refine ⟨⟨⟨⟨keyed.1, keyed.2, keyed.3, keyed.4⟩, keys, active⟩, ?_, fun activation => ?_, ordered⟩,
    ?_⟩
  · rintro activation ⟨⟩
  · refine Iff.trans ?_ (requested activation)
    constructor
    · rintro (known | nothing)
      · exact .inl known
      · exact absurd nothing (by simp [ArticleIntake.clearPending])
    · rintro (known | waits)
      · exact .inl known
      · exact .inl (pending activation waits)
  · rintro activation ⟨⟩

/-- A dispatch publishes what waits. -/
theorem Owes.dispatchPendingEvents (owes : intake.Owes) :
    (intake.dispatchPendingEvents place article).Requests := by
  rw [ArticleIntake.dispatchPendingEvents]
  split
  · next activation waits =>
    rw [if_pos (owes.bus activation waits)]
    refine ⟨⟨owes.isGlobal, owes.bus, fun other => ?_, ?_⟩, fun other isWaiting => ?_⟩
    · refine Iff.trans ?_ (owes.requested other)
      dsimp only [await, enter]
      rw [waits, List.mem_append, List.mem_singleton, or_assoc]
      refine or_congr_right (or_iff_right_of_imp fun same => ?_)
      exact congrArg some (NewsPublication.killSwitch.inj same).symm
    · dsimp only [await, enter]
      rw [List.pairwise_append]
      refine ⟨owes.ordered, List.pairwise_singleton .., fun _ _ latter member _ => ?_⟩
      obtain rfl := List.mem_singleton.mp member
      rfl
    · dsimp only [await, enter] at isWaiting ⊢
      obtain rfl : activation = other := Option.some.inj (waits.symm.trans isWaiting)
      exact List.mem_append_right _ (List.mem_singleton.mpr rfl)
  · next nothing =>
    refine Requests.publishArticleEvent ⟨owes, fun activation waits => ?_⟩
    rw [nothing] at waits
    cases waits

/-- An evaluation leaves the request for a crisis that it escalates to be published. A new crisis
comes before any request. -/
theorem Requests.evaluated (requests : intake.Requests) {detector : CrisisDetector}
    {alert : Option CrisisAlertData}
    (evaluates : CrisisDetector.Evaluates intake.crisisDetector detector alert)
    (bus : detector.hasEventBus = intake.crisisDetector.hasEventBus) :
    Owes { intake with crisisDetector := detector } ∧ (alert ≠ none →
      (∀ activation, .killSwitch activation ∉ intake.published) ∧
        detector.pendingKillSwitchEvent = none) := by
  obtain ⟨⟨-, hasBus, requested, ordered⟩, pending⟩ := requests
  by_cases some : ∃ crisis, intake.crisisDetector.HasEscalated crisis
  · obtain ⟨noAlert, waits, still⟩ := evaluates.stays some
    refine ⟨⟨evaluates.isGlobal, ?_, fun activation => ?_, ordered⟩, fun alert => absurd noAlert alert⟩
    · dsimp only
      rw [waits, bus]
      exact hasBus
    · dsimp only
      rw [waits, bus]
      simp only [still]
      exact requested activation
  · have none (activation : CrisisActivation) : ¬(.killSwitch activation ∈ intake.published ∨
        activation ∈ intake.crisisDetector.pendingKillSwitchEvent) := by
      rw [requested activation]
      rintro ⟨-, crisis, escalated, -⟩
      exact some ⟨crisis, escalated⟩
    have nothing : intake.crisisDetector.pendingKillSwitchEvent = Option.none :=
      Option.eq_none_iff_forall_not_mem.mpr fun activation waits => none activation (.inr waits)
    obtain ⟨noAlert, crisis, escalated, waits⟩ | ⟨noneNext, waits⟩ := evaluates.escalates some
    · rw [nothing] at waits
      refine ⟨⟨evaluates.isGlobal, fun activation isWaiting => ?_, fun activation => ?_, ordered⟩,
        fun alert => absurd noAlert alert⟩
      · dsimp only at isWaiting ⊢
        rw [bus]
        by_contra noBus
        rw [waits, if_neg noBus] at isWaiting
        cases isWaiting
      · dsimp only
        rw [waits, bus, or_iff_right fun known => none activation (.inl known)]
        split
        · next isBus =>
          rw [and_iff_right isBus]
          constructor
          · rintro ⟨⟩
            exact ⟨crisis, escalated, rfl⟩
          · rintro ⟨other, otherEscalated, rfl⟩
            have active := evaluates.isGlobal.active
            obtain rfl := evaluates.isGlobal.eq_of_active escalated.1 (active crisis escalated)
              otherEscalated.1 (active other otherEscalated)
            rfl
        · next noBus => exact iff_of_false (by simp) fun both => noBus both.1
    · rw [nothing] at waits
      refine ⟨⟨evaluates.isGlobal, ?_, fun activation => ?_, ordered⟩,
        fun _ => ⟨fun activation known => none activation (.inl known), waits⟩⟩
      · dsimp only
        rw [waits]
        rintro activation ⟨⟩
      · refine iff_of_false ?_ fun ⟨_, crisis, escalated, _⟩ => noneNext ⟨crisis, escalated⟩
        dsimp only
        rw [waits]
        rintro (known | waiting)
        · exact none activation (.inl known)
        · cases waiting

/-- An evaluation publishes the request for a crisis that it escalates. -/
theorem Requests.evaluateArticle (requests : intake.Requests) {lower : String → String}
    {crisisId : String} {now : ℚ}
    (new : crisisId ∉ intake.crisisDetector.activeCrises.map (·.id)) :
    (intake.evaluateArticle lower place article crisisId now).Requests := by
  have evaluates : CrisisDetector.Evaluates intake.crisisDetector
      (intake.crisisDetector.evaluate lower (crisisArticle article) crisisId article.id now).2
      (intake.crisisDetector.evaluate lower (crisisArticle article) crisisId article.id now).1 :=
    requests.isGlobal.evaluates rfl rfl new
  have bus : (intake.crisisDetector.evaluate lower (crisisArticle article) crisisId article.id
      now).2.hasEventBus = intake.crisisDetector.hasEventBus :=
    CrisisDetector.hasEventBus_evaluate ..
  rw [ArticleIntake.evaluateArticle]
  generalize intake.crisisDetector.evaluate lower (crisisArticle article) crisisId article.id now =
    outcome at bus evaluates
  obtain ⟨alert, detector⟩ := outcome
  dsimp only at bus evaluates ⊢
  obtain ⟨owes, before⟩ := requests.evaluated evaluates bus
  cases alert with
  | none => exact owes.dispatchPendingEvents
  | some crisis =>
    dsimp only
    split
    · obtain ⟨noRequest, nothing⟩ := before (Option.some_ne_none crisis)
      obtain ⟨isGlobal, hasBus, requested, ordered⟩ := owes
      refine ⟨⟨isGlobal, hasBus, fun activation => ?_, ?_⟩, fun activation waits => ?_⟩
      · refine Iff.trans ?_ (requested activation)
        refine or_congr_left ?_
        simp [await]
      · refine List.pairwise_append.mpr ⟨ordered, List.pairwise_singleton .., ?_⟩
        rintro former known - - asks
        cases former with
        | killSwitch activation => exact absurd known (noRequest activation)
        | _ => cases asks
      · exact absurd (nothing.symm.trans waits) (by simp)
    · exact owes.dispatchPendingEvents

/-- The identifier that a move has for a crisis is new. -/
def NewCrisisId (intake : ArticleIntake H) : IntakeMove → Prop
  | .receive _ _ _ crisisId _ | .resume _ crisisId _ =>
    crisisId ∉ intake.crisisDetector.activeCrises.map (·.id)
  | .cancel _ => True

instance decidableNewCrisisId (intake : ArticleIntake H) : ∀ move, Decidable (intake.NewCrisisId move)
  | .receive _ _ _ _ _ | .resume _ _ _ => inferInstanceAs (Decidable (_ ∉ _))
  | .cancel _ => inferInstanceAs (Decidable True)

variable [DecidableEq H]

/-- Every move keeps the requests in order. -/
theorem Requests.step (requests : intake.Requests) (tools : TextTools H) {move : IntakeMove}
    (new : intake.NewCrisisId move) : (intake.step tools move).Requests := by
  cases move with
  | receive raw id score crisisId now =>
    rw [ArticleIntake.step, onArticleReceived]
    generalize intake.analyzed tools raw id score = article
    dsimp only
    have noted (articlesDelayed articlesDeduplicated : ℕ) (received seenArticles : List H)
        (tasks : List (ArticleTask H)) :
        Requests { intake with
          articlesDelayed, articlesDeduplicated, received, seenArticles, tasks } :=
      ⟨⟨requests.1.1, requests.1.2, requests.1.3, requests.1.4⟩, requests.2⟩
    split
    · exact noted ..
    · split
      · exact (noted _ _ _ _ _).awaitHighImpact
      · exact (noted _ _ _ _ _).evaluateArticle new
  | resume place crisisId now =>
    rw [ArticleIntake.step, resume]
    split
    · exact requests
    · split
      · exact requests.evaluateArticle new
      · exact requests.dispatchPendingEvents
      · exact requests.clearPending.publishArticleEvent
      · exact requests.finish
      · exact requests
      · exact requests
  | cancel place =>
    rw [ArticleIntake.step, cancel]
    split
    · exact requests
    · split
      · exact requests.enter
      · exact requests.enter
      · exact requests.clearPending.enter
      · exact requests.enter
      · exact requests
      · exact requests

/-- In every run, the articles of the sources make one crisis active at a time. The kill switch is asked
for exactly when a crisis was escalated, with one request only, however often it is published, and no
crisis is announced after it. -/
theorem kill_switch_requested_for_one_crisis (tools : TextTools H) (mapper : CorrelationMapper)
    (hasEventBus : Bool) (moves : List IntakeMove)
    (new : Conforms (step tools) NewCrisisId (initial mapper hasEventBus) moves) :
    let intake := after (step tools) (initial mapper hasEventBus) moves
    (∀ first ∈ intake.crisisDetector.activeCrises,
      ∀ second ∈ intake.crisisDetector.activeCrises,
        first.active = true → second.active = true → first = second) ∧
    (∀ activation, .killSwitch activation ∈ intake.published ↔ hasEventBus = true ∧
      ∃ crisis ∈ intake.crisisDetector.activeCrises, crisis.escalatedToKillSwitch = true ∧
        activation = CrisisDetector.activationOf crisis) ∧
    (∀ first second, .killSwitch first ∈ intake.published →
      .killSwitch second ∈ intake.published → first = second) ∧
    intake.published.Pairwise fun former latter =>
      former.asksForKillSwitch = true → latter.alertsOfCrisis = false := by
  dsimp only
  have start : (initial mapper hasEventBus : ArticleIntake H).Requests := by
    refine ⟨⟨⟨CrisisDetector.keyed_new hasEventBus, fun _ _ leads => ?_, fun _ escalated => ?_⟩,
      fun _ waits => ?_, fun _ => ?_, List.Pairwise.nil⟩, fun _ waits => ?_⟩
    · cases leads
    · cases escalated.1
    · cases waits
    · refine iff_of_false ?_ fun ⟨_, _, escalated, _⟩ => by cases escalated.1
      rintro (known | waits)
      · cases known
      · cases waits
    · cases waits
  have requests : (after (step tools) (initial mapper hasEventBus) moves).Requests :=
    after_keeps (fun _ _ requests new => requests.step tools new) start new
  obtain ⟨bus, -⟩ := hasEventBus_received_after tools (initial mapper hasEventBus) moves
  generalize after (step tools) (initial mapper hasEventBus) moves = intake at requests bus
  have active := requests.isGlobal.active
  have known (activation : CrisisActivation) : .killSwitch activation ∈ intake.published ↔
      hasEventBus = true ∧ ∃ crisis, intake.crisisDetector.HasEscalated crisis ∧
        activation = CrisisDetector.activationOf crisis := by
    refine Iff.trans ?_ ((requests.requested activation).trans ?_)
    · exact (or_iff_left_of_imp (requests.pending activation)).symm
    · rw [bus]
      rfl
  refine ⟨fun first firstMember second secondMember firstActive secondActive =>
    requests.isGlobal.eq_of_active firstMember firstActive secondMember secondActive,
    fun activation => ?_, fun first second isFirst isSecond => ?_, requests.ordered⟩
  · rw [known activation]
    simp only [CrisisDetector.HasEscalated, and_assoc]
  · obtain ⟨-, crisis, escalated, rfl⟩ := (known first).mp isFirst
    obtain ⟨-, other, otherEscalated, rfl⟩ := (known second).mp isSecond
    exact congrArg _ (requests.isGlobal.eq_of_active escalated.1 (active _ escalated)
      otherEscalated.1 (active _ otherEscalated))

end Requests

/-- Bad news of one source at a time, handled without others between. -/
def badNews (place : ℕ) (body crisisId : String) (now : ℚ) : List IntakeMove :=
  [.receive ⟨"Markets fall", body, "Reuters", 1, none, now, none⟩ body (-9 / 10) crisisId now,
    .resume place crisisId now]

/-- Three reports of bad news make a crisis. One of half an hour later asks for the kill switch, twice,
since another comes before the first request is through. -/
theorem persisting_crisis_requested_once :
    let intake := after (step ⟨id, fun _ => false, id⟩) (initial CorrelationMapper.initial true)
      (badNews 0 "first" "a" 0 ++ badNews 1 "second" "b" 1 ++ badNews 2 "third" "c" 2 ++
        badNews 3 "fourth" "d" 1900 ++ badNews 4 "fifth" "e" 1901)
    (∀ first second, .killSwitch first ∈ intake.published →
      .killSwitch second ∈ intake.published → first = second) ∧
    intake.published.countP NewsPublication.asksForKillSwitch = 2 :=
  ⟨(kill_switch_requested_for_one_crisis _ _ _ _ (by decide +kernel)).2.2.1, by decide +kernel⟩

end ArticleIntake

end IgTradingBot
