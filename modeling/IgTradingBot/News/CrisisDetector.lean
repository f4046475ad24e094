import IgTradingBot.Config.Constants
import IgTradingBot.Core.Values
import Mathlib.Algebra.BigOperators.Group.List.Basic
import Mathlib.Algebra.Order.Field.Rat
import Mathlib.Logic.Function.Basic

/-!
# Crisis detector

Crises from news articles, from `src/news/crisis_detector.py`. Articles are grouped by region and
by asset class, in lower case, and a group with enough bad articles opens a crisis. Every article
is also a reading for the crises that are open: it resolves them, or escalates those that last too
long to the kill switch. Times are seconds, and a call reads the clock once.
-/

namespace IgTradingBot

/-- An article as it comes in, with the defaults of what it does not say. -/
structure CrisisArticle where
  id : Option String := none
  source : String := "unknown"
  headline : String := ""
  sentimentScore : ℚ := 0
  impactLevel : String := "LOW"
  receivedAt : Option ℚ := none
  category : Option String := none
  region : Option String := none
  assetClass : Option String := none

/-- Record of an article of high impact and bad sentiment. -/
structure CrisisArticleRecord where
  articleId : String
  source : String
  headline : String
  sentimentScore : ℚ
  receivedAt : ℚ
  category : Option String := none
  region : Option String := none
  assetClass : Option String := none
  deriving DecidableEq, Repr

/-- A crisis. -/
structure CrisisAlertData where
  id : String
  region : String := "global"
  sentimentAvg : ℚ := 0
  triggerArticles : List CrisisArticleRecord := []
  startedAt : ℚ
  resolvedAt : Option ℚ := none
  escalatedToKillSwitch : Bool := false
  active : Bool := true
  deriving DecidableEq, Repr

/-- A reading of the sentiment after a crisis began. -/
structure CrisisSentimentRecord where
  sentimentScore : ℚ
  region : String
  receivedAt : ℚ
  deriving DecidableEq, Repr

/-- The request to activate the kill switch for a crisis. -/
structure CrisisActivation where
  triggerSource : String := "crisis_persistence"
  crisisId : String
  region : String
  sentimentAvg : ℚ
  startedAt : ℚ
  reason : String
  deriving DecidableEq, Repr

/-- State of the detector. Crises are listed in the order in which they began. -/
structure CrisisDetector where
  hasEventBus : Bool := false
  recentArticles : List CrisisArticleRecord := []
  activeCrises : List CrisisAlertData := []
  activeCrisisKeys : String → Option String := fun _ => none
  crisisSentiments : String → Option (List CrisisSentimentRecord) := fun _ => none
  pendingKillSwitchEvent : Option CrisisActivation := none

namespace CrisisDetector

/-- Seconds in which the articles of a crisis are counted. -/
def timeWindow : ℚ := Constants.newsCrisisTimeWindowMinutes * 60

/-- Seconds without recovery after which a crisis is escalated. -/
def persistence : ℚ := Constants.newsCrisisPersistenceMinutes * 60

/-- A sentiment shows that a crisis is over. -/
def recovers (sentiment : ℚ) : Bool := decide (Constants.newsCrisisRecoveryThreshold < sentiment)

/-- The groups of an article: those of its region and its asset class, or the global one. -/
def getGroupingKeys (lower : String → String) (record : CrisisArticleRecord) : List String :=
  let keys := (if truthyText record.region then ["region:" ++ lower (record.region.getD "")]
      else []) ++
    if truthyText record.assetClass then ["asset_class:" ++ lower (record.assetClass.getD "")]
    else []
  if keys = [] then ["global"] else keys

/-- The articles of a group. -/
def getArticlesForKey (lower : String → String) (articles : List CrisisArticleRecord)
    (groupingKey : String) : List CrisisArticleRecord :=
  articles.filter fun article => groupingKey ∈ getGroupingKeys lower article

/-- The name of a group: what follows the first colon of its key. -/
def resolveRegionLabel (groupingKey : String) : String :=
  if groupingKey = "global" then "global"
  else match groupingKey.toList.dropWhile (· ≠ ':') with
    | _ :: label => String.ofList label
    | [] => groupingKey

/-- The articles from the first one on that is within the window. -/
def pruneOldArticles (now : ℚ) (articles : List CrisisArticleRecord) : List CrisisArticleRecord :=
  articles.dropWhile fun article => article.receivedAt < now - timeWindow

/-- The articles within the window. -/
def getArticlesInWindow (now : ℚ) (detector : CrisisDetector) : List CrisisArticleRecord :=
  detector.recentArticles.filter fun article => now - timeWindow ≤ article.receivedAt

/-- The crisis with an identifier. -/
def getCrisis (crisisId : String) (detector : CrisisDetector) : Option CrisisAlertData :=
  detector.activeCrises.find? fun crisis => crisis.id = crisisId

/-- Change the crisis with an identifier. -/
def updateCrisis (crisisId : String) (change : CrisisAlertData → CrisisAlertData)
    (detector : CrisisDetector) : CrisisDetector :=
  { detector with
      activeCrises := detector.activeCrises.map fun crisis =>
        if crisis.id = crisisId then change crisis else crisis }

/-- Mark a crisis as resolved, and forget its keys and its readings. -/
def resolveCrisis (crisisId : String) (now : ℚ) (detector : CrisisDetector) : CrisisDetector :=
  match detector.getCrisis crisisId with
  | none => detector
  | some _ =>
    { detector.updateCrisis crisisId fun crisis =>
        { crisis with active := false, resolvedAt := some now } with
      activeCrisisKeys := fun key =>
        if detector.activeCrisisKeys key = some crisisId then none
        else detector.activeCrisisKeys key
      crisisSentiments := Function.update detector.crisisSentiments crisisId none }

/-- The request for a crisis. -/
def activationOf (crisis : CrisisAlertData) : CrisisActivation where
  crisisId := crisis.id
  region := crisis.region
  sentimentAvg := crisis.sentimentAvg
  startedAt := crisis.startedAt
  reason := "News crisis persistent for 30 minutes in region '" ++ crisis.region ++
    "' with no sentiment recovery above -0.3"

/-- Put the request for a crisis into the place for what is to be published. -/
def emitKillSwitchActivation (crisis : CrisisAlertData) (detector : CrisisDetector) :
    CrisisDetector :=
  if detector.hasEventBus then
    { detector with pendingKillSwitchEvent := some (activationOf crisis) }
  else detector

/-- Escalate a crisis to the kill switch. -/
def escalate (crisis : CrisisAlertData) (detector : CrisisDetector) : CrisisDetector :=
  (detector.updateCrisis crisis.id fun crisis =>
    { crisis with escalatedToKillSwitch := true }).emitKillSwitchActivation crisis

/-- An article of a region is a reading for a crisis of a region. -/
def relevant (crisisRegion articleRegion : String) : Bool :=
  crisisRegion = articleRegion || crisisRegion = "global" || articleRegion = "global"

/-- The region of an article, or the global one. -/
def regionOrGlobal (region : Option String) : String := (orText region (some "global")).getD ""

/-- Note a reading of the sentiment for a crisis that is followed. -/
def noteSentiment (crisisId : String) (record : CrisisSentimentRecord)
    (detector : CrisisDetector) : CrisisDetector :=
  { detector with
      crisisSentiments := Function.update detector.crisisSentiments crisisId
        ((detector.crisisSentiments crisisId).map (· ++ [record])) }

/-- Check one crisis with the reading of an article. -/
def checkActiveCrisis (sentiment : ℚ) (region : Option String) (receivedAt now : ℚ)
    (crisis : CrisisAlertData) (detector : CrisisDetector) : CrisisDetector :=
  let articleRegion := regionOrGlobal region
  if !relevant (regionOrGlobal (some crisis.region)) articleRegion then detector
  else
    let noted := detector.noteSentiment crisis.id ⟨sentiment, articleRegion, receivedAt⟩
    if recovers sentiment then noted.resolveCrisis crisis.id now
    else if persistence ≤ receivedAt - crisis.startedAt ∧
        !((noted.crisisSentiments crisis.id).getD []).any (fun reading =>
          recovers reading.sentimentScore) then
      noted.escalate crisis
    else noted

/-- The crises that an article is a reading for: active and not escalated. -/
def crisesToCheck (detector : CrisisDetector) : List CrisisAlertData :=
  detector.activeCrises.filter fun crisis => crisis.active && !crisis.escalatedToKillSwitch

/-- Check some crises with the reading of an article, one after the other. -/
def checkCrises (sentiment : ℚ) (region : Option String) (receivedAt now : ℚ)
    (crises : List CrisisAlertData) (detector : CrisisDetector) : CrisisDetector :=
  crises.foldl (fun current crisis =>
    current.checkActiveCrisis sentiment region receivedAt now crisis) detector

/-- Check all active crises with the reading of an article. -/
def checkActiveCrisesOnArticle (sentiment : ℚ) (region : Option String) (receivedAt now : ℚ)
    (detector : CrisisDetector) : CrisisDetector :=
  detector.checkCrises sentiment region receivedAt now detector.crisesToCheck

/-- The first group of an article that has no active crisis and enough articles. -/
def crisisGroup (lower : String → String) (newRecord : CrisisArticleRecord) (now : ℚ)
    (detector : CrisisDetector) : Option String :=
  (getGroupingKeys lower newRecord).find? fun groupingKey =>
    (detector.activeCrisisKeys groupingKey).isNone &&
      decide (Constants.newsCrisisArticleThreshold ≤
        (getArticlesForKey lower (detector.getArticlesInWindow now) groupingKey).length)

/-- The crisis of a group. -/
def newCrisis (lower : String → String) (groupingKey crisisId : String) (now : ℚ)
    (detector : CrisisDetector) : CrisisAlertData :=
  let matchingArticles := getArticlesForKey lower (detector.getArticlesInWindow now) groupingKey
  { id := crisisId
    region := resolveRegionLabel groupingKey
    triggerArticles := matchingArticles
    sentimentAvg := (matchingArticles.map (·.sentimentScore)).sum / matchingArticles.length
    startedAt := now }

/-- Open a crisis. Its identifier is new, so it is listed last. -/
def openCrisis (groupingKey : String) (crisis : CrisisAlertData) (detector : CrisisDetector) :
    CrisisDetector :=
  { detector with
      activeCrises := detector.activeCrises ++ [crisis]
      activeCrisisKeys := Function.update detector.activeCrisisKeys groupingKey (some crisis.id)
      crisisSentiments := Function.update detector.crisisSentiments crisis.id (some []) }

/-- Open a crisis if a group of a new article has enough articles. -/
def checkCrisisConditions (lower : String → String) (newRecord : CrisisArticleRecord)
    (crisisId : String) (now : ℚ) (detector : CrisisDetector) :
    Option CrisisAlertData × CrisisDetector :=
  match detector.crisisGroup lower newRecord now with
  | none => (none, detector)
  | some groupingKey =>
    let crisis := detector.newCrisis lower groupingKey crisisId now
    (some crisis, detector.openCrisis groupingKey crisis)

/-- The record of an article, with an identifier for one that has none. -/
def recordOf (article : CrisisArticle) (articleId : String) (now : ℚ) : CrisisArticleRecord where
  articleId := article.id.getD articleId
  source := article.source
  headline := article.headline
  sentimentScore := article.sentimentScore
  receivedAt := article.receivedAt.getD now
  category := article.category
  region := article.region
  assetClass := article.assetClass

/-- Evaluate an article. The identifiers are those for a crisis and for an article without one. -/
def evaluate (lower : String → String) (article : CrisisArticle) (crisisId articleId : String)
    (now : ℚ) (detector : CrisisDetector) : Option CrisisAlertData × CrisisDetector :=
  let checked := detector.checkActiveCrisesOnArticle article.sentimentScore article.region
    (article.receivedAt.getD now) now
  if article.impactLevel ≠ "HIGH" ∨
      Constants.newsCrisisSentimentThreshold < article.sentimentScore then (none, checked)
  else
    let record := recordOf article articleId now
    let noted := { checked with
      recentArticles := pruneOldArticles now (checked.recentArticles ++ [record]) }
    noted.checkCrisisConditions lower record crisisId now

/-- The readings that a check is given, or those that are noted. -/
def sentimentsOf (crisisId : String) (currentSentiments : Option (List ℚ))
    (detector : CrisisDetector) : List ℚ :=
  currentSentiments.getD
    (((detector.crisisSentiments crisisId).getD []).map (·.sentimentScore))

/-- Check whether a crisis persisted without recovery. -/
def checkPersistence (crisisId : String) (currentSentiments : Option (List ℚ))
    (currentTime : Option ℚ) (now : ℚ) (detector : CrisisDetector) : Bool × CrisisDetector :=
  match detector.getCrisis crisisId with
  | none => (false, detector)
  | some crisis =>
    if !crisis.active then (false, detector)
    else if currentTime.getD now - crisis.startedAt < persistence then (false, detector)
    else if (detector.sentimentsOf crisisId currentSentiments).any recovers then
      (false, detector.resolveCrisis crisisId now)
    else (true, detector.escalate crisis)

/-- Publish what is to be published, and forget it, whether the bus takes it or not. -/
def dispatchPendingEvents (taken : Bool) (detector : CrisisDetector) :
    Option CrisisActivation × CrisisDetector :=
  match detector.pendingKillSwitchEvent with
  | none => (none, detector)
  | some event =>
    if detector.hasEventBus then
      (if taken then some event else none, { detector with pendingKillSwitchEvent := none })
    else (none, detector)

end CrisisDetector

end IgTradingBot
