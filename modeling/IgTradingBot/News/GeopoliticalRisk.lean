import IgTradingBot.Config.Constants
import IgTradingBot.Library.Decimals
import Mathlib.Logic.Function.Basic

/-!
# Geopolitical risk scores

Scores of regions from news, from `src/news/geopolitical_risk.py`. Articles add to the contributions
of risk factors, contributions decay, and a score that crosses the threshold of high risk in either
direction puts an alert in the queue of pending events.
-/

namespace IgTradingBot

/-- Risk factors. -/
inductive RiskFactor where
  | armedConflict
  | sanctions
  | politicalInstability
  | naturalDisaster
  deriving DecidableEq, Repr

namespace RiskFactor

/-- All risk factors, in the order in which they are listed. -/
def all : List RiskFactor := [armedConflict, sanctions, politicalInstability, naturalDisaster]

/-- The value of a risk factor. -/
def value : RiskFactor → String
  | armedConflict => "armed_conflict"
  | sanctions => "sanctions"
  | politicalInstability => "political_instability"
  | naturalDisaster => "natural_disaster"

/-- The risk factor with a value. -/
def ofValue (text : String) : Option RiskFactor := all.find? fun factor => factor.value = text

/-- Points of a risk factor. -/
def weight : RiskFactor → ℚ
  | armedConflict => 30
  | sanctions => 20
  | politicalInstability => 15
  | naturalDisaster => 25

end RiskFactor

/-- An article that contributes to the risk of a region. -/
structure RiskArticle where
  articleId : String
  region : String
  riskFactor : RiskFactor
  severity : ℚ := 1
  receivedAt : ℚ

/-- An indicator of the older interface: an article without a region. -/
structure RiskIndicator where
  articleId : String
  type : String := ""
  severity : ℚ := 1
  timestamp : Option ℚ := none

/-- Risk of a region. -/
structure RegionRiskState where
  score : ℚ := 0
  lastArticleAt : Option ℚ := none
  wasHighRisk : Bool := false
  factorContributions : RiskFactor → ℚ := fun _ => 0

/-- An alert that a region crossed the threshold. -/
structure GeopoliticalAlert where
  alertType : String
  region : String
  score : ℤ
  threshold : ℚ
  direction : String
  factorContributions : Option (RiskFactor → ℚ) := none

/-- The regions that are known from the start. -/
def supportedRegions : List String :=
  ["US", "Europe", "Asia", "Middle East", "Africa", "Latin America", "Oceania"]

/-- State of the scorer, with the names of the regions in the order in which they were added. -/
structure GeopoliticalRiskScorer where
  decayRate : ℚ := 2
  regions : String → Option RegionRiskState :=
    fun region => if region ∈ supportedRegions then some {} else none
  regionNames : List String := supportedRegions
  lastUpdate : Option ℚ := none
  pendingEvents : List GeopoliticalAlert := []

namespace GeopoliticalRiskScorer

/-- A score is one of high risk. -/
def isHigh (score : ℚ) : Bool := decide (Constants.geopoliticalRiskHighThreshold ≤ score)

/-- Sum of the contributions of all risk factors. -/
def totalContribution (contributions : RiskFactor → ℚ) : ℚ := (RiskFactor.all.map contributions).sum

/-- Set the state of a region. -/
def setRegion (region : String) (state : RegionRiskState) (scorer : GeopoliticalRiskScorer) :
    GeopoliticalRiskScorer :=
  { scorer with regions := Function.update scorer.regions region (some state) }

/-- Register a region that is not known. -/
def register (region : String) (scorer : GeopoliticalRiskScorer) : GeopoliticalRiskScorer :=
  match scorer.regions region with
  | some _ => scorer
  | none =>
    { scorer.setRegion region {} with regionNames := scorer.regionNames ++ [region] }

/-- The alert of a region that became one of high risk. -/
def elevatedAlert (region : String) (newScore : ℚ) (state : RegionRiskState) :
    GeopoliticalAlert where
  alertType := "geopolitical_risk_elevated"
  region := region
  score := Decimals.roundHalfEven newScore
  threshold := Constants.geopoliticalRiskHighThreshold
  direction := "above"
  factorContributions := some state.factorContributions

/-- The alert of a region that recovered. -/
def recoveredAlert (region : String) (newScore : ℚ) : GeopoliticalAlert where
  alertType := "geopolitical_risk_recovered"
  region := region
  score := Decimals.roundHalfEven newScore
  threshold := Constants.geopoliticalRiskHighThreshold
  direction := "below"

/-- Put an alert in the queue if a region crossed the threshold. -/
def checkThresholdCrossing (region : String) (oldScore newScore : ℚ)
    (scorer : GeopoliticalRiskScorer) : GeopoliticalRiskScorer :=
  match scorer.regions region with
  | none => scorer
  | some state =>
    if isHigh oldScore = isHigh newScore then scorer
    else
      let noted := scorer.setRegion region { state with wasHighRisk := isHigh newScore }
      { noted with
          pendingEvents := noted.pendingEvents ++
            [if isHigh newScore then elevatedAlert region newScore state
              else recoveredAlert region newScore] }

/-- The state of a region with the contribution of an article. -/
def addArticle (article : RiskArticle) (state : RegionRiskState) : RegionRiskState :=
  let contribution := article.riskFactor.weight * max 0 (min 1 article.severity)
  let contributions := Function.update state.factorContributions article.riskFactor
    (min 100 (state.factorContributions article.riskFactor + contribution))
  { state with
      factorContributions := contributions
      score := min 100 (totalContribution contributions)
      lastArticleAt := some article.receivedAt }

/-- Add the contribution of an article to the risk of its region. -/
def processArticle (article : RiskArticle) (scorer : GeopoliticalRiskScorer) :
    GeopoliticalRiskScorer :=
  let registered := scorer.register article.region
  let state := (registered.regions article.region).getD {}
  let updated := addArticle article state
  (registered.setRegion article.region updated).checkThresholdCrossing article.region state.score
    updated.score

/-- Process some articles, one after the other. -/
def processArticles (articles : List RiskArticle) (scorer : GeopoliticalRiskScorer) :
    GeopoliticalRiskScorer :=
  articles.foldl (fun current article => current.processArticle article) scorer

/-- The state of a region after a decay, in proportion to its contributions. -/
def decay (decayRate : ℚ) (state : RegionRiskState) : RegionRiskState :=
  let decayFraction := decayRate / state.score
  let contributions := fun factor =>
    let contribution := state.factorContributions factor
    if 0 < contribution then max 0 (contribution - contribution * decayFraction) else contribution
  { state with
      factorContributions := contributions
      score := min 100 (max 0 (totalContribution contributions)) }

/-- Apply the decay to one region. -/
def decayRegion (region : String) (scorer : GeopoliticalRiskScorer) : GeopoliticalRiskScorer :=
  match scorer.regions region with
  | none => scorer
  | some state =>
    if state.score ≤ 0 then scorer
    else
      let decayed := decay scorer.decayRate state
      let updated := scorer.setRegion region decayed
      if state.score ≠ decayed.score then
        updated.checkThresholdCrossing region state.score decayed.score
      else updated

/-- Apply the decay to all regions. -/
def applyDecay (now : ℚ) (scorer : GeopoliticalRiskScorer) : GeopoliticalRiskScorer :=
  { scorer.regionNames.foldl (fun current region => current.decayRegion region) scorer with
      lastUpdate := some now }

/-- The article of an indicator, if its type is known. -/
def articleOf (region : String) (now : ℚ) (indicator : RiskIndicator) : Option RiskArticle := do
  let riskFactor ← RiskFactor.ofValue indicator.type
  return ⟨indicator.articleId, region, riskFactor, indicator.severity, indicator.timestamp.getD now⟩

/-- Process the indicators of some regions. -/
def updateScores (indicators : List (String × List RiskIndicator)) (now : ℚ)
    (scorer : GeopoliticalRiskScorer) : GeopoliticalRiskScorer :=
  scorer.processArticles (indicators.flatMap fun (region, regionIndicators) =>
    regionIndicators.filterMap (articleOf region now))

/-- Set the score of a region, in equal parts for all risk factors. -/
def setScore (region : String) (score : ℚ) (scorer : GeopoliticalRiskScorer) :
    GeopoliticalRiskScorer :=
  let clamped := max 0 (min 100 score)
  let registered := scorer.register region
  let state := (registered.regions region).getD {}
  let updated := { state with
    score := clamped, factorContributions := fun _ => clamped / RiskFactor.all.length }
  (registered.setRegion region updated).checkThresholdCrossing region state.score clamped

/-- Reset the score of a region that is known. -/
def resetRegion (region : String) (scorer : GeopoliticalRiskScorer) : GeopoliticalRiskScorer :=
  match scorer.regions region with
  | none => scorer
  | some state =>
    (scorer.setRegion region
      { state with score := 0, lastArticleAt := none, factorContributions := fun _ => 0 }
      ).checkThresholdCrossing region state.score 0

end GeopoliticalRiskScorer

end IgTradingBot
