import IgTradingBot.Library.Crossings
import IgTradingBot.Library.Machines
import IgTradingBot.News.GeopoliticalRisk

/-!
# Alerts of geopolitical risk

Every operation that changes the score of a region compares the score before and after, and enqueues
an alert if the region crossed the threshold. The alerts of a region are thus those of the crossings
of its level of risk: they alternate, and the last one tells whether the score is one of high risk.
-/

namespace IgTradingBot

/-- An operation of the scorer. -/
inductive ScorerCall where
  | processArticle (article : RiskArticle)
  | processArticles (articles : List RiskArticle)
  | updateScores (indicators : List (String × List RiskIndicator)) (now : ℚ)
  | applyDecay (now : ℚ)
  | setScore (region : String) (score : ℚ)
  | resetRegion (region : String)

namespace GeopoliticalRiskScorer

/-- The scorer after an operation. -/
def call (scorer : GeopoliticalRiskScorer) : ScorerCall → GeopoliticalRiskScorer
  | .processArticle article => scorer.processArticle article
  | .processArticles articles => scorer.processArticles articles
  | .updateScores indicators now => scorer.updateScores indicators now
  | .applyDecay now => scorer.applyDecay now
  | .setScore region score => scorer.setScore region score
  | .resetRegion region => scorer.resetRegion region

/-- The score of a region, zero for one that is not known. -/
def scoreOf (region : String) (scorer : GeopoliticalRiskScorer) : ℚ :=
  ((scorer.regions region).map (·.score)).getD 0

/-- The alerts of a region that are enqueued: whether each says that the risk is elevated. -/
def alertsOf (region : String) (scorer : GeopoliticalRiskScorer) : List Bool :=
  (scorer.pendingEvents.filter fun alert => alert.region = region).map fun alert =>
    alert.alertType == "geopolitical_risk_elevated"

/-- The alerts of every region follow its level of risk. -/
def Alternating (scorer : GeopoliticalRiskScorer) : Prop :=
  ∀ region, Crossings.Follows (scorer.alertsOf region) (isHigh (scorer.scoreOf region))

section Operations

variable {scorer : GeopoliticalRiskScorer}

/-- The score of a region that is set, and those of the others. -/
theorem score_of_set_region (region : String) (state : RegionRiskState) (other : String) :
    (scorer.setRegion region state).scoreOf other =
      if other = region then state.score else scorer.scoreOf other := by
  unfold scoreOf setRegion
  dsimp only
  split_ifs with isRegion
  · rw [isRegion, Function.update_self]
    rfl
  · rw [Function.update_of_ne isRegion]

/-- An alert of a crossing is one of its region, and says whether the score is high. -/
theorem alerts_of_concat (region other : String) (oldScore newScore : ℚ) (state : RegionRiskState)
    (crosses : isHigh oldScore ≠ isHigh newScore) :
    ({ scorer with
        pendingEvents := scorer.pendingEvents ++
          [if isHigh newScore then elevatedAlert region newScore state
            else recoveredAlert region newScore] } : GeopoliticalRiskScorer).alertsOf other =
      scorer.alertsOf other ++
        if other = region then Crossings.crossing (isHigh oldScore) (isHigh newScore) else [] := by
  rw [Crossings.crossing, if_neg crosses]
  by_cases isRegion : other = region
  · cases isHigh newScore <;> simp [alertsOf, elevatedAlert, recoveredAlert, isRegion]
  · have elsewhere : region ≠ other := fun same => isRegion same.symm
    cases isHigh newScore <;> simp [alertsOf, elevatedAlert, recoveredAlert, isRegion, elsewhere]

/-- The check of a region that is known enqueues the alert of its crossing, and keeps its score. -/
theorem check_threshold_crossing {region : String} {state : RegionRiskState}
    (known : scorer.regions region = some state) (oldScore newScore : ℚ) (other : String) :
    (scorer.checkThresholdCrossing region oldScore newScore).scoreOf other = scorer.scoreOf other ∧
      (scorer.checkThresholdCrossing region oldScore newScore).alertsOf other =
        scorer.alertsOf other ++
          if other = region then Crossings.crossing (isHigh oldScore) (isHigh newScore) else [] := by
  unfold checkThresholdCrossing
  rw [known]
  dsimp only
  by_cases same : isHigh oldScore = isHigh newScore
  · rw [if_pos same, Crossings.crossing, if_pos same, ite_self, List.append_nil]
    exact ⟨rfl, rfl⟩
  · rw [if_neg same]
    refine ⟨?_, alerts_of_concat region other oldScore newScore state same⟩
    refine (score_of_set_region region _ other).trans ?_
    split_ifs with isRegion
    · simp [scoreOf, isRegion, known]
    · rfl

/-- A change of the score of a region that is checked against the score before keeps the alerts
following. -/
theorem Alternating.set_and_check (alternating : scorer.Alternating) {region : String}
    {oldScore : ℚ} (before : scorer.scoreOf region = oldScore) (state : RegionRiskState) :
    ((scorer.setRegion region state).checkThresholdCrossing region oldScore
      state.score).Alternating := by
  intro other
  have known : (scorer.setRegion region state).regions region = some state :=
    Function.update_self ..
  obtain ⟨score, alerts⟩ := check_threshold_crossing known oldScore state.score other
  rw [score, alerts]
  rw [score_of_set_region]
  split_ifs with isRegion
  · rw [isRegion, ← before]
    exact (alternating region).crossing (isHigh state.score)
  · rw [List.append_nil]
    exact alternating other

/-- A region that is registered has the score zero, as one that is not known. -/
theorem Alternating.register (alternating : scorer.Alternating) (region : String) :
    (scorer.register region).Alternating := by
  unfold GeopoliticalRiskScorer.register
  cases known : scorer.regions region with
  | some state => exact alternating
  | none =>
    intro other
    have score : ({ scorer.setRegion region {} with
        regionNames := scorer.regionNames ++ [region] } : GeopoliticalRiskScorer).scoreOf other =
          scorer.scoreOf other := by
      refine (score_of_set_region region {} other).trans ?_
      split_ifs with isRegion
      · simp [scoreOf, isRegion, known]
      · rfl
    rw [score]
    exact alternating other

/-- The score of a region is that of its state. -/
theorem score_of_getD (region : String) :
    scorer.scoreOf region = ((scorer.regions region).getD {}).score := by
  unfold scoreOf
  cases scorer.regions region <;> rfl

/-- An article keeps the alerts following. -/
theorem Alternating.process_article (alternating : scorer.Alternating) (article : RiskArticle) :
    (scorer.processArticle article).Alternating :=
  (alternating.register article.region).set_and_check (score_of_getD _) _

/-- Articles keep the alerts following. The induction is on the articles. -/
theorem Alternating.process_articles (alternating : scorer.Alternating)
    (articles : List RiskArticle) : (scorer.processArticles articles).Alternating := by
  induction articles generalizing scorer with
  | nil => exact alternating
  | cons article rest inductionHypothesis =>
    exact inductionHypothesis (alternating.process_article article)

/-- The decay of a region keeps the alerts following: without a check the score is the same. -/
theorem Alternating.decay_region (alternating : scorer.Alternating) (region : String) :
    (scorer.decayRegion region).Alternating := by
  unfold decayRegion
  cases known : scorer.regions region with
  | none => exact alternating
  | some state =>
    have before : scorer.scoreOf region = state.score := by simp [scoreOf, known]
    dsimp only
    split_ifs with low changed
    · exact alternating
    · exact alternating.set_and_check before _
    · intro other
      have score : (scorer.setRegion region (decay scorer.decayRate state)).scoreOf other =
          scorer.scoreOf other := by
        rw [score_of_set_region]
        split_ifs with isRegion
        · rw [isRegion, before, not_ne_iff.mp changed]
        · rfl
      rw [score]
      exact alternating other

/-- The decay of regions keeps the alerts following. The induction is on the regions. -/
theorem Alternating.decay_regions (alternating : scorer.Alternating) (regions : List String) :
    (regions.foldl (fun current region => current.decayRegion region) scorer).Alternating := by
  induction regions generalizing scorer with
  | nil => exact alternating
  | cons region rest inductionHypothesis =>
    exact inductionHypothesis (alternating.decay_region region)

/-- Every operation keeps the alerts following. -/
theorem Alternating.call (alternating : scorer.Alternating) (call : ScorerCall) :
    (scorer.call call).Alternating := by
  cases call with
  | processArticle article => exact alternating.process_article article
  | processArticles articles => exact alternating.process_articles articles
  | updateScores indicators now => exact alternating.process_articles _
  | applyDecay now => exact alternating.decay_regions scorer.regionNames
  | setScore region score =>
    exact (alternating.register region).set_and_check (score_of_getD region)
      { ((scorer.register region).regions region).getD {} with
          score := max 0 (min 100 score)
          factorContributions := fun _ => max 0 (min 100 score) / RiskFactor.all.length }
  | resetRegion region =>
    change (scorer.resetRegion region).Alternating
    unfold GeopoliticalRiskScorer.resetRegion
    cases known : scorer.regions region with
    | none => exact alternating
    | some state =>
      exact alternating.set_and_check (by simp [scoreOf, known])
        { state with score := 0, lastArticleAt := none, factorContributions := fun _ => 0 }

/-- At first no region is one of high risk, and nothing is enqueued. -/
theorem alternating_new (decayRate : ℚ) : Alternating { decayRate } := by
  intro region
  have zero : ({ decayRate } : GeopoliticalRiskScorer).scoreOf region = 0 := by
    unfold scoreOf
    dsimp only
    split_ifs <;> rfl
  have low : isHigh 0 = false := by decide +kernel
  rw [zero, low]
  exact Crossings.follows_nil

end Operations

/-- After every sequence of operations, whatever the rate of decay: the alerts of a region alternate
between elevated and recovered, starting with elevated, and the last one is elevated exactly when the
score of the region is at least the threshold of high risk. -/
theorem alerts_alternate (decayRate : ℚ) (calls : List ScorerCall) (region : String) :
    let scorer := Machines.after call { decayRate } calls
    Crossings.Alternates true (scorer.alertsOf region) ∧
      ((scorer.alertsOf region).getLast? = some true ↔
        Constants.geopoliticalRiskHighThreshold ≤ scorer.scoreOf region) := by
  have alternating : Alternating (Machines.after call { decayRate } calls) :=
    Machines.after_keeps_always (fun _ call alternating => alternating.call call) calls
      (alternating_new decayRate)
  have follows := alternating region
  exact ⟨follows.alternates, follows.last_iff.trans decide_eq_true_iff⟩

/-- Scores that rise, fall and rise raise three alerts. -/
example : alertsOf "Asia" (Machines.after call {} [.setScore "Asia" 80, .resetRegion "Asia",
    .setScore "Asia" 60, .setScore "Asia" 70]) = [true, false, true] := by
  decide +kernel

end GeopoliticalRiskScorer

end IgTradingBot
