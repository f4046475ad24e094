import IgTradingBot.News.GeopoliticalRisk
import Mathlib.Tactic.Linarith

/-!
# Order of the articles of a batch

What an article does to a region shows in its score and its contributions: the contribution of one
factor grows by what the article adds, and is cut at a hundred. Additions that are not negative and
are cut each time can be made in either order, and the score is read off the contributions, so the
articles of a batch can come in any order.
-/

namespace IgTradingBot

/-- What is visible of the risk of a region: its score and the contributions of the factors. -/
structure RegionRisk where
  score : ℚ := 0
  contributions : RiskFactor → ℚ := fun _ => 0

namespace RegionRisk

/-- The score that contributions amount to. -/
def ofContributions (contributions : RiskFactor → ℚ) : RegionRisk where
  score := min 100 (GeopoliticalRiskScorer.totalContribution contributions)
  contributions := contributions

end RegionRisk

namespace RiskArticle

/-- The points that an article adds to the contribution of its factor. -/
def points (article : RiskArticle) : ℚ := article.riskFactor.weight * max 0 (min 1 article.severity)

/-- Contributions with the points of an article. -/
def added (article : RiskArticle) (contributions : RiskFactor → ℚ) : RiskFactor → ℚ :=
  Function.update contributions article.riskFactor
    (min 100 (contributions article.riskFactor + article.points))

/-- No article takes points away. -/
theorem points_nonneg (article : RiskArticle) : 0 ≤ article.points := by
  have weight : 0 ≤ article.riskFactor.weight := by
    cases article.riskFactor <;> norm_num [RiskFactor.weight]
  exact mul_nonneg weight (le_max_left 0 _)

end RiskArticle

namespace GeopoliticalRiskScorer

/-- What is visible of the risks of the regions that are known. -/
def visible (scorer : GeopoliticalRiskScorer) : String → Option RegionRisk := fun region =>
  (scorer.regions region).map fun state => ⟨state.score, state.factorContributions⟩

/-- Visible risks with the points of an article. -/
def withArticle (risks : String → Option RegionRisk) (article : RiskArticle) :
    String → Option RegionRisk :=
  Function.update risks article.region
    (some (RegionRisk.ofContributions
      (article.added ((risks article.region).getD {}).contributions)))

section Visible

variable {scorer : GeopoliticalRiskScorer}

/-- A state that is set for a region shows there, and nowhere else. -/
theorem visible_set_region (region : String) (state : RegionRiskState) :
    (scorer.setRegion region state).visible =
      Function.update scorer.visible region (some ⟨state.score, state.factorContributions⟩) := by
  funext other
  by_cases isRegion : other = region
  · subst isRegion
    simp [visible, setRegion]
  · simp [visible, setRegion, isRegion]

/-- The check for an alert changes nothing that is visible. -/
theorem visible_check (region : String) (oldScore newScore : ℚ) :
    (scorer.checkThresholdCrossing region oldScore newScore).visible = scorer.visible := by
  unfold checkThresholdCrossing
  cases known : scorer.regions region with
  | none => rfl
  | some state =>
    dsimp only
    by_cases same : isHigh oldScore = isHigh newScore
    · rw [if_pos same]
    · rw [if_neg same]
      have shown : scorer.visible region = some ⟨state.score, state.factorContributions⟩ := by
        simp [visible, known]
      refine (visible_set_region region _).trans ?_
      exact Function.update_eq_self_iff.mpr shown.symm

/-- A region that is registered has no contributions, and the others are as before. -/
theorem visible_register (region : String) :
    (scorer.register region).visible =
      Function.update scorer.visible region (some ((scorer.visible region).getD {})) := by
  unfold register
  cases known : scorer.regions region with
  | some state =>
    have shown : scorer.visible region = some ⟨state.score, state.factorContributions⟩ := by
      simp [visible, known]
    rw [shown]
    exact (Function.update_eq_self_iff.mpr shown.symm).symm
  | none =>
    have unknown : scorer.visible region = none := by simp [visible, known]
    rw [unknown]
    exact visible_set_region region {}

/-- What an article does to the visible risks. -/
theorem visible_process_article (article : RiskArticle) :
    (scorer.processArticle article).visible = withArticle scorer.visible article := by
  have registered := @visible_register scorer article.region
  obtain ⟨state, known⟩ : ∃ state, (scorer.register article.region).regions article.region =
      some state := by
    have shown := congrFun registered article.region
    rw [Function.update_self] at shown
    obtain ⟨state, known, -⟩ := Option.map_eq_some_iff.mp shown
    exact ⟨state, known⟩
  have contributions : state.factorContributions =
      ((scorer.visible article.region).getD {}).contributions := by
    have shown := congrFun registered article.region
    simp only [visible, known, Option.map_some, Function.update_self, Option.some.injEq] at shown
    exact congrArg RegionRisk.contributions shown
  unfold processArticle
  dsimp only
  rw [known, Option.getD_some, visible_check, visible_set_region, registered, Function.update_idem]
  unfold withArticle
  rw [← contributions]
  rfl

/-- What a batch does to the visible risks. The induction is on the articles. -/
theorem visible_process_articles (articles : List RiskArticle) :
    (scorer.processArticles articles).visible = articles.foldl withArticle scorer.visible := by
  induction articles generalizing scorer with
  | nil => rfl
  | cons article rest inductionHypothesis =>
    rw [List.foldl_cons, ← visible_process_article]
    exact inductionHypothesis

end Visible

/-- Additions that are cut at a bound can be made in either order. -/
theorem capped_additions_swap (bound start : ℚ) {first second : ℚ} (firstNonneg : 0 ≤ first)
    (secondNonneg : 0 ≤ second) :
    min bound (min bound (start + first) + second) =
      min bound (min bound (start + second) + first) := by
  -- cut once more after an addition, a sum that was already cut is at the bound
  have once : ∀ {early late : ℚ}, 0 ≤ late →
      min bound (min bound (start + early) + late) = min bound (start + early + late) := by
    intro early late nonneg
    rw [← min_add_add_right, ← min_assoc, min_eq_left (le_add_of_nonneg_right nonneg)]
  rw [once secondNonneg, once firstNonneg, add_right_comm]

/-- The points of two articles can be added in either order. -/
theorem added_swap (contributions : RiskFactor → ℚ) (first second : RiskArticle) :
    second.added (first.added contributions) = first.added (second.added contributions) := by
  unfold RiskArticle.added
  by_cases sameFactor : first.riskFactor = second.riskFactor
  · rw [sameFactor, Function.update_self, Function.update_self, Function.update_idem,
      Function.update_idem, capped_additions_swap 100 _ first.points_nonneg second.points_nonneg]
  · rw [Function.update_of_ne (Ne.symm sameFactor), Function.update_of_ne sameFactor,
      Function.update_comm sameFactor]

/-- Two articles can be processed in either order. -/
theorem with_article_swap (risks : String → Option RegionRisk) (first second : RiskArticle) :
    withArticle (withArticle risks first) second = withArticle (withArticle risks second) first := by
  unfold withArticle
  by_cases sameRegion : first.region = second.region
  · rw [sameRegion, Function.update_self, Function.update_self, Function.update_idem,
      Function.update_idem, Option.getD_some, Option.getD_some]
    exact congrArg _ (congrArg _ (congrArg _ (added_swap _ first second)))
  · rw [Function.update_of_ne (Ne.symm sameRegion), Function.update_of_ne sameRegion,
      Function.update_comm sameRegion]

/-- The articles of a batch can come in any order: whatever the state, the scores and the
contributions of all regions are the same after each permutation of the articles. -/
theorem process_articles_in_any_order (scorer : GeopoliticalRiskScorer)
    {articles permuted : List RiskArticle} (permutation : articles.Perm permuted)
    (region : String) :
    ((scorer.processArticles articles).regions region).map
        (fun state => (state.score, state.factorContributions)) =
      ((scorer.processArticles permuted).regions region).map
        (fun state => (state.score, state.factorContributions)) := by
  have sameRisks : (scorer.processArticles articles).visible =
      (scorer.processArticles permuted).visible := by
    rw [visible_process_articles, visible_process_articles]
    exact permutation.foldl_eq' (fun first _ second _ risks => with_article_swap risks first second) _
  have pairs := congrArg (Option.map fun risk : RegionRisk => (risk.score, risk.contributions))
    (congrFun sameRisks region)
  simp only [visible, Option.map_map] at pairs
  exact pairs

/-- Sanctions before an armed conflict, or after it. -/
theorem sanctions_before_or_after_conflict :
    ((({} : GeopoliticalRiskScorer).processArticles
        [⟨"a", "Asia", .sanctions, 1, 0⟩, ⟨"b", "Asia", .armedConflict, 1, 1⟩]).regions "Asia").map
        (fun state => (state.score, state.factorContributions)) =
      ((({} : GeopoliticalRiskScorer).processArticles
        [⟨"b", "Asia", .armedConflict, 1, 1⟩, ⟨"a", "Asia", .sanctions, 1, 0⟩]).regions "Asia").map
        (fun state => (state.score, state.factorContributions)) :=
  process_articles_in_any_order {} (List.Perm.swap _ _ []) "Asia"

end GeopoliticalRiskScorer

end IgTradingBot
