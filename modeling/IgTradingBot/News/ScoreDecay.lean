import IgTradingBot.News.ArticleOrder
import IgTradingBot.News.GeopoliticalAlerts
import Mathlib.Algebra.Order.Group.MinMax
import Mathlib.Tactic.NormNum
import Mathlib.Tactic.Ring

/-!
# Decay of the scores of regions

The score of a region is meant to fall by the rate of decay while no article arrives for it, and to
stay where it is when one does. The decay takes a share of all contributions of every region: it does
not read when the last article of a region arrived, and it is the sum of the contributions that
falls by the rate, which a score that is cut at a hundred does not show.
-/

namespace IgTradingBot

namespace RegionRisk

/-- The sum of the contributions of all factors. -/
def total (risk : RegionRisk) : ℚ := GeopoliticalRiskScorer.totalContribution risk.contributions

/-- The contributions are not negative, and the score is what they amount to. -/
def WellScored (risk : RegionRisk) : Prop :=
  (∀ factor, 0 ≤ risk.contributions factor) ∧ risk.score = min 100 risk.total

/-- A visible risk after a decay. -/
def decayed (decayRate : ℚ) (risk : RegionRisk) : RegionRisk :=
  if risk.score ≤ 0 then risk
  else
    let contributions := fun factor =>
      let contribution := risk.contributions factor
      if 0 < contribution then max 0 (contribution - contribution * (decayRate / risk.score))
      else contribution
    { score := min 100 (max 0 (GeopoliticalRiskScorer.totalContribution contributions))
      contributions := contributions }

/-- The score stays where it is in a decay: there is none or no rate, or the contributions amount to
at least a hundred before and after. -/
def Stays (decayRate : ℚ) (risk : RegionRisk) : Prop :=
  risk.score = 0 ∨ decayRate = 0 ∨
    100 ≤ risk.total ∧ 100 ≤ risk.total * (1 - decayRate / 100)

/-- The score falls by the rate in a decay, down to zero at most: the contributions do not amount to
more than a hundred, unless nothing or everything decays. With a negative rate scores rise, and then
there has to be a score, which does not pass a hundred. -/
def Falls (decayRate : ℚ) (risk : RegionRisk) : Prop :=
  (0 ≤ decayRate ∨ 0 < risk.score ∧ risk.score - decayRate ≤ 100) ∧
    (risk.total ≤ 100 ∨ decayRate = 0 ∨ 100 ≤ decayRate)

section Decayed

variable {decayRate : ℚ} {risk : RegionRisk}

/-- The sum of all contributions, written out. -/
theorem total_contribution_eq (contributions : RiskFactor → ℚ) :
    GeopoliticalRiskScorer.totalContribution contributions =
      contributions .armedConflict + contributions .sanctions +
        contributions .politicalInstability + contributions .naturalDisaster := by
  unfold GeopoliticalRiskScorer.totalContribution RiskFactor.all
  simp only [List.map_cons, List.map_nil, List.sum_cons, List.sum_nil]
  ring

/-- Contributions that are not negative have a sum that is not. -/
theorem total_contribution_nonneg {contributions : RiskFactor → ℚ}
    (nonneg : ∀ factor, 0 ≤ contributions factor) :
    0 ≤ GeopoliticalRiskScorer.totalContribution contributions := by
  rw [total_contribution_eq]
  have first := add_nonneg (nonneg .armedConflict) (nonneg .sanctions)
  exact add_nonneg (add_nonneg first (nonneg .politicalInstability)) (nonneg .naturalDisaster)

/-- A well scored risk has a score from zero to a hundred. -/
theorem WellScored.score_nonneg (well : risk.WellScored) : 0 ≤ risk.score := by
  rw [well.2]
  exact le_min (by norm_num) (total_contribution_nonneg well.1)

/-- What contributions that are not negative amount to is well scored. -/
theorem well_scored_of_contributions {contributions : RiskFactor → ℚ}
    (nonneg : ∀ factor, 0 ≤ contributions factor) : (ofContributions contributions).WellScored :=
  ⟨nonneg, rfl⟩

/-- A region that is new is well scored. -/
theorem well_scored_new : WellScored {} := ⟨fun _ => le_rfl, by decide +kernel⟩

/-- A decay scales every contribution, down to zero at most. -/
theorem contributions_of_decayed (well : risk.WellScored) (positive : 0 < risk.score) :
    (risk.decayed decayRate).contributions = fun factor =>
      risk.contributions factor * max 0 (1 - decayRate / risk.score) := by
  unfold decayed
  rw [if_neg (not_le.mpr positive)]
  funext factor
  dsimp only
  have nonneg := well.1 factor
  split_ifs with contributes
  · rw [mul_max_of_nonneg _ _ nonneg, mul_zero, mul_sub, mul_one]
  · rw [le_antisymm (not_lt.mp contributes) nonneg, zero_mul]

/-- The sum of the contributions after a decay. -/
theorem total_of_decayed (well : risk.WellScored) (positive : 0 < risk.score) :
    (risk.decayed decayRate).total = risk.total * max 0 (1 - decayRate / risk.score) := by
  unfold total
  rw [contributions_of_decayed well positive, total_contribution_eq, total_contribution_eq]
  ring

/-- A decay leaves a risk well scored. -/
theorem WellScored.decayed (well : risk.WellScored) (decayRate : ℚ) :
    (risk.decayed decayRate).WellScored := by
  rcases le_or_gt risk.score 0 with low | positive
  · unfold RegionRisk.decayed
    rwa [if_pos low]
  · have nonneg : ∀ factor, 0 ≤ (risk.decayed decayRate).contributions factor := by
      rw [contributions_of_decayed well positive]
      exact fun factor => mul_nonneg (well.1 factor) (le_max_left 0 _)
    refine ⟨nonneg, ?_⟩
    have total : 0 ≤ (risk.decayed decayRate).total := total_contribution_nonneg nonneg
    have score : (risk.decayed decayRate).score =
        min 100 (max 0 (risk.decayed decayRate).total) := by
      unfold RegionRisk.decayed RegionRisk.total
      rw [if_neg (not_le.mpr positive)]
    rw [score, max_eq_right total]

/-- The score after a decay of contributions that do not amount to more than a hundred. -/
theorem score_of_decayed_below (well : risk.WellScored) (positive : 0 < risk.score)
    (below : risk.total ≤ 100) :
    (risk.decayed decayRate).score = min 100 (max 0 (risk.score - decayRate)) := by
  have same : risk.score = risk.total := by rw [well.2, min_eq_right below]
  rw [(well.decayed decayRate).2, total_of_decayed well positive, ← same,
    mul_max_of_nonneg _ _ positive.le, mul_zero, mul_sub, mul_one,
    mul_div_cancel₀ _ positive.ne']

/-- The score after a decay of contributions that amount to at least a hundred. -/
theorem score_of_decayed_full (well : risk.WellScored) (full : 100 ≤ risk.total) :
    (risk.decayed decayRate).score = min 100 (max 0 (risk.total * (1 - decayRate / 100))) := by
  have score : risk.score = 100 := by rw [well.2, min_eq_left full]
  have positive : 0 < risk.score := by rw [score]; norm_num
  have nonneg : 0 ≤ risk.total := le_trans (by norm_num) full
  rw [(well.decayed decayRate).2, total_of_decayed well positive, score,
    mul_max_of_nonneg _ _ nonneg, mul_zero]

/-- Without a score nothing decays. -/
theorem score_of_decayed_zero (zero : risk.score = 0) : (risk.decayed decayRate).score = 0 := by
  unfold decayed
  rw [if_pos zero.le, zero]

/-- When a decay leaves a score as it is. -/
theorem score_of_decayed_eq_iff (well : risk.WellScored) :
    (risk.decayed decayRate).score = risk.score ↔ risk.Stays decayRate := by
  unfold Stays
  rcases well.score_nonneg.eq_or_lt with zero | positive
  · rw [score_of_decayed_zero zero.symm]
    exact iff_of_true zero (.inl zero.symm)
  have score := well.2
  rcases lt_or_ge risk.total 100 with below | full
  · rw [min_eq_right below.le] at score
    rw [score_of_decayed_below well positive below.le]
    constructor
    · intro same
      rcases min_choice 100 (max 0 (risk.score - decayRate)) with capped | uncapped
      · linarith
      rcases max_choice 0 (risk.score - decayRate) with nothing | rest
      · linarith
      · exact .inr (.inl (by linarith))
    · rintro (none | none | ⟨full, -⟩)
      · linarith
      · rw [none, sub_zero, max_eq_right positive.le, min_eq_right (by linarith)]
      · linarith
  · rw [min_eq_left full] at score
    rw [score_of_decayed_full well full, score, min_eq_left_iff, le_max_iff]
    constructor
    · rintro (impossible | stillFull)
      · norm_num at impossible
      · exact .inr (.inr ⟨full, stillFull⟩)
    · rintro (impossible | none | ⟨-, stillFull⟩)
      · norm_num at impossible
      · rw [none, zero_div, sub_zero, mul_one]
        exact .inr full
      · exact .inr stillFull

/-- A share of contributions that amount to more than a hundred is more than what is left of a
hundred without the rate, unless nothing or everything decays. -/
theorem share_of_full_gt {total : ℚ} (full : 100 < total) (partly : decayRate < 100) :
    100 - decayRate < total * (1 - decayRate / 100) := by
  have left : 0 < 1 - decayRate / 100 := by linarith
  have scaled := mul_lt_mul_of_pos_right full left
  linarith

/-- When a decay takes the rate off a score, down to zero at most. -/
theorem score_of_decayed_eq_sub_iff (well : risk.WellScored) :
    (risk.decayed decayRate).score = risk.score - min risk.score decayRate ↔
      risk.Falls decayRate := by
  unfold Falls
  have score := well.2
  have wanted : risk.score - min risk.score decayRate = max 0 (risk.score - decayRate) := by
    rw [← max_sub_sub_left, sub_self]
  rw [wanted]
  rcases le_or_gt risk.total 100 with below | full
  · rw [min_eq_right below] at score
    rw [and_iff_left (.inl below)]
    rcases well.score_nonneg.eq_or_lt with zero | positive
    · rw [score_of_decayed_zero zero.symm, ← zero, zero_sub, eq_comm, max_eq_left_iff,
        neg_nonpos, or_iff_left fun impossible => impossible.1.false]
    · rw [score_of_decayed_below well positive below, min_eq_right_iff, max_le_iff]
      constructor
      · exact fun capped => .inr ⟨positive, capped.2⟩
      · rintro (nonneg | ⟨-, capped⟩)
        · exact ⟨by norm_num, by linarith⟩
        · exact ⟨by norm_num, capped⟩
  · rw [min_eq_left full.le] at score
    rw [score_of_decayed_full well full.le, score]
    constructor
    · intro falls
      rcases le_or_gt 100 decayRate with all | partly
      · exact ⟨.inl (by linarith), .inr (.inr all)⟩
      have share := share_of_full_gt full partly
      have left : max 0 (100 - decayRate) = 100 - decayRate := max_eq_right (by linarith)
      rw [left] at falls
      rcases min_choice 100 (max 0 (risk.total * (1 - decayRate / 100))) with capped | uncapped
      · have none : decayRate = 0 := by linarith
        exact ⟨.inl none.ge, .inr (.inl none)⟩
      · rw [uncapped, max_eq_right (by linarith)] at falls
        linarith
    · rintro ⟨-, impossible | none | all⟩
      · linarith
      · rw [none, zero_div, sub_zero, mul_one, sub_zero, max_eq_right (by linarith),
          min_eq_left full.le, max_eq_right (by norm_num)]
      · have nothing : risk.total * (1 - decayRate / 100) ≤ 0 :=
          mul_nonpos_of_nonneg_of_nonpos (by linarith) (by linarith)
        rw [max_eq_left nothing, max_eq_left (by linarith), min_eq_right (by norm_num)]

end Decayed

end RegionRisk

/-- The articles that an operation processes. -/
def ScorerCall.articles : ScorerCall → List RiskArticle
  | .processArticle article => [article]
  | .processArticles articles => articles
  | .updateScores indicators now => indicators.flatMap fun (region, regionIndicators) =>
      regionIndicators.filterMap (GeopoliticalRiskScorer.articleOf region now)
  | .applyDecay _ | .setScore .. | .resetRegion _ => []

/-- A scorer with the regions that an article arrived for since the last decay. -/
structure ScorerRun where
  scorer : GeopoliticalRiskScorer
  reported : List String := []

namespace ScorerRun

open GeopoliticalRiskScorer

/-- An operation of the scorer. A decay starts a new period. -/
def step (run : ScorerRun) (call : ScorerCall) : ScorerRun where
  scorer := run.scorer.call call
  reported :=
    match call with
    | .applyDecay _ => []
    | _ => run.reported ++ call.articles.map (·.region)

/-- What a decay is to do: the score of a region stays if an article arrived for it since the last
decay, and falls by the rate otherwise. -/
def ObeysDecay (run : ScorerRun) (now : ℚ) : Prop :=
  ∀ region state, run.scorer.regions region = some state →
    (run.scorer.applyDecay now).scoreOf region =
      if region ∈ run.reported then state.score
      else state.score - min state.score run.scorer.decayRate

/-- The regions that an article arrived for have a risk that stays in a decay, and the others one
that falls by the rate. -/
def FitsDecay (run : ScorerRun) : Prop :=
  ∀ region state, run.scorer.regions region = some state →
    if region ∈ run.reported then
      RegionRisk.Stays run.scorer.decayRate ⟨state.score, state.factorContributions⟩
    else RegionRisk.Falls run.scorer.decayRate ⟨state.score, state.factorContributions⟩

end ScorerRun

namespace GeopoliticalRiskScorer

/-- The names are those of the regions that are known, each once, and every risk is well scored. -/
structure Sound (scorer : GeopoliticalRiskScorer) : Prop where
  once : scorer.regionNames.Nodup
  listed : ∀ region, region ∈ scorer.regionNames ↔ (scorer.visible region).isSome
  wellScored : ∀ region risk, scorer.visible region = some risk → risk.WellScored

section Operations

variable {scorer : GeopoliticalRiskScorer}

/-- The names and the visible risks decide whether a scorer is sound. -/
theorem Sound.of_same {other : GeopoliticalRiskScorer} (sound : scorer.Sound)
    (names : other.regionNames = scorer.regionNames) (risks : other.visible = scorer.visible) :
    other.Sound where
  once := names ▸ sound.once
  listed := names ▸ risks ▸ sound.listed
  wellScored := risks ▸ sound.wellScored

/-- The check for an alert keeps the rate and the names of the regions. -/
theorem check_keeps (scorer : GeopoliticalRiskScorer) (region : String) (oldScore newScore : ℚ) :
    (scorer.checkThresholdCrossing region oldScore newScore).decayRate = scorer.decayRate ∧
      (scorer.checkThresholdCrossing region oldScore newScore).regionNames =
        scorer.regionNames := by
  unfold checkThresholdCrossing
  cases scorer.regions region with
  | none => exact ⟨rfl, rfl⟩
  | some state =>
    dsimp only
    by_cases same : isHigh oldScore = isHigh newScore
    · rw [if_pos same]
      exact ⟨rfl, rfl⟩
    · rw [if_neg same]
      exact ⟨rfl, rfl⟩

/-- The check for an alert keeps a scorer sound. -/
theorem Sound.check (sound : scorer.Sound) (region : String) (oldScore newScore : ℚ) :
    (scorer.checkThresholdCrossing region oldScore newScore).Sound :=
  sound.of_same (check_keeps scorer region oldScore newScore).2
    (visible_check region oldScore newScore)

/-- A scorer stays sound when a well scored risk is recorded for a region, which is listed then. -/
theorem Sound.record (sound : scorer.Sound) {other : GeopoliticalRiskScorer} {region : String}
    {risk : RegionRisk} (once : other.regionNames.Nodup)
    (names : ∀ name, name ∈ other.regionNames ↔ name = region ∨ name ∈ scorer.regionNames)
    (risks : other.visible = Function.update scorer.visible region (some risk))
    (well : risk.WellScored) : other.Sound where
  once := once
  listed name := by
    rw [names, risks]
    by_cases isRegion : name = region
    · rw [isRegion, Function.update_self]
      exact iff_of_true (.inl rfl) rfl
    · rw [Function.update_of_ne isRegion, or_iff_right isRegion]
      exact sound.listed name
  wellScored name shownRisk shown := by
    rw [risks] at shown
    by_cases isRegion : name = region
    · rw [isRegion, Function.update_self, Option.some.injEq] at shown
      rwa [← shown]
    · rw [Function.update_of_ne isRegion] at shown
      exact sound.wellScored name shownRisk shown

/-- A well scored state for a region that is listed keeps a scorer sound. -/
theorem Sound.set_region (sound : scorer.Sound) {region : String}
    (listed : region ∈ scorer.regionNames) {state : RegionRiskState}
    (well : RegionRisk.WellScored ⟨state.score, state.factorContributions⟩) :
    (scorer.setRegion region state).Sound := by
  refine sound.record sound.once ?_ (visible_set_region region state) well
  exact fun name => (or_iff_right_of_imp fun isRegion => isRegion ▸ listed).symm

/-- A region that is registered is listed. -/
theorem Sound.register (sound : scorer.Sound) (region : String) :
    (scorer.register region).Sound ∧ region ∈ (scorer.register region).regionNames := by
  unfold GeopoliticalRiskScorer.register
  cases known : scorer.regions region with
  | some state => exact ⟨sound, (sound.listed region).mpr (by simp [visible, known])⟩
  | none =>
    have fresh : region ∉ scorer.regionNames := by simp [sound.listed, visible, known]
    refine ⟨?_, List.mem_append_right _ (List.mem_singleton_self region)⟩
    refine sound.record ?_ ?_ (visible_set_region region {}) ?_
    · exact List.concat_eq_append ▸ sound.once.concat fresh
    · intro name
      exact List.mem_append.trans (or_comm.trans (or_congr_left List.mem_singleton))
    · exact RegionRisk.well_scored_new

/-- The state of a region that is registered has contributions that are not negative. -/
theorem Sound.nonneg_of_getD (sound : scorer.Sound) (region : String) (factor : RiskFactor) :
    0 ≤ ((scorer.regions region).getD {}).factorContributions factor := by
  cases known : scorer.regions region with
  | none => exact le_rfl
  | some state =>
    have shown : scorer.visible region = some ⟨state.score, state.factorContributions⟩ := by
      simp [visible, known]
    exact (sound.wellScored region _ shown).1 factor

/-- An article keeps a scorer sound. -/
theorem Sound.process_article (sound : scorer.Sound) (article : RiskArticle) :
    (scorer.processArticle article).Sound := by
  obtain ⟨registered, listed⟩ := sound.register article.region
  refine (registered.set_region listed ?_).check _ _ _
  refine RegionRisk.well_scored_of_contributions fun factor => ?_
  have before := registered.nonneg_of_getD article.region
  rcases eq_or_ne factor article.riskFactor with rfl | other
  · rw [Function.update_self]
    exact le_min (by norm_num) (add_nonneg (before _) article.points_nonneg)
  · rw [Function.update_of_ne other]
    exact before factor

/-- Articles keep a scorer sound. The induction is on the articles. -/
theorem Sound.process_articles (sound : scorer.Sound) (articles : List RiskArticle) :
    (scorer.processArticles articles).Sound := by
  induction articles generalizing scorer with
  | nil => exact sound
  | cons article rest inductionHypothesis => exact inductionHypothesis (sound.process_article article)

/-- A score that is set in equal parts is what these amount to. -/
theorem well_scored_of_equal_parts {score : ℚ} (low : 0 ≤ score) (high : score ≤ 100) :
    RegionRisk.WellScored ⟨score, fun _ => score / RiskFactor.all.length⟩ := by
  have parts : (RiskFactor.all.length : ℚ) = 4 := by rw [RiskFactor.all]; norm_num
  refine ⟨fun _ => ?_, ?_⟩
  · dsimp only
    rw [parts]
    linarith
  · unfold RegionRisk.total
    dsimp only
    rw [RegionRisk.total_contribution_eq, parts, min_eq_right] <;> linarith

/-- What the decay of a region does to the visible risks. -/
theorem visible_decay_region (region : String) :
    (scorer.decayRegion region).visible =
      Function.update scorer.visible region
        ((scorer.visible region).map (RegionRisk.decayed scorer.decayRate)) := by
  unfold decayRegion
  cases known : scorer.regions region with
  | none =>
    have unknown : scorer.visible region = none := by simp [visible, known]
    rw [unknown]
    exact (Function.update_eq_self_iff.mpr unknown.symm).symm
  | some state =>
    have shown : scorer.visible region = some ⟨state.score, state.factorContributions⟩ := by
      simp [visible, known]
    rw [shown, Option.map_some]
    dsimp only
    by_cases low : state.score ≤ 0
    · rw [if_pos low, RegionRisk.decayed, if_pos low]
      exact (Function.update_eq_self_iff.mpr shown.symm).symm
    · have risk : RegionRisk.decayed scorer.decayRate ⟨state.score, state.factorContributions⟩ =
          ⟨(decay scorer.decayRate state).score,
            (decay scorer.decayRate state).factorContributions⟩ := by
        rw [RegionRisk.decayed, if_neg low]
        rfl
      rw [if_neg low, risk, ← visible_set_region]
      split_ifs
      · exact visible_check _ _ _
      · rfl

/-- The decay of a region keeps the rate and the names of the regions. -/
theorem decay_region_keeps (region : String) :
    (scorer.decayRegion region).decayRate = scorer.decayRate ∧
      (scorer.decayRegion region).regionNames = scorer.regionNames := by
  unfold decayRegion
  cases scorer.regions region with
  | none => exact ⟨rfl, rfl⟩
  | some state =>
    dsimp only
    split_ifs
    · exact ⟨rfl, rfl⟩
    · exact check_keeps _ region _ _
    · exact ⟨rfl, rfl⟩

/-- The decay of a region keeps a scorer sound. -/
theorem Sound.decay_region (sound : scorer.Sound) (region : String) :
    (scorer.decayRegion region).Sound := by
  have risks := @visible_decay_region scorer region
  have names := (@decay_region_keeps scorer region).2
  cases shown : scorer.visible region with
  | none =>
    refine sound.of_same names (risks.trans ?_)
    rw [shown]
    exact Function.update_eq_self_iff.mpr shown.symm
  | some risk =>
    rw [shown, Option.map_some] at risks
    have listed : region ∈ scorer.regionNames := by rw [sound.listed, shown]; rfl
    refine sound.record (names ▸ sound.once) (fun name => ?_) risks
      ((sound.wellScored region risk shown).decayed _)
    rw [names]
    exact (or_iff_right_of_imp fun isRegion => isRegion ▸ listed).symm

/-- The decay of regions, each once: the rate stays, and what is visible of these regions decays.
The induction is on the regions. -/
theorem decay_regions (regions : List String) (once : regions.Nodup) :
    (regions.foldl (fun current region => current.decayRegion region) scorer).visible = fun name =>
      if name ∈ regions then (scorer.visible name).map (RegionRisk.decayed scorer.decayRate)
      else scorer.visible name := by
  induction regions generalizing scorer with
  | nil =>
    funext name
    rw [if_neg List.not_mem_nil]
    rfl
  | cons region rest inductionHypothesis =>
    obtain ⟨notAgain, restOnce⟩ := List.nodup_cons.mp once
    rw [List.foldl_cons, inductionHypothesis restOnce, visible_decay_region,
      (decay_region_keeps region).1]
    funext name
    rcases eq_or_ne name region with rfl | other
    · rw [if_neg notAgain, if_pos List.mem_cons_self, Function.update_self]
    · rw [Function.update_of_ne other]
      exact if_congr (List.mem_cons.trans (or_iff_right other)).symm rfl rfl

/-- A decay of a sound scorer: what is visible of every region that is known decays once. -/
theorem Sound.visible_apply_decay (sound : scorer.Sound) (now : ℚ) (region : String) :
    (scorer.applyDecay now).visible region =
      (scorer.visible region).map (RegionRisk.decayed scorer.decayRate) := by
  have decayed := congrFun (@decay_regions scorer scorer.regionNames sound.once) region
  refine Eq.trans decayed ?_
  split_ifs with listed
  · rfl
  · have unknown : scorer.visible region = none := by
      rwa [sound.listed, Bool.not_eq_true, Option.isSome_eq_false_iff, Option.isNone_iff_eq_none]
        at listed
    rw [unknown]
    rfl

/-- The decay of regions keeps a scorer sound. The induction is on the regions. -/
theorem Sound.decay_regions (sound : scorer.Sound) (regions : List String) :
    (regions.foldl (fun current region => current.decayRegion region) scorer).Sound := by
  induction regions generalizing scorer with
  | nil => exact sound
  | cons region rest inductionHypothesis => exact inductionHypothesis (sound.decay_region region)

/-- Every operation keeps a scorer sound. -/
theorem Sound.call (sound : scorer.Sound) (call : ScorerCall) : (scorer.call call).Sound := by
  cases call with
  | processArticle article => exact sound.process_article article
  | processArticles articles => exact sound.process_articles articles
  | updateScores indicators now => exact sound.process_articles _
  | applyDecay now => exact (sound.decay_regions scorer.regionNames).of_same rfl rfl
  | setScore region score =>
    obtain ⟨registered, listed⟩ := sound.register region
    have well := well_scored_of_equal_parts (le_max_left 0 (min 100 score))
      (max_le (by norm_num) (min_le_left 100 score))
    exact (@Sound.set_region _ registered region listed
      { ((scorer.register region).regions region).getD {} with
        score := max 0 (min 100 score)
        factorContributions := fun _ => max 0 (min 100 score) / RiskFactor.all.length }
      well).check _ _ _
  | resetRegion region =>
    change (scorer.resetRegion region).Sound
    unfold GeopoliticalRiskScorer.resetRegion
    cases known : scorer.regions region with
    | none => exact sound
    | some state =>
      have listed : region ∈ scorer.regionNames := by simp [sound.listed, visible, known]
      exact (sound.set_region listed RegionRisk.well_scored_new).check _ _ _

/-- A new scorer is sound: the regions that are supported have no score. -/
theorem sound_new (decayRate : ℚ) : Sound { decayRate } := by
  have shown : ∀ region, ({ decayRate } : GeopoliticalRiskScorer).visible region =
      if region ∈ supportedRegions then some {} else none := by
    intro region
    unfold visible
    dsimp only
    split_ifs <;> rfl
  have once : supportedRegions.Nodup := by decide
  refine ⟨once, fun region => ?_, fun region risk => ?_⟩
  · rw [shown]
    by_cases supported : region ∈ supportedRegions
    · exact iff_of_true supported (by rw [if_pos supported]; rfl)
    · exact iff_of_false supported (by rw [if_neg supported]; exact Bool.false_ne_true)
  · rw [shown]
    intro isRisk
    split_ifs at isRisk with supported
    · rw [← Option.some.inj isRisk]
      exact RegionRisk.well_scored_new

/-- A score is that of the visible risk. -/
theorem score_of_visible {region : String} {risk : RegionRisk}
    (shown : scorer.visible region = some risk) : scorer.scoreOf region = risk.score := by
  obtain ⟨state, known, rfl⟩ := Option.map_eq_some_iff.mp shown
  unfold scoreOf
  rw [known]
  rfl

end Operations

end GeopoliticalRiskScorer

namespace ScorerRun

open GeopoliticalRiskScorer

/-- A decay does what it is to do exactly when the risks fit it. -/
theorem obeys_decay_iff {run : ScorerRun} (sound : run.scorer.Sound) (now : ℚ) :
    run.ObeysDecay now ↔ run.FitsDecay := by
  refine forall_congr' fun region => forall_congr' fun state => imp_congr_right fun known => ?_
  have shown : run.scorer.visible region = some ⟨state.score, state.factorContributions⟩ := by
    simp [visible, known]
  have well := sound.wellScored region _ shown
  have after := sound.visible_apply_decay now region
  rw [shown, Option.map_some] at after
  rw [score_of_visible after]
  split_ifs
  · exact RegionRisk.score_of_decayed_eq_iff well
  · exact RegionRisk.score_of_decayed_eq_sub_iff well

/-- What a decay that does what it is to do does to the score of a region that is known. -/
theorem ObeysDecay.score_of {run : ScorerRun} {now : ℚ} (obeys : run.ObeysDecay now)
    (region : String) (known : (run.scorer.regions region).isSome) :
    (run.scorer.applyDecay now).scoreOf region =
      if region ∈ run.reported then run.scorer.scoreOf region
      else run.scorer.scoreOf region -
        min (run.scorer.scoreOf region) run.scorer.decayRate := by
  obtain ⟨state, isState⟩ := Option.isSome_iff_exists.mp known
  have score : run.scorer.scoreOf region = state.score := by simp [scoreOf, isState]
  rw [score]
  exact obeys region state isState

/-- After every run of the scorer, whatever the rate of decay: a decay leaves the scores of the
regions that an article arrived for since the last one, and takes the rate off the others, exactly
when the former have a risk that stays and the latter one that falls. -/
theorem decay_obeys_iff (decayRate : ℚ) (calls : List ScorerCall) (now : ℚ) :
    (Machines.after step { scorer := { decayRate } } calls).ObeysDecay now ↔
      (Machines.after step { scorer := { decayRate } } calls).FitsDecay := by
  have kept : ∀ (run : ScorerRun) (call : ScorerCall), run.scorer.Sound →
      (run.step call).scorer.Sound := fun _ call sound => sound.call call
  have sound : (Machines.after step { scorer := { decayRate } } calls).scorer.Sound :=
    Machines.after_keeps_always kept calls (sound_new decayRate)
  exact obeys_decay_iff sound now

/-- An article for Asia, and a decay: the score falls although an article arrived. Five articles
for Asia, a decay and another one: the score stays although none arrived between them. -/
theorem decay_disobeys :
    ¬(Machines.after step { scorer := {} }
        [.processArticle ⟨"a", "Asia", .armedConflict, 1, 0⟩]).ObeysDecay 300 ∧
      ¬(Machines.after step { scorer := {} }
        [.processArticles (List.replicate 4 ⟨"a", "Asia", .armedConflict, 1, 0⟩ ++
          [⟨"b", "Asia", .sanctions, 1, 0⟩]), .applyDecay 300]).ObeysDecay 600 := by
  constructor
  · intro obeys
    exact absurd (obeys.score_of "Asia" (by decide +kernel)) (by decide +kernel)
  · intro obeys
    exact absurd (obeys.score_of "Asia" (by decide +kernel)) (by decide +kernel)

end ScorerRun

end IgTradingBot
