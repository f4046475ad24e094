import IgTradingBot.Config.Constants
import IgTradingBot.Library.WeightedMeans
import Mathlib.Algebra.Order.Field.Rat
import Mathlib.Data.List.Nodup
import Mathlib.Tactic.Linarith
import Mathlib.Tactic.NormNum

/-!
# Model ensemble

`src/strategy/ml/ensemble.py`: models are weighted by their accuracy, those below the threshold have
no weight, and the weighted predictions of the others make a consensus. A model may fail to predict.
The three dictionaries of the ensemble have the same names in the same order, so that one table
stands for them. Numbers are exact.
-/

namespace IgTradingBot

open WeightedMeans

/-- A direction of the market. -/
inductive PredictedDirection where
  | long
  | short
  | neutral
  deriving DecidableEq, Repr

namespace PredictedDirection

/-- The opposite direction. -/
def swap : PredictedDirection → PredictedDirection
  | long => short
  | short => long
  | neutral => neutral

/-- The number of a direction. -/
def sign : PredictedDirection → ℚ
  | long => 1
  | short => -1
  | neutral => 0

theorem sign_swap (direction : PredictedDirection) : direction.swap.sign = -direction.sign := by
  cases direction <;> simp [swap, sign]

end PredictedDirection

/-- Prediction of a model; one with another confidence cannot be constructed. -/
structure ModelPrediction where
  direction : PredictedDirection
  confidence : ℚ
  inRange : 0 ≤ confidence ∧ confidence ≤ 1
  deriving DecidableEq

/-- The same prediction of the opposite direction. -/
def ModelPrediction.swap (prediction : ModelPrediction) : ModelPrediction :=
  { prediction with direction := prediction.direction.swap }

/-- Combined prediction, with those of the models that did not fail. -/
structure EnsemblePrediction where
  direction : PredictedDirection
  confidence : ℚ
  modelPredictions : List (String × ModelPrediction) := []
  abstained : Bool := false
  deriving DecidableEq

/-- What the ensemble keeps of a model. -/
structure RegisteredModel where
  name : String
  weight : ℚ := 0
  accuracy : ℚ := 0
  deriving DecidableEq, Repr

/-- Models under different names, in the order of their registration. -/
structure MLEnsemble where
  models : List RegisteredModel := []
  distinct : (models.map (·.name)).Nodup := by simp

namespace MLEnsemble

/-- Change the models and keep their names. -/
def mapModels (change : RegisteredModel → RegisteredModel)
    (sameName : ∀ model, (change model).name = model.name) (ensemble : MLEnsemble) : MLEnsemble where
  models := ensemble.models.map change
  distinct := by
    rw [List.map_map, show (·.name) ∘ change = (·.name) from funext sameName]
    exact ensemble.distinct

/-- Register a model. A name that is registered already starts anew at its place. -/
def registerModel (name : String) (ensemble : MLEnsemble) : MLEnsemble :=
  if registered : name ∈ ensemble.models.map (·.name) then
    ensemble.mapModels (fun model => if model.name = name then { name } else model) fun model => by
      split_ifs with same
      · exact same.symm
      · rfl
  else
    { models := ensemble.models ++ [{ name }]
      distinct := by
        rw [List.map_append]
        exact List.nodup_append'.mpr ⟨ensemble.distinct, List.nodup_singleton _,
          List.disjoint_singleton.mpr registered⟩ }

/-- A model takes part when it is accurate enough. -/
def Qualifies (model : RegisteredModel) : Prop := Constants.mlAccuracyThreshold ≤ model.accuracy

instance (model : RegisteredModel) : Decidable (Qualifies model) :=
  inferInstanceAs (Decidable (_ ≤ _))

/-- Read the accuracies of the models. -/
def readAccuracies (accuracyOf : String → ℚ) (ensemble : MLEnsemble) : MLEnsemble :=
  ensemble.mapModels (fun model => { model with accuracy := accuracyOf model.name }) fun _ => rfl

/-- Recalculate the weights by the accuracies of the models. -/
def updateWeights (accuracyOf : String → ℚ) (ensemble : MLEnsemble) : MLEnsemble :=
  let measured := ensemble.readAccuracies accuracyOf
  let qualifying := measured.models.filter fun model => Qualifies model
  if qualifying = [] then measured.mapModels (fun model => { model with weight := 0 }) fun _ => rfl
  else
    let totalAccuracy := total (·.accuracy) qualifying
    measured.mapModels
      (fun model =>
        { model with weight := if Qualifies model then model.accuracy / totalAccuracy else 0 })
      fun _ => rfl

/-- The models with a weight that predict, with their predictions. -/
def participants (predictionOf : String → Option ModelPrediction) (ensemble : MLEnsemble) :
    List (ℚ × ModelPrediction) :=
  (ensemble.models.filter fun model => 0 < model.weight).filterMap fun model =>
    (predictionOf model.name).map fun prediction => (model.weight, prediction)

/-- What a prediction adds to the score. -/
def scoreOf (participant : ℚ × ModelPrediction) : ℚ :=
  participant.2.direction.sign * participant.2.confidence

/-- Direction of a score. -/
def consensus (weightedScore : ℚ) : PredictedDirection :=
  if 0 < weightedScore then .long else if weightedScore < 0 then .short else .neutral

/-- The weighted prediction of the ensemble. A model that fails has no prediction. -/
def predict (predictionOf : String → Option ModelPrediction) (ensemble : MLEnsemble) :
    EnsemblePrediction :=
  if ensemble.models = [] then { direction := .neutral, confidence := 0, abstained := true }
  else
    let modelPredictions := ensemble.models.filterMap fun model =>
      (predictionOf model.name).map fun prediction => (model.name, prediction)
    let active := ensemble.participants predictionOf
    if active = [] then
      { direction := .neutral, confidence := 0, modelPredictions, abstained := true }
    else
      { direction := consensus (mean Prod.fst scoreOf active)
        confidence := mean Prod.fst (·.2.confidence) active
        modelPredictions }

/-- Every model predicts the opposite direction. -/
def swapped (predictionOf : String → Option ModelPrediction) : String → Option ModelPrediction :=
  fun name => (predictionOf name).map ModelPrediction.swap

section Weights

variable {ensemble : MLEnsemble}

/-- After an update the weight of a model is its share of the qualifying accuracies, or zero. -/
theorem update_weights_models (accuracyOf : String → ℚ) (ensemble : MLEnsemble) :
    (ensemble.updateWeights accuracyOf).models =
      (ensemble.readAccuracies accuracyOf).models.map fun model =>
        { model with
          weight := if Qualifies model then model.accuracy /
            total (·.accuracy) ((ensemble.readAccuracies accuracyOf).models.filter fun model =>
              Qualifies model) else 0 } := by
  unfold updateWeights
  dsimp only
  split_ifs with none
  · apply List.map_congr_left
    intro model among
    have unqualified : ¬Qualifies model := by
      simpa using List.filter_eq_nil_iff.mp none model among
    rw [if_neg unqualified]
  · rfl

/-- Models that qualify have positive accuracies. -/
theorem qualifying_positive (models : List RegisteredModel) :
    ∀ model ∈ models.filter fun model => Qualifies model, 0 < model.accuracy := by
  intro model among
  have qualifies : Qualifies model := by simpa using (List.mem_filter.mp among).2
  unfold Qualifies Constants.mlAccuracyThreshold at qualifies
  linarith only [qualifies]

/-- Whatever the accuracies, no weight is negative, and exactly the models from the threshold on
have a positive one. -/
theorem update_weights_positive_iff (accuracyOf : String → ℚ) {model : RegisteredModel}
    (among : model ∈ (ensemble.updateWeights accuracyOf).models) :
    0 ≤ model.weight ∧
      (0 < model.weight ↔ Constants.mlAccuracyThreshold ≤ accuracyOf model.name) := by
  rw [update_weights_models, readAccuracies, mapModels, List.map_map] at among
  obtain ⟨registered, isRegistered, rfl⟩ := List.mem_map.mp among
  have measured : { registered with accuracy := accuracyOf registered.name } ∈
      ensemble.models.map fun model => { model with accuracy := accuracyOf model.name } :=
    List.mem_map_of_mem isRegistered
  simp only [Function.comp_apply]
  by_cases qualifies : Qualifies { registered with accuracy := accuracyOf registered.name }
  · have share := share_pos (qualifying_positive _)
      (List.mem_filter.mpr ⟨measured, decide_eq_true qualifies⟩)
    rw [if_pos qualifies]
    exact ⟨share.le, iff_of_true share qualifies⟩
  · rw [if_neg qualifies]
    exact ⟨le_refl 0, iff_of_false (lt_irrefl 0) qualifies⟩

/-- Whatever the accuracies, the weights are all zero or sum to one. -/
theorem update_weights_sum (accuracyOf : String → ℚ) (ensemble : MLEnsemble) :
    (∀ model ∈ (ensemble.updateWeights accuracyOf).models, model.weight = 0) ∨
      ((ensemble.updateWeights accuracyOf).models.map (·.weight)).sum = 1 := by
  rw [update_weights_models]
  by_cases none : (ensemble.readAccuracies accuracyOf).models.filter (fun model => Qualifies model) = []
  · refine .inl fun model among => ?_
    obtain ⟨measured, isMeasured, rfl⟩ := List.mem_map.mp among
    have unqualified : ¬Qualifies measured := by
      simpa using List.filter_eq_nil_iff.mp none measured isMeasured
    exact if_neg unqualified
  · have whole := (total_pos (qualifying_positive _) none).ne'
    rw [List.map_map]
    simp only [Function.comp_def]
    rw [List.sum_map_ite, shares_sum whole]
    simp

end Weights

section Predictions

variable {ensemble : MLEnsemble} {predictionOf : String → Option ModelPrediction}

/-- Every participant has a positive weight. -/
theorem participants_positive :
    ∀ participant ∈ ensemble.participants predictionOf, 0 < participant.1 := by
  intro participant among
  obtain ⟨model, picked, predicted⟩ := List.mem_filterMap.mp among
  obtain ⟨prediction, _, rfl⟩ := Option.map_eq_some_iff.mp predicted
  simpa using (List.mem_filter.mp picked).2

/-- The participants of the opposite predictions. -/
theorem participants_swapped (predictionOf : String → Option ModelPrediction)
    (ensemble : MLEnsemble) :
    ensemble.participants (swapped predictionOf) =
      (ensemble.participants predictionOf).map fun participant =>
        (participant.1, participant.2.swap) := by
  rw [participants, participants, List.map_filterMap]
  simp only [swapped, Option.map_map, Function.comp_def]

/-- The opposite score has the opposite direction. -/
theorem consensus_neg (weightedScore : ℚ) :
    consensus (-weightedScore) = (consensus weightedScore).swap := by
  unfold consensus
  rcases lt_trichotomy weightedScore 0 with negative | zero | positive
  · simp [negative, negative.le.not_gt, PredictedDirection.swap]
  · simp [zero, PredictedDirection.swap]
  · simp [positive, positive.le.not_gt, PredictedDirection.swap]

/-- An ensemble that does not abstain has participants. -/
theorem participants_of_decided (decided : (ensemble.predict predictionOf).abstained = false) :
    ensemble.participants predictionOf ≠ [] := by
  intro inactive
  by_cases empty : ensemble.models = []
  · simp [predict, empty] at decided
  · simp [predict, empty, inactive] at decided

/-- With participants the prediction is made of their means. -/
theorem predict_of_participants (active : ensemble.participants predictionOf ≠ []) :
    (ensemble.predict predictionOf).direction =
        consensus (mean Prod.fst scoreOf (ensemble.participants predictionOf)) ∧
      (ensemble.predict predictionOf).confidence =
        mean Prod.fst (·.2.confidence) (ensemble.participants predictionOf) ∧
      (ensemble.predict predictionOf).abstained = false := by
  have registered : ensemble.models ≠ [] := by
    intro empty
    exact active (by simp [participants, empty])
  simp only [predict, if_neg registered, if_neg active]
  exact ⟨trivial, trivial, trivial⟩

/-- The confidence lies between those of two participants. -/
theorem confidence_between (decided : (ensemble.predict predictionOf).abstained = false) :
    (∃ least ∈ ensemble.participants predictionOf,
        least.2.confidence ≤ (ensemble.predict predictionOf).confidence) ∧
      ∃ greatest ∈ ensemble.participants predictionOf,
        (ensemble.predict predictionOf).confidence ≤ greatest.2.confidence := by
  have active := participants_of_decided decided
  rw [(predict_of_participants active).2.1]
  exact mean_between participants_positive active

/-- The opposite predictions make the opposite prediction with the same confidence. -/
theorem predict_swapped (decided : (ensemble.predict predictionOf).abstained = false) :
    (ensemble.predict (swapped predictionOf)).direction =
        (ensemble.predict predictionOf).direction.swap ∧
      (ensemble.predict (swapped predictionOf)).confidence =
        (ensemble.predict predictionOf).confidence ∧
      (ensemble.predict (swapped predictionOf)).abstained = false := by
  have active := participants_of_decided decided
  have alsoActive : ensemble.participants (swapped predictionOf) ≠ [] := by
    rw [participants_swapped]
    simpa using active
  obtain ⟨direction, confidence, _⟩ := predict_of_participants active
  obtain ⟨opposite, same, alsoDecided⟩ := predict_of_participants alsoActive
  rw [participants_swapped, mean_map] at opposite same
  have scores : mean (fun participant : ℚ × ModelPrediction => participant.1)
      (fun participant => scoreOf (participant.1, participant.2.swap))
      (ensemble.participants predictionOf) =
        -mean Prod.fst scoreOf (ensemble.participants predictionOf) := by
    rw [← mean_neg]
    simp only [scoreOf, ModelPrediction.swap, PredictedDirection.sign_swap, neg_mul]
  refine ⟨?_, same.trans confidence.symm, alsoDecided⟩
  rw [opposite, direction, ← consensus_neg, ← scores]

end Predictions

/-- For all accuracies no weight is negative, exactly the models from the threshold on have a positive
one, and the weights are all zero or sum to one. For all predictions with which an ensemble, whatever
its weights, does not abstain, its confidence lies between those of two participants, and the opposite
predictions make the opposite prediction with the same confidence. -/
theorem weights_and_votes (ensemble weighted : MLEnsemble) (accuracyOf : String → ℚ)
    (predictionOf : String → Option ModelPrediction)
    (decided : (weighted.predict predictionOf).abstained = false) :
    ((∀ model ∈ (ensemble.updateWeights accuracyOf).models, 0 ≤ model.weight ∧
          (0 < model.weight ↔ Constants.mlAccuracyThreshold ≤ accuracyOf model.name)) ∧
        ((∀ model ∈ (ensemble.updateWeights accuracyOf).models, model.weight = 0) ∨
          ((ensemble.updateWeights accuracyOf).models.map (·.weight)).sum = 1)) ∧
      ((∃ least ∈ weighted.participants predictionOf,
          least.2.confidence ≤ (weighted.predict predictionOf).confidence) ∧
        ∃ greatest ∈ weighted.participants predictionOf,
          (weighted.predict predictionOf).confidence ≤ greatest.2.confidence) ∧
      ((weighted.predict (swapped predictionOf)).direction =
          (weighted.predict predictionOf).direction.swap ∧
        (weighted.predict (swapped predictionOf)).confidence =
          (weighted.predict predictionOf).confidence ∧
        (weighted.predict (swapped predictionOf)).abstained = false) :=
  ⟨⟨fun _ among => update_weights_positive_iff accuracyOf among,
      update_weights_sum accuracyOf ensemble⟩,
    confidence_between decided, predict_swapped decided⟩

/-- Two models that differ, and one that is not accurate enough. -/
def mixedEnsemble : MLEnsemble :=
  ((({} : MLEnsemble).registerModel "lstm").registerModel "xgboost").registerModel "noise"

/-- Their accuracies. -/
def mixedAccuracies (name : String) : ℚ :=
  if name = "lstm" then 60 / 100 else if name = "xgboost" then 55 / 100 else 50 / 100

/-- Their predictions; the model without a weight fails. -/
def mixedPredictions (name : String) : Option ModelPrediction :=
  if name = "lstm" then some ⟨.long, 8 / 10, by norm_num⟩
  else if name = "xgboost" then some ⟨.short, 6 / 10, by norm_num⟩
  else none

/-- The more accurate of the two models decides, and the opposite predictions are decided the other
way. -/
theorem mixed_votes :
    ((mixedEnsemble.updateWeights mixedAccuracies).predict mixedPredictions).direction = .long ∧
      ((mixedEnsemble.updateWeights mixedAccuracies).predict
        (swapped mixedPredictions)).direction = .short := by
  have decided : ((mixedEnsemble.updateWeights mixedAccuracies).predict
      mixedPredictions).abstained = false := by decide +kernel
  have long : ((mixedEnsemble.updateWeights mixedAccuracies).predict
      mixedPredictions).direction = .long := by decide +kernel
  have opposite := (weights_and_votes mixedEnsemble (mixedEnsemble.updateWeights mixedAccuracies)
    mixedAccuracies mixedPredictions decided).2.2.1
  rw [long] at opposite
  exact ⟨long, opposite⟩

end MLEnsemble

end IgTradingBot
