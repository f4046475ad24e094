import Mathlib.Algebra.Order.Field.Rat
import Mathlib.Algebra.Order.Floor.Semiring
import Mathlib.Data.Rat.Floor
import Mathlib.Tactic.NormNum

/-!
# Research frames and labels

The configuration of `src/research/config.py`, and the labels and the chronological split of
`src/research/training.py`. A frame is a list of bars with their features; the average true range of a
bar may be missing. Numbers are exact.
-/

namespace IgTradingBot

/-- Execution cost assumptions used by research backtests. -/
structure CostConfig where
  spreadPips : ℚ := 1
  slippagePips : ℚ := 3 / 10
  commissionPerLot : ℚ := 0
  deriving DecidableEq, Repr

/-- Portfolio limits used by the research simulator. -/
structure RiskConfig where
  initialEquity : ℚ := 20000
  riskPerTrade : ℚ := 5 / 1000
  maxDailyLoss : ℚ := 2 / 100
  maxTradesPerDay : ℤ := 10
  maxConsecutiveLosses : ℤ := 3
  leverage : ℚ := 20
  deriving DecidableEq, Repr

/-- Label and model parameters. -/
structure ModelConfig where
  horizonBars : ℕ := 60
  stopAtr : ℚ := 3 / 2
  targetAtr : ℚ := 3
  minProbability : ℚ := 58 / 100
  trainFraction : ℚ := 7 / 10
  validationFraction : ℚ := 15 / 100
  deriving DecidableEq, Repr

/-- The configuration of a research run. The fractions of the splits leave an out-of-sample part, or
there is no configuration. -/
structure ResearchConfig where
  pair : String := "EURUSD"
  costs : CostConfig := {}
  risk : RiskConfig := {}
  model : ModelConfig := {}
  train_fraction_valid : 0 < model.trainFraction ∧ model.trainFraction < 1 := by norm_num
  validation_fraction_valid :
    0 < model.validationFraction ∧ model.validationFraction < 1 := by norm_num
  leaves_test : model.trainFraction + model.validationFraction < 1 := by norm_num

/-- A bar of a frame, with its average true range, its spread and its other columns. -/
structure ResearchBar (ρ : Type) where
  timestamp : ℚ
  openPrice : ℚ
  high : ℚ
  low : ℚ
  close : ℚ
  atr14 : Option ℚ
  spreadEstimate : Option ℚ := none
  columns : ρ
  deriving DecidableEq, Repr

/-- A bar with the label that tells how it goes on, if it has one. -/
structure LabeledBar (ρ : Type) where
  bar : ResearchBar ρ
  target : Option ℕ
  deriving DecidableEq, Repr

/-- The three parts of a chronological split. -/
structure Split (α : Type) where
  train : List α
  validation : List α
  test : List α
  deriving DecidableEq, Repr

namespace Training

variable {ρ : Type}

/-- The average true range at which the barriers of a bar are laid, if it is there and positive. -/
def barrierRange (bar : ResearchBar ρ) : Option ℚ := bar.atr14.filter fun atr => 0 < atr

/-- The upper barrier of a bar. -/
def upperBarrier (targetAtr : ℚ) (bar : ResearchBar ρ) (atr : ℚ) : ℚ := bar.close + targetAtr * atr

/-- The lower barrier of a bar. -/
def lowerBarrier (stopAtr : ℚ) (bar : ResearchBar ρ) (atr : ℚ) : ℚ := bar.close - stopAtr * atr

/-- The label that a later bar decides, if it hits a barrier. -/
def barrierLabel (upper lower : ℚ) (future : ResearchBar ρ) : Option ℕ :=
  if upper ≤ future.high ∧ future.low ≤ lower then some 0
  else if upper ≤ future.high then some 1
  else if future.low ≤ lower then some 0
  else none

/-- The label of the first bar that decides one. -/
def firstLabel (upper lower : ℚ) : List (ResearchBar ρ) → Option ℕ
  | [] => none
  | future :: rest =>
    match barrierLabel upper lower future with
    | some label => some label
    | none => firstLabel upper lower rest

/-- The label of a bar, from the bars after it. There is none in the final horizon, or without a
positive range; and where no barrier is reached, the close at the horizon decides. -/
def label (horizonBars : ℕ) (stopAtr targetAtr : ℚ) (bar : ResearchBar ρ)
    (later : List (ResearchBar ρ)) : Option ℕ :=
  if later.length < horizonBars then none
  else
    (barrierRange bar).bind fun atr =>
      match firstLabel (upperBarrier targetAtr bar atr) (lowerBarrier stopAtr bar atr)
          (later.take horizonBars) with
      | some decided => some decided
      | none => ((bar :: later)[horizonBars]?).map fun last => if bar.close < last.close then 1 else 0

/-- Label whether an upward target is hit before a downward stop. -/
def addTripleBarrierLabels (horizonBars : ℕ) (stopAtr targetAtr : ℚ) :
    List (ResearchBar ρ) → List (LabeledBar ρ)
  | [] => []
  | bar :: later =>
    ⟨bar, label horizonBars stopAtr targetAtr bar later⟩ ::
      addTripleBarrierLabels horizonBars stopAtr targetAtr later

/-- The rows with a label. -/
def clean (frame : List (LabeledBar ρ)) : List (LabeledBar ρ) :=
  frame.filter fun row => row.target.isSome

/-- Where the training part ends, of a number of rows. -/
def trainEnd (config : ResearchConfig) (rows : ℕ) : ℕ := ⌊rows * config.model.trainFraction⌋₊

/-- Where the validation part ends, of a number of rows. -/
def validationEnd (config : ResearchConfig) (rows : ℕ) : ℕ :=
  ⌊rows * (config.model.trainFraction + config.model.validationFraction)⌋₊

/-- Split the labelled rows into the past, what follows it, and the rest. -/
def split (config : ResearchConfig) (frame : List (LabeledBar ρ)) : Split (LabeledBar ρ) :=
  let rows := clean frame
  let first := trainEnd config rows.length
  let second := validationEnd config rows.length
  { train := rows.take first
    validation := (rows.take second).drop first
    test := rows.drop second }

/-- The labelled frame of a configuration. -/
def labeled (config : ResearchConfig) (frame : List (ResearchBar ρ)) : List (LabeledBar ρ) :=
  addTripleBarrierLabels config.model.horizonBars config.model.stopAtr config.model.targetAtr frame

/-- A range at which barriers can be laid. -/
def isPositiveRange (range : Option ℚ) : Bool := range.any fun atr => 0 < atr

section Labels

variable {horizonBars : ℕ} {stopAtr targetAtr : ℚ} {bar : ResearchBar ρ}
  {later frame : List (ResearchBar ρ)}

/-- The labelled bars are those of the frame. -/
@[simp] theorem labels_map_bar (horizonBars : ℕ) (stopAtr targetAtr : ℚ)
    (frame : List (ResearchBar ρ)) :
    (addTripleBarrierLabels horizonBars stopAtr targetAtr frame).map LabeledBar.bar = frame := by
  induction frame with
  | nil => rfl
  | cons bar rest inductionHypothesis => rw [addTripleBarrierLabels, List.map_cons, inductionHypothesis]

/-- A bar has a label when its range is positive and the horizon lies within the frame. -/
theorem label_is_some (horizonBars : ℕ) (stopAtr targetAtr : ℚ) (bar : ResearchBar ρ)
    (later : List (ResearchBar ρ)) :
    (label horizonBars stopAtr targetAtr bar later).isSome =
      (decide (horizonBars ≤ later.length) && isPositiveRange bar.atr14) := by
  unfold label
  by_cases short : later.length < horizonBars
  · simp [short]
  · rw [if_neg short]
    have enough : horizonBars ≤ later.length := not_lt.mp short
    cases range : bar.atr14 with
    | none => simp [barrierRange, isPositiveRange, range]
    | some atr =>
      by_cases positive : 0 < atr
      · simp only [barrierRange, range, isPositiveRange, Option.filter_some, positive, decide_true,
          if_true, Option.bind_some, Option.any_some, enough, Bool.and_self]
        split
        · rfl
        · have inside : horizonBars < (bar :: later).length := by
            rw [List.length_cons]
            omega
          rw [List.getElem?_eq_getElem inside]
          rfl
      · simp [barrierRange, range, isPositiveRange, positive]

/-- The label of a row comes from the bars after it. -/
theorem target_of_split {before after : List (LabeledBar ρ)} {row : LabeledBar ρ}
    (parts : addTripleBarrierLabels horizonBars stopAtr targetAtr frame = before ++ row :: after) :
    row.target = label horizonBars stopAtr targetAtr row.bar (after.map LabeledBar.bar) := by
  induction before generalizing frame with
  | nil =>
    cases frame with
    | nil => cases parts
    | cons bar rest =>
      obtain ⟨rfl, rfl⟩ := List.cons.inj parts
      rw [labels_map_bar]
  | cons first others inductionHypothesis =>
    cases frame with
    | nil => cases parts
    | cons bar rest => exact inductionHypothesis (List.cons.inj parts).2

end Labels

end Training

end IgTradingBot
