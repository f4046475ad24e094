import IgTradingBot.Config.Constants
import IgTradingBot.Library.Decimals

/-!
# Position sizer

The size of `src/risk/position_sizer.py`: risk amount over stop distance, all
reduction factors multiplied, rounded down to hundredths, then checked against
the cap and the minimum lot. The quotient is exact; the source's decimal context
carries 28 digits.
-/

namespace IgTradingBot

/-- A multiplicative reduction of a size. -/
structure ReductionFactor where
  source : String
  factor : ℚ
  reason : String
  deriving DecidableEq, Repr

/-- Result of one sizing; an accepted result carries a size. -/
structure PositionSizeResult where
  size : Option ℚ
  rejected : Bool
  rejectionReason : Option String := none
  appliedReductions : List ReductionFactor := []
  deriving DecidableEq, Repr

namespace PositionSizer

/-- Smallest size that is traded unless a caller asks for another. -/
def minLotSizeDefault : ℚ := 1 / 100

/-- The reduction for a volatility score above the threshold. -/
def volatilityReduction (zscore : ℚ) : ReductionFactor :=
  ⟨"volatility", Constants.volatilitySizeReductionFactor,
    "ATR z-score " ++ Decimals.fixed 2 zscore ++ " exceeds threshold 2.0; reducing size by 50%"⟩

/-- The factors of one sizing: volatility first, then the caller's. -/
def appliedFactors (zscore : ℚ) (reductionFactors : List ReductionFactor) :
    List ReductionFactor :=
  (if Constants.atrVolatilityZscoreThreshold < zscore then [volatilityReduction zscore] else []) ++
    reductionFactors

/-- Multiply a size by the factors in their order. -/
def applyFactors (baseSize : ℚ) (factors : List ReductionFactor) : ℚ :=
  factors.foldl (fun size reduction => size * reduction.factor) baseSize

/-- A rejection with its text. -/
def rejection (reason : String) (applied : List ReductionFactor) : PositionSizeResult :=
  ⟨none, true, some reason, applied⟩

/-- Size a position, or reject it with the first reason that applies. -/
def calculateSize (accountEquity riskPct atr atrMultiplier zscore : ℚ)
    (reductionFactors : List ReductionFactor) (minLotSize : ℚ := minLotSizeDefault) :
    PositionSizeResult :=
  if accountEquity ≤ 0 then rejection "account equity must be positive" []
  else if riskPct ≤ 0 ∨ Constants.maxPositionSizePct < riskPct then
    rejection "risk percentage must be between 0 (exclusive) and 5% (inclusive)" []
  else if atr ≤ 0 then rejection "insufficient volatility data" []
  else
    let baseSize := accountEquity * riskPct / (atr * atrMultiplier)
    let applied := appliedFactors zscore reductionFactors
    let finalSize := Decimals.quantizeDown 2 (applyFactors baseSize applied)
    if accountEquity * Constants.maxPositionSizePct < finalSize then
      rejection "position size limit exceeded" applied
    else if finalSize < minLotSize then rejection "below minimum lot size" applied
    else ⟨some finalSize, false, none, applied⟩

/-- Multiplying in order is multiplying by the product. -/
theorem apply_factors_eq (baseSize : ℚ) (factors : List ReductionFactor) :
    applyFactors baseSize factors = baseSize * (factors.map (·.factor)).prod := by
  induction factors generalizing baseSize with
  | nil => simp [applyFactors]
  | cons reduction rest inductionHypothesis =>
    have rest := inductionHypothesis (baseSize * reduction.factor)
    simp only [applyFactors, List.foldl_cons, List.map_cons, List.prod_cons] at rest ⊢
    rw [rest, mul_assoc]

/-- The product of factors between zero and one lies between zero and one. -/
theorem factors_product_bounds (factors : List ReductionFactor)
    (bounded : ∀ reduction ∈ factors, 0 ≤ reduction.factor ∧ reduction.factor ≤ 1) :
    0 ≤ (factors.map (·.factor)).prod ∧ (factors.map (·.factor)).prod ≤ 1 := by
  induction factors with
  | nil => simp
  | cons reduction rest inductionHypothesis =>
    obtain ⟨nonneg, atMostOne⟩ := bounded reduction List.mem_cons_self
    obtain ⟨restNonneg, restAtMostOne⟩ := inductionHypothesis
      fun later member => bounded later (List.mem_cons_of_mem reduction member)
    rw [List.map_cons, List.prod_cons]
    exact ⟨mul_nonneg nonneg restNonneg, mul_le_one₀ atMostOne restNonneg restAtMostOne⟩

/-- What an accepted sizing has checked, and the size it returns: the quantized
product of the base size and the applied factors. -/
theorem calculate_size_accepted (accountEquity riskPct atr atrMultiplier zscore minLotSize : ℚ)
    (factors : List ReductionFactor)
    (accepted : (calculateSize accountEquity riskPct atr atrMultiplier zscore factors
      minLotSize).rejected = false) :
    ∃ size,
      calculateSize accountEquity riskPct atr atrMultiplier zscore factors minLotSize =
        ⟨some size, false, none, appliedFactors zscore factors⟩ ∧
      size = Decimals.quantizeDown 2
        (applyFactors (accountEquity * riskPct / (atr * atrMultiplier))
          (appliedFactors zscore factors)) ∧
      0 < accountEquity ∧ 0 < riskPct ∧ riskPct ≤ Constants.maxPositionSizePct ∧ 0 < atr ∧
      minLotSize ≤ size ∧ size ≤ accountEquity * Constants.maxPositionSizePct := by
  simp only [calculateSize] at accepted ⊢
  split_ifs at accepted ⊢ with noEquity badRisk noAtr overCap belowLot
  · simp [rejection] at accepted
  · simp [rejection] at accepted
  · simp [rejection] at accepted
  · simp [rejection] at accepted
  · simp [rejection] at accepted
  · obtain ⟨positiveRisk, boundedRisk⟩ := not_or.mp badRisk
    exact ⟨_, rfl, rfl, not_le.mp noEquity, not_le.mp positiveRisk, not_lt.mp boundedRisk,
      not_le.mp noAtr, not_lt.mp belowLot, not_lt.mp overCap⟩

end PositionSizer

end IgTradingBot
