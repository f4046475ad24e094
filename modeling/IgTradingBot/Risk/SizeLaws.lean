import IgTradingBot.Risk.Approval
import Mathlib.Algebra.BigOperators.Group.List.Basic

/-!
# Laws of the position size

A size is decided by the product of its factors alone: their order does not
matter, and a further factor of at most one never makes it larger. The rounding
to hundredths, the cap and the minimum lot keep both laws.
-/

namespace IgTradingBot

namespace PositionSizer

open RiskEngine

/-- Size before rounding: the base size times the applied factors. -/
def exactSize (accountEquity riskPct atr atrMultiplier zscore : ℚ)
    (reductionFactors : List ReductionFactor) : ℚ :=
  accountEquity * riskPct / (atr * atrMultiplier) *
    ((appliedFactors zscore reductionFactors).map ReductionFactor.factor).prod

/-- Factors in another order are applied in another order. -/
theorem applied_factors_perm (zscore : ℚ) {factors others : List ReductionFactor}
    (same : factors.Perm others) :
    (appliedFactors zscore factors).Perm (appliedFactors zscore others) :=
  same.append_left _

section Sizing

variable {accountEquity riskPct atr atrMultiplier zscore minLotSize : ℚ}
  {factors : List ReductionFactor}

/-- An accepted size has passed the checks on its inputs and is the exact size
rounded down to hundredths. -/
theorem size_accepted {size : ℚ}
    (accepted : (calculateSize accountEquity riskPct atr atrMultiplier zscore factors
      minLotSize).size = some size) :
    (calculateSize accountEquity riskPct atr atrMultiplier zscore factors
        minLotSize).appliedReductions = appliedFactors zscore factors ∧
      size = Decimals.quantizeDown 2
        (exactSize accountEquity riskPct atr atrMultiplier zscore factors) ∧
      0 < accountEquity ∧ 0 < riskPct ∧ 0 < atr ∧ minLotSize ≤ size ∧
      size ≤ accountEquity * Constants.maxPositionSizePct := by
  have notRejected : (calculateSize accountEquity riskPct atr atrMultiplier zscore factors
      minLotSize).rejected = false := by
    simp only [calculateSize] at accepted ⊢
    split_ifs at accepted ⊢ <;> first | rfl | simp [rejection] at accepted
  obtain ⟨returned, answer, rounded, equity, risk, _, range, lot, cap⟩ :=
    calculate_size_accepted _ _ _ _ _ _ _ notRejected
  rw [answer] at accepted ⊢
  obtain rfl := Option.some.inj accepted
  refine ⟨rfl, ?_, equity, risk, range, lot, cap⟩
  rw [rounded, apply_factors_eq]
  rfl

/-- For a positive multiplier and factors between zero and one, the exact size is not negative. -/
theorem exact_size_nonneg (equity : 0 < accountEquity) (risk : 0 < riskPct) (range : 0 < atr)
    (multiplier : 0 < atrMultiplier) (shrinking : Shrinking factors) :
    0 ≤ exactSize accountEquity riskPct atr atrMultiplier zscore factors := by
  have product := (factors_product_bounds _ (applied_factors_shrinking zscore _ shrinking)).1
  have base : 0 ≤ accountEquity * riskPct / (atr * atrMultiplier) := by positivity
  exact mul_nonneg base product

/-- The exact size depends on the product of the factors only. -/
theorem exact_size_perm {others : List ReductionFactor} (same : factors.Perm others) :
    exactSize accountEquity riskPct atr atrMultiplier zscore factors =
      exactSize accountEquity riskPct atr atrMultiplier zscore others := by
  have products := ((applied_factors_perm zscore same).map ReductionFactor.factor).prod_eq
  rw [exactSize, exactSize, products]

/-- One more factor multiplies the exact size. -/
theorem exact_size_cons (extra : ReductionFactor) :
    exactSize accountEquity riskPct atr atrMultiplier zscore (extra :: factors) =
      exactSize accountEquity riskPct atr atrMultiplier zscore factors * extra.factor := by
  have applied : (appliedFactors zscore (extra :: factors)).Perm
      (extra :: appliedFactors zscore factors) := List.perm_middle
  rw [exactSize, (applied.map ReductionFactor.factor).prod_eq, List.map_cons, List.prod_cons,
    exactSize]
  ring

/-- The verdict on a size, by its cap and its lot: everything but the list of the applied
factors depends on the exact size only. -/
theorem calculate_size_perm {others : List ReductionFactor} (same : factors.Perm others) :
    let result := calculateSize accountEquity riskPct atr atrMultiplier zscore factors minLotSize
    let reordered := calculateSize accountEquity riskPct atr atrMultiplier zscore others minLotSize
    reordered.size = result.size ∧ reordered.rejected = result.rejected ∧
      reordered.rejectionReason = result.rejectionReason ∧
      reordered.appliedReductions.Perm result.appliedReductions := by
  have applied := (applied_factors_perm zscore same).symm
  have sizes : applyFactors (accountEquity * riskPct / (atr * atrMultiplier))
        (appliedFactors zscore others) =
      applyFactors (accountEquity * riskPct / (atr * atrMultiplier))
        (appliedFactors zscore factors) := by
    rw [apply_factors_eq, apply_factors_eq, (applied.map ReductionFactor.factor).prod_eq]
  simp only [calculateSize, sizes]
  split_ifs
  · exact ⟨rfl, rfl, rfl, List.Perm.refl _⟩
  · exact ⟨rfl, rfl, rfl, List.Perm.refl _⟩
  · exact ⟨rfl, rfl, rfl, List.Perm.refl _⟩
  · exact ⟨rfl, rfl, rfl, applied⟩
  · exact ⟨rfl, rfl, rfl, applied⟩
  · exact ⟨rfl, rfl, rfl, applied⟩

/-- One more factor never increases an accepted size. -/
theorem size_le_of_extra_factor (multiplier : 0 < atrMultiplier)
    (shrinking : Shrinking factors) {extra : ReductionFactor}
    (shrinks : 0 ≤ extra.factor ∧ extra.factor ≤ 1) {more : List ReductionFactor} (added : more.Perm (extra :: factors))
    {size reduced : ℚ}
    (accepted : (calculateSize accountEquity riskPct atr atrMultiplier zscore factors
      minLotSize).size = some size)
    (acceptedAgain : (calculateSize accountEquity riskPct atr atrMultiplier zscore more
      minLotSize).size = some reduced) : reduced ≤ size := by
  obtain ⟨_, rfl, equity, risk, range, _, _⟩ := size_accepted accepted
  obtain ⟨_, rfl, _⟩ := size_accepted acceptedAgain
  have nonneg : 0 ≤ exactSize accountEquity riskPct atr atrMultiplier zscore factors :=
    exact_size_nonneg equity risk range multiplier shrinking
  rw [exact_size_perm added, exact_size_cons]
  exact Decimals.quantize_down_mono 2 (mul_nonneg nonneg shrinks.1)
    (mul_le_of_le_one_right nonneg shrinks.2)

end Sizing

/-- For a positive multiplier and factors between zero and one: an accepted size lies between
the minimum lot and five percent of the equity, is a whole number of hundredths and at most the
base size times the applied factors; the verdict does not depend on the order of the factors,
which are applied in their order; and one more factor, put in anywhere, never increases an
accepted size. -/
theorem calculate_size_laws
    (accountEquity riskPct atr atrMultiplier zscore minLotSize : ℚ)
    (factors : List ReductionFactor) (multiplier : 0 < atrMultiplier)
    (shrinking : Shrinking factors) :
    let sized := fun given : List ReductionFactor =>
      calculateSize accountEquity riskPct atr atrMultiplier zscore given minLotSize
    (∀ size, (sized factors).size = some size →
      minLotSize ≤ size ∧ size ≤ accountEquity * Constants.maxPositionSizePct ∧
        (∃ units : ℤ, size = units / 100) ∧
        size ≤ accountEquity * riskPct / (atr * atrMultiplier) *
          ((sized factors).appliedReductions.map ReductionFactor.factor).prod) ∧
      (∀ others, factors.Perm others →
        (sized others).size = (sized factors).size ∧
          (sized others).rejected = (sized factors).rejected ∧
          (sized others).rejectionReason = (sized factors).rejectionReason ∧
          (sized others).appliedReductions.Perm (sized factors).appliedReductions) ∧
      ∀ extra more, 0 ≤ extra.factor ∧ extra.factor ≤ 1 → more.Perm (extra :: factors) →
        ∀ size reduced, (sized factors).size = some size → (sized more).size = some reduced →
          reduced ≤ size := by
  intro sized
  refine ⟨?_, fun others same => calculate_size_perm same, ?_⟩
  · intro size accepted
    obtain ⟨applied, rfl, equity, risk, range, lot, cap⟩ := size_accepted accepted
    have nonneg : 0 ≤ exactSize accountEquity riskPct atr atrMultiplier zscore factors :=
      exact_size_nonneg equity risk range multiplier shrinking
    refine ⟨lot, cap, ⟨⌊exactSize accountEquity riskPct atr atrMultiplier zscore factors * 10 ^ 2⌋,
      ?_⟩, ?_⟩
    · rw [Decimals.quantize_down_of_nonneg 2 nonneg]
      norm_num
    · rw [applied]
      exact Decimals.quantize_down_le 2 nonneg
  · intro extra more shrinks added size reduced accepted acceptedAgain
    exact size_le_of_extra_factor multiplier shrinking shrinks added accepted acceptedAgain

/-- Two reductions of a size, by half and by a third. -/
def twoReductions : List ReductionFactor := [⟨"drawdown", 1 / 2, ""⟩, ⟨"news", 2 / 3, ""⟩]

/-- The laws hold for an accepted size, which a third reduction makes smaller. -/
theorem calculate_size_laws_two_reductions :
    (calculateSize 10000 (1 / 100) 2 (3 / 2) 3 twoReductions).size = some (555 / 100) ∧
      (555 / 100 : ℚ) ≤ 10000 * (1 / 100) / (2 * (3 / 2)) *
        ((calculateSize 10000 (1 / 100) 2 (3 / 2) 3 twoReductions).appliedReductions.map
          ReductionFactor.factor).prod := by
  have accepted : (calculateSize 10000 (1 / 100) 2 (3 / 2) 3 twoReductions).size =
      some (555 / 100) := by decide +kernel
  have shrinking : Shrinking twoReductions := by
    intro reduction listed
    simp only [twoReductions, List.mem_cons, List.not_mem_nil, or_false] at listed
    rcases listed with rfl | rfl <;> norm_num
  have laws := calculate_size_laws 10000 (1 / 100) 2 (3 / 2) 3 minLotSizeDefault twoReductions
    (by norm_num) shrinking
  exact ⟨accepted, (laws.1 _ accepted).2.2.2⟩

end PositionSizer

end IgTradingBot
