import IgTradingBot.Config.Constants
import IgTradingBot.Library.Decimals
import Mathlib.Algebra.Order.BigOperators.Group.List
import Mathlib.Data.List.Sort
import Mathlib.Tactic.Ring

/-!
# Allocation manager

Shares of the equity for copied traders, from `src/copy_trading/allocation_manager.py`. A share is
proportional to the score of its trader, at most a tenth and at least a hundredth of the equity,
and then rounded down to cents: a share of a hundredth is below its bound after that, unless the
equity is a whole number. Scores and money are exact.
-/

namespace IgTradingBot

/-- Allocation of a trader. -/
structure AllocationResult where
  traderId : String
  allocation : ℚ
  allocationPct : ℚ
  capped : Bool := false
  deriving DecidableEq, Repr

/-- Bounds of the allocations. -/
structure AllocationManager where
  maxPerTraderPct : ℚ := Constants.copyMaxAllocationPct
  minPerTraderPct : ℚ := Constants.copyMinAllocationPct
  maxTraders : ℕ := Constants.copyMaxTraders

namespace AllocationManager

/-- The share of a score, between the bounds. -/
def clampedShare (manager : AllocationManager) (traderScore totalScores equity : ℚ) : ℚ :=
  let rawAllocation := equity * (traderScore / totalScores)
  if equity * manager.maxPerTraderPct < rawAllocation then equity * manager.maxPerTraderPct
  else if rawAllocation < equity * manager.minPerTraderPct then equity * manager.minPerTraderPct
  else rawAllocation

/-- Proportional allocation for a trader. -/
def calculateAllocation (manager : AllocationManager) (traderScore totalScores equity : ℚ) : ℚ :=
  if totalScores ≤ 0 ∨ traderScore ≤ 0 ∨ equity ≤ 0 then 0
  else Decimals.quantizeDown 2 (manager.clampedShare traderScore totalScores equity)

/-- The traders with the highest scores. -/
def selectedTraders (manager : AllocationManager) (traderScores : List (String × ℚ)) :
    List (String × ℚ) :=
  (traderScores.insertionSort fun first second => second.2 ≤ first.2).take manager.maxTraders

/-- Sum of the scores of some traders. -/
def totalOf (traders : List (String × ℚ)) : ℚ := (traders.map Prod.snd).sum

/-- The result for a selected trader. -/
def resultFor (manager : AllocationManager) (totalScores equity : ℚ) (trader : String × ℚ) :
    AllocationResult :=
  let allocation := manager.calculateAllocation trader.2 totalScores equity
  { traderId := trader.1
    allocation
    allocationPct := if 0 < equity then allocation / equity else 0
    capped := decide (equity * manager.maxPerTraderPct ≤ allocation) }

/-- Allocations for all traders to be copied, the largest first. -/
def calculateAllocations (manager : AllocationManager) (traderScores : List (String × ℚ))
    (equity : ℚ) : List AllocationResult :=
  if traderScores = [] ∨ equity ≤ 0 then []
  else
    let selected := manager.selectedTraders traderScores
    if totalOf selected ≤ 0 then []
    else (selected.map (manager.resultFor (totalOf selected) equity)).insertionSort
      fun first second => second.allocation ≤ first.allocation

/-- An allocation is within the bounds. -/
def validateAllocation (manager : AllocationManager) (allocation equity : ℚ) : Bool :=
  if equity ≤ 0 then false
  else decide (manager.minPerTraderPct ≤ allocation / equity ∧
    allocation / equity ≤ manager.maxPerTraderPct)

/-- The allocations meet the bounds of the manager, and its validation accepts them. -/
structure MeetsBounds (manager : AllocationManager) (equity : ℚ) (results : List AllocationResult) :
    Prop where
  few : results.length ≤ manager.maxTraders
  funded : (results.map (·.allocation)).sum ≤ equity
  atLeast : ∀ result ∈ results, equity * manager.minPerTraderPct ≤ result.allocation
  atMost : ∀ result ∈ results, result.allocation ≤ equity * manager.maxPerTraderPct
  accepted : ∀ result ∈ results, manager.validateAllocation result.allocation equity = true

/-- A whole number of cents lies between a hundredth of the equity and the share of a score: the
equity is a whole number, or the share and the largest share reach the next one. -/
def CentFits (equity totalScores score : ℚ) : Prop :=
  equity = ⌈equity⌉ ∨
    (⌈equity⌉ : ℚ) ≤ 10 * equity ∧ (⌈equity⌉ : ℚ) * totalScores ≤ 100 * equity * score

instance (equity totalScores score : ℚ) : Decidable (CentFits equity totalScores score) :=
  inferInstanceAs (Decidable (_ ∨ _))

section Shares

variable {equity totalScores score : ℚ}

/-- A share is within the bounds. -/
theorem clamped_share_bounds (funded : 0 < equity) (score totalScores : ℚ) :
    equity * Constants.copyMinAllocationPct ≤
        clampedShare {} score totalScores equity ∧
      clampedShare {} score totalScores equity ≤ equity * Constants.copyMaxAllocationPct := by
  have ordered : equity * Constants.copyMinAllocationPct ≤
      equity * Constants.copyMaxAllocationPct :=
    mul_le_mul_of_nonneg_left (by decide +kernel) funded.le
  unfold clampedShare
  dsimp only
  split_ifs with large small
  · exact ⟨ordered, le_rfl⟩
  · exact ⟨le_rfl, ordered⟩
  · exact ⟨not_lt.mp small, not_lt.mp large⟩

/-- A share is not negative. -/
theorem clamped_share_nonneg (funded : 0 < equity) (score totalScores : ℚ) :
    0 ≤ clampedShare {} score totalScores equity := by
  have least : 0 ≤ equity * Constants.copyMinAllocationPct :=
    mul_nonneg funded.le (by decide +kernel)
  exact least.trans (clamped_share_bounds funded score totalScores).1

/-- The allocation of a positive score is its share, rounded down. -/
theorem calculate_allocation_eq (funded : 0 < equity) (scored : 0 < totalScores)
    (positive : 0 < score) :
    calculateAllocation {} score totalScores equity =
      Decimals.quantizeDown 2 (clampedShare {} score totalScores equity) := by
  refine if_neg ?_
  rintro (none | none | none)
  · exact not_le.mpr scored none
  · exact not_le.mpr positive none
  · exact not_le.mpr funded none

/-- A bound is reached by a share when the hundredth or both the tenth and the raw share reach
it. -/
theorem le_clamped_share_iff {bound : ℚ} (funded : 0 < equity) :
    bound ≤ clampedShare {} score totalScores equity ↔
      bound ≤ equity * Constants.copyMinAllocationPct ∨
        bound ≤ equity * Constants.copyMaxAllocationPct ∧
          bound ≤ equity * (score / totalScores) := by
  have ordered : equity * Constants.copyMinAllocationPct ≤
      equity * Constants.copyMaxAllocationPct :=
    mul_le_mul_of_nonneg_left (by decide +kernel) funded.le
  unfold clampedShare
  dsimp only
  split_ifs with large small
  · constructor
    · exact fun reached => .inr ⟨reached, reached.trans large.le⟩
    · rintro (reached | ⟨reached, -⟩)
      · exact reached.trans ordered
      · exact reached
  · refine (or_iff_left_of_imp ?_).symm
    exact fun both => both.2.trans small.le
  · constructor
    · exact fun reached => .inr ⟨reached.trans (not_lt.mp large), reached⟩
    · rintro (reached | ⟨-, reached⟩)
      · exact reached.trans (not_lt.mp small)
      · exact reached

/-- The allocation of a positive score reaches a hundredth of the equity exactly when a cent
fits. -/
theorem least_allocation_iff (funded : 0 < equity) (scored : 0 < totalScores)
    (positive : 0 < score) :
    equity * Constants.copyMinAllocationPct ≤ calculateAllocation {} score totalScores equity ↔
      CentFits equity totalScores score := by
  have cents : equity * Constants.copyMinAllocationPct * 10 ^ 2 = equity := by
    unfold Constants.copyMinAllocationPct
    ring
  rw [calculate_allocation_eq funded scored positive,
    Decimals.le_quantize_down_iff 2 (clamped_share_nonneg funded score totalScores), cents,
    ← div_le_iff₀ (by norm_num), le_clamped_share_iff funded]
  unfold CentFits Constants.copyMinAllocationPct Constants.copyMaxAllocationPct
  refine or_congr ?_ (and_congr ?_ ?_)
  · constructor
    · intro reached
      exact le_antisymm (Int.le_ceil equity) (by linarith)
    · intro whole
      linarith
  · constructor <;> intro reached <;> linarith
  · rw [← mul_div_assoc, le_div_iff₀ scored, div_mul_eq_mul_div, div_le_iff₀ (by norm_num)]
    constructor <;> intro reached <;> linarith

/-- An allocation is at most a tenth of the equity. -/
theorem allocation_le (funded : 0 < equity) (scored : 0 < totalScores) (positive : 0 < score) :
    calculateAllocation {} score totalScores equity ≤ equity * Constants.copyMaxAllocationPct := by
  rw [calculate_allocation_eq funded scored positive]
  exact (Decimals.quantize_down_le 2 (clamped_share_nonneg funded score totalScores)).trans
    (clamped_share_bounds funded score totalScores).2

/-- The validation compares an allocation with the bounds. -/
theorem validate_allocation_iff (manager : AllocationManager) (funded : 0 < equity)
    (allocation : ℚ) :
    manager.validateAllocation allocation equity = true ↔
      equity * manager.minPerTraderPct ≤ allocation ∧
        allocation ≤ equity * manager.maxPerTraderPct := by
  unfold validateAllocation
  rw [if_neg (not_le.mpr funded), decide_eq_true_eq, le_div_iff₀ funded, div_le_iff₀ funded,
    mul_comm equity, mul_comm equity]

end Shares

section Results

variable {traderScores : List (String × ℚ)} {equity : ℚ}

/-- A selected trader is one of those that were ranked. -/
theorem mem_of_selected {manager : AllocationManager} {trader : String × ℚ}
    (selected : trader ∈ manager.selectedTraders traderScores) : trader ∈ traderScores :=
  (List.mem_insertionSort _).mp (List.mem_of_mem_take selected)

/-- The scores of some traders with positive scores have a positive sum. -/
theorem total_pos {traders : List (String × ℚ)} (some : traders ≠ [])
    (positive : ∀ trader ∈ traders, 0 < trader.2) : 0 < totalOf traders := by
  refine List.sum_pos _ (fun score member => ?_) (by simpa using some)
  obtain ⟨trader, isTrader, rfl⟩ := List.mem_map.mp member
  exact positive trader isTrader

/-- Where there are ranked traders, there are selected ones. -/
theorem selected_ne_nil (some : traderScores ≠ []) :
    selectedTraders {} traderScores ≠ [] := by
  unfold selectedTraders
  rw [Ne, List.take_eq_nil_iff, not_or]
  refine ⟨by decide, fun none => some ?_⟩
  have sameLength := List.length_insertionSort
    (fun first second : String × ℚ => second.2 ≤ first.2) traderScores
  rw [none] at sameLength
  exact List.length_eq_zero_iff.mp sameLength.symm

/-- There is one result for each selected trader. -/
theorem calculate_allocations_perm (funded : 0 < equity)
    (positive : ∀ trader ∈ traderScores, 0 < trader.2) :
    (calculateAllocations {} traderScores equity).Perm
      ((selectedTraders {} traderScores).map
        (resultFor {} (totalOf (selectedTraders {} traderScores)) equity)) := by
  by_cases none : traderScores = []
  · subst none
    exact List.Perm.refl _
  · have scored : 0 < totalOf (selectedTraders {} traderScores) :=
      total_pos (selected_ne_nil none) fun trader selected =>
        positive trader (mem_of_selected selected)
    unfold calculateAllocations
    rw [if_neg (not_or.mpr ⟨none, not_le.mpr funded⟩), if_neg (not_le.mpr scored)]
    exact List.perm_insertionSort _ _

/-- Some amounts of at most a tenth of the equity, not more than ten, are at most the equity. -/
theorem sum_le_equity {amounts : List ℚ} (funded : 0 < equity)
    (few : amounts.length ≤ Constants.copyMaxTraders)
    (small : ∀ amount ∈ amounts, amount ≤ equity * Constants.copyMaxAllocationPct) :
    amounts.sum ≤ equity := by
  have whole : (Constants.copyMaxTraders : ℚ) * (equity * Constants.copyMaxAllocationPct) =
      equity := by
    unfold Constants.copyMaxTraders Constants.copyMaxAllocationPct
    push_cast
    ring
  have share : 0 ≤ equity * Constants.copyMaxAllocationPct :=
    mul_nonneg funded.le (by decide +kernel)
  calc amounts.sum
      ≤ amounts.length • (equity * Constants.copyMaxAllocationPct) :=
        List.sum_le_card_nsmul _ _ small
    _ = (amounts.length : ℚ) * (equity * Constants.copyMaxAllocationPct) := nsmul_eq_mul _ _
    _ ≤ Constants.copyMaxTraders * (equity * Constants.copyMaxAllocationPct) :=
        mul_le_mul_of_nonneg_right (by exact_mod_cast few) share
    _ = equity := whole

end Results

end AllocationManager

end IgTradingBot
