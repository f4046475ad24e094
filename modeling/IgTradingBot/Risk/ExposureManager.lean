import IgTradingBot.Config.Constants
import Mathlib.Data.List.AList
import Mathlib.Algebra.Order.BigOperators.Group.List
import Mathlib.Algebra.Order.Ring.Rat
import Mathlib.Tactic.Linarith

/-!
# Exposure manager

Notional exposure by asset class and in total, from
`src/risk/exposure_manager.py`. Exposures are exact fractions of equity.
-/

namespace IgTradingBot

/-- Asset classes with an exposure limit. -/
inductive AssetClass where
  | forex
  | indices
  | commodities
  | crypto
  | stocks
  deriving DecidableEq, Repr

/-- The enumeration member with a given value, if there is one. -/
def AssetClass.ofValue? : String → Option AssetClass
  | "forex" => some .forex
  | "indices" => some .indices
  | "commodities" => some .commodities
  | "crypto" => some .crypto
  | "stocks" => some .stocks
  | _ => none

/-- A position as the exposure check sees it. -/
structure ExposurePosition where
  instrument : String
  assetClass : AssetClass
  notionalValue : ℚ
  region : Option String := none
  deriving DecidableEq, Repr

/-- Reasons of a rejection, with the numbers their texts interpolate. -/
inductive ExposureRejection where
  /-- "account equity must be positive" -/
  | equityNotPositive
  /-- "Per-asset-class exposure limit breached for …: projected … exceeds limit …",
  followed by the unhalved limit and the region where the limit was halved -/
  | classLimit (assetClass : AssetClass) (projected limit : ℚ)
      (halvedFrom : Option (ℚ × Option String))
  /-- "Total exposure limit breached: projected … exceeds limit …" -/
  | totalLimit (projected limit : ℚ)
  deriving DecidableEq, Repr

/-- Result of one exposure check. -/
structure ExposureCheckResult where
  allowed : Bool
  rejectionReason : Option ExposureRejection
  currentClassExposure : ℚ
  currentTotalExposure : ℚ
  deriving DecidableEq, Repr

/-- Geopolitical score above which a class limit is halved. -/
def geopoliticalRiskThreshold : ℚ := 70

/-- Limits and the geopolitical score of each region. -/
structure ExposureManager where
  maxPerClass : ℚ := Constants.maxExposurePerClassPct
  maxTotal : ℚ := Constants.maxTotalExposurePct
  geoRiskScores : AList (fun _ : String => ℚ) := ∅

namespace ExposureManager

/-- Store a region's score, clamped to the range of scores. -/
def updateGeoRisk (manager : ExposureManager) (region : String) (score : ℤ) : ExposureManager :=
  { manager with
    geoRiskScores := manager.geoRiskScores.insert region ((max 0 (min 100 score) : ℤ) : ℚ) }

/-- Total notional of some positions, each counted with its absolute value. -/
def notionalOf (positions : List ExposurePosition) : ℚ :=
  (positions.map fun position => |position.notionalValue|).sum

/-- Exposure of one asset class as a fraction of equity. -/
def getClassExposure (assetClass : AssetClass) (positions : List ExposurePosition)
    (accountEquity : ℚ) : ℚ :=
  if accountEquity ≤ 0 then 0
  else notionalOf (positions.filter fun position => position.assetClass = assetClass) / accountEquity

/-- Exposure of all positions as a fraction of equity. -/
def getTotalExposure (positions : List ExposurePosition) (accountEquity : ℚ) : ℚ :=
  if accountEquity ≤ 0 then 0 else notionalOf positions / accountEquity

/-- The class limit, halved for a region whose score exceeds the threshold. An
absent or blank region and an empty table leave it as configured. -/
def getEffectiveClassLimit (manager : ExposureManager) (region : Option String)
    (scores : AList (fun _ : String => ℚ)) : ℚ :=
  match region with
  | none => manager.maxPerClass
  | some name =>
    if name = "" ∨ scores.keys = [] then manager.maxPerClass
    else if geopoliticalRiskThreshold < (scores.lookup name).getD 0 then manager.maxPerClass / 2
    else manager.maxPerClass

/-- Check a proposed position against both limits. Explicit scores replace the
stored ones. -/
def checkExposure (manager : ExposureManager) (newPosition : ExposurePosition)
    (currentPositions : List ExposurePosition) (accountEquity : ℚ)
    (explicitScores : Option (AList (fun _ : String => ℚ)) := none) : ExposureCheckResult :=
  let scores := explicitScores.getD manager.geoRiskScores
  if accountEquity ≤ 0 then ⟨false, some .equityNotPositive, 0, 0⟩
  else
    let classExposure := getClassExposure newPosition.assetClass currentPositions accountEquity
    let totalExposure := getTotalExposure currentPositions accountEquity
    let added := |newPosition.notionalValue| / accountEquity
    let limit := manager.getEffectiveClassLimit newPosition.region scores
    if limit < classExposure + added then
      ⟨false, some (.classLimit newPosition.assetClass (classExposure + added) limit
        (if limit < manager.maxPerClass then some (manager.maxPerClass, newPosition.region)
          else none)), classExposure, totalExposure⟩
    else if manager.maxTotal < totalExposure + added then
      ⟨false, some (.totalLimit (totalExposure + added) manager.maxTotal),
        classExposure, totalExposure⟩
    else ⟨true, none, classExposure, totalExposure⟩

/-- An accepted position is within both limits after it is added, and the equity
it was measured against is positive. -/
theorem check_exposure_allowed (manager : ExposureManager) (newPosition : ExposurePosition)
    (currentPositions : List ExposurePosition) (accountEquity : ℚ)
    (scores : Option (AList (fun _ : String => ℚ)))
    (allowed : (manager.checkExposure newPosition currentPositions accountEquity scores).allowed =
      true) :
    0 < accountEquity ∧
      getClassExposure newPosition.assetClass (newPosition :: currentPositions) accountEquity ≤
        manager.getEffectiveClassLimit newPosition.region (scores.getD manager.geoRiskScores) ∧
      getTotalExposure (newPosition :: currentPositions) accountEquity ≤ manager.maxTotal := by
  simp only [checkExposure] at allowed
  split_ifs at allowed with noEquity overClass overTotal
  simp only [getClassExposure, getTotalExposure, if_neg noEquity] at overClass overTotal ⊢
  have classSplit : notionalOf ((newPosition :: currentPositions).filter
      fun position => position.assetClass = newPosition.assetClass) =
      |newPosition.notionalValue| + notionalOf (currentPositions.filter
        fun position => position.assetClass = newPosition.assetClass) := by
    simp [notionalOf]
  have totalSplit : notionalOf (newPosition :: currentPositions) =
      |newPosition.notionalValue| + notionalOf currentPositions := by
    simp [notionalOf]
  rw [classSplit, totalSplit, add_div, add_div]
  exact ⟨not_le.mp noEquity, by linarith, by linarith⟩

/-- Absolute values add up to a nonnegative notional. -/
theorem notional_nonneg (positions : List ExposurePosition) : 0 ≤ notionalOf positions := by
  apply List.sum_nonneg
  intro value member
  obtain ⟨position, _, rfl⟩ := List.mem_map.mp member
  exact abs_nonneg position.notionalValue

/-- A class exposure is a nonnegative fraction of equity. -/
theorem class_exposure_nonneg (assetClass : AssetClass) (positions : List ExposurePosition)
    (accountEquity : ℚ) : 0 ≤ getClassExposure assetClass positions accountEquity := by
  by_cases noEquity : accountEquity ≤ 0
  · simp [getClassExposure, noEquity]
  · simp only [getClassExposure, if_neg noEquity]
    exact div_nonneg (notional_nonneg _) (le_of_lt (not_le.mp noEquity))

/-- A nonnegative effective limit never exceeds the configured class limit: it is
that limit or half of it. -/
theorem effective_limit_le_of_nonneg (manager : ExposureManager) (region : Option String)
    (scores : AList (fun _ : String => ℚ))
    (nonneg : 0 ≤ manager.getEffectiveClassLimit region scores) :
    manager.getEffectiveClassLimit region scores ≤ manager.maxPerClass := by
  cases region with
  | none => exact le_refl _
  | some name =>
    simp only [getEffectiveClassLimit] at nonneg ⊢
    split_ifs at nonneg ⊢
    · exact le_refl _
    · linarith
    · exact le_refl _

end ExposureManager

end IgTradingBot
