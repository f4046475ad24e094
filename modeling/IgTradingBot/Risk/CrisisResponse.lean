import IgTradingBot.Library.Greedy
import IgTradingBot.Library.LastOfKey
import IgTradingBot.Risk.StopManager

/-!
# Crisis response

`RiskEngine.handle_crisis_response` of `src/risk/risk_engine.py`: the most
volatile positions are closed until half of the exposure is gone, and the stops
of the others are widened. The report names instruments; the positions that are
closed and kept are definitions of their own. Publishing the notification
changes nothing that the report reads.
-/

namespace IgTradingBot

/-- An open position with the average true range of its instrument. -/
structure CrisisPosition where
  instrument : String
  direction : String
  notionalValue : ℚ
  atr : ℚ
  entryPrice : ℚ
  currentStop : ℚ
  deriving DecidableEq, Repr

/-- Report on a crisis response; the new stops are a table by instrument. -/
structure CrisisResponseResult where
  positionsClosed : List String := []
  positionsWidened : List String := []
  newStops : List (String × ℚ) := []
  exposureReductionPct : ℚ := 0
  notificationSent : Bool := false
  deriving DecidableEq, Repr

namespace CrisisResponse

/-- The first position is at least as volatile as the second. -/
def MoreVolatile (first second : CrisisPosition) : Prop := second.atr ≤ first.atr

instance : DecidableRel MoreVolatile := fun first second =>
  inferInstanceAs (Decidable (second.atr ≤ first.atr))

/-- The positions, most volatile first. -/
def sortedPositions (positions : List CrisisPosition) : List CrisisPosition :=
  positions.insertionSort MoreVolatile

/-- Notional value of some positions. -/
def exposure (positions : List CrisisPosition) : ℚ :=
  (positions.map CrisisPosition.notionalValue).sum

/-- Half of the exposure is to be closed. -/
def targetReduction (positions : List CrisisPosition) : ℚ :=
  exposure (sortedPositions positions) * (1 / 2)

/-- Close positions while less than the target is closed; the weight is the
exposure closed. -/
def reduceExposure (positions : List CrisisPosition) : Greedy.Choice CrisisPosition ℚ :=
  Greedy.choose CrisisPosition.notionalValue (targetReduction positions) 0
    (sortedPositions positions)

/-- Positions that are closed. -/
def closedPositions (positions : List CrisisPosition) : List CrisisPosition :=
  (reduceExposure positions).taken

/-- Positions that are kept. -/
def positionsToKeep (positions : List CrisisPosition) : List CrisisPosition :=
  (reduceExposure positions).left

/-- Every direction but "LONG" is treated as short. -/
def directionOf (position : CrisisPosition) : TradeDirection :=
  if position.direction = "LONG" then .long else .short

/-- The stop of a position, widened by two average true ranges. -/
def widenedStop (position : CrisisPosition) : ℚ :=
  StopManager.widenStopForEvent ⟨position.entryPrice, directionOf position,
    position.currentStop, position.currentStop, position.atr⟩ position.atr 2

/-- The response to a crisis; without positions there is nothing to do. -/
def handleCrisisResponse (positions : List CrisisPosition) : CrisisResponseResult :=
  if positions.isEmpty then {}
  else
    let totalExposure := exposure (sortedPositions positions)
    let kept := positionsToKeep positions
    { positionsClosed := (closedPositions positions).map CrisisPosition.instrument
      positionsWidened := kept.map CrisisPosition.instrument
      newStops := LastOfKey.tableOf CrisisPosition.instrument widenedStop kept
      exposureReductionPct :=
        if 0 < totalExposure then (reduceExposure positions).weight / totalExposure * 100 else 0
      notificationSent := true }

instance : Std.Total MoreVolatile := ⟨fun first second => le_total second.atr first.atr⟩

instance : IsTrans CrisisPosition MoreVolatile :=
  ⟨fun _ _ _ moreVolatile stillMore => le_trans stillMore moreVolatile⟩

/-- The order of closing: by descending volatility, ties as they were. -/
theorem sorted_positions_stably (positions : List CrisisPosition) :
    Greedy.StablySorted MoreVolatile (sortedPositions positions) positions :=
  Greedy.insertion_sort_stably_sorted MoreVolatile positions

/-- Every position is either closed or kept, in the order of closing. -/
theorem closed_append_kept (positions : List CrisisPosition) :
    closedPositions positions ++ positionsToKeep positions = sortedPositions positions :=
  Greedy.taken_append_left _ _ _ _

/-- The exposure does not depend on the order. -/
theorem exposure_sorted (positions : List CrisisPosition) :
    exposure (sortedPositions positions) = exposure positions :=
  ((sorted_positions_stably positions).perm.map _).sum_eq

/-- The report names the closed positions and the kept ones. -/
theorem report_names (positions : List CrisisPosition) :
    (handleCrisisResponse positions).positionsClosed =
        (closedPositions positions).map CrisisPosition.instrument ∧
      (handleCrisisResponse positions).positionsWidened =
        (positionsToKeep positions).map CrisisPosition.instrument := by
  cases positions with
  | nil => exact ⟨rfl, rfl⟩
  | cons position others => exact ⟨rfl, rfl⟩

/-- The reported reduction is the closed part of the exposure. -/
theorem reported_reduction {positions : List CrisisPosition} (positive : 0 < exposure positions) :
    (handleCrisisResponse positions).exposureReductionPct =
      exposure (closedPositions positions) / exposure positions * 100 := by
  cases positions with
  | nil => exact absurd positive (lt_irrefl _)
  | cons position others =>
    have closed : (reduceExposure (position :: others)).weight =
        exposure (closedPositions (position :: others)) := by
      rw [reduceExposure, Greedy.weight_taken, zero_add]
      rfl
    simp only [handleCrisisResponse, List.isEmpty_cons, Bool.false_eq_true, if_false,
      exposure_sorted, positive, if_true, closed]

/-- Positions without a negative notional value have no negative exposure. -/
theorem exposure_nonneg {positions : List CrisisPosition}
    (nonneg : ∀ position ∈ positions, 0 ≤ position.notionalValue) : 0 ≤ exposure positions := by
  refine List.sum_nonneg ?_
  intro notional listed
  obtain ⟨position, among, rfl⟩ := List.mem_map.mp listed
  exact nonneg position among

/-- The closed positions are the shortest prefix, most volatile first, with half
of the exposure. -/
theorem closed_shortest {positions : List CrisisPosition}
    (nonneg : ∀ position ∈ positions, 0 ≤ position.notionalValue) :
    Greedy.ShortestPrefix CrisisPosition.notionalValue (exposure positions / 2)
      (closedPositions positions) (sortedPositions positions) := by
  have half : targetReduction positions = exposure positions / 2 := by
    rw [targetReduction, exposure_sorted, mul_one_div]
  have enough : targetReduction positions ≤
      ((sortedPositions positions).map CrisisPosition.notionalValue).sum := by
    have total : ((sortedPositions positions).map CrisisPosition.notionalValue).sum =
        exposure positions := exposure_sorted positions
    rw [total, half]
    exact half_le_self (exposure_nonneg nonneg)
  have shortest := Greedy.choose_shortest CrisisPosition.notionalValue _ _ enough
  rw [half] at shortest
  rw [closedPositions, reduceExposure, half]
  exact shortest

/-- For positions without negative notional values: the response partitions them
into closed and kept ones, which the report names; the closed ones are the
shortest prefix of the stable order of descending volatility that has half of
the exposure; and at least half is reported as the reduction when there is any. -/
theorem crisis_response_halves_exposure (positions : List CrisisPosition)
    (nonneg : ∀ position ∈ positions, 0 ≤ position.notionalValue) :
    let result := handleCrisisResponse positions
    Greedy.StablySorted MoreVolatile (closedPositions positions ++ positionsToKeep positions)
        positions ∧
      result.positionsClosed = (closedPositions positions).map CrisisPosition.instrument ∧
      result.positionsWidened = (positionsToKeep positions).map CrisisPosition.instrument ∧
      Greedy.ShortestPrefix CrisisPosition.notionalValue (exposure positions / 2)
        (closedPositions positions) (closedPositions positions ++ positionsToKeep positions) ∧
      (0 < exposure positions → 50 ≤ result.exposureReductionPct) := by
  have shortest := closed_shortest nonneg
  rw [closed_append_kept]
  refine ⟨sorted_positions_stably positions, (report_names positions).1,
    (report_names positions).2, shortest, ?_⟩
  intro positive
  have reached : exposure positions / 2 ≤ exposure (closedPositions positions) := shortest.2.1
  rw [reported_reduction positive, div_mul_eq_mul_div, le_div_iff₀ positive]
  linarith

/-- Two volatile positions of which the first is enough, and one that is kept. -/
def threePositions : List CrisisPosition :=
  [⟨"EURUSD", "LONG", 20, 1 / 100, 11 / 10, 1⟩, ⟨"GOLD", "SHORT", 50, 10, 2000, 2020⟩,
    ⟨"GOLD", "LONG", 0, 10, 2000, 1980⟩]

/-- The response to these positions closes the first of the two most volatile ones. -/
theorem crisis_response_halves_three_positions :
    (∀ position ∈ threePositions, 0 ≤ position.notionalValue) ∧
      0 < exposure threePositions ∧
      50 ≤ (handleCrisisResponse threePositions).exposureReductionPct := by
  have nonneg : ∀ position ∈ threePositions, 0 ≤ position.notionalValue := by decide +kernel
  have positive : 0 < exposure threePositions := by decide +kernel
  exact ⟨nonneg, positive,
    (crisis_response_halves_exposure threePositions nonneg).2.2.2.2 positive⟩

/-- The new stops are recorded by instrument, those of the kept positions one after the other. -/
theorem new_stops_recorded (positions : List CrisisPosition) :
    (handleCrisisResponse positions).newStops =
      LastOfKey.tableOf CrisisPosition.instrument widenedStop (positionsToKeep positions) := by
  cases positions with
  | nil => rfl
  | cons position others => rfl

/-- The widened stop lies two average true ranges further from the price. -/
theorem widened_stop_eq (position : CrisisPosition) :
    widenedStop position =
      if position.direction = "LONG" then position.currentStop - 2 * position.atr
      else position.currentStop + 2 * position.atr := by
  by_cases long : position.direction = "LONG"
  · simp [widenedStop, directionOf, long, StopManager.widenStopForEvent]
  · simp [widenedStop, directionOf, long, StopManager.widenStopForEvent]

/-- The table of new stops has the widened stop of every kept position exactly
when kept positions of one instrument have one widened stop. -/
theorem widened_stops_recorded_iff (positions : List CrisisPosition) :
    (∀ position ∈ positionsToKeep positions,
        (handleCrisisResponse positions).newStops.lookup position.instrument =
          some (if position.direction = "LONG" then position.currentStop - 2 * position.atr
            else position.currentStop + 2 * position.atr)) ↔
      ∀ first ∈ positionsToKeep positions, ∀ second ∈ positionsToKeep positions,
        first.instrument = second.instrument → widenedStop first = widenedStop second := by
  simp only [new_stops_recorded, ← widened_stop_eq]
  exact LastOfKey.table_holds_all_iff (positionsToKeep positions)

/-- A volatile position that is closed, and a long and a short one in one instrument. -/
def hedgedPositions : List CrisisPosition :=
  [⟨"GOLD", "LONG", 100, 10, 2000, 1980⟩, ⟨"EURUSD", "LONG", 20, 1 / 100, 11 / 10, 1⟩,
    ⟨"EURUSD", "SHORT", 20, 1 / 100, 11 / 10, 12 / 10⟩]

/-- The stop of the short position takes the place of that of the long one. -/
theorem hedged_stop_lost :
    positionsToKeep hedgedPositions = hedgedPositions.drop 1 ∧
      (handleCrisisResponse hedgedPositions).newStops = [("EURUSD", 122 / 100)] ∧
      ¬∀ position ∈ positionsToKeep hedgedPositions,
        (handleCrisisResponse hedgedPositions).newStops.lookup position.instrument =
          some (if position.direction = "LONG" then position.currentStop - 2 * position.atr
            else position.currentStop + 2 * position.atr) := by
  decide +kernel

end CrisisResponse

end IgTradingBot
