import IgTradingBot.Strategy.EntryZones
import Mathlib.Algebra.Order.Group.MinMax

/-!
# Trade management

The stop, the targets and the partial profit of a professional trade. The stop is behind the extreme
of the sweep and behind the edge of the zone by a buffer, and at least some multiple of the average
range away. The first target is as far ahead as the stop is behind, and the final one some multiple
of that, or a level of liquidity that comes before.

A level lies ahead of the entry by its distance in the direction of the trade. A plan in terms of
such distances is the same in both directions, and that is how it is reasoned about. The liquidity
may come before the first target, and the final target is then the nearer of the two.
-/

namespace IgTradingBot

/-- Stop, targets and partial profit of a trade. -/
structure TradeManagementPlan where
  stopPrice : ℚ
  tp1Price : ℚ
  finalTarget : ℚ
  riskDistance : ℚ
  partialCloseFraction : ℚ
  moveToBreakevenAtR : ℚ
  trailingEnabled : Bool
  deriving DecidableEq, Repr

/-- Professional stop, target, partial-profit, and trailing rules. -/
structure TradeManager where
  minimumAtrStop : ℚ := 1
  finalTargetR : ℚ := 2
  partialCloseFraction : ℚ := 1 / 2
  trailingEnabled : Bool := false
  deriving DecidableEq, Repr

/-- How far a level lies ahead of an entry, in the direction of the trade. -/
def MarketBias.ahead (direction : MarketBias) (entry level : ℚ) : ℚ :=
  match direction with
  | .bullish => level - entry
  | _ => entry - level

/-- A level that is not zero and lies ahead of the entry. -/
def usableLiquidity (direction : MarketBias) (entry : ℚ) (nextLiquidity : Option ℚ) : Option ℚ :=
  nextLiquidity.filter fun level => decide (level ≠ 0 ∧ 0 < direction.ahead entry level)

namespace TradeManager

/-- The plan of a trade. What is not bullish is planned as bearish, and a liquidity of zero is
taken for none. -/
def createPlan (self : TradeManager) (direction : MarketBias)
    (entry atr sweepExtreme zoneEdge : ℚ) (nextLiquidity : Option ℚ) : TradeManagementPlan :=
  let buffer := atr * (1 / 10)
  let planned (stop tp1 target risk : ℚ) : TradeManagementPlan :=
    ⟨stop, tp1, target, risk, self.partialCloseFraction, 1, self.trailingEnabled⟩
  match direction with
  | .bullish =>
    let structuralStop := min sweepExtreme zoneEdge - buffer
    let stop := min structuralStop (entry - atr * self.minimumAtrStop)
    let risk := entry - stop
    let targetByR := entry + risk * self.finalTargetR
    let target := match nextLiquidity with
      | some level => if level ≠ 0 ∧ entry < level then min targetByR level else targetByR
      | none => targetByR
    planned stop (entry + risk) target risk
  | _ =>
    let structuralStop := max sweepExtreme zoneEdge + buffer
    let stop := max structuralStop (entry + atr * self.minimumAtrStop)
    let risk := stop - entry
    let targetByR := entry - risk * self.finalTargetR
    let target := match nextLiquidity with
      | some level => if level ≠ 0 ∧ level < entry then max targetByR level else targetByR
      | none => targetByR
    planned stop (entry - risk) target risk

/-- The risk of a trade by the distances of the sweep and of the zone: what their buffer needs, and
at least the multiple of the average range. -/
def riskFor (self : TradeManager) (atr sweepAhead zoneAhead : ℚ) : ℚ :=
  max (atr * (1 / 10) - min sweepAhead zoneAhead) (atr * self.minimumAtrStop)

/-- The distance of the final target by the risk and the distance of the liquidity. -/
def targetFor (self : TradeManager) (risk : ℚ) : Option ℚ → ℚ
  | some levelAhead => min (risk * self.finalTargetR) levelAhead
  | none => risk * self.finalTargetR

end TradeManager

/-- What a plan makes of a trade, in distances ahead of the entry. -/
structure PlannedBy (manager : TradeManager) (direction : MarketBias)
    (entry atr sweepExtreme zoneEdge : ℚ) (nextLiquidity : Option ℚ) (plan : TradeManagementPlan) :
    Prop where
  risk : plan.riskDistance =
    manager.riskFor atr (direction.ahead entry sweepExtreme) (direction.ahead entry zoneEdge)
  stop : direction.ahead entry plan.stopPrice = -plan.riskDistance
  first : direction.ahead entry plan.tp1Price = plan.riskDistance
  final : direction.ahead entry plan.finalTarget = manager.targetFor plan.riskDistance
    ((usableLiquidity direction entry nextLiquidity).map (direction.ahead entry))

section Plans

variable {manager : TradeManager} {direction : MarketBias} {entry atr sweepExtreme zoneEdge : ℚ}
  {nextLiquidity : Option ℚ}

/-- A level is told by its distance. -/
theorem MarketBias.ahead_inj {level other : ℚ} :
    direction.ahead entry level = direction.ahead entry other ↔ level = other := by
  cases direction <;> simp [MarketBias.ahead]

/-- Where a liquidity is usable, it is the level that counts. -/
theorem usable_liquidity_some {level : ℚ} (usable : level ≠ 0 ∧ 0 < direction.ahead entry level) :
    usableLiquidity direction entry (some level) = some level := by
  simp [usableLiquidity, usable]

/-- Where a liquidity is not usable, there is none. -/
theorem usable_liquidity_none {level : ℚ} (unusable : ¬(level ≠ 0 ∧ 0 < direction.ahead entry level)) :
    usableLiquidity direction entry (some level) = none := by
  simpa [usableLiquidity] using unusable

/-- A bullish plan, in distances ahead of its entry. -/
theorem create_plan_bullish : PlannedBy manager .bullish entry atr sweepExtreme zoneEdge nextLiquidity
    (manager.createPlan .bullish entry atr sweepExtreme zoneEdge nextLiquidity) where
  risk := by
    simp only [TradeManager.createPlan, TradeManager.riskFor, MarketBias.ahead]
    grind
  stop := by simp [TradeManager.createPlan, MarketBias.ahead]
  first := by simp [TradeManager.createPlan, MarketBias.ahead]
  final := by
    cases nextLiquidity with
    | none => simp [TradeManager.createPlan, MarketBias.ahead, usableLiquidity, TradeManager.targetFor]
    | some level =>
      by_cases usable : level ≠ 0 ∧ entry < level
      · have counts : level ≠ 0 ∧ 0 < MarketBias.ahead .bullish entry level :=
          ⟨usable.1, sub_pos.mpr usable.2⟩
        rw [usable_liquidity_some counts]
        simp only [TradeManager.createPlan, MarketBias.ahead, TradeManager.targetFor, Option.map_some,
          if_pos usable]
        rw [← min_sub_sub_right, add_sub_cancel_left]
      · have fails : ¬(level ≠ 0 ∧ 0 < MarketBias.ahead .bullish entry level) := by
          simpa [MarketBias.ahead] using usable
        rw [usable_liquidity_none fails]
        simp only [TradeManager.createPlan, MarketBias.ahead, TradeManager.targetFor, Option.map_none,
          if_neg usable]
        rw [add_sub_cancel_left]

/-- A bearish plan, in distances ahead of its entry. -/
theorem create_plan_bearish : PlannedBy manager .bearish entry atr sweepExtreme zoneEdge nextLiquidity
    (manager.createPlan .bearish entry atr sweepExtreme zoneEdge nextLiquidity) where
  risk := by
    simp only [TradeManager.createPlan, TradeManager.riskFor, MarketBias.ahead]
    grind
  stop := by simp [TradeManager.createPlan, MarketBias.ahead]
  first := by simp [TradeManager.createPlan, MarketBias.ahead]
  final := by
    cases nextLiquidity with
    | none => simp [TradeManager.createPlan, MarketBias.ahead, usableLiquidity, TradeManager.targetFor]
    | some level =>
      by_cases usable : level ≠ 0 ∧ level < entry
      · have counts : level ≠ 0 ∧ 0 < MarketBias.ahead .bearish entry level :=
          ⟨usable.1, sub_pos.mpr usable.2⟩
        rw [usable_liquidity_some counts]
        simp only [TradeManager.createPlan, MarketBias.ahead, TradeManager.targetFor, Option.map_some,
          if_pos usable]
        rw [← min_sub_sub_left, sub_sub_cancel]
      · have fails : ¬(level ≠ 0 ∧ 0 < MarketBias.ahead .bearish entry level) := by
          simpa [MarketBias.ahead] using usable
        rw [usable_liquidity_none fails]
        simp only [TradeManager.createPlan, MarketBias.ahead, TradeManager.targetFor, Option.map_none,
          if_neg usable]
        rw [sub_sub_cancel]

/-- Every plan comes from the distances of its levels by the same rules. -/
theorem create_plan_planned (manager : TradeManager) (direction : MarketBias)
    (entry atr sweepExtreme zoneEdge : ℚ) (nextLiquidity : Option ℚ) :
    PlannedBy manager direction entry atr sweepExtreme zoneEdge nextLiquidity
      (manager.createPlan direction entry atr sweepExtreme zoneEdge nextLiquidity) := by
  cases direction with
  | bullish => exact create_plan_bullish
  | bearish => exact create_plan_bearish
  | neutral =>
    -- a neutral trade is planned as a bearish one
    have bearish : PlannedBy manager .bearish entry atr sweepExtreme zoneEdge nextLiquidity _ :=
      create_plan_bearish
    exact ⟨bearish.risk, bearish.stop, bearish.first, bearish.final⟩

end Plans

/-- A plan in order. The stop is behind the entry, the sweep and the zone, by at least the multiple
of the average range from the entry; both targets are ahead, the final one at most at its multiple
of the risk. It is behind the first one only where a liquidity is, and it is then that level. -/
structure PlanOrdered (manager : TradeManager) (direction : MarketBias)
    (entry atr sweepExtreme zoneEdge : ℚ) (nextLiquidity : Option ℚ) (plan : TradeManagementPlan) :
    Prop where
  stop_behind : direction.ahead entry plan.stopPrice < 0
  first_ahead : 0 < direction.ahead entry plan.tp1Price
  final_ahead : 0 < direction.ahead entry plan.finalTarget
  final_within :
    direction.ahead entry plan.finalTarget ≤ plan.riskDistance * manager.finalTargetR
  first_before_final :
    direction.ahead entry plan.tp1Price ≤ direction.ahead entry plan.finalTarget ↔
      ∀ level ∈ usableLiquidity direction entry nextLiquidity,
        direction.ahead entry plan.tp1Price ≤ direction.ahead entry level
  nearer_taken : ∀ level ∈ usableLiquidity direction entry nextLiquidity,
    direction.ahead entry level < direction.ahead entry plan.tp1Price → plan.finalTarget = level
  risk_wide : atr * manager.minimumAtrStop ≤ plan.riskDistance
  beyond_sweep : direction.ahead entry plan.stopPrice < direction.ahead entry sweepExtreme
  beyond_zone : direction.ahead entry plan.stopPrice < direction.ahead entry zoneEdge

namespace PlannedBy

variable {manager : TradeManager} {direction : MarketBias} {entry atr sweepExtreme zoneEdge : ℚ}
  {nextLiquidity : Option ℚ} {plan : TradeManagementPlan}

/-- The risk is at least the multiple of the average range. -/
theorem risk_wide
    (planned : PlannedBy manager direction entry atr sweepExtreme zoneEdge nextLiquidity plan) :
    atr * manager.minimumAtrStop ≤ plan.riskDistance := by
  rw [planned.risk]
  exact le_max_right _ _

/-- The stop is behind what the sweep and the zone reached by the buffer. -/
theorem stop_beyond
    (planned : PlannedBy manager direction entry atr sweepExtreme zoneEdge nextLiquidity plan) :
    direction.ahead entry plan.stopPrice ≤
      min (direction.ahead entry sweepExtreme) (direction.ahead entry zoneEdge) -
        atr * (1 / 10) := by
  have wide : atr * (1 / 10) -
      min (direction.ahead entry sweepExtreme) (direction.ahead entry zoneEdge) ≤
        plan.riskDistance := by
    rw [planned.risk]
    exact le_max_left _ _
  rw [planned.stop]
  linarith

/-- Where a liquidity is usable, the final target is at the nearer of the two levels. -/
theorem final_some
    (planned : PlannedBy manager direction entry atr sweepExtreme zoneEdge nextLiquidity plan)
    {level : ℚ} (usable : usableLiquidity direction entry nextLiquidity = some level) :
    direction.ahead entry plan.finalTarget =
      min (plan.riskDistance * manager.finalTargetR) (direction.ahead entry level) := by
  rw [planned.final, usable]
  rfl

/-- Where no liquidity is usable, the final target is at its multiple of the risk. -/
theorem final_none
    (planned : PlannedBy manager direction entry atr sweepExtreme zoneEdge nextLiquidity plan)
    (unusable : usableLiquidity direction entry nextLiquidity = none) :
    direction.ahead entry plan.finalTarget = plan.riskDistance * manager.finalTargetR := by
  rw [planned.final, unusable]
  rfl

/-- A usable liquidity lies ahead. -/
theorem usable_ahead {level : ℚ} (usable : usableLiquidity direction entry nextLiquidity = some level) :
    0 < direction.ahead entry level := by
  have facts := (Option.filter_eq_some_iff.mp usable).2
  simp only [decide_eq_true_eq] at facts
  exact facts.2

/-- The final target is at most at its multiple of the risk. -/
theorem final_within
    (planned : PlannedBy manager direction entry atr sweepExtreme zoneEdge nextLiquidity plan) :
    direction.ahead entry plan.finalTarget ≤ plan.riskDistance * manager.finalTargetR := by
  cases usable : usableLiquidity direction entry nextLiquidity with
  | none => exact (planned.final_none usable).le
  | some level =>
    rw [planned.final_some usable]
    exact min_le_left _ _

/-- The final target is ahead where its multiple of the risk is. -/
theorem final_ahead
    (planned : PlannedBy manager direction entry atr sweepExtreme zoneEdge nextLiquidity plan)
    (multiple : 0 < plan.riskDistance * manager.finalTargetR) :
    0 < direction.ahead entry plan.finalTarget := by
  cases usable : usableLiquidity direction entry nextLiquidity with
  | none => rwa [planned.final_none usable]
  | some level =>
    rw [planned.final_some usable]
    exact lt_min multiple (usable_ahead usable)

/-- Where its multiple is at least one risk, the final target is behind the first only for the sake
of a liquidity that is. -/
theorem first_before_final_iff
    (planned : PlannedBy manager direction entry atr sweepExtreme zoneEdge nextLiquidity plan)
    (further : plan.riskDistance ≤ plan.riskDistance * manager.finalTargetR) :
    direction.ahead entry plan.tp1Price ≤ direction.ahead entry plan.finalTarget ↔
      ∀ level ∈ usableLiquidity direction entry nextLiquidity,
        direction.ahead entry plan.tp1Price ≤ direction.ahead entry level := by
  rw [planned.first]
  cases usable : usableLiquidity direction entry nextLiquidity with
  | none => simp [planned.final_none usable, further]
  | some level => simp [planned.final_some usable, further]

/-- A liquidity that is nearer than the first target is the final one. -/
theorem nearer_taken
    (planned : PlannedBy manager direction entry atr sweepExtreme zoneEdge nextLiquidity plan)
    (further : plan.riskDistance ≤ plan.riskDistance * manager.finalTargetR) {level : ℚ}
    (usable : usableLiquidity direction entry nextLiquidity = some level)
    (nearer : direction.ahead entry level < direction.ahead entry plan.tp1Price) :
    plan.finalTarget = level := by
  rw [planned.first] at nearer
  apply MarketBias.ahead_inj.mp
  rw [planned.final_some usable]
  exact min_eq_right (nearer.le.trans further)

end PlannedBy

/-- A plan to buy, with a level of liquidity shortly ahead of the entry. -/
def nearLiquidityPlan : TradeManagementPlan :=
  TradeManager.createPlan {} .bullish (11 / 10) (1 / 1000) (1097 / 1000) (1098 / 1000)
    (some (1101 / 1000))

/-- A plan to buy whose final target is set to half a risk. -/
def halfRiskPlan : TradeManagementPlan :=
  TradeManager.createPlan { finalTargetR := 1 / 2 } .bullish (11 / 10) (1 / 1000) (1097 / 1000)
    (1098 / 1000) none

/-- A plan to buy without a least distance of the stop, under a sweep and a zone. -/
def freeStopPlan : TradeManagementPlan :=
  TradeManager.createPlan { minimumAtrStop := 0 } .bullish (11 / 10) (1 / 1000) (12 / 10) (12 / 10)
    none

end IgTradingBot
