import IgTradingBot.Strategy.TradeManagement

/-!
# Final targets

The level of liquidity that the professional strategy hands to its trade manager: a high of the last
bars above the entry when it buys, a low below it when it sells. Of several levels the strategy takes
the farthest, while its description names the nearest. The final target is therefore what the price
reaches first only where no level lies before the multiple of the risk, or where all of them are one.
-/

namespace IgTradingBot

/-- What the strategy knows of a trade when all its gates are passed. -/
structure EntrySetup where
  direction : MarketBias
  entry : ℚ
  atr : ℚ
  sweepExtreme : ℚ
  zoneLower : ℚ
  zoneUpper : ℚ
  deriving DecidableEq, Repr

namespace ProfessionalICTStrategy

/-- The highs of the last fifty bars above the entry, or their lows below it. -/
def candidates (frame : List FiveMinuteBar) (direction : MarketBias) (entry : ℚ) : List ℚ :=
  let recent := frame.drop (frame.length - 50)
  match direction with
  | .bullish => (recent.map FiveMinuteBar.high).filter fun high => decide (entry < high)
  | _ => (recent.map FiveMinuteBar.low).filter fun low => decide (low < entry)

/-- The level that is handed to the trade manager. -/
def nextLiquidity (frame : List FiveMinuteBar) (direction : MarketBias) (entry : ℚ) : Option ℚ :=
  match direction with
  | .bullish => (candidates frame direction entry).max?
  | _ => (candidates frame direction entry).min?

/-- The edge of the zone that the stop goes behind. -/
def zoneEdge (setup : EntrySetup) : ℚ :=
  match setup.direction with
  | .bullish => setup.zoneLower
  | _ => setup.zoneUpper

/-- The plan of a trade whose gates are passed. -/
def plan (tradeManager : TradeManager) (fiveMinute : List FiveMinuteBar) (setup : EntrySetup) :
    TradeManagementPlan :=
  tradeManager.createPlan setup.direction setup.entry setup.atr setup.sweepExtreme (zoneEdge setup)
    (nextLiquidity fiveMinute setup.direction setup.entry)

end ProfessionalICTStrategy

open ProfessionalICTStrategy

/-- The level at the multiple of the risk, which the sweep, the zone and the range decide. -/
def targetByR (manager : TradeManager) (setup : EntrySetup) : ℚ :=
  let risk := manager.riskFor setup.atr (setup.direction.ahead setup.entry setup.sweepExtreme)
    (setup.direction.ahead setup.entry (zoneEdge setup))
  match setup.direction with
  | .bullish => setup.entry + risk * manager.finalTargetR
  | _ => setup.entry - risk * manager.finalTargetR

/-- One of some targets that the price reaches no later than any other. -/
def FirstReached (setup : EntrySetup) (targets : List ℚ) (target : ℚ) : Prop :=
  target ∈ targets ∧ ∀ other ∈ targets,
    setup.direction.ahead setup.entry target ≤ setup.direction.ahead setup.entry other

section Levels

variable {manager : TradeManager} {frame : List FiveMinuteBar} {setup : EntrySetup}
  {direction : MarketBias} {entry : ℚ}

/-- Every level lies ahead of the entry. -/
theorem candidate_ahead {level : ℚ} (member : level ∈ candidates frame direction entry) :
    0 < direction.ahead entry level := by
  cases direction with
  | bullish =>
    have above : entry < level := by simpa using (List.mem_filter.mp member).2
    exact sub_pos.mpr above
  | bearish | neutral =>
    have below : level < entry := by simpa using (List.mem_filter.mp member).2
    exact sub_pos.mpr below

/-- No level is handed over when there is none. -/
theorem next_liquidity_none (none : nextLiquidity frame direction entry = none) :
    candidates frame direction entry = [] := by
  cases direction <;> simpa [nextLiquidity] using none

/-- The level that is handed over is one of the levels, and the farthest. -/
theorem next_liquidity_farthest {level : ℚ} (next : nextLiquidity frame direction entry = some level) :
    level ∈ candidates frame direction entry ∧
      ∀ other ∈ candidates frame direction entry,
        direction.ahead entry other ≤ direction.ahead entry level := by
  cases direction with
  | bullish =>
    obtain ⟨member, highest⟩ := List.max?_eq_some_iff.mp next
    exact ⟨member, fun other known => sub_le_sub_right (highest other known) entry⟩
  | bearish | neutral =>
    obtain ⟨member, lowest⟩ := List.min?_eq_some_iff.mp next
    exact ⟨member, fun other known => sub_le_sub_left (lowest other known) entry⟩

/-- What the plan of a trade comes from. -/
theorem plan_planned (manager : TradeManager) (frame : List FiveMinuteBar) (setup : EntrySetup) :
    PlannedBy manager setup.direction setup.entry setup.atr setup.sweepExtreme (zoneEdge setup)
      (nextLiquidity frame setup.direction setup.entry) (plan manager frame setup) :=
  create_plan_planned manager setup.direction setup.entry setup.atr setup.sweepExtreme _ _

/-- The level at the multiple of the risk, by its distance. -/
theorem target_by_r_ahead :
    setup.direction.ahead setup.entry (targetByR manager setup) =
      (plan manager frame setup).riskDistance * manager.finalTargetR := by
  rw [(plan_planned manager frame setup).risk]
  cases known : setup.direction <;> simp [targetByR, MarketBias.ahead, known]

/-- Without a level other than zero, the final target is at the multiple of the risk. -/
theorem final_by_r
    (none : ∀ level ∈ nextLiquidity frame setup.direction setup.entry, level = 0) :
    (plan manager frame setup).finalTarget = targetByR manager setup := by
  apply MarketBias.ahead_inj.mp
  rw [target_by_r_ahead]
  apply (plan_planned manager frame setup).final_none
  cases next : nextLiquidity frame setup.direction setup.entry with
  | none => rfl
  | some level =>
    apply usable_liquidity_none
    simp [none level next]

/-- With a farthest level other than zero, the final target is the nearer of the two. -/
theorem final_by_level {level : ℚ}
    (next : nextLiquidity frame setup.direction setup.entry = some level) (nonzero : level ≠ 0) :
    setup.direction.ahead setup.entry (plan manager frame setup).finalTarget =
      min (setup.direction.ahead setup.entry (targetByR manager setup))
        (setup.direction.ahead setup.entry level) := by
  rw [target_by_r_ahead]
  apply (plan_planned manager frame setup).final_some
  rw [next]
  exact usable_liquidity_some ⟨nonzero, candidate_ahead (next_liquidity_farthest next).1⟩

/-- The farthest of some levels is reached first only if they are one. -/
theorem farthest_first_iff {level : ℚ}
    (next : nextLiquidity frame direction entry = some level) :
    (∀ other ∈ candidates frame direction entry,
      direction.ahead entry level ≤ direction.ahead entry other) ↔
      ∀ other ∈ candidates frame direction entry, other = level := by
  have farthest := (next_liquidity_farthest next).2
  constructor
  · intro nearest other known
    exact MarketBias.ahead_inj.mp (le_antisymm (farthest other known) (nearest other known))
  · intro same other known
    rw [same other known]

/-- With a farthest level other than zero, the final target is one of the targets and not beyond the
multiple of the risk. -/
theorem final_among {level : ℚ}
    (next : nextLiquidity frame setup.direction setup.entry = some level) (nonzero : level ≠ 0) :
    (plan manager frame setup).finalTarget ∈
      targetByR manager setup ::
        candidates frame setup.direction setup.entry := by
  have final : setup.direction.ahead setup.entry (plan manager frame setup).finalTarget = _ :=
    final_by_level next nonzero
  obtain least | least := min_choice
    (setup.direction.ahead setup.entry (targetByR manager setup))
    (setup.direction.ahead setup.entry level)
  · rw [MarketBias.ahead_inj.mp (final.trans least)]
    exact List.mem_cons_self
  · rw [MarketBias.ahead_inj.mp (final.trans least)]
    exact List.mem_cons_of_mem _ (next_liquidity_farthest next).1

/-- Where the levels are one other than zero, that level is handed over unless there is none. -/
theorem next_of_one {level : ℚ} (nonzero : level ≠ 0)
    (one : ∀ other ∈ candidates frame direction entry, other = level)
    (unusable : ∀ level ∈ nextLiquidity frame direction entry, level = 0) :
    candidates frame direction entry = [] := by
  cases next : nextLiquidity frame direction entry with
  | none => exact next_liquidity_none next
  | some farthest =>
    have zero : farthest = 0 := unusable farthest next
    have same : farthest = level := one farthest (next_liquidity_farthest next).1
    exact absurd (same.symm.trans zero) nonzero

end Levels

/-- The final target of a plan is what the price reaches first, of the levels and the multiple of the
risk, if and only if no level lies before that multiple or all levels are one, other than zero. -/
theorem final_first_reached_iff (manager : TradeManager) (frame : List FiveMinuteBar)
    (setup : EntrySetup) :
    FirstReached setup
        (targetByR manager setup ::
          candidates frame setup.direction setup.entry)
        (plan manager frame setup).finalTarget ↔
      (∀ level ∈ candidates frame setup.direction setup.entry,
        setup.direction.ahead setup.entry (targetByR manager setup) ≤
          setup.direction.ahead setup.entry level) ∨
      ∃ level ≠ 0, ∀ other ∈ candidates frame setup.direction setup.entry, other = level := by
  by_cases usable : ∃ level ∈ nextLiquidity frame setup.direction setup.entry, level ≠ 0
  · obtain ⟨level, next, nonzero⟩ := usable
    have among : (plan manager frame setup).finalTarget ∈ _ := final_among next nonzero
    have final : setup.direction.ahead setup.entry (plan manager frame setup).finalTarget = _ :=
      final_by_level next nonzero
    obtain ⟨member, -⟩ := next_liquidity_farthest next
    simp only [FirstReached, among, true_and, List.forall_mem_cons, final]
    constructor
    · rintro ⟨-, nearest⟩
      obtain least | least := min_choice
        (setup.direction.ahead setup.entry (targetByR manager setup))
        (setup.direction.ahead setup.entry level)
      · exact .inl (least ▸ nearest)
      · exact .inr ⟨level, nonzero, (farthest_first_iff next).mp (least ▸ nearest)⟩
    · intro placed
      refine ⟨min_le_left _ _, fun other known => ?_⟩
      obtain before | ⟨one, -, same⟩ := placed
      · exact (min_le_left _ _).trans (before other known)
      · rw [same other known, ← same level member]
        exact min_le_right _ _
  · have unusable : ∀ level ∈ nextLiquidity frame setup.direction setup.entry, level = 0 := by
      simpa using usable
    rw [final_by_r unusable]
    simp only [FirstReached, List.mem_cons_self, true_and, List.forall_mem_cons, le_refl]
    constructor
    · exact .inl
    · rintro (before | ⟨level, nonzero, one⟩)
      · exact before
      · simp [next_of_one nonzero one unusable]

/-- A trade to buy whose multiple of the risk is two thousandths ahead of its entry. -/
def buySetup : EntrySetup :=
  ⟨.bullish, 11 / 10, 1 / 1000, 10995 / 10000, 10995 / 10000, 11 / 10⟩

/-- Bars that stay at the entry of the trade, and then two whose highs are beyond it. -/
def highsBeyond (first second : ℚ) : List FiveMinuteBar :=
  ((List.range 78).map fun place => ⟨300 * place, 11 / 10, 11 / 10, 11 / 10, 11 / 10⟩) ++
    [⟨23400, 11 / 10, first, 11 / 10, 11 / 10⟩, ⟨23700, 11 / 10, second, 11 / 10, 11 / 10⟩]

/-- With one level of liquidity nearer than the multiple of the risk, it is the final target. -/
theorem single_high_targeted :
    FirstReached buySetup
      (targetByR {} buySetup :: candidates (highsBeyond (1101 / 1000) (11 / 10)) .bullish (11 / 10))
      (plan {} (highsBeyond (1101 / 1000) (11 / 10)) buySetup).finalTarget :=
  (final_first_reached_iff {} (highsBeyond (1101 / 1000) (11 / 10)) buySetup).mpr
    (.inr ⟨1101 / 1000, by decide +kernel⟩)

/-- With a second level farther ahead, the final target is beyond the first one. -/
theorem nearest_high_passed :
    (plan {} (highsBeyond (1101 / 1000) (1105 / 1000)) buySetup).finalTarget = 1102 / 1000 ∧
      1101 / 1000 ∈ candidates (highsBeyond (1101 / 1000) (1105 / 1000)) .bullish (11 / 10) ∧
      ¬FirstReached buySetup
        (targetByR {} buySetup ::
          candidates (highsBeyond (1101 / 1000) (1105 / 1000)) .bullish (11 / 10))
        (plan {} (highsBeyond (1101 / 1000) (1105 / 1000)) buySetup).finalTarget := by
  simp only [FirstReached]
  decide +kernel

end IgTradingBot
