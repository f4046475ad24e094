import IgTradingBot.Loop.SizedRisk

/-!
# Sizes that can be traded

The sizer buys whole hundredths of a lot and refuses less than one of them. The factors of
learning and news are applied afterwards, and nothing quantizes or checks the product; so a
size that is sent to the broker is tradable only under a condition that relates the
hundredths of the sizer to the factors.
-/

namespace IgTradingBot

open Sequential Sequential.Program

/-- A size is tradable when it is at least the minimum lot and a whole multiple of it. -/
def TradableSize (size : ℚ) : Prop :=
  PositionSizer.minLotSizeDefault ≤ size ∧
    ∃ count : ℤ, size = count * PositionSizer.minLotSizeDefault

/-- Some hundredths of a lot, times a factor, are tradable exactly when the factor is positive
and its denominator divides them. -/
theorem tradable_size_iff {hundredths : ℤ} (factor : ℚ) (positive : 0 < hundredths) :
    TradableSize ((hundredths : ℚ) / 10 ^ 2 * factor) ↔
      0 < factor ∧ (factor.den : ℤ) ∣ hundredths := by
  have scaled : (hundredths : ℚ) / 10 ^ 2 * factor =
      hundredths * factor * PositionSizer.minLotSizeDefault := by
    rw [PositionSizer.minLotSizeDefault]
    ring
  have lotPositive : 0 < PositionSizer.minLotSizeDefault := by
    norm_num [PositionSizer.minLotSizeDefault]
  have cast : (0 : ℚ) < hundredths := by exact_mod_cast positive
  have whole : (∃ count : ℤ, (hundredths : ℚ) * factor * PositionSizer.minLotSizeDefault =
      count * PositionSizer.minLotSizeDefault) ↔ (factor.den : ℤ) ∣ hundredths := by
    simp only [mul_left_inj' lotPositive.ne', Decimals.mul_whole_iff_den_dvd]
  rw [TradableSize, scaled, whole]
  constructor
  · rintro ⟨atLeastLot, divides⟩
    have product : 0 < (hundredths : ℚ) * factor :=
      pos_of_mul_pos_left (lotPositive.trans_le atLeastLot) lotPositive.le
    exact ⟨pos_of_mul_pos_right product cast.le, divides⟩
  · rintro ⟨factorPositive, divides⟩
    refine ⟨?_, divides⟩
    obtain ⟨count, same⟩ := (Decimals.mul_whole_iff_den_dvd hundredths factor).mpr divides
    have countPositive : 0 < count := by
      have product := mul_pos cast factorPositive
      rw [same] at product
      exact_mod_cast product
    have atLeastOne : (1 : ℚ) ≤ hundredths * factor := by
      rw [same]
      exact_mod_cast countPositive
    exact le_mul_of_one_le_left lotPositive.le atLeastOne

namespace TradingLoop

/-- Hundredths of a lot that the sizer buys for a signal, at most one lot. -/
def sizedHundredths (script : RiskScript) (world : World) (signal : Signal) : ℤ :=
  min ⌊affordableLots script world signal * 10 ^ 2⌋ (10 ^ 2)

/-- The factors that are applied to the size behind the sizer. -/
def laterFactor (config : LoopConfig) (script : EntryScript) (signal : Signal) : ℚ :=
  (mistakePenaltiesForSignal config script.risk signal).sizeReductionFactor *
    newsFactor config script.news

/-- The sizer refuses less than the minimum lot, so an approved signal has at least one
hundredth. -/
theorem Approval.sized_hundredths_pos {config : LoopConfig} {script : RiskScript}
    {signal validated : Signal} {positionSize : ℚ} {world after : World}
    (approval : Approval config script signal validated positionSize world after) :
    0 < sizedHundredths script world signal := by
  obtain ⟨quantized, _, lots⟩ := approval.position_size_eq
  obtain ⟨result, verdict, allowed, sized⟩ := approval.verdict
  obtain ⟨now, positions, decided, _⟩ := validate_signal_run verdict
  obtain ⟨_, _, _, _, _, reductions, shrinking, limits⟩ :=
    RiskEngine.validate_signal_passes now _ _ positions _ _ _ decided allowed
  obtain ⟨size, _, sizeAnswer, _, atLeastLot, _⟩ :=
    RiskEngine.check_limits_sized _ _ positions reductions shrinking _ _ _ limits allowed
  obtain rfl : positionSize = size := Option.some.inj (sized.symm.trans sizeAnswer)
  rw [quantized, Decimals.quantize_down_of_nonneg 2 lots,
    le_div_iff₀ (by positivity : (0 : ℚ) < 10 ^ 2)] at atLeastLot
  have bought : (1 : ℚ) ≤ ⌊affordableLots script world signal * 10 ^ 2⌋ := calc
    (1 : ℚ) = PositionSizer.minLotSizeDefault * 10 ^ 2 := by
      norm_num [PositionSizer.minLotSizeDefault]
    _ ≤ ⌊affordableLots script world signal * 10 ^ 2⌋ := atLeastLot
  have boughtWhole : (1 : ℤ) ≤ ⌊affordableLots script world signal * 10 ^ 2⌋ := by
    exact_mod_cast bought
  exact lt_min (by omega) (by norm_num)

/-- The size of the order of a signal that comes to its execution. -/
theorem Entering.order_size_eq {config : LoopConfig} {script : EntryScript}
    {signal approved : Signal} {start world : World}
    (entering : Entering config script signal approved start world) :
    (openingOrder approved).size =
        (sizedHundredths script.risk start signal : ℚ) / 10 ^ 2 *
          laterFactor config script signal ∧
      0 < sizedHundredths script.risk start signal := by
  obtain ⟨validated, positionSize, middle, after, approval, passed, _⟩ := entering.through
  obtain ⟨_, _, lots⟩ := approval.position_size_eq
  obtain ⟨sized, _⟩ := approval.size_eq
  obtain ⟨scaled, _⟩ := news_factor_applied passed
  refine ⟨?_, approval.sized_hundredths_pos⟩
  calc (openingOrder approved).size
      = (openingOrder validated).size * newsFactor config script.news := scaled
    _ = min (Decimals.quantizeDown 2 (affordableLots script.risk start signal)) 1 *
          (mistakePenaltiesForSignal config script.risk signal).sizeReductionFactor *
          newsFactor config script.news := by
      simp only [openingOrder, sized, Option.getD_some]
    _ = (sizedHundredths script.risk start signal : ℚ) / 10 ^ 2 *
          laterFactor config script signal := by
      rw [Decimals.min_quantize_down_eq 2 lots, laterFactor, sizedHundredths, mul_assoc]

/-- Every order that an entry submits has a tradable size exactly when the factor of learning
and news is positive and its denominator divides the hundredths of a lot that the sizer has
bought. -/
theorem submitted_size_tradable_iff (config : LoopConfig) (script : EntryScript)
    (signal : Signal) (world : World) (order : OpeningOrder) (active : Bool)
    (unrecorded : world.history = [])
    (submitted : .orderSubmitted order active ∈
      (final (enterSignal config script signal) world).history) :
    TradableSize order.size ↔
      0 < laterFactor config script signal ∧
        ((laterFactor config script signal).den : ℤ) ∣
          sizedHundredths script.risk world signal := by
  obtain ⟨approved, reached, entering, rfl⟩ := submitted_order_entering unrecorded submitted
  obtain ⟨size, positive⟩ := entering.order_size_eq
  rw [size]
  exact tradable_size_iff _ positive

/-- The demo configuration with a news layer. -/
def cautiousConfig : LoopConfig := { demoConfig with hasNewsSafetyLayer := true }

/-- The demo entry while the news layer asks for a smaller size. -/
def cautiousEntry : EntryScript := { demoEntry with news := { reply := .ok .reduceSize } }

/-- The sizer buys 0.13 lots, and the news layer halves them: an order of 0.065 lots is sent. -/
theorem halved_lots_untradable :
    .orderSubmitted (demoOrder (13 / 200)) false ∈
        (final (enterSignal cautiousConfig cautiousEntry (demoSignal "CS.D.EURUSD.CFD.IP"))
          smallWorld).history ∧
      ¬ TradableSize (demoOrder (13 / 200)).size := by
  constructor
  · decide +kernel
  · rintro ⟨_, count, same⟩
    have doubled : (13 : ℚ) = 2 * count := by
      simp only [demoOrder, openingOrder, Option.getD_some, PositionSizer.minLotSizeDefault] at same
      linarith
    have parity : (13 : ℤ) = 2 * count := by exact_mod_cast doubled
    omega

/-- With an equity of twenty thousand half a lot is sent. -/
theorem halved_lot_tradable : TradableSize (demoOrder (1 / 2)).size := by
  have submitted : .orderSubmitted (demoOrder (1 / 2)) false ∈
      (final (enterSignal cautiousConfig cautiousEntry (demoSignal "CS.D.EURUSD.CFD.IP"))
        demoWorld).history := by decide +kernel
  apply (submitted_size_tradable_iff cautiousConfig cautiousEntry _ demoWorld _ false rfl
    submitted).mpr
  decide +kernel

end TradingLoop

end IgTradingBot
