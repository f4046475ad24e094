import Mathlib.Data.Rat.Floor
import Mathlib.Tactic.Linarith
import Mathlib.Tactic.Positivity

/-!
# Decimal rounding of exact rationals

Money, prices and sizes are exact rationals; a decimal context appears only
where a program asks for it, by quantizing to a number of digits or by printing
with a number of digits. Both roundings of the decimal standard that are used
here work on the scaled number: toward zero, and to the nearest with ties to
the even neighbour.
-/

namespace Decimals

/-- Drop the fractional part, whichever side of zero the number is on. -/
def truncate (q : ℚ) : ℤ := if 0 ≤ q then ⌊q⌋ else ⌈q⌉

/-- Nearest integer; a tie goes to the even neighbour. -/
def roundHalfEven (q : ℚ) : ℤ :=
  if q - ⌊q⌋ < 1 / 2 then ⌊q⌋
  else if 1 / 2 < q - ⌊q⌋ then ⌊q⌋ + 1
  else if ⌊q⌋ % 2 = 0 then ⌊q⌋
  else ⌊q⌋ + 1

/-- Quantize toward zero to a number of decimal digits. -/
def quantizeDown (digits : ℕ) (q : ℚ) : ℚ := truncate (q * 10 ^ digits) / 10 ^ digits

/-- Quantize to the nearest with a number of decimal digits, ties to even. -/
def quantizeHalfEven (digits : ℕ) (q : ℚ) : ℚ := roundHalfEven (q * 10 ^ digits) / 10 ^ digits

/-- Print with a fixed number of decimal digits. The sign survives rounding to
zero, as it does in the decimal and binary formatting of negative numbers. -/
def fixed (digits : ℕ) (q : ℚ) : String :=
  let scaled := (roundHalfEven (q * 10 ^ digits)).natAbs
  let fraction := toString (scaled % 10 ^ digits)
  let padding := String.ofList (List.replicate (digits - fraction.length) '0')
  (if q < 0 then "-" else "") ++ toString (scaled / 10 ^ digits) ++ "." ++ padding ++ fraction

/-- The whole steps of a nonnegative amount, taken in steps of either sign, make up at most
the amount. -/
theorem mul_truncate_div {amount step : ℚ} (nonneg : 0 ≤ amount) (nonzero : step ≠ 0) :
    0 ≤ step * truncate (amount / step) ∧ step * truncate (amount / step) ≤ amount := by
  have whole : step * (amount / step) = amount := mul_div_cancel₀ amount nonzero
  by_cases quotientNonneg : 0 ≤ amount / step
  · have floorNonneg : (0 : ℚ) ≤ (⌊amount / step⌋ : ℚ) := by
      exact_mod_cast Int.floor_nonneg.mpr quotientNonneg
    simp only [truncate, if_pos quotientNonneg]
    obtain negative | positive := lt_or_gt_of_ne nonzero
    · have zero : amount / step = 0 :=
        le_antisymm (div_nonpos_of_nonneg_of_nonpos nonneg negative.le) quotientNonneg
      rw [zero, Int.floor_zero, Int.cast_zero, mul_zero]
      exact ⟨le_refl 0, nonneg⟩
    · constructor
      · exact mul_nonneg positive.le floorNonneg
      · calc step * (⌊amount / step⌋ : ℚ)
            ≤ step * (amount / step) :=
              mul_le_mul_of_nonneg_left (Int.floor_le _) positive.le
          _ = amount := whole
  · have negative : step < 0 := by
      by_contra stepNonneg
      exact quotientNonneg (div_nonneg nonneg (not_lt.mp stepNonneg))
    have ceilNonpos : (⌈amount / step⌉ : ℚ) ≤ 0 := by
      exact_mod_cast Int.ceil_le.mpr (by exact_mod_cast (not_le.mp quotientNonneg).le)
    simp only [truncate, if_neg quotientNonneg]
    constructor
    · exact mul_nonneg_of_nonpos_of_nonpos negative.le ceilNonpos
    · calc step * (⌈amount / step⌉ : ℚ)
          ≤ step * (amount / step) :=
            mul_le_mul_of_nonpos_left (Int.le_ceil _) negative.le
        _ = amount := whole

/-- On a nonnegative number truncation is the floor of the scaled number. -/
theorem quantize_down_of_nonneg (digits : ℕ) {q : ℚ} (nonneg : 0 ≤ q) :
    quantizeDown digits q = (⌊q * 10 ^ digits⌋ : ℚ) / 10 ^ digits := by
  have scaled : 0 ≤ q * 10 ^ digits := by positivity
  simp only [quantizeDown, truncate, if_pos scaled]

/-- Quantizing toward zero never increases a nonnegative number. -/
theorem quantize_down_le (digits : ℕ) {q : ℚ} (nonneg : 0 ≤ q) : quantizeDown digits q ≤ q := by
  rw [quantize_down_of_nonneg digits nonneg, div_le_iff₀ (by positivity)]
  exact Int.floor_le (q * 10 ^ digits)

/-- Quantizing toward zero keeps a nonnegative number nonnegative. -/
theorem quantize_down_nonneg (digits : ℕ) {q : ℚ} (nonneg : 0 ≤ q) :
    0 ≤ quantizeDown digits q := by
  have floorNonneg : 0 ≤ ⌊q * 10 ^ digits⌋ := Int.floor_nonneg.mpr (by positivity)
  have cast : (0 : ℚ) ≤ (⌊q * 10 ^ digits⌋ : ℚ) := by exact_mod_cast floorNonneg
  rw [quantize_down_of_nonneg digits nonneg]
  positivity

/-- Quantizing toward zero keeps the order of nonnegative numbers. -/
theorem quantize_down_mono (digits : ℕ) {smaller larger : ℚ} (nonneg : 0 ≤ smaller)
    (ordered : smaller ≤ larger) : quantizeDown digits smaller ≤ quantizeDown digits larger := by
  have positive : (0 : ℚ) < 10 ^ digits := by positivity
  rw [quantize_down_of_nonneg digits nonneg, quantize_down_of_nonneg digits (nonneg.trans ordered)]
  have floors : ⌊smaller * 10 ^ digits⌋ ≤ ⌊larger * 10 ^ digits⌋ :=
    Int.floor_le_floor (mul_le_mul_of_nonneg_right ordered positive.le)
  exact div_le_div_of_nonneg_right (by exact_mod_cast floors) positive.le

/-- A number is at most a quantized nonnegative one when the next whole number of units fits. -/
theorem le_quantize_down_iff (digits : ℕ) {bound q : ℚ} (nonneg : 0 ≤ q) :
    bound ≤ quantizeDown digits q ↔ (⌈bound * 10 ^ digits⌉ : ℚ) ≤ q * 10 ^ digits := by
  have positive : (0 : ℚ) < 10 ^ digits := by positivity
  rw [quantize_down_of_nonneg digits nonneg, le_div_iff₀ positive, ← Int.ceil_le, Int.le_floor]

/-- A quantized nonnegative number stays within a nonnegative budget per unit
exactly when its whole number of units does. -/
theorem quantize_down_mul_le_iff (digits : ℕ) {q unit budget : ℚ} (nonneg : 0 ≤ q) :
    quantizeDown digits q * unit ≤ budget ↔
      (⌊q * 10 ^ digits⌋ : ℚ) * unit ≤ budget * 10 ^ digits := by
  have positive : (0 : ℚ) < 10 ^ digits := by positivity
  rw [quantize_down_of_nonneg digits nonneg, div_mul_eq_mul_div, div_le_iff₀ positive]

/-- A number that is capped at one stays within a nonnegative budget per unit exactly when
one unit does, or the whole number of units does. -/
theorem min_quantize_down_mul_le_iff (digits : ℕ) {q unit budget : ℚ} (nonneg : 0 ≤ q)
    (budgetNonneg : 0 ≤ budget) :
    min (quantizeDown digits q) 1 * unit ≤ budget ↔
      unit ≤ budget ∨ (⌊q * 10 ^ digits⌋ : ℚ) * unit ≤ budget * 10 ^ digits := by
  rw [← quantize_down_mul_le_iff digits nonneg]
  have quantized := quantize_down_nonneg digits nonneg
  obtain negative | positive := lt_or_ge unit 0
  · have cheap : unit ≤ budget := (negative.trans_le budgetNonneg).le
    have capped : 0 ≤ min (quantizeDown digits q) 1 := le_min quantized zero_le_one
    have spent := mul_nonpos_of_nonneg_of_nonpos capped negative.le
    exact iff_of_true (spent.trans budgetNonneg) (Or.inl cheap)
  · rw [min_mul_of_nonneg _ _ positive, one_mul, min_le_iff, or_comm]

/-- A nonnegative number that is capped at one and quantized toward zero is a whole number
of units, at most as many as make up one. -/
theorem min_quantize_down_eq (digits : ℕ) {q : ℚ} (nonneg : 0 ≤ q) :
    min (quantizeDown digits q) 1 =
      ((min ⌊q * 10 ^ digits⌋ (10 ^ digits) : ℤ) : ℚ) / 10 ^ digits := by
  have positive : (0 : ℚ) < 10 ^ digits := by positivity
  have whole : (1 : ℚ) = (10 ^ digits : ℚ) / 10 ^ digits := (div_self positive.ne').symm
  rw [quantize_down_of_nonneg digits nonneg, Int.cast_min, Int.cast_pow, Int.cast_ofNat,
    ← min_div_div_right positive.le, ← whole]

/-- A multiple of a factor is a whole number exactly when the denominator of the factor
divides the multiplier. -/
theorem mul_whole_iff_den_dvd (units : ℤ) (factor : ℚ) :
    (∃ count : ℤ, (units : ℚ) * factor = count) ↔ (factor.den : ℤ) ∣ units := by
  have denominator : (factor.den : ℚ) ≠ 0 := by exact_mod_cast factor.den_nz
  have numerator : factor * factor.den = factor.num := Rat.mul_den_eq_num factor
  constructor
  · rintro ⟨count, same⟩
    have scaled : units * factor.num = count * (factor.den : ℤ) := by
      have cast : (units : ℚ) * factor.num = count * factor.den := by
        rw [← same, ← numerator]
        ring
      exact_mod_cast cast
    have coprime : Int.gcd factor.den factor.num = 1 := factor.reduced.symm
    exact Int.dvd_of_dvd_mul_left_of_gcd_one (Dvd.intro_left count scaled.symm) coprime
  · rintro ⟨count, rfl⟩
    refine ⟨count * factor.num, ?_⟩
    push_cast
    rw [← numerator]
    ring

example : quantizeDown 2 (-1 / 3) = -33 / 100 := by decide +kernel

example : fixed 4 (-1 / 8) = "-0.1250" := by decide +kernel

end Decimals
