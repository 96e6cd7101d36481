import Mathlib.Data.Int.Log
import Mathlib.Data.Rat.Floor

/-!
# Rounding to binary64

The value a correctly rounded double-precision operation returns: the nearest
rational with a 53-bit significand, ties to the even one. Overflow, subnormal
results and signed zeros are left out; the operations that use this module stay
in the normal range. Rounding keeps the order, and values apart by more than the
rounding error stay apart.
-/

namespace FinanceTracker.Library.Binary64

/-- The nearest integer, ties to even. -/
def roundHalfEven (value : ℚ) : ℤ :=
  if value - ⌊value⌋ < 1 / 2 then ⌊value⌋
  else if 1 / 2 < value - ⌊value⌋ then ⌊value⌋ + 1
  else if ⌊value⌋ % 2 = 0 then ⌊value⌋
  else ⌊value⌋ + 1

theorem round_half_even_int (value : ℤ) : roundHalfEven value = value := by
  simp [roundHalfEven]

theorem round_half_even_bounds (value : ℚ) :
    ⌊value⌋ ≤ roundHalfEven value ∧ roundHalfEven value ≤ ⌊value⌋ + 1 := by
  unfold roundHalfEven
  split_ifs <;> constructor <;> omega

variable {lower upper value : ℚ}

theorem round_half_even_mono (ordered : lower ≤ upper) :
    roundHalfEven lower ≤ roundHalfEven upper := by
  have floors := Int.floor_mono ordered
  by_cases same : ⌊lower⌋ = ⌊upper⌋
  · have fractions : lower - ⌊upper⌋ ≤ upper - ⌊upper⌋ := by linarith
    unfold roundHalfEven
    rw [same]
    split_ifs <;> first | omega | linarith
  · have below := (round_half_even_bounds lower).2
    have above := (round_half_even_bounds upper).1
    omega

/-- The weight of the last of `digits + 1` significant digits of a positive value. -/
def lastPlace (base digits : ℕ) (value : ℚ) : ℚ := base ^ (Int.log base value - digits)

def roundDigits (base digits : ℕ) (value : ℚ) : ℚ :=
  roundHalfEven (value / lastPlace base digits value) * lastPlace base digits value

section Digits

variable {base : ℕ} (large : 1 < base) (digits : ℕ)

include large

theorem last_place_pos (value : ℚ) : 0 < lastPlace base digits value :=
  zpow_pos (by exact_mod_cast Nat.zero_lt_of_lt large) _

theorem last_place_scaled (value : ℚ) (above : ℕ) :
    ((base ^ (digits + above) : ℕ) : ℤ) * lastPlace base digits value =
      (base : ℚ) ^ (Int.log base value + above) := by
  have nonzero : (base : ℚ) ≠ 0 := by exact_mod_cast Nat.ne_zero_of_lt large
  unfold lastPlace
  push_cast
  rw [← zpow_natCast, ← zpow_add₀ nonzero]
  congr 1
  push_cast
  ring

theorem leading_power_le_round (positive : 0 < value) :
    (base : ℚ) ^ Int.log base value ≤ roundDigits base digits value := by
  have place := last_place_pos large digits value
  have scale := last_place_scaled large digits value 0
  rw [Nat.cast_zero, add_zero, add_zero] at scale
  have scaled : ((base ^ digits : ℕ) : ℤ) ≤ value / lastPlace base digits value := by
    rw [le_div_iff₀ place, scale]
    exact Int.zpow_log_le_self large positive
  have rounded := round_half_even_mono scaled
  rw [round_half_even_int] at rounded
  rw [← scale]
  exact mul_le_mul_of_nonneg_right (by exact_mod_cast rounded) (le_of_lt place)

theorem round_le_next_power (value : ℚ) :
    roundDigits base digits value ≤ (base : ℚ) ^ (Int.log base value + 1) := by
  have place := last_place_pos large digits value
  have scale := last_place_scaled large digits value 1
  have scaled : value / lastPlace base digits value ≤ ((base ^ (digits + 1) : ℕ) : ℤ) := by
    rw [div_le_iff₀ place, scale]
    exact le_of_lt (Int.lt_zpow_succ_log_self large value)
  have rounded := round_half_even_mono scaled
  rw [round_half_even_int] at rounded
  rw [← Nat.cast_one, ← scale]
  exact mul_le_mul_of_nonneg_right (by exact_mod_cast rounded) (le_of_lt place)

omit large in
theorem round_digits_zero : roundDigits base digits 0 = 0 := by
  simp [roundDigits, roundHalfEven]

theorem round_digits_nonneg (nonneg : 0 ≤ value) : 0 ≤ roundDigits base digits value := by
  rcases eq_or_lt_of_le nonneg with zero | positive
  · rw [← zero, round_digits_zero]
  · have power : (0 : ℚ) < base ^ Int.log base value :=
      zpow_pos (by exact_mod_cast Nat.zero_lt_of_lt large) _
    exact le_trans (le_of_lt power) (leading_power_le_round large digits positive)

theorem round_digits_mono (nonneg : 0 ≤ lower) (ordered : lower ≤ upper) :
    roundDigits base digits lower ≤ roundDigits base digits upper := by
  rcases eq_or_lt_of_le nonneg with zero | positive
  · rw [← zero, round_digits_zero]
    exact round_digits_nonneg large digits (le_trans nonneg ordered)
  · have exponents : Int.log base lower ≤ Int.log base upper := Int.log_mono_right positive ordered
    rcases eq_or_lt_of_le exponents with same | smaller
    · have samePlace : lastPlace base digits lower = lastPlace base digits upper := by
        rw [lastPlace, lastPlace, same]
      have place := last_place_pos large digits upper
      have scaled := div_le_div_of_nonneg_right ordered (le_of_lt place)
      unfold roundDigits
      rw [samePlace]
      exact mul_le_mul_of_nonneg_right (by exact_mod_cast round_half_even_mono scaled)
        (le_of_lt place)
    · calc
        roundDigits base digits lower ≤ base ^ (Int.log base lower + 1) :=
          round_le_next_power large digits lower
        _ ≤ base ^ Int.log base upper :=
          zpow_le_zpow_right₀ (by exact_mod_cast le_of_lt large) (by omega)
        _ ≤ roundDigits base digits upper :=
          leading_power_le_round large digits (lt_of_lt_of_le positive ordered)

end Digits

/-- The weight of the last significand bit of a positive value. -/
def ulp (value : ℚ) : ℚ := 2 ^ (Int.log 2 value - 52)

theorem ulp_pos (value : ℚ) : 0 < ulp value :=
  zpow_pos (by norm_num) _

def roundMagnitude (value : ℚ) : ℚ := roundHalfEven (value / ulp value) * ulp value

def nearestDouble (value : ℚ) : ℚ :=
  if 0 ≤ value then roundMagnitude value else -roundMagnitude (-value)

theorem round_magnitude_digits (value : ℚ) : roundMagnitude value = roundDigits 2 52 value := by
  simp [roundMagnitude, roundDigits, ulp, lastPlace]

theorem round_magnitude_zero : roundMagnitude 0 = 0 := by
  rw [round_magnitude_digits, round_digits_zero]

theorem round_magnitude_nonneg (nonneg : 0 ≤ value) : 0 ≤ roundMagnitude value := by
  rw [round_magnitude_digits]
  exact round_digits_nonneg (by decide) 52 nonneg

theorem round_magnitude_mono (nonneg : 0 ≤ lower) (ordered : lower ≤ upper) :
    roundMagnitude lower ≤ roundMagnitude upper := by
  rw [round_magnitude_digits, round_magnitude_digits]
  exact round_digits_mono (by decide) 52 nonneg ordered

theorem nearest_double_mono (ordered : lower ≤ upper) :
    nearestDouble lower ≤ nearestDouble upper := by
  unfold nearestDouble
  split_ifs with lowerSign upperSign upperSign
  · exact round_magnitude_mono lowerSign ordered
  · linarith
  · have below := round_magnitude_nonneg (show 0 ≤ -lower by linarith)
    have above := round_magnitude_nonneg upperSign
    linarith
  · have magnitudes := round_magnitude_mono (show 0 ≤ -upper by linarith)
      (show -upper ≤ -lower by linarith)
    linarith

theorem round_half_even_near (value : ℚ) : |(roundHalfEven value : ℚ) - value| ≤ 1 := by
  obtain ⟨below, above⟩ := round_half_even_bounds value
  have lower : (⌊value⌋ : ℚ) ≤ roundHalfEven value := by exact_mod_cast below
  have upper : (roundHalfEven value : ℚ) ≤ ⌊value⌋ + 1 := by exact_mod_cast above
  have floor := Int.floor_le value
  have ceiling := Int.lt_floor_add_one value
  rw [abs_le]
  constructor <;> linarith

/-- The error of rounding is at most the weight of the last significand bit. -/
theorem round_magnitude_near (value : ℚ) : |roundMagnitude value - value| ≤ ulp value := by
  have positive := ulp_pos value
  have near := round_half_even_near (value / ulp value)
  have scaled : roundMagnitude value - value =
      (roundHalfEven (value / ulp value) - value / ulp value) * ulp value := by
    unfold roundMagnitude
    rw [sub_mul, div_mul_cancel₀ value (ne_of_gt positive)]
  rw [scaled, abs_mul, abs_of_pos positive]
  calc
    |(roundHalfEven (value / ulp value) : ℚ) - value / ulp value| * ulp value
        ≤ 1 * ulp value := mul_le_mul_of_nonneg_right near (le_of_lt positive)
    _ = ulp value := one_mul _

theorem ulp_le (positive : 0 < value) {exponent : ℤ} (bounded : value < 2 ^ exponent) :
    ulp value ≤ 2 ^ (exponent - 53) := by
  have leading : (2 : ℚ) ^ Int.log 2 value ≤ value := by
    exact_mod_cast Int.zpow_log_le_self (by norm_num : 1 < 2) positive
  have below : Int.log 2 value < exponent := by
    apply (zpow_lt_zpow_iff_right₀ (by norm_num : (1 : ℚ) < 2)).mp
    exact lt_of_le_of_lt leading bounded
  unfold ulp
  apply zpow_le_zpow_right₀ (by norm_num)
  omega

theorem nearest_double_near (exponent : ℤ) (nonneg : 0 ≤ value) (bounded : value < 2 ^ exponent) :
    |nearestDouble value - value| ≤ 2 ^ (exponent - 53) := by
  have gap : (0 : ℚ) < 2 ^ (exponent - 53) := zpow_pos (by norm_num) _
  unfold nearestDouble
  rw [if_pos nonneg]
  rcases eq_or_lt_of_le nonneg with zero | positive
  · rw [← zero, round_magnitude_zero, sub_zero, abs_zero]
    exact le_of_lt gap
  · exact le_trans (round_magnitude_near value) (ulp_le positive bounded)

/-- Values further apart than twice the error stay apart. -/
theorem nearest_double_lt (exponent : ℤ) (nonneg : 0 ≤ lower) (bounded : upper < 2 ^ exponent)
    (apart : lower + 2 * 2 ^ (exponent - 53) < upper) :
    nearestDouble lower < nearestDouble upper := by
  have gap : (0 : ℚ) < 2 ^ (exponent - 53) := zpow_pos (by norm_num) _
  have upperNear := nearest_double_near exponent (by linarith) bounded
  have lowerNear := nearest_double_near exponent nonneg (by linarith)
  rw [abs_le] at upperNear lowerNear
  linarith [upperNear.1, lowerNear.2]

/-- Conversion to an integer, towards zero. -/
def truncate (value : ℚ) : ℤ := if 0 ≤ value then ⌊value⌋ else ⌈value⌉

theorem truncate_mono (ordered : lower ≤ upper) : truncate lower ≤ truncate upper := by
  unfold truncate
  split_ifs with lowerSign upperSign upperSign
  · exact Int.floor_mono ordered
  · linarith
  · have below : ⌈lower⌉ ≤ 0 := Int.ceil_le.mpr (by push_cast; linarith)
    have above : 0 ≤ ⌊upper⌋ := Int.floor_nonneg.mpr upperSign
    omega
  · exact Int.ceil_mono ordered

end FinanceTracker.Library.Binary64
