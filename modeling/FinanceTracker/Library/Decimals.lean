import FinanceTracker.Library.Binary64

/-!
# Decimal numbers

Decimal values with infinities and a quiet NaN, as Python's `decimal` computes
with them under its default context: a result is rounded to 28 significant
digits, ties to even, and the invalid-operation signal is trapped, so that
ordering a NaN or subtracting equal infinities raises. The sign of a zero and the
exponents of the representations are left out.
-/

namespace FinanceTracker.Library.Decimals

open Binary64

inductive Decimal where
  | finite (value : ℚ)
  | infinity (negative : Bool)
  | nan
  deriving DecidableEq

inductive Signal where
  | invalidOperation
  deriving DecidableEq

namespace Decimal

def zero : Decimal := .finite 0

def contextDigits : ℤ := 28

/-- The weight of the last digit that the context keeps. -/
def quantum (value : ℚ) : ℚ := 10 ^ (Int.log 10 |value| - (contextDigits - 1))

def contextRound (value : ℚ) : ℚ := roundHalfEven (value / quantum value) * quantum value

theorem quantum_pos (value : ℚ) : 0 < quantum value :=
  zpow_pos (by norm_num) _

theorem context_round_zero : contextRound 0 = 0 := by
  have zero := round_half_even_int 0
  simp only [Int.cast_zero] at zero
  simp [contextRound, zero]

theorem context_round_whole {value : ℚ} {count : ℤ} (whole : value / quantum value = count) :
    contextRound value = value := by
  have positive := quantum_pos value
  unfold contextRound
  rw [whole, round_half_even_int, ← whole, div_mul_cancel₀ value (ne_of_gt positive)]

/-- A value with at most 28 digits is kept. -/
theorem context_round_digits (digits : ℤ) (places : ℕ) (short : |digits| < 10 ^ 28) :
    contextRound (digits / 10 ^ places) = digits / 10 ^ places := by
  by_cases vanishes : digits = 0
  · simp [vanishes, context_round_zero]
  have positive : (0 : ℚ) < |(digits / 10 ^ places : ℚ)| := by
    apply abs_pos.mpr
    exact div_ne_zero (by exact_mod_cast vanishes) (by positivity)
  have magnitude : |(digits / 10 ^ places : ℚ)| < (10 : ℚ) ^ (28 - (places : ℤ)) := by
    rw [abs_div, zpow_sub₀ (by norm_num : (10 : ℚ) ≠ 0), zpow_natCast,
      abs_of_pos (by positivity : (0 : ℚ) < 10 ^ places)]
    apply div_lt_div_of_pos_right _ (by positivity)
    exact_mod_cast short
  have leading : Int.log 10 |(digits / 10 ^ places : ℚ)| < 28 - places := by
    have lower : (10 : ℚ) ^ Int.log 10 |(digits / 10 ^ places : ℚ)| ≤
        |(digits / 10 ^ places : ℚ)| := by
      exact_mod_cast Int.zpow_log_le_self (by norm_num : 1 < 10) positive
    apply (zpow_lt_zpow_iff_right₀ (by norm_num : (1 : ℚ) < 10)).mp
    exact lt_of_le_of_lt lower magnitude
  obtain ⟨spare, spareEq⟩ : ∃ spare : ℕ,
      Int.log 10 |(digits / 10 ^ places : ℚ)| - (contextDigits - 1) = -(places + spare : ℤ) := by
    refine ⟨(27 - places - Int.log 10 |(digits / 10 ^ places : ℚ)|).toNat, ?_⟩
    unfold contextDigits
    omega
  refine @context_round_whole _ (digits * 10 ^ spare) ?_
  unfold quantum
  rw [spareEq, zpow_neg, zpow_add₀ (by norm_num : (10 : ℚ) ≠ 0), zpow_natCast, zpow_natCast]
  push_cast
  field_simp

theorem context_round_mono {lower upper : ℚ} (nonneg : 0 ≤ lower) (ordered : lower ≤ upper) :
    contextRound lower ≤ contextRound upper := by
  have digits {value : ℚ} (nonneg : 0 ≤ value) : contextRound value = roundDigits 10 27 value := by
    simp [contextRound, roundDigits, quantum, lastPlace, contextDigits, abs_of_nonneg nonneg]
  rw [digits nonneg, digits (nonneg.trans ordered)]
  exact round_digits_mono (by decide) 27 nonneg ordered

/-- `left - right`. -/
def sub : Decimal → Decimal → Except Signal Decimal
  | .nan, _ => .ok .nan
  | _, .nan => .ok .nan
  | .finite left, .finite right => .ok (.finite (contextRound (left - right)))
  | .infinity negative, .finite _ => .ok (.infinity negative)
  | .finite _, .infinity negative => .ok (.infinity !negative)
  | .infinity left, .infinity right =>
    if left = right then .error .invalidOperation else .ok (.infinity left)

/-- `left < right`. -/
def lt : Decimal → Decimal → Except Signal Bool
  | .nan, _ => .error .invalidOperation
  | _, .nan => .error .invalidOperation
  | .finite left, .finite right => .ok (left < right)
  | .infinity negative, .finite _ => .ok negative
  | .finite _, .infinity negative => .ok !negative
  | .infinity left, .infinity right => .ok (left && !right)

/-- `max(left, right)`: the first of two values that are equal. -/
def maxOf (left right : Decimal) : Except Signal Decimal :=
  (lt left right).map fun smaller => if smaller then right else left

/-- The exact sum, without the rounding of a context. -/
def add : Decimal → Decimal → Decimal
  | .finite left, .finite right => .finite (left + right)
  | .infinity negative, .finite _ => .infinity negative
  | .finite _, .infinity negative => .infinity negative
  | .infinity left, .infinity right => if left = right then .infinity left else .nan
  | .nan, _ => .nan
  | _, .nan => .nan

def IsNonneg : Decimal → Prop
  | .finite value => 0 ≤ value
  | .infinity negative => negative = false
  | .nan => False

instance (value : Decimal) : Decidable (IsNonneg value) :=
  match value with
  | .finite value => inferInstanceAs (Decidable (0 ≤ value))
  | .infinity negative => inferInstanceAs (Decidable (negative = false))
  | .nan => inferInstanceAs (Decidable False)

theorem lt_zero_iff (value : Decimal) : lt value zero = .ok false ↔ IsNonneg value := by
  cases value with
  | finite | infinity => simp [lt, zero, IsNonneg]
  | nan => simp [lt, IsNonneg]

theorem max_zero_nonneg {value result : Decimal} (larger : maxOf zero value = .ok result) :
    IsNonneg result := by
  cases value with
  | finite =>
    simp only [maxOf, lt, zero, Except.map, Except.ok.injEq, decide_eq_true_eq] at larger
    rw [← larger]
    split
    next positive => exact le_of_lt positive
    next => exact le_refl (0 : ℚ)
  | infinity negative =>
    cases negative <;> simp only [maxOf, lt, zero, Except.map, Except.ok.injEq] at larger <;>
      rw [← larger] <;> simp [IsNonneg]
  | nan => simp [maxOf, lt, zero, Except.map] at larger

end Decimal

end FinanceTracker.Library.Decimals
