import Mathlib.Data.Int.Interval
import Mathlib.Data.Rat.Floor

/-!
# Column types

What a value must meet to be stored in a column of PostgreSQL: an `INTEGER`, a
`VARCHAR(n)`, and the cents that a non-negative number has in a `NUMERIC(p, 2)`
column, which rounds half away from zero. A row that was loaded and changed in a
session writes only the columns whose values differ from the loaded ones.
-/

namespace FinanceTracker.Library.Columns

def fitsInteger (value : Int) : Bool := -2147483648 ≤ value && value ≤ 2147483647

/-- A text column holds no NUL character. -/
def fitsVarchar (limit : ℕ) (text : String) : Bool :=
  text.length ≤ limit && text.toList.all fun char => char ≠ '\x00'

def writeColumn {Value : Type*} [DecidableEq Value] (loaded assigned stored : Value) : Value :=
  if assigned = loaded then stored else assigned

theorem write_column_unchanged {Value : Type*} [DecidableEq Value] (loaded stored : Value) :
    writeColumn loaded loaded stored = stored := if_pos rfl

theorem write_column_alone {Value : Type*} [DecidableEq Value] (loaded assigned : Value) :
    writeColumn loaded assigned loaded = assigned := by
  unfold writeColumn
  split
  · next same => exact same.symm
  · rfl

def toCents (amount : ℚ) : ℕ := ⌊amount * 100 + 1 / 2⌋.toNat

def fromCents (cents : ℕ) : ℚ := cents / 100

theorem to_cents_add (cents : ℕ) {amount : ℚ} (nonneg : 0 ≤ amount) :
    toCents (fromCents cents + amount) = cents + toCents amount := by
  have scaled : (fromCents cents + amount) * 100 + 1 / 2 =
      (cents : ℤ) + (amount * 100 + 1 / 2) := by
    unfold fromCents
    push_cast
    ring
  have floor : 0 ≤ ⌊amount * 100 + 1 / 2⌋ := by
    apply Int.floor_nonneg.mpr
    linarith
  unfold toCents
  rw [scaled, Int.floor_intCast_add, Int.toNat_add (by omega) floor]
  rfl

theorem to_cents_from_cents (cents : ℕ) : toCents (fromCents cents) = cents := by
  have sum := to_cents_add cents (le_refl (0 : ℚ))
  have zero : toCents 0 = 0 := by
    norm_num [toCents]
  rw [add_zero, zero, add_zero] at sum
  exact sum

theorem to_cents_mono {lower upper : ℚ} (ordered : lower ≤ upper) :
    toCents lower ≤ toCents upper := by
  apply Int.toNat_le_toNat
  apply Int.floor_mono
  linarith

theorem to_cents_pos_iff (amount : ℚ) : 0 < toCents amount ↔ 1 / 200 ≤ amount := by
  unfold toCents
  rw [Int.lt_toNat, Nat.cast_zero, Int.floor_pos]
  constructor
  · intro _
    linarith
  · intro _
    linarith

theorem to_cents_le_iff (amount : ℚ) (cents : ℕ) :
    toCents amount ≤ cents ↔ amount < (2 * cents + 1) / 200 := by
  unfold toCents
  rw [Int.toNat_le, ← Int.lt_add_one_iff, Int.floor_lt]
  push_cast
  constructor
  · intro _
    linarith
  · intro _
    linarith

end FinanceTracker.Library.Columns
