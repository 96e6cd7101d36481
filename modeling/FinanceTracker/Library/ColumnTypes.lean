import FinanceTracker.Library.Columns
import FinanceTracker.Library.DecimalText
import FinanceTracker.Library.IntText

/-!
# The values of columns

The values that an `INTEGER` and a `NUMERIC(12, 2)` column can hold, and the texts
that Python writes of them. Every such text reads back.
-/

namespace FinanceTracker.Library.ColumnTypes

open Columns DecimalText IntText Texts

abbrev IntegerColumn := { value : ℤ // fitsInteger value = true }

theorem column_short (column : IntegerColumn) :
    (Nat.toDigits 10 column.val.natAbs).length ≤ maxStrDigits := by
  have bounds := column.property
  simp only [fitsInteger, Bool.and_eq_true, decide_eq_true_eq] at bounds
  have small : column.val.natAbs < 10 ^ 10 := by omega
  exact ((length_digits_le_iff (by decide)).mpr small).trans (by decide)

theorem int_of_column_text (column : IntegerColumn) :
    intOfText (intText column.val) = some column.val := int_of_int_text (column_short column)

theorem column_text_injective {first second : IntegerColumn}
    (same : intText first.val = intText second.val) : first = second :=
  Subtype.ext (int_text_injective (column_short first) (column_short second) same)

/-- `str` of a decimal with two places, which is also its `.2f` format. -/
def centsText (cents : ℤ) : String := (Decimal.finite (decide (cents < 0)) cents.natAbs (-2)).text

end FinanceTracker.Library.ColumnTypes
