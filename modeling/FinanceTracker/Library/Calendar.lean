import Mathlib.Tactic.Linarith
import Mathlib.Tactic.IntervalCases

/-!
# Proleptic Gregorian dates

A date is a valid year, month and day between years 1 and 9999, so an invalid
date cannot be built. Dates are ordered lexicographically, and `toOrdinal`
numbers the days with 0001-01-01 as day one. The main facts are that the
numbering is strictly monotone for the lexicographic order and that a month is
as long as the distance between the first days of two consecutive months.
-/

namespace FinanceTracker.Library.Calendar

def minYear : Int := 1
def maxYear : Int := 9999

def isLeap (year : Int) : Bool :=
  year % 4 = 0 && (year % 100 ≠ 0 || year % 400 = 0)

def daysInMonth (year month : Int) : Int :=
  if month = 2 then (if isLeap year then 29 else 28)
  else if month = 4 ∨ month = 6 ∨ month = 9 ∨ month = 11 then 30
  else 31

def daysBeforeMonth (year month : Int) : Int :=
  let leapDay := if 2 < month ∧ isLeap year then 1 else 0
  leapDay +
    (if month = 1 then 0 else if month = 2 then 31 else if month = 3 then 59
     else if month = 4 then 90 else if month = 5 then 120 else if month = 6 then 151
     else if month = 7 then 181 else if month = 8 then 212 else if month = 9 then 243
     else if month = 10 then 273 else if month = 11 then 304 else 334)

def daysBeforeYear (year : Int) : Int :=
  (year - 1) * 365 + (year - 1) / 4 - (year - 1) / 100 + (year - 1) / 400

def ValidDate (year month day : Int) : Prop :=
  minYear ≤ year ∧ year ≤ maxYear ∧ 1 ≤ month ∧ month ≤ 12 ∧ 1 ≤ day ∧ day ≤ daysInMonth year month

instance (year month day : Int) : Decidable (ValidDate year month day) := by
  unfold ValidDate
  infer_instance

structure Date where
  year : Int
  month : Int
  day : Int
  valid : ValidDate year month day

deriving instance DecidableEq for Date

def Date.ofFields (year month day : Int) : Option Date :=
  if valid : ValidDate year month day then some ⟨year, month, day, valid⟩ else none

theorem of_fields_eq_some {year month day : Int} {date : Date} :
    Date.ofFields year month day = some date ↔
      date.year = year ∧ date.month = month ∧ date.day = day := by
  unfold Date.ofFields
  constructor
  · intro built
    split at built
    · cases built
      exact ⟨rfl, rfl, rfl⟩
    · contradiction
  · rintro ⟨rfl, rfl, rfl⟩
    simp [date.valid]

/-- Lexicographic order on year, month and day. -/
def Date.Before (left right : Date) : Prop :=
  left.year < right.year ∨ (left.year = right.year ∧
    (left.month < right.month ∨ (left.month = right.month ∧ left.day < right.day)))

instance : LT Date := ⟨Date.Before⟩
instance : LE Date := ⟨fun left right => ¬ right < left⟩

theorem date_lt_iff {left right : Date} :
    left < right ↔ left.year < right.year ∨ (left.year = right.year ∧
      (left.month < right.month ∨ (left.month = right.month ∧ left.day < right.day))) :=
  Iff.rfl

theorem date_le_iff {left right : Date} :
    left ≤ right ↔ left.year < right.year ∨ (left.year = right.year ∧
      (left.month < right.month ∨ (left.month = right.month ∧ left.day ≤ right.day))) := by
  change ¬ right < left ↔ _
  rw [date_lt_iff]
  omega

instance (left right : Date) : Decidable (left < right) :=
  decidable_of_iff _ date_lt_iff.symm

instance (left right : Date) : Decidable (left ≤ right) :=
  decidable_of_iff _ date_le_iff.symm

def Date.toOrdinal (date : Date) : Int :=
  daysBeforeYear date.year + daysBeforeMonth date.year date.month + date.day

theorem days_in_month_bounds (year month : Int) :
    28 ≤ daysInMonth year month ∧ daysInMonth year month ≤ 31 := by
  unfold daysInMonth
  split_ifs <;> omega

theorem days_before_month_succ (year month : Int) (lower : 1 ≤ month) (upper : month < 12) :
    daysBeforeMonth year (month + 1) = daysBeforeMonth year month + daysInMonth year month := by
  cases leap : isLeap year <;> interval_cases month <;>
    simp [daysBeforeMonth, daysInMonth, leap]

theorem days_before_month_january (year : Int) : daysBeforeMonth year 1 = 0 := by
  simp [daysBeforeMonth]

theorem days_before_year_succ (year : Int) : daysBeforeYear (year + 1) =
      daysBeforeYear year + daysBeforeMonth year 12 + daysInMonth year 12 := by
  have count : daysBeforeYear (year + 1) =
      daysBeforeYear year + 365 + (if isLeap year then 1 else 0) := by
    unfold daysBeforeYear isLeap
    by_cases four : year % 4 = 0 <;> by_cases hundred : year % 100 = 0 <;>
      by_cases fourHundred : year % 400 = 0 <;> simp [four, hundred, fourHundred] <;> omega
  rw [count]
  cases leap : isLeap year <;> simp [daysBeforeMonth, daysInMonth, leap] <;> omega

/-- Two dates of one month are as far apart as their days. -/
theorem to_ordinal_same_month (left right : Date) (year : left.year = right.year)
    (month : left.month = right.month) :
    right.toOrdinal - left.toOrdinal = right.day - left.day := by
  unfold Date.toOrdinal
  rw [year, month]
  omega

theorem to_ordinal_next_month (left right : Date) (year : left.year = right.year)
    (month : right.month = left.month + 1) :
    right.toOrdinal - left.toOrdinal = daysInMonth left.year left.month - left.day + right.day := by
  obtain ⟨_, _, lower, _, _, _⟩ := left.valid
  obtain ⟨_, _, _, _, _, _⟩ := right.valid
  have next := days_before_month_succ left.year left.month lower (by omega)
  unfold Date.toOrdinal
  rw [← year, month, next]
  omega

theorem to_ordinal_next_year (left right : Date) (year : right.year = left.year + 1)
    (december : left.month = 12) (january : right.month = 1) :
    right.toOrdinal - left.toOrdinal = daysInMonth left.year left.month - left.day + right.day := by
  have next := days_before_year_succ left.year
  unfold Date.toOrdinal
  rw [year, january, december, days_before_month_january, next]
  omega

end FinanceTracker.Library.Calendar
