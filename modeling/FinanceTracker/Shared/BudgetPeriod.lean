import FinanceTracker.Library.Calendar

/-!
# Budget periods

The shared budget-period calculator: `budgetPeriod` maps a budget month to its
inclusive date range and `determineBudgetMonth` maps a date back. Both clamp
the start day to 1..28. A range that would leave the calendar is refused by the
date constructor, exactly as the source raises there.
-/

namespace FinanceTracker.Shared.BudgetPeriod

open Library.Calendar

def minStartDay : Int := 1
def maxStartDay : Int := 28

def clampStartDay (startDay : Int) : Int :=
  max minStartDay (min maxStartDay startDay)

def prevMonth (year month : Int) : Int × Int :=
  if month = 1 then (year - 1, 12) else (year, month - 1)

def nextMonth (year month : Int) : Int × Int :=
  if month = 12 then (year + 1, 1) else (year, month + 1)

/-- `calendar.monthrange`, of which the source uses the month length only. -/
def monthrange (year month : Int) : Option Int :=
  if 1 ≤ month ∧ month ≤ 12 then some (daysInMonth year month) else none

def budgetPeriod (year month startDay : Int) : Option (Date × Date) :=
  let startDay := clampStartDay startDay
  if startDay = 1 then do
    let last ← monthrange year month
    let startDate ← Date.ofFields year month 1
    let endDate ← Date.ofFields year month last
    some (startDate, endDate)
  else do
    let (prevYear, prevMonth) := prevMonth year month
    let startDate ← Date.ofFields prevYear prevMonth startDay
    let endDate ← Date.ofFields year month (startDay - 1)
    some (startDate, endDate)

def determineBudgetMonth (txDate : Date) (startDay : Int) : Int × Int :=
  let startDay := clampStartDay startDay
  if startDay = 1 then (txDate.year, txDate.month)
  else if startDay ≤ txDate.day then nextMonth txDate.year txDate.month
  else (txDate.year, txDate.month)

theorem clamp_start_day_bounds (startDay : Int) :
    1 ≤ clampStartDay startDay ∧ clampStartDay startDay ≤ 28 := by
  unfold clampStartDay minStartDay maxStartDay
  omega

variable {year month startDay : Int} {startDate endDate : Date}

/-- The two branches of the source, with the fields each one writes. -/
theorem budget_period_cases (period : budgetPeriod year month startDay = some (startDate, endDate)) :
    (clampStartDay startDay = 1 ∧
      startDate.year = year ∧ startDate.month = month ∧ startDate.day = 1 ∧
      endDate.year = year ∧ endDate.month = month ∧ endDate.day = daysInMonth year month) ∨
    (clampStartDay startDay ≠ 1 ∧ (startDate.year, startDate.month) = prevMonth year month ∧
      startDate.day = clampStartDay startDay ∧
      endDate.year = year ∧ endDate.month = month ∧
      endDate.day = clampStartDay startDay - 1) := by
  unfold budgetPeriod at period
  by_cases calendarMonth : clampStartDay startDay = 1
  · left
    simp only [calendarMonth, if_true, monthrange, Option.bind_eq_bind, Option.bind_eq_some_iff,
      Option.ite_none_right_eq_some, Option.some.injEq, Prod.mk.injEq, of_fields_eq_some] at period
    obtain ⟨last, ⟨_, rfl⟩, first, ⟨rfl, rfl, firstDay⟩, final, ⟨finalYear, finalMonth, finalDay⟩,
      rfl, rfl⟩ := period
    exact ⟨calendarMonth, rfl, rfl, firstDay, finalYear, finalMonth, finalDay⟩
  · right
    simp only [if_neg calendarMonth, Option.bind_eq_bind, Option.bind_eq_some_iff,
      Option.some.injEq, Prod.mk.injEq, of_fields_eq_some] at period
    obtain ⟨first, ⟨firstYear, firstMonth, firstDay⟩, final, ⟨finalYear, finalMonth, finalDay⟩,
      rfl, rfl⟩ := period
    exact ⟨calendarMonth, Prod.ext firstYear firstMonth, firstDay, finalYear, finalMonth, finalDay⟩

/-- The budget months whose period lies inside the calendar. With a start day
above one the period of January of year one would begin in year zero. -/
def Supported (year month startDay : Int) : Prop :=
  minYear ≤ year ∧ year ≤ maxYear ∧ 1 ≤ month ∧ month ≤ 12 ∧
    ¬ (clampStartDay startDay ≠ 1 ∧ year = minYear ∧ month = 1)

instance (year month startDay : Int) : Decidable (Supported year month startDay) := by
  unfold Supported
  infer_instance

theorem budget_period_isSome (year month startDay : Int) :
    (∃ startDate endDate, budgetPeriod year month startDay = some (startDate, endDate)) ↔
      Supported year month startDay := by
  have clamp := clamp_start_day_bounds startDay
  constructor
  · rintro ⟨startDate, endDate, period⟩
    obtain ⟨startLow, startHigh, startMonthLow, startMonthHigh, _, _⟩ := startDate.valid
    obtain ⟨endLow, endHigh, endMonthLow, endMonthHigh, _, _⟩ := endDate.valid
    rcases budget_period_cases period with
      ⟨calendarMonth, rfl, rfl, _⟩ | ⟨_, previous, _, rfl, rfl, _⟩
    · exact ⟨startLow, startHigh, startMonthLow, startMonthHigh, fun edge => edge.1 calendarMonth⟩
    · refine ⟨endLow, endHigh, endMonthLow, endMonthHigh, ?_⟩
      rintro ⟨_, firstYear, january⟩
      simp only [prevMonth, january, if_true, Prod.mk.injEq] at previous
      unfold minYear at firstYear startLow
      omega
  · rintro ⟨low, high, monthLow, monthHigh, inside⟩
    by_cases calendarMonth : clampStartDay startDay = 1
    · have lengths := days_in_month_bounds year month
      have firstValid : ValidDate year month 1 :=
        ⟨low, high, monthLow, monthHigh, by omega, by omega⟩
      have lastValid : ValidDate year month (daysInMonth year month) :=
        ⟨low, high, monthLow, monthHigh, by omega, le_refl _⟩
      refine ⟨⟨year, month, 1, firstValid⟩, ⟨year, month, _, lastValid⟩, ?_⟩
      simp [budgetPeriod, calendarMonth, monthrange, monthLow, monthHigh, Date.ofFields,
        firstValid, lastValid]
    · have lengths := days_in_month_bounds year month
      have lastValid : ValidDate year month (clampStartDay startDay - 1) :=
        ⟨low, high, monthLow, monthHigh, by omega, by omega⟩
      have previousLengths := days_in_month_bounds (prevMonth year month).1 (prevMonth year month).2
      have firstValid : ValidDate (prevMonth year month).1 (prevMonth year month).2
          (clampStartDay startDay) := by
        refine ⟨?_, ?_, ?_, ?_, by omega, by omega⟩ <;>
          simp only [prevMonth, minYear, maxYear] at * <;> split_ifs <;> simp_all <;> omega
      refine ⟨⟨_, _, _, firstValid⟩, ⟨_, _, _, lastValid⟩, ?_⟩
      simp [budgetPeriod, calendarMonth, Date.ofFields, firstValid, lastValid]

theorem budget_period_contains_iff
    (period : budgetPeriod year month startDay = some (startDate, endDate)) (date : Date) :
    (startDate ≤ date ∧ date ≤ endDate) ↔ determineBudgetMonth date startDay = (year, month) := by
  obtain ⟨_, _, _, _, _, dayHigh⟩ := date.valid
  obtain ⟨_, _, _, _, _, _⟩ := endDate.valid
  rw [date_le_iff, date_le_iff]
  rcases budget_period_cases period with
    ⟨calendarMonth, startYear, startMonth, startDay', endYear, endMonth, endDay⟩ |
    ⟨notFirst, previous, startDay', endYear, endMonth, endDay⟩
  · simp only [determineBudgetMonth, calendarMonth, if_true, Prod.mk.injEq]
    constructor
    · omega
    · rintro ⟨sameYear, sameMonth⟩
      rw [sameYear, sameMonth] at dayHigh
      omega
  · simp only [determineBudgetMonth, if_neg notFirst]
    simp only [prevMonth] at previous
    by_cases january : month = 1 <;> by_cases december : date.month = 12 <;>
      by_cases late : clampStartDay startDay ≤ date.day <;>
      simp only [january, december, late, if_true, if_false, nextMonth, Prod.mk.injEq, and_true]
        at previous ⊢ <;>
      omega

/-- Inclusive number of days of a period. -/
def periodLength (startDate endDate : Date) : Int :=
  endDate.toOrdinal - startDate.toOrdinal + 1

theorem period_length_eq (period : budgetPeriod year month startDay = some (startDate, endDate)) :
    periodLength startDate endDate = daysInMonth startDate.year startDate.month := by
  unfold periodLength
  rcases budget_period_cases period with
    ⟨_, startYear, startMonth, startDay', endYear, endMonth, endDay⟩ |
    ⟨_, previous, startDay', endYear, endMonth, endDay⟩
  · have distance := to_ordinal_same_month startDate endDate
      (by omega) (by omega)
    rw [startYear, startMonth]
    omega
  · by_cases january : month = 1
    · simp only [prevMonth, january, if_true, Prod.mk.injEq] at previous
      have distance := to_ordinal_next_year startDate endDate
        (by omega) previous.2 (by omega)
      omega
    · simp only [prevMonth, january, if_false, Prod.mk.injEq] at previous
      have distance := to_ordinal_next_month startDate endDate
        (by omega) (by omega)
      omega

theorem period_length_bounds (period : budgetPeriod year month startDay = some (startDate, endDate)) :
    28 ≤ periodLength startDate endDate ∧ periodLength startDate endDate ≤ 31 := by
  rw [period_length_eq period]
  exact days_in_month_bounds _ _

theorem next_period_adjacent {nextStart nextEnd : Date}
    (period : budgetPeriod year month startDay = some (startDate, endDate))
    (next : budgetPeriod (nextMonth year month).1 (nextMonth year month).2 startDay =
      some (nextStart, nextEnd)) :
    nextStart.toOrdinal = endDate.toOrdinal + 1 := by
  obtain ⟨_, _, _, _, _, _⟩ := endDate.valid
  rcases budget_period_cases period with
    ⟨calendarMonth, _, _, _, endYear, endMonth, endDay⟩ | ⟨notFirst, _, _, endYear, endMonth, endDay⟩
  · rcases budget_period_cases next with ⟨_, nextYear, nextMonth', nextDay, _⟩ | ⟨notFirst, _⟩
    · by_cases december : month = 12
      · simp only [nextMonth, december, if_true] at nextYear nextMonth'
        have distance := to_ordinal_next_year endDate nextStart
          (by omega) (by omega) nextMonth'
        rw [endYear, endMonth, ← endDay] at distance
        omega
      · simp only [nextMonth, december, if_false] at nextYear nextMonth'
        have distance := to_ordinal_next_month endDate nextStart
          (by omega) (by omega)
        rw [endYear, endMonth, ← endDay] at distance
        omega
    · exact absurd calendarMonth notFirst
  · rcases budget_period_cases next with ⟨calendarMonth, _⟩ | ⟨_, previous, nextDay, _⟩
    · exact absurd calendarMonth notFirst
    · have back : prevMonth (nextMonth year month).1 (nextMonth year month).2 = (year, month) := by
        by_cases december : month = 12
        · simp [nextMonth, prevMonth, december]
        · have notJanuary : month + 1 ≠ 1 := by omega
          simp [nextMonth, prevMonth, december, notJanuary]
      rw [back] at previous
      simp only [Prod.mk.injEq] at previous
      have distance := to_ordinal_same_month endDate nextStart
        (by omega) (by omega)
      omega

theorem supported_of_period_end (date : Date) (startDay : Int) :
    Supported (determineBudgetMonth date startDay).1 (determineBudgetMonth date startDay).2
        startDay ↔
      ∃ year month startDate endDate, budgetPeriod year month startDay = some (startDate, endDate) ∧
          startDate ≤ date ∧ date ≤ endDate := by
  constructor
  · intro supported
    obtain ⟨startDate, endDate, period⟩ := (budget_period_isSome _ _ _).mpr supported
    exact ⟨_, _, startDate, endDate, period, (budget_period_contains_iff period date).mpr rfl⟩
  · rintro ⟨year, month, startDate, endDate, period, inside⟩
    rw [(budget_period_contains_iff period date).mp inside]
    exact (budget_period_isSome _ _ _).mp ⟨startDate, endDate, period⟩

/-- Budget periods partition the calendar. The period of a budget month exists
exactly for the supported months; it contains the dates mapped to that month and
no others; it is followed without gap or overlap by the next month's period; it
has 28 to 31 days; and a date lies in one period at most, and in one exactly
when its budget month is supported. -/
theorem budget_periods_partition_calendar (startDay : Int) : (∀ year month,
      ((budgetPeriod year month startDay).isSome ↔ Supported year month startDay) ∧
      ∀ startDate endDate, budgetPeriod year month startDay = some (startDate, endDate) →
        (∀ date : Date, (startDate ≤ date ∧ date ≤ endDate) ↔
          determineBudgetMonth date startDay = (year, month)) ∧
        (28 ≤ periodLength startDate endDate ∧ periodLength startDate endDate ≤ 31) ∧
        (∀ nextStart nextEnd,
          budgetPeriod (nextMonth year month).1 (nextMonth year month).2 startDay =
            some (nextStart, nextEnd) → nextStart.toOrdinal = endDate.toOrdinal + 1)) ∧
    (∀ date : Date,
      Supported (determineBudgetMonth date startDay).1 (determineBudgetMonth date startDay).2
          startDay ↔
        ∃! label : Int × Int, ∃ startDate endDate,
          budgetPeriod label.1 label.2 startDay = some (startDate, endDate) ∧
            startDate ≤ date ∧ date ≤ endDate) := by
  constructor
  · intro _ _
    constructor
    · rw [← budget_period_isSome, Option.isSome_iff_exists]
      exact ⟨fun ⟨pair, found⟩ => ⟨pair.1, pair.2, found⟩,
        fun ⟨startDate, endDate, found⟩ => ⟨(startDate, endDate), found⟩⟩
    · intro _ _ period
      exact ⟨budget_period_contains_iff period, period_length_bounds period,
        fun nextStart nextEnd next => next_period_adjacent period next⟩
  · intro date
    rw [supported_of_period_end]
    constructor
    · rintro ⟨year, month, startDate, endDate, period, inside⟩
      refine ⟨(year, month), ⟨startDate, endDate, period, inside⟩, ?_⟩
      rintro ⟨otherYear, otherMonth⟩ ⟨otherStart, otherEnd, otherPeriod, otherInside⟩
      rw [← (budget_period_contains_iff period date).mp inside]
      exact ((budget_period_contains_iff otherPeriod date).mp otherInside).symm
    · rintro ⟨label, ⟨startDate, endDate, period, inside⟩, _⟩
      exact ⟨label.1, label.2, startDate, endDate, period, inside⟩

/-- The budget "April 2026" with start day 28 runs from 28 March to 27 April. -/
example : (budgetPeriod 2026 4 28).map (fun period => (period.1.month, period.1.day,
    period.2.month, period.2.day)) = some (3, 28, 4, 27) := by decide

end FinanceTracker.Shared.BudgetPeriod
