import FinanceTracker.Budget.ScheduledClose

/-!
# Which stored budgets can be closed

The DTO and the entity admit years from 2000 and any account id but zero, the
column of a line admits NaN, and the outbox has a column for 36 characters of the
source key. The event contract is narrower. `Closable` is what a stored budget
and a spending total have to meet, and a close returns exactly for these.
-/

namespace FinanceTracker.Budget.ClosableBudgets

open Library Library Calendar Decimals Shared.BudgetEvents Shared.BudgetPeriod Domain
  MonthlyBudgetService ScheduledClose

structure Closable (budget : MonthlyBudget) (spent : Decimal) : Prop where
  account : 1 ≤ budget.accountId
  year : 2020 ≤ budget.year
  lines : ∀ line ∈ budget.lines, line.amount ≠ .nan
  spent : spent.IsNonneg
  sourceKey : (makeBudgetMonthClosedSourceKey budget.accountId budget.year
    budget.month).length ≤ correlationIdLimit

theorem surplus_of_number (total : ℚ) {spent : Decimal} (number : spent ≠ .nan) :
    ∃ surplus, surplusOf (.finite total) spent = .ok surplus ∧ surplus.IsNonneg := by
  have larger : ∃ surplus, ((Decimal.finite total).sub spent >>= Decimal.maxOf .zero) =
      .ok surplus := by
    cases spent with
    | finite | infinity => exact ⟨_, rfl⟩
    | nan => contradiction
  obtain ⟨surplus, computed⟩ := larger
  obtain ⟨_, _, isMax⟩ := Runs.bind_eq_ok.mp computed
  refine ⟨surplus, ?_, Decimal.max_zero_nonneg isMax⟩
  rw [surplusOf, computed]
  rfl

theorem surplus_of_nan_total (spent : Decimal) : surplusOf .nan spent = .error .invalidOperation := by
  cases spent <;> rfl

theorem surplus_of_nan_spent (total : ℚ) :
    surplusOf (.finite total) .nan = .error .invalidOperation := rfl

theorem map_error_ok_iff {Failure Other Value : Type} {convert : Failure → Other}
    {call : Except Failure Value} {value : Value} :
    call.mapError convert = .ok value ↔ call = .ok value := by
  cases call <;> simp [Except.mapError]

theorem closed_event_iff (budget : MonthlyBudget) (spent : Decimal) :
    (∃ event, closedEvent budget.accountId budget.year budget.month budget.totalBudget spent =
        .ok event) ↔
      1 ≤ budget.accountId ∧ 2020 ≤ budget.year ∧
        (∀ line ∈ budget.lines, line.amount ≠ .nan) ∧ spent.IsNonneg := by
  unfold closedEvent MonthlyBudget.totalBudget
  rcases total_of_cases budget.lines with
    ⟨numbers, total, sum, nonneg⟩ | ⟨⟨line, member, isNan⟩, sum⟩
  · rw [sum]
    by_cases isNan : spent = .nan
    · subst isNan
      rw [surplus_of_nan_spent]
      simp [bind, Except.bind, Decimal.IsNonneg]
    · obtain ⟨_, computed, surplusNonneg⟩ := surplus_of_number total isNan
      rw [computed]
      simp only [bind, Except.bind, map_error_ok_iff]
      rw [make_succeeds_iff]
      constructor
      · intro valid
        obtain ⟨_, isAmount, spentNonneg⟩ := valid.spent
        cases isAmount
        exact ⟨valid.account, valid.year, numbers, spentNonneg⟩
      · rintro ⟨account, year, _, spentNonneg⟩
        exact ⟨account, year, budget.monthValid, ⟨_, rfl, nonneg⟩, ⟨_, rfl, spentNonneg⟩,
          ⟨_, rfl, surplusNonneg⟩⟩
  · rw [sum, surplus_of_nan_total]
    constructor
    · rintro ⟨event, built⟩
      simp [bind, Except.bind] at built
    · rintro ⟨_, _, numbers, _⟩
      exact absurd isNan (numbers line member)

theorem closed_event_correlation_id {accountId year month : Int} {budgeted spent : Decimal}
    {event : BudgetMonthClosedEvent}
    (built : closedEvent accountId year month budgeted spent = .ok event) :
    event.payload.correlationId = makeBudgetMonthClosedSourceKey accountId year month := by
  obtain ⟨_, _, made⟩ := Runs.bind_eq_ok.mp built
  rw [make_eq_ok_iff.mp (map_error_ok_iff.mp made)]

theorem stored_period (budget : MonthlyBudget) (budgetStartDay : Int) : ∃ startDate endDate,
      budgetPeriod budget.year budget.month budgetStartDay = some (startDate, endDate) := by
  have year := budget.yearValid
  have month := budget.monthValid
  rw [budget_period_isSome]
  unfold Supported minYear maxYear
  omega

theorem prepare_close_eq {spendPort : SpendPort} {budget : MonthlyBudget}
    {budgetStartDay : Int} {startDate endDate : Date} {spent : Decimal}
    (period : budgetPeriod budget.year budget.month budgetStartDay = some (startDate, endDate))
    (answered : spendPort budget.accountId startDate endDate budget.userId = .ok spent) :
    prepareClose spendPort budget.totalBudget budget.accountId budget.year budget.month
        budgetStartDay budget.userId =
      (closedEvent budget.accountId budget.year budget.month budget.totalBudget spent).map
        fun event => ⟨startDate, endDate, spent, event⟩ := by
  unfold prepareClose
  rw [period]
  dsimp only
  rw [answered]
  cases built : closedEvent budget.accountId budget.year budget.month budget.totalBudget spent <;>
    simp [bind, Except.bind, built, Except.map, pure, Except.pure]

theorem close_result_succeeds_iff (spendPort : SpendPort) (budget : MonthlyBudget)
    (budgetStartDay : Int) (spent : Decimal) (isOpen : budget.closedAt = none)
    (answered : ∀ startDate endDate,
      budgetPeriod budget.year budget.month budgetStartDay = some (startDate, endDate) →
        spendPort budget.accountId startDate endDate budget.userId = .ok spent) :
    (∃ close, closeResult spendPort budget budgetStartDay = .ok close) ↔ Closable budget spent := by
  obtain ⟨startDate, endDate, period⟩ := stored_period budget budgetStartDay
  have prepared := prepare_close_eq period (answered startDate endDate period)
  have notClosed : budget.isClosed = false := by simp [MonthlyBudget.isClosed, isOpen]
  simp only [close_result_ok_iff, prepared, notClosed, true_and]
  constructor
  · rintro ⟨close, worked, short⟩
    cases built : closedEvent budget.accountId budget.year budget.month budget.totalBudget
        spent with
    | error =>
      rw [built] at worked
      contradiction
    | ok event =>
      rw [built] at worked
      cases worked
      obtain ⟨account, year, numbers, nonneg⟩ :=
        (closed_event_iff budget spent).mp ⟨event, built⟩
      exact ⟨account, year, numbers, nonneg, closed_event_correlation_id built ▸ short⟩
  · intro closable
    obtain ⟨event, built⟩ := (closed_event_iff budget spent).mpr
      ⟨closable.account, closable.year, closable.lines, closable.spent⟩
    refine ⟨⟨startDate, endDate, spent, event⟩, ?_, ?_⟩
    · rw [built]
      rfl
    · rw [closed_event_correlation_id built]
      exact closable.sourceKey

def december2019 : MonthlyBudgetCreate where
  month := 12
  year := 2019
  lines := [⟨5, .finite 100, by decide⟩]
  monthBounds := by decide
  yearBounds := by decide

end FinanceTracker.Budget.ClosableBudgets
