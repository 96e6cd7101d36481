import FinanceTracker.Library.Columns
import FinanceTracker.Library.KeyedRows
import FinanceTracker.Shared.BudgetEvents
import FinanceTracker.Shared.BudgetPeriod

/-!
# Monthly budgets of budget-service

The rows, the exceptions and the tables. A stored budget carries what the DTO,
the entity and the columns admit, and the tables carry their unique constraints.
The amount of a line is a `NUMERIC(12, 2)` column, which also holds NaN.
-/

namespace FinanceTracker.Budget.Domain

open Library Columns Decimals KeyedRows Shared.BudgetEvents

inductive BudgetError where
  | budgetNotFound (month year : Int)
  | budgetIdNotFound (budgetId : Int)
  | alreadyExists (month year : Int)
  | alreadyClosed (month year : Int)
  | accountRequired
  | categoryNotFound (categoryId : Int)
  | noBudgetToCopy (month year : Int)
  | upstreamUnavailable
  | invalidEntity (message : String)
  | invalidDate
  | invalidOperation
  | invalidEvent (fields : List String)
  | database
  deriving DecidableEq

inductive LineAmount where
  | cents (count : ℕ)
  | nan
  deriving DecidableEq

def LineAmount.toDecimal : LineAmount → Decimal
  | .cents count => .finite (fromCents count)
  | .nan => .nan

structure BudgetLine where
  categoryId : Int
  amount : LineAmount
  categorySet : categoryId ≠ 0

deriving instance DecidableEq for BudgetLine

structure MonthlyBudget where
  id : Int
  month : Int
  year : Int
  accountId : Int
  userId : Int
  lines : List BudgetLine
  closedAt : Option Int := none
  monthValid : 1 ≤ month ∧ month ≤ 12
  yearValid : 2000 ≤ year ∧ year ≤ 9999
  accountSet : accountId ≠ 0
  columns : fitsInteger accountId = true ∧ fitsInteger userId = true

deriving instance DecidableEq for MonthlyBudget

/-- `total_budget`, which the source adds in doubles; the decimals are added exactly. -/
def totalOf (lines : List BudgetLine) : Decimal :=
  lines.foldr (fun line total => line.amount.toDecimal.add total) .zero

def MonthlyBudget.totalBudget (budget : MonthlyBudget) : Decimal := totalOf budget.lines

def MonthlyBudget.isClosed (budget : MonthlyBudget) : Bool := budget.closedAt.isSome

/-- The columns of the unique constraint. -/
def MonthlyBudget.period (budget : MonthlyBudget) : Int × Int × Int :=
  (budget.accountId, budget.month, budget.year)

/-- A total is a number exactly when every line is one, and then it is not negative. -/
theorem total_of_cases (lines : List BudgetLine) :
    (∀ line ∈ lines, line.amount ≠ .nan) ∧ (∃ total, totalOf lines = .finite total ∧ 0 ≤ total) ∨
      (∃ line ∈ lines, line.amount = .nan) ∧ totalOf lines = .nan := by
  induction lines with
  | nil => exact Or.inl ⟨by simp, 0, rfl, le_refl 0⟩
  | cons line lines ih =>
    have unfolded : totalOf (line :: lines) = line.amount.toDecimal.add (totalOf lines) := rfl
    cases amount : line.amount with
    | nan =>
      right
      refine ⟨⟨line, List.mem_cons_self, amount⟩, ?_⟩
      rw [unfolded, amount]
      rfl
    | cents count =>
      have nonneg : (0 : ℚ) ≤ fromCents count := by
        unfold fromCents
        positivity
      rcases ih with ⟨numbers, total, sum, above⟩ | ⟨⟨other, member, isNan⟩, sum⟩
      · left
        refine ⟨?_, fromCents count + total, ?_, by linarith⟩
        · intro other member
          rcases List.mem_cons.mp member with rfl | later
          · simp [amount]
          · exact numbers other later
        · rw [unfolded, amount, sum]
          rfl
      · right
        refine ⟨⟨other, List.mem_cons_of_mem _ member, isNan⟩, ?_⟩
        rw [unfolded, amount, sum]
        rfl

structure OutboxRow where
  event : BudgetMonthClosedEvent
  aggregateId : Int
  deriving DecidableEq

structure BudgetTables where
  budgets : List MonthlyBudget := []
  nextId : Int := 1
  outbox : List OutboxRow := []
  distinctIds : DistinctKeys MonthlyBudget.id budgets := by
    unfold FinanceTracker.Library.KeyedRows.DistinctKeys
    decide
  distinctPeriods : DistinctKeys MonthlyBudget.period budgets := by
    unfold FinanceTracker.Library.KeyedRows.DistinctKeys
    decide
  idsBelow : ∀ budget ∈ budgets, budget.id < nextId := by decide

theorem budget_eq_of_id (tables : BudgetTables) {left right : MonthlyBudget}
    (leftStored : left ∈ tables.budgets) (rightStored : right ∈ tables.budgets)
    (same : left.id = right.id) : left = right :=
  List.inj_on_of_nodup_map tables.distinctIds leftStored rightStored same

theorem budget_eq_of_period (tables : BudgetTables) {left right : MonthlyBudget}
    (leftStored : left ∈ tables.budgets) (rightStored : right ∈ tables.budgets)
    (same : left.period = right.period) : left = right :=
  List.inj_on_of_nodup_map tables.distinctPeriods leftStored rightStored same

structure RowChange where
  apply : MonthlyBudget → MonthlyBudget
  keepsId : ∀ budget, (apply budget).id = budget.id
  keepsPeriod : ∀ budget, (apply budget).period = budget.period

def setLines (lines : List BudgetLine) : RowChange where
  apply budget := { budget with lines := lines }
  keepsId _ := rfl
  keepsPeriod _ := rfl

def setClosedAt (now : Int) : RowChange where
  apply budget := { budget with closedAt := some now }
  keepsId _ := rfl
  keepsPeriod _ := rfl

def changeBudget (tables : BudgetTables) (budgetId : Int) (change : RowChange) : BudgetTables :=
  { tables with
    budgets := replace MonthlyBudget.id tables.budgets budgetId change.apply
    distinctIds := replace_distinct tables.distinctIds fun budget _ _ => change.keepsId budget
    distinctPeriods := by
      have periods : (replace MonthlyBudget.id tables.budgets budgetId change.apply).map
          MonthlyBudget.period = tables.budgets.map MonthlyBudget.period := by
        simp only [replace, List.map_map]
        apply List.map_congr_left
        intro budget _
        by_cases here : budget.id = budgetId
        · simp [here, change.keepsPeriod]
        · simp [here]
      unfold DistinctKeys
      rw [periods]
      exact tables.distinctPeriods
    idsBelow := by
      intro budget member
      rcases mem_replace.mp member with ⟨stored, _⟩ | ⟨old, stored, _, rfl⟩
      · exact tables.idsBelow budget stored
      · rw [change.keepsId]
        exact tables.idsBelow old stored }

@[simp] theorem change_budget_outbox (tables : BudgetTables) (budgetId : Int)
    (change : RowChange) : (changeBudget tables budgetId change).outbox = tables.outbox := rfl

theorem mem_change_budget {tables : BudgetTables} {budgetId : Int} {change : RowChange}
    {budget : MonthlyBudget} :
    budget ∈ (changeBudget tables budgetId change).budgets ↔
      (budget ∈ tables.budgets ∧ budget.id ≠ budgetId) ∨
        ∃ old ∈ tables.budgets, old.id = budgetId ∧ budget = change.apply old :=
  mem_replace

def insertBudget (tables : BudgetTables) (build : Int → MonthlyBudget)
    (numbered : (build tables.nextId).id = tables.nextId)
    (free : ∀ budget ∈ tables.budgets, budget.period ≠ (build tables.nextId).period) :
    BudgetTables :=
  { tables with
    budgets := tables.budgets ++ [build tables.nextId]
    nextId := tables.nextId + 1
    distinctIds := append_distinct tables.distinctIds fun budget member => by
      have below := tables.idsBelow budget member
      omega
    distinctPeriods := append_distinct tables.distinctPeriods free
    idsBelow := by
      intro budget member
      rcases List.mem_append.mp member with stored | added
      · have below := tables.idsBelow budget stored
        omega
      · rw [List.mem_singleton.mp added, numbered]
        omega }

def removeBudgets (tables : BudgetTables) (removed : MonthlyBudget → Bool) : BudgetTables :=
  { tables with
    budgets := tables.budgets.filter fun budget => !removed budget
    distinctIds := tables.distinctIds.sublist (List.filter_sublist.map _)
    distinctPeriods := tables.distinctPeriods.sublist (List.filter_sublist.map _)
    idsBelow := fun budget member => tables.idsBelow budget (List.mem_filter.mp member).1 }

end FinanceTracker.Budget.Domain
