import FinanceTracker.Budget.Domain

/-!
# MonthlyBudgetService

The commands of the service, each one unit of work: it returns the tables after
its commit or raises and leaves them as they were. The spending total and the
names of categories come from other services over ports.
-/

namespace FinanceTracker.Budget.MonthlyBudgetService

open Library Calendar Columns Decimals Shared.BudgetEvents Shared.BudgetPeriod Domain

/-- `get_total_expenses` for an account, a window and the user who asks. -/
abbrev SpendPort := Int → Date → Date → Int → Except BudgetError Decimal

/-- `exists` of the category port. -/
abbrev CategoryPort := Int → Except BudgetError Bool

/-- The bound `ge=0` lets NaN pass. -/
structure BudgetLineCreate where
  categoryId : Int
  amount : Decimal
  notNegative : amount.lt .zero ≠ .ok true

structure MonthlyBudgetCreate where
  month : Int
  year : Int
  lines : List BudgetLineCreate := []
  monthBounds : 1 ≤ month ∧ month ≤ 12
  yearBounds : 2000 ≤ year ∧ year ≤ 9999

structure CopyBudgetRequest where
  sourceMonth : Int
  sourceYear : Int
  targetMonth : Int
  targetYear : Int
  monthBounds : 1 ≤ targetMonth ∧ targetMonth ≤ 12
  yearBounds : 2000 ≤ targetYear ∧ targetYear ≤ 9999

/-- Bound parameters outside the column type are refused by the driver. -/
def boundParameters (values : List Int) : Except BudgetError Unit :=
  if values.all fitsInteger then .ok () else .error .database

def getByAccountAndPeriod (tables : BudgetTables) (accountId month year userId : Int) :
    Except BudgetError (Option MonthlyBudget) := do
  boundParameters [accountId, month, year, userId]
  return tables.budgets.find? fun budget =>
    budget.accountId = accountId && budget.month = month && budget.year = year &&
      budget.userId = userId

def getByIdForAccount (tables : BudgetTables) (budgetId accountId userId : Int) :
    Except BudgetError (Option MonthlyBudget) := do
  boundParameters [budgetId, accountId, userId]
  return tables.budgets.find? fun budget =>
    budget.id = budgetId && budget.accountId = accountId && budget.userId = userId

/-- The column rounds to cents, half away from zero, and refuses what does not fit. -/
def storedAmount : Decimal → Except BudgetError LineAmount
  | .finite value =>
    if toCents value < 10 ^ 12 then .ok (.cents (toCents value)) else .error .database
  | .infinity _ => .error .database
  | .nan => .ok .nan

def storedLine (line : BudgetLineCreate) (categorySet : line.categoryId ≠ 0) :
    Except BudgetError BudgetLine := do
  let amount ← storedAmount line.amount
  boundParameters [line.categoryId]
  return ⟨line.categoryId, amount, categorySet⟩

/-- The entities are built first; then the rows, at most one a category. -/
def storedLines (lines : List BudgetLineCreate) : Except BudgetError (List BudgetLine) :=
  if categoriesSet : ∀ line ∈ lines, line.categoryId ≠ 0 then do
    let stored ← lines.attach.mapM fun line =>
      storedLine line.val (categoriesSet line.val line.property)
    if (stored.map BudgetLine.categoryId).Nodup then return stored else throw .database
  else
    .error (.invalidEntity "Category ID is required for a budget line")

/-- The insert, refused by the unique constraint on account and period. -/
def createBudget (tables : BudgetTables) (accountId userId month year : Int)
    (lines : List BudgetLine) (accountSet : accountId ≠ 0)
    (monthBounds : 1 ≤ month ∧ month ≤ 12) (yearBounds : 2000 ≤ year ∧ year ≤ 9999) :
    Except BudgetError BudgetTables :=
  if columns : fitsInteger accountId = true ∧ fitsInteger userId = true then
    let build : Int → MonthlyBudget := fun id =>
      { id := id, month := month, year := year, accountId := accountId, userId := userId,
        lines := lines, monthValid := monthBounds, yearValid := yearBounds,
        accountSet := accountSet, columns := columns }
    if free : ∀ budget ∈ tables.budgets, budget.period ≠ (build tables.nextId).period then
      .ok (insertBudget tables build rfl free)
    else .error .database
  else .error .database

def markClosed (now budgetId : Int) (tables : BudgetTables) : Option BudgetTables :=
  if tables.budgets.any fun budget => budget.id = budgetId && budget.closedAt.isNone then
    some (changeBudget tables budgetId (setClosedAt now))
  else none

/-- `VARCHAR(36)`, which holds the correlation id. -/
def correlationIdLimit : ℕ := 36

def addToOutbox (event : BudgetMonthClosedEvent) (budgetId : Int) (tables : BudgetTables) :
    Except BudgetError BudgetTables :=
  if event.payload.correlationId.length ≤ correlationIdLimit then
    .ok { tables with outbox := tables.outbox ++ [⟨event, budgetId⟩] }
  else .error .database

def validateCategories (categoryPort : CategoryPort) : List Int → Except BudgetError Unit
  | [] => .ok ()
  | categoryId :: others => do
    if ← categoryPort categoryId then validateCategories categoryPort others
    else throw (.categoryNotFound categoryId)

def create (categoryPort : CategoryPort) (accountId userId : Int) (dto : MonthlyBudgetCreate)
    (tables : BudgetTables) : Except BudgetError BudgetTables :=
  if accountSet : accountId ≠ 0 then do
    match ← getByAccountAndPeriod tables accountId dto.month dto.year userId with
    | some _ => throw (.alreadyExists dto.month dto.year)
    | none =>
      validateCategories categoryPort (dto.lines.map BudgetLineCreate.categoryId)
      let lines ← storedLines dto.lines
      createBudget tables accountId userId dto.month dto.year lines accountSet dto.monthBounds
        dto.yearBounds
  else .error .accountRequired

def update (categoryPort : CategoryPort) (budgetId accountId userId : Int)
    (lines : List BudgetLineCreate) (tables : BudgetTables) :
    Except BudgetError BudgetTables := do
  match ← getByIdForAccount tables budgetId accountId userId with
  | none => throw (.budgetIdNotFound budgetId)
  | some existing =>
    validateCategories categoryPort (lines.map BudgetLineCreate.categoryId)
    let stored ← storedLines lines
    return changeBudget tables existing.id (setLines stored)

def delete (budgetId accountId userId : Int) (tables : BudgetTables) :
    Except BudgetError BudgetTables := do
  boundParameters [budgetId, accountId, userId]
  return removeBudgets tables fun budget =>
    budget.id = budgetId && budget.accountId = accountId && budget.userId = userId

def copyToMonth (accountId userId : Int) (dto : CopyBudgetRequest) (tables : BudgetTables) :
    Except BudgetError BudgetTables :=
  if accountSet : accountId ≠ 0 then do
    match ← getByAccountAndPeriod tables accountId dto.sourceMonth dto.sourceYear userId with
    | none => throw (.noBudgetToCopy dto.sourceMonth dto.sourceYear)
    | some source =>
      if source.lines.isEmpty then throw (.noBudgetToCopy dto.sourceMonth dto.sourceYear)
      match ← getByAccountAndPeriod tables accountId dto.targetMonth dto.targetYear userId with
      | some _ => throw (.alreadyExists dto.targetMonth dto.targetYear)
      | none =>
        createBudget tables accountId userId dto.targetMonth dto.targetYear source.lines
          accountSet dto.monthBounds dto.yearBounds
  else .error .accountRequired

def signalError : Signal → BudgetError
  | .invalidOperation => .invalidOperation

def contractError : ContractError → BudgetError
  | .validation fields => .invalidEvent fields
  | .invalidOperation => .invalidOperation

/-- `max(Decimal(0), budgeted - spent)`. -/
def surplusOf (budgeted spent : Decimal) : Except BudgetError Decimal :=
  ((budgeted.sub spent) >>= Decimal.maxOf .zero).mapError signalError

def closedEvent (accountId year month : Int) (budgeted spent : Decimal) :
    Except BudgetError BudgetMonthClosedEvent := do
  let surplus ← surplusOf budgeted spent
  (BudgetMonthClosedEvent.make ⟨accountId, year, month, some budgeted, some spent,
    some surplus, makeBudgetMonthClosedSourceKey accountId year month⟩).mapError contractError

/-- What a close has worked out before it writes: the window it asked about, the
spending it was told and the event. -/
structure MonthClose where
  startDate : Date
  endDate : Date
  spent : Decimal
  event : BudgetMonthClosedEvent
  deriving DecidableEq

def prepareClose (spendPort : SpendPort) (budgeted : Decimal)
    (accountId year month budgetStartDay userId : Int) : Except BudgetError MonthClose :=
  match budgetPeriod year month budgetStartDay with
  | none => .error .invalidDate
  | some (startDate, endDate) => do
    let spent ← spendPort accountId startDate endDate userId
    let event ← closedEvent accountId year month budgeted spent
    return ⟨startDate, endDate, spent, event⟩

/-- `closed_at` and the outbox row, in one commit. -/
def writeClose (now : Int) (budgetId month year : Int) (event : BudgetMonthClosedEvent)
    (tables : BudgetTables) : Except BudgetError BudgetTables :=
  match markClosed now budgetId tables with
  | none => .error (.alreadyClosed month year)
  | some closed => addToOutbox event budgetId closed

def closeMonth (spendPort : SpendPort) (now : Int)
    (accountId year month budgetStartDay userId : Int) (tables : BudgetTables) :
    Except BudgetError (BudgetTables × MonthClose) := do
  match ← getByAccountAndPeriod tables accountId month year userId with
  | none => throw (.budgetNotFound month year)
  | some budget =>
    let close ← prepareClose spendPort budget.totalBudget accountId year month budgetStartDay
      userId
    let written ← writeClose now budget.id month year close.event tables
    return (written, close)

end FinanceTracker.Budget.MonthlyBudgetService
