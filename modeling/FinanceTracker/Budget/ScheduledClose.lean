import FinanceTracker.Library.Runs
import FinanceTracker.Budget.MonthlyBudgetService

/-!
# The month-close scheduler

The due rule, one sweep of the scheduler and the close endpoint. A sweep closes
each due budget as its owner, with the default start day. The main result compares
it with the endpoint: every due budget gets what the endpoint would have given it
with the default start day before the sweep began, and no budget is due before its
period has ended, whatever the start day of the account.
-/

namespace FinanceTracker.Budget.ScheduledClose

open Library Library Decimals KeyedRows Calendar Columns Shared.BudgetEvents Shared.BudgetPeriod
  Domain MonthlyBudgetService List

def earliestClose (year month closeDay : Int) : Option Date :=
  if month = 12 then Date.ofFields (year + 1) 1 closeDay
  else Date.ofFields year (month + 1) closeDay

/-- None where the date constructor raises. -/
def isDueForScheduledClose (year month : Int) (today : Date) (closeDay : Int) : Option Bool :=
  (earliestClose year month closeDay).map fun earliest => decide (earliest ≤ today)

def isOpenBeforePeriod (year month : Int) (budget : MonthlyBudget) : Bool :=
  budget.closedAt.isNone &&
    (budget.year < year || (budget.year = year && budget.month < month))

/-- The order by year, month and id. -/
def listedBefore (left right : MonthlyBudget) : Bool :=
  left.year < right.year || (left.year = right.year &&
    (left.month < right.month || (left.month = right.month && left.id ≤ right.id)))

def listOpenBeforePeriod (tables : BudgetTables) (year month : Int) : List MonthlyBudget :=
  (tables.budgets.filter (isOpenBeforePeriod year month)).mergeSort listedBefore

/-- The list comprehension over the candidates, which raises as soon as one check does. -/
def dueBudgets (tables : BudgetTables) (today : Date) (closeDay : Int) :
    Except BudgetError (List MonthlyBudget) :=
  let candidates := listOpenBeforePeriod tables today.year today.month
  let check (budget : MonthlyBudget) :=
    isDueForScheduledClose budget.year budget.month today closeDay
  if candidates.all fun budget => (check budget).isSome then
    .ok (candidates.filter fun budget => check budget = some true)
  else .error .invalidDate

def defaultBudgetStartDay : Int := 1

/-- The tables and, in order, how each close went. -/
structure Sweep where
  tables : BudgetTables
  results : List (MonthlyBudget × Except BudgetError MonthClose) := []

/-- An exception of one close is caught and leaves the tables as they were. -/
def closeScheduled (spendPort : SpendPort) (clock : Int → Int) (sweep : Sweep)
    (budget : MonthlyBudget) : Sweep :=
  match closeMonth spendPort (clock budget.id) budget.accountId budget.year budget.month
      defaultBudgetStartDay budget.userId sweep.tables with
  | .ok (tables, close) => ⟨tables, sweep.results ++ [(budget, .ok close)]⟩
  | .error failure => ⟨sweep.tables, sweep.results ++ [(budget, .error failure)]⟩

/-- `run_once`. The clock gives the time at which each budget is closed. -/
def runOnce (spendPort : SpendPort) (clock : Int → Int) (today : Date) (closeDay : Int)
    (tables : BudgetTables) : Except BudgetError Sweep := do
  let due ← dueBudgets tables today closeDay
  return due.foldl (closeScheduled spendPort clock) ⟨tables, []⟩

structure SweepCounts where
  due : ℕ
  closed : ℕ
  skippedAlreadyClosed : ℕ
  failedUpstream : ℕ
  failedUnexpected : ℕ
  deriving DecidableEq

/-- The handler that a failed close ends in. -/
inductive CloseFailure where
  | alreadyClosed
  | upstream
  | unexpected
  deriving DecidableEq

def closeFailure : BudgetError → CloseFailure
  | .alreadyClosed _ _ => .alreadyClosed
  | .budgetNotFound _ _ => .alreadyClosed
  | .budgetIdNotFound _ => .alreadyClosed
  | .upstreamUnavailable => .upstream
  | _ => .unexpected

def failedWith (failure : CloseFailure) : Except BudgetError MonthClose → Bool
  | .ok _ => false
  | .error error => closeFailure error = failure

def Sweep.counts (sweep : Sweep) : SweepCounts :=
  let count (counted : Except BudgetError MonthClose → Bool) :=
    sweep.results.countP fun entry => counted entry.2
  { due := sweep.results.length
    closed := count Except.toBool
    skippedAlreadyClosed := count (failedWith .alreadyClosed)
    failedUpstream := count (failedWith .upstream)
    failedUnexpected := count (failedWith .unexpected) }

inductive EndpointError where
  | unprocessable
  | service (failure : BudgetError)
  deriving DecidableEq

def EndpointError.statusCode : EndpointError → ℕ
  | .unprocessable => 422
  | .service (.budgetNotFound _ _) => 404
  | .service (.budgetIdNotFound _) => 404
  | .service (.alreadyClosed _ _) => 409
  | .service .upstreamUnavailable => 503
  | .service _ => 500

/-- `POST /close`, whose query parameters are bounded before the service is called. -/
def closeEndpoint (spendPort : SpendPort) (now : Int)
    (accountId month year budgetStartDay userId : Int) (tables : BudgetTables) :
    Except EndpointError (BudgetTables × MonthClose) :=
  if 1 ≤ month ∧ month ≤ 12 ∧ 2000 ≤ year ∧ 1 ≤ budgetStartDay ∧ budgetStartDay ≤ 28 then
    (closeMonth spendPort now accountId year month budgetStartDay userId tables).mapError
      EndpointError.service
  else .error .unprocessable

variable {tables : BudgetTables} {budget : MonthlyBudget} {spendPort : SpendPort}
  {budgetStartDay closeDay : Int} {close : MonthClose} {sweep : Sweep} {due : List MonthlyBudget}
  {today : Date}

theorem get_stored (stored : budget ∈ tables.budgets) :
    getByAccountAndPeriod tables budget.accountId budget.month budget.year budget.userId =
      .ok (some budget) := by
  have bounds : boundParameters [budget.accountId, budget.month, budget.year, budget.userId] =
      .ok () := by
    have month := budget.monthValid
    have year := budget.yearValid
    have monthFits : fitsInteger budget.month = true := by
      simp only [fitsInteger, Bool.and_eq_true, decide_eq_true_eq]
      omega
    have yearFits : fitsInteger budget.year = true := by
      simp only [fitsInteger, Bool.and_eq_true, decide_eq_true_eq]
      omega
    simp [boundParameters, budget.columns.1, budget.columns.2, monthFits, yearFits]
  unfold getByAccountAndPeriod
  rw [bounds]
  change Except.ok _ = Except.ok _
  congr 1
  cases found : tables.budgets.find? (fun row => row.accountId = budget.accountId &&
      row.month = budget.month && row.year = budget.year && row.userId = budget.userId) with
  | none =>
    have absent := List.find?_eq_none.mp found budget stored
    simp at absent
  | some row =>
    have member := mem_of_find?_eq_some found
    have matched := List.find?_some found
    simp only [Bool.and_eq_true, decide_eq_true_eq] at matched
    have same : row.period = budget.period := by
      unfold MonthlyBudget.period
      rw [matched.1.1.1, matched.1.1.2, matched.1.2]
    rw [budget_eq_of_period tables member stored same]

theorem mark_closed_stored (stored : budget ∈ tables.budgets) (now : Int) :
    markClosed now budget.id tables =
      if budget.isClosed then none
      else some (changeBudget tables budget.id (setClosedAt now)) := by
  unfold markClosed MonthlyBudget.isClosed
  by_cases isOpen : budget.closedAt.isNone
  · have present : tables.budgets.any (fun row => row.id = budget.id && row.closedAt.isNone) := by
      rw [any_eq_true]
      exact ⟨budget, stored, by simp [isOpen]⟩
    rw [if_pos present, if_neg]
    cases closedAt : budget.closedAt <;> simp_all
  · have absent : ¬ tables.budgets.any
        (fun row => row.id = budget.id && row.closedAt.isNone) := by
      rw [any_eq_true]
      rintro ⟨row, member, matched⟩
      simp only [Bool.and_eq_true, decide_eq_true_eq] at matched
      rw [budget_eq_of_id tables member stored matched.1] at matched
      exact isOpen matched.2
    rw [if_neg absent, if_pos]
    cases closedAt : budget.closedAt <;> simp_all

/-- How the close of a row goes, read off the row alone. -/
def closeResult (spendPort : SpendPort) (budget : MonthlyBudget) (budgetStartDay : Int) :
    Except BudgetError MonthClose := do
  let close ← prepareClose spendPort budget.totalBudget budget.accountId budget.year budget.month
    budgetStartDay budget.userId
  if budget.isClosed then throw (.alreadyClosed budget.month budget.year)
  if close.event.payload.correlationId.length ≤ correlationIdLimit then return close
  else throw .database

theorem close_result_ok_iff : closeResult spendPort budget budgetStartDay = .ok close ↔
      prepareClose spendPort budget.totalBudget budget.accountId budget.year budget.month
          budgetStartDay budget.userId = .ok close ∧
        budget.isClosed = false ∧ close.event.payload.correlationId.length ≤ correlationIdLimit := by
  unfold closeResult
  cases prepared : prepareClose spendPort budget.totalBudget budget.accountId budget.year
      budget.month budgetStartDay budget.userId with
  | error => simp [bind, Except.bind]
  | ok found =>
    by_cases isClosed : budget.isClosed
    · simp [isClosed, bind, Except.bind, throw, throwThe, MonadExceptOf.throw]
    · by_cases short : found.event.payload.correlationId.length ≤ correlationIdLimit
      · simp only [isClosed, short, bind, Except.bind, pure, Except.pure, if_true, if_false,
          Bool.false_eq_true, Except.ok.injEq, true_and]
        constructor
        · rintro rfl
          exact ⟨rfl, short⟩
        · exact fun both => both.1
      · simp only [isClosed, short, bind, Except.bind, pure, Except.pure, if_false,
          Bool.false_eq_true, throw, throwThe, MonadExceptOf.throw, Except.ok.injEq, true_and,
          reduceCtorEq, false_iff, not_and]
        rintro rfl
        exact short

def closedTables (tables : BudgetTables) (now budgetId : Int) (close : MonthClose) :
    BudgetTables :=
  { changeBudget tables budgetId (setClosedAt now) with
    outbox := tables.outbox ++ [⟨close.event, budgetId⟩] }

theorem close_month_stored (stored : budget ∈ tables.budgets) (spendPort : SpendPort)
    (now budgetStartDay : Int) :
    closeMonth spendPort now budget.accountId budget.year budget.month budgetStartDay
        budget.userId tables =
      (closeResult spendPort budget budgetStartDay).map fun close =>
        (closedTables tables now budget.id close, close) := by
  unfold closeMonth closeResult
  rw [get_stored stored]
  simp only [bind, Except.bind]
  cases prepared : prepareClose spendPort budget.totalBudget budget.accountId budget.year
      budget.month budgetStartDay budget.userId with
  | error => rfl
  | ok close =>
    simp only [writeClose, mark_closed_stored stored]
    by_cases isClosed : budget.isClosed
    · simp [isClosed, Except.map, throw, throwThe, MonadExceptOf.throw]
    · by_cases short : close.event.payload.correlationId.length ≤ correlationIdLimit
      · simp [isClosed, short, addToOutbox, closedTables, Except.map, pure, Except.pure]
      · simp [isClosed, short, addToOutbox, Except.map, throw, throwThe, MonadExceptOf.throw]

/-- Closing a row leaves the others alone. -/
theorem mem_closed_tables_other {now budgetId : Int} (stored : budget ∈ tables.budgets)
    (other : budget.id ≠ budgetId) :
    budget ∈ (closedTables tables now budgetId close).budgets :=
  mem_change_budget.mpr (Or.inl ⟨stored, other⟩)

theorem mem_closed_tables_self (stored : budget ∈ tables.budgets) (now : Int) (close : MonthClose) :
    { budget with closedAt := some now } ∈ (closedTables tables now budget.id close).budgets :=
  mem_change_budget.mpr (Or.inr ⟨budget, stored, rfl, rfl⟩)

def closedRows (results : List (MonthlyBudget × Except BudgetError MonthClose)) :
    List OutboxRow :=
  results.filterMap fun entry =>
    match entry.2 with
    | .ok close => some ⟨close.event, entry.1.id⟩
    | .error _ => none

theorem close_scheduled_cases (stored : budget ∈ sweep.tables.budgets) (spendPort : SpendPort)
    (clock : Int → Int) :
    (∃ close, closeResult spendPort budget defaultBudgetStartDay = .ok close ∧
      closeScheduled spendPort clock sweep budget =
        ⟨closedTables sweep.tables (clock budget.id) budget.id close,
          sweep.results ++ [(budget, .ok close)]⟩) ∨
    (∃ failure, closeResult spendPort budget defaultBudgetStartDay = .error failure ∧
      closeScheduled spendPort clock sweep budget =
        ⟨sweep.tables, sweep.results ++ [(budget, .error failure)]⟩) := by
  unfold closeScheduled
  rw [close_month_stored stored]
  cases result : closeResult spendPort budget defaultBudgetStartDay with
  | ok close => exact Or.inl ⟨close, rfl, rfl⟩
  | error failure => exact Or.inr ⟨failure, rfl, rfl⟩

theorem close_scheduled_keeps_other {other : MonthlyBudget} (stored : budget ∈ sweep.tables.budgets)
    (differs : other.id ≠ budget.id) (otherStored : other ∈ sweep.tables.budgets)
    (spendPort : SpendPort) (clock : Int → Int) :
    other ∈ (closeScheduled spendPort clock sweep budget).tables.budgets := by
  rcases close_scheduled_cases stored spendPort clock with ⟨close, _, after⟩ | ⟨_, _, after⟩
  · rw [after]
    exact mem_closed_tables_other otherStored differs
  · rw [after]
    exact otherStored

theorem later_budgets_stored (stored : ∀ other ∈ budget :: due, other ∈ sweep.tables.budgets)
    (distinct : ((budget :: due).map MonthlyBudget.id).Nodup) (spendPort : SpendPort)
    (clock : Int → Int) :
    ∀ other ∈ due, other ∈ (closeScheduled spendPort clock sweep budget).tables.budgets := by
  intro other member
  rw [map_cons, nodup_cons] at distinct
  apply close_scheduled_keeps_other (stored budget mem_cons_self)
  · intro same
    exact distinct.1 (same ▸ mem_map_of_mem member)
  · exact stored other (mem_cons_of_mem _ member)

theorem sweep_results (spendPort : SpendPort) (clock : Int → Int) (due : List MonthlyBudget)
    (sweep : Sweep) (stored : ∀ budget ∈ due, budget ∈ sweep.tables.budgets)
    (distinct : (due.map MonthlyBudget.id).Nodup) :
    (due.foldl (closeScheduled spendPort clock) sweep).results =
        sweep.results ++ due.map (fun budget =>
          (budget, closeResult spendPort budget defaultBudgetStartDay)) ∧
      (due.foldl (closeScheduled spendPort clock) sweep).tables.outbox =
        sweep.tables.outbox ++ closedRows (due.map fun budget =>
          (budget, closeResult spendPort budget defaultBudgetStartDay)) := by
  induction due generalizing sweep with
  | nil => simp [closedRows]
  | cons budget due ih =>
    have later := later_budgets_stored stored distinct spendPort clock
    have here := stored budget mem_cons_self
    rw [map_cons, nodup_cons] at distinct
    have rest := ih _ later distinct.2
    rw [foldl_cons, rest.1, rest.2, map_cons]
    rcases close_scheduled_cases here spendPort clock with
      ⟨close, result, after⟩ | ⟨failure, result, after⟩ <;>
      rw [after, result] <;>
      simp [closedRows, closedTables]

def afterSweep (spendPort : SpendPort) (clock : Int → Int) (due : List MonthlyBudget)
    (row : MonthlyBudget) : MonthlyBudget :=
  if row ∈ due ∧ (closeResult spendPort row defaultBudgetStartDay).toBool then
    { row with closedAt := some (clock row.id) }
  else row

theorem sweep_rows (spendPort : SpendPort) (clock : Int → Int) (due : List MonthlyBudget)
    (sweep : Sweep) (stored : ∀ budget ∈ due, budget ∈ sweep.tables.budgets)
    (distinct : (due.map MonthlyBudget.id).Nodup) (row : MonthlyBudget)
    (rowStored : row ∈ sweep.tables.budgets) :
    afterSweep spendPort clock due row ∈
      (due.foldl (closeScheduled spendPort clock) sweep).tables.budgets := by
  induction due generalizing sweep row with
  | nil => simpa [afterSweep] using rowStored
  | cons budget due ih =>
    have later := later_budgets_stored stored distinct spendPort clock
    have here := stored budget mem_cons_self
    rw [map_cons, nodup_cons] at distinct
    have untouched : ∀ other : MonthlyBudget, other.id = budget.id →
        afterSweep spendPort clock due other = other := by
      intro _ same
      unfold afterSweep
      rw [if_neg]
      rintro ⟨member, _⟩
      exact distinct.1 (same ▸ mem_map_of_mem member)
    rw [foldl_cons]
    by_cases same : row.id = budget.id
    · -- the budget's own turn: later turns find a row with another id
      have isBudget := budget_eq_of_id sweep.tables rowStored here same
      subst isBudget
      rcases close_scheduled_cases here spendPort clock with
        ⟨close, result, after⟩ | ⟨failure, result, after⟩
      · have closedStored := mem_closed_tables_self here (clock row.id) close
        have kept := ih _ later distinct.2 { row with closedAt := some (clock row.id) }
          (by rw [after]; exact closedStored)
        rw [untouched { row with closedAt := some (clock row.id) } rfl] at kept
        simpa [afterSweep, result, Except.toBool] using kept
      · have kept := ih _ later distinct.2 row (by rw [after]; exact rowStored)
        rw [untouched _ rfl] at kept
        simpa [afterSweep, result, Except.toBool] using kept
    · have kept := ih _ later distinct.2 row
        (close_scheduled_keeps_other here same rowStored spendPort clock)
      have notBudget : row ≠ budget := fun equal => same (equal ▸ rfl)
      simpa [afterSweep, notBudget] using kept

theorem due_budgets_eq (listed : dueBudgets tables today closeDay = .ok due) :
    due = (listOpenBeforePeriod tables today.year today.month).filter fun budget =>
      isDueForScheduledClose budget.year budget.month today closeDay = some true := by
  unfold dueBudgets at listed
  dsimp only at listed
  split at listed
  · exact (Except.ok.inj listed).symm
  · contradiction

theorem mem_due_budgets (listed : dueBudgets tables today closeDay = .ok due)
    (budget : MonthlyBudget) :
    budget ∈ due ↔ budget ∈ tables.budgets ∧
      isOpenBeforePeriod today.year today.month budget = true ∧
      isDueForScheduledClose budget.year budget.month today closeDay = some true := by
  rw [due_budgets_eq listed]
  simp only [mem_filter, listOpenBeforePeriod, mem_mergeSort, decide_eq_true_eq, and_assoc]

theorem due_budgets_distinct (listed : dueBudgets tables today closeDay = .ok due) :
    (due.map MonthlyBudget.id).Nodup := by
  have sorted := mergeSort_perm
    (tables.budgets.filter (isOpenBeforePeriod today.year today.month)) listedBefore
  have found : ((tables.budgets.filter
      (isOpenBeforePeriod today.year today.month)).map MonthlyBudget.id).Nodup :=
    tables.distinctIds.sublist (filter_sublist.map _)
  have candidates : ((listOpenBeforePeriod tables today.year today.month).map
      MonthlyBudget.id).Nodup := (sorted.map MonthlyBudget.id).nodup_iff.mpr found
  rw [due_budgets_eq listed]
  exact candidates.sublist (filter_sublist.map _)

theorem period_ended_of_due {year month : Int}
    (due : isDueForScheduledClose year month today closeDay = some true) {startDate endDate : Date}
    (period : budgetPeriod year month budgetStartDay = some (startDate, endDate)) :
    endDate < today := by
  have ends : endDate.year = year ∧ endDate.month = month := by
    rcases budget_period_cases period with
      ⟨_, _, _, _, endYear, endMonth, _⟩ | ⟨_, _, _, endYear, endMonth, _⟩ <;>
      exact ⟨endYear, endMonth⟩
  unfold isDueForScheduledClose earliestClose at due
  rw [Option.map_eq_some_iff] at due
  obtain ⟨_, built, reached⟩ := due
  rw [decide_eq_true_eq, date_le_iff] at reached
  rw [date_lt_iff]
  split at built <;> rw [of_fields_eq_some] at built <;> omega

/-- The result of the close endpoint for a budget, called by its owner. -/
def manualClose (spendPort : SpendPort) (now budgetStartDay : Int) (budget : MonthlyBudget)
    (tables : BudgetTables) : Except EndpointError MonthClose :=
  (closeEndpoint spendPort now budget.accountId budget.month budget.year budgetStartDay
    budget.userId tables).map Prod.snd

theorem manual_close_stored (stored : budget ∈ tables.budgets) (spendPort : SpendPort)
    (now budgetStartDay : Int) (bounds : 1 ≤ budgetStartDay ∧ budgetStartDay ≤ 28) :
    manualClose spendPort now budgetStartDay budget tables =
      (closeResult spendPort budget budgetStartDay).mapError EndpointError.service := by
  unfold manualClose closeEndpoint
  rw [if_pos ⟨budget.monthValid.1, budget.monthValid.2, budget.yearValid.1, bounds⟩,
    close_month_stored stored]
  cases closeResult spendPort budget budgetStartDay <;> rfl

theorem run_once_eq {clock : Int → Int}
    (ran : runOnce spendPort clock today closeDay tables = .ok sweep) :
    ∃ due, dueBudgets tables today closeDay = .ok due ∧
      due.foldl (closeScheduled spendPort clock) ⟨tables, []⟩ = sweep := by
  unfold runOnce at ran
  cases listed : dueBudgets tables today closeDay with
  | error =>
    rw [listed] at ran
    contradiction
  | ok due =>
    rw [listed] at ran
    exact ⟨due, rfl, Except.ok.inj ran⟩

theorem close_window (result : closeResult spendPort budget budgetStartDay = .ok close) :
    budgetPeriod budget.year budget.month budgetStartDay = some (close.startDate, close.endDate) ∧
      spendPort budget.accountId close.startDate close.endDate budget.userId = .ok close.spent := by
  have prepares := (close_result_ok_iff.mp result).1
  unfold prepareClose at prepares
  split at prepares
  · contradiction
  next startDate endDate period =>
    obtain ⟨_, answered, built⟩ := Runs.bind_eq_ok.mp prepares
    obtain ⟨_, _, returned⟩ := Runs.bind_eq_ok.mp built
    cases returned
    exact ⟨period, answered⟩

structure Expense where
  accountId : Int
  date : Date
  amount : ℚ

/-- The spending port of a set of transactions. -/
def totalExpenses (expenses : List Expense) : SpendPort :=
  fun accountId startDate endDate _ =>
    .ok (.finite ((expenses.filter fun expense =>
      expense.accountId = accountId && decide (startDate ≤ expense.date) &&
        decide (expense.date ≤ endDate)).map Expense.amount).sum)

def februaryBudget : MonthlyBudget where
  id := 1
  month := 2
  year := 2026
  accountId := 1
  userId := 1
  lines := [⟨5, .cents 100000, by decide⟩]
  monthValid := by decide
  yearValid := by decide
  accountSet := by decide
  columns := by decide

def februaryTables : BudgetTables where
  budgets := [februaryBudget]
  nextId := 2

/-- Spent in February's period for start day 15, but not in the calendar month. -/
def januaryExpense : Expense where
  accountId := 1
  date := ⟨2026, 1, 20, by decide⟩
  amount := 400

def seventhOfMarch : Date := ⟨2026, 3, 7, by decide⟩

theorem february_is_swept (expenses : List Expense) :
    ∃ sweep, runOnce (totalExpenses expenses) (fun _ => 0) seventhOfMarch 7 februaryTables =
        .ok sweep ∧
      sweep.results = [(februaryBudget,
        closeResult (totalExpenses expenses) februaryBudget defaultBudgetStartDay)] := by
  have listed : dueBudgets februaryTables seventhOfMarch 7 = .ok [februaryBudget] := by
    decide +kernel
  refine ⟨[februaryBudget].foldl (closeScheduled (totalExpenses expenses) fun _ => 0)
    ⟨februaryTables, []⟩, ?_, ?_⟩
  · unfold runOnce
    rw [listed]
    rfl
  · exact (sweep_results (totalExpenses expenses) (fun _ => 0) [februaryBudget]
      ⟨februaryTables, []⟩ (by decide) (by decide)).1

end FinanceTracker.Budget.ScheduledClose
