import FinanceTracker.Budget.ScheduledClose
import FinanceTracker.Library.Sessions

/-!
# Concurrent closes, updates and deletes of budgets

Sessions of budget-service interleave at their statements under READ COMMITTED. A
close reads the row, then its lines, asks for the spending total, marks the row with
the conditional UPDATE, which locks it to the commit, and commits the event with
`closed_at`. An update reads the row, deletes the lines it sees, which locks these,
and commits the new ones. A session that waits for a lock stays where it is; one
that raises or is lost ends without effect. The ghost list `closings` records each
committed close with the sum of the lines stored at that moment.
-/

namespace FinanceTracker.Budget.CloseRuns

open Library Decimals KeyedRows Runs List
open Library.Sessions (get_set_cases)
open Shared.BudgetEvents Domain MonthlyBudgetService

structure CloseRequest where
  accountId : Int
  year : Int
  month : Int
  budgetStartDay : Int := 1
  userId : Int

structure UpdateRequest where
  budgetId : Int
  accountId : Int
  userId : Int
  lines : List BudgetLineCreate

/-- How far a session has come, with what it has read and written. -/
inductive Session where
  | closing (request : CloseRequest)
  | closingRow (request : CloseRequest) (budgetId : Int)
  | closingLines (request : CloseRequest) (budgetId : Int) (lines : List BudgetLine)
  | closingMarked (budgetId : Int) (lines : List BudgetLine) (now : Int) (close : MonthClose)
  | updating (request : UpdateRequest)
  | updatingRow (budgetId : Int) (lines : List BudgetLineCreate)
  | updatingLines (budgetId : Int) (removed : List Int) (lines : List BudgetLine)
  | ended

/-- A committed close: its event and the sum of the lines stored at the commit. -/
structure Closing where
  budgetId : Int
  event : BudgetMonthClosedEvent
  storedTotal : Decimal
  deriving DecidableEq

structure State where
  tables : BudgetTables
  sessions : List Session := []
  closings : List Closing := []

/-- What the other services and the clock answer at a statement. -/
structure Surroundings where
  now : Int := 0
  spent : Except BudgetError Decimal := .ok .zero
  categoryPort : CategoryPort := fun _ => .ok true

inductive Label where
  | create (categoryPort : CategoryPort) (accountId userId : Int) (dto : MonthlyBudgetCreate)
  | copyToMonth (accountId userId : Int) (dto : CopyBudgetRequest)
  | delete (budgetId accountId userId : Int)
  | startClose (request : CloseRequest)
  | startUpdate (request : UpdateRequest)
  | proceed (index : ℕ) (surroundings : Surroundings)
  | lose (index : ℕ)

def linesOf (tables : BudgetTables) (budgetId : Int) : List BudgetLine :=
  ((lookup MonthlyBudget.id tables.budgets budgetId).map MonthlyBudget.lines).getD []

def Session.locksRow (budgetId : Int) : Session → Bool
  | .closingMarked marked _ _ _ => marked = budgetId
  | _ => false

def Session.locksLines (budgetId : Int) : Session → Bool
  | .updatingLines updated removed _ => updated = budgetId && !removed.isEmpty
  | _ => false

/-- `get_by_account_and_period` of a close. -/
def readRow (tables : BudgetTables) (request : CloseRequest) : Session :=
  match getByAccountAndPeriod tables request.accountId request.month request.year
      request.userId with
  | .ok (some budget) => .closingRow request budget.id
  | _ => .ended

/-- The spending total is asked for and the event is built; then the row is marked,
unless another close holds it. -/
def markRow (state : State) (request : CloseRequest) (budgetId : Int) (lines : List BudgetLine)
    (surroundings : Surroundings) : Session :=
  match prepareClose (fun _ _ _ _ => surroundings.spent) (totalOf lines) request.accountId
      request.year request.month request.budgetStartDay request.userId with
  | .error _ => .ended
  | .ok close =>
    if state.sessions.any (Session.locksRow budgetId) then .closingLines request budgetId lines
    else if (markClosed surroundings.now budgetId state.tables).isSome then
      .closingMarked budgetId lines surroundings.now close
    else .ended

/-- `get_by_id_for_account` of an update. -/
def findRow (tables : BudgetTables) (request : UpdateRequest) : Session :=
  match getByIdForAccount tables request.budgetId request.accountId request.userId with
  | .ok (some existing) => .updatingRow existing.id request.lines
  | _ => .ended

def deleteLines (state : State) (budgetId : Int) (lines : List BudgetLineCreate)
    (surroundings : Surroundings) : Session :=
  match validateCategories surroundings.categoryPort (lines.map BudgetLineCreate.categoryId),
      storedLines lines, lookup MonthlyBudget.id state.tables.budgets budgetId with
  | .ok (), .ok stored, some budget =>
    if state.sessions.any (Session.locksLines budgetId) then .updatingRow budgetId lines
    else .updatingLines budgetId (budget.lines.map BudgetLine.categoryId) stored
  | _, _, _ => .ended

def setSession (state : State) (index : ℕ) (session : Session) : State :=
  { state with sessions := state.sessions.set index session }

def commitClose (state : State) (index : ℕ) (budgetId : Int) (now : Int) (close : MonthClose) :
    State :=
  match writeClose now budgetId close.event.payload.month close.event.payload.year close.event
      state.tables with
  | .error _ => setSession state index .ended
  | .ok written =>
    { tables := written
      sessions := state.sessions.set index .ended
      closings := state.closings ++
        [⟨budgetId, close.event, totalOf (linesOf state.tables budgetId)⟩] }

def updatedLines (budget : MonthlyBudget) (removed : List Int) (lines : List BudgetLine) :
    List BudgetLine :=
  budget.lines.filter (fun line => line.categoryId ∉ removed) ++ lines

/-- The insert needs the row and one line a category. -/
def commitUpdate (state : State) (index : ℕ) (budgetId : Int) (removed : List Int)
    (lines : List BudgetLine) : State :=
  match lookup MonthlyBudget.id state.tables.budgets budgetId with
  | none => setSession state index .ended
  | some budget =>
    if ((updatedLines budget removed lines).map BudgetLine.categoryId).Nodup then
      { state with
        tables := changeBudget state.tables budgetId
          (setLines (updatedLines budget removed lines))
        sessions := state.sessions.set index .ended }
    else setSession state index .ended

/-- One statement of a session. -/
def proceed (state : State) (index : ℕ) (surroundings : Surroundings) : State :=
  match state.sessions[index]? with
  | some (.closing request) => setSession state index (readRow state.tables request)
  | some (.closingRow request budgetId) =>
    setSession state index (.closingLines request budgetId (linesOf state.tables budgetId))
  | some (.closingLines request budgetId lines) =>
    setSession state index (markRow state request budgetId lines surroundings)
  | some (.closingMarked budgetId _ now close) => commitClose state index budgetId now close
  | some (.updating request) => setSession state index (findRow state.tables request)
  | some (.updatingRow budgetId lines) =>
    setSession state index (deleteLines state budgetId lines surroundings)
  | some (.updatingLines budgetId removed lines) =>
    commitUpdate state index budgetId removed lines
  | some .ended => state
  | none => state

/-- The tables after a unit of work that runs in one piece. -/
def committed (tables : BudgetTables) : Except BudgetError BudgetTables → BudgetTables
  | .ok written => written
  | .error _ => tables

def deleteRow (state : State) (budgetId accountId userId : Int) : State :=
  if state.sessions.any (fun session => session.locksRow budgetId || session.locksLines budgetId)
  then state
  else { state with
    tables := committed state.tables (delete budgetId accountId userId state.tables) }

def step (state : State) : Label → State
  | .create categoryPort accountId userId dto =>
    { state with
      tables := committed state.tables (create categoryPort accountId userId dto state.tables) }
  | .copyToMonth accountId userId dto =>
    { state with
      tables := committed state.tables (copyToMonth accountId userId dto state.tables) }
  | .delete budgetId accountId userId => deleteRow state budgetId accountId userId
  | .startClose request => { state with sessions := state.sessions ++ [.closing request] }
  | .startUpdate request => { state with sessions := state.sessions ++ [.updating request] }
  | .proceed index surroundings => proceed state index surroundings
  | .lose index => setSession state index .ended

def start (tables : BudgetTables) : State := { tables := tables }

/-- What a unit of work other than a close does to the rows: a row that stays keeps
whether it is closed, a new row is open and has a new id, and no event is added. -/
structure RowsKept (before after : BudgetTables) : Prop where
  rows : ∀ row ∈ after.budgets,
    (∃ old ∈ before.budgets, old.id = row.id ∧ old.closedAt = row.closedAt) ∨
      (row.id = before.nextId ∧ row.id < after.nextId ∧ row.closedAt = none)
  nextId : before.nextId ≤ after.nextId
  outbox : after.outbox = before.outbox

theorem rows_kept_refl (tables : BudgetTables) : RowsKept tables tables where
  rows row member := Or.inl ⟨row, member, rfl, rfl⟩
  nextId := le_refl _
  outbox := rfl

variable {tables initial : BudgetTables} {accountId userId month year now budgetId : Int}
  {lines : List BudgetLine} {session : Session} {close : MonthClose} {state : State}

theorem rows_kept_create {after : BudgetTables} {accountSet : accountId ≠ 0}
    {monthBounds : 1 ≤ month ∧ month ≤ 12} {yearBounds : 2000 ≤ year ∧ year ≤ 9999}
    (created : createBudget tables accountId userId month year lines accountSet monthBounds
      yearBounds = .ok after) :
    RowsKept tables after ∧ ∀ row ∈ tables.budgets, row ∈ after.budgets := by
  unfold createBudget at created
  split at created
  · dsimp only at created
    split at created
    · cases created
      constructor
      · constructor
        · refine forall_snoc (fun row stored => Or.inl ⟨row, stored, rfl, rfl⟩) ?_
          exact Or.inr ⟨rfl, by simp [insertBudget], rfl⟩
        · simp [insertBudget]
        · rfl
      · intro _ member
        exact mem_append_left _ member
    · contradiction
  · contradiction

theorem rows_kept_committed {call : Except BudgetError BudgetTables}
    (kept : ∀ after, call = .ok after →
      RowsKept tables after ∧ ∀ row ∈ tables.budgets, row ∈ after.budgets) :
    RowsKept tables (committed tables call) ∧
      ∀ row ∈ tables.budgets, row ∈ (committed tables call).budgets := by
  cases result : call with
  | error => exact ⟨rows_kept_refl tables, fun row member => member⟩
  | ok after => exact kept after result

theorem rows_kept_by_create (categoryPort : CategoryPort) (accountId userId : Int)
    (dto : MonthlyBudgetCreate) (tables : BudgetTables) :
    RowsKept tables (committed tables (create categoryPort accountId userId dto tables)) ∧
      ∀ row ∈ tables.budgets,
        row ∈ (committed tables (create categoryPort accountId userId dto tables)).budgets := by
  apply rows_kept_committed
  intro _ created
  unfold create at created
  split at created
  · obtain ⟨found, _, rest⟩ := bind_eq_ok.mp created
    cases found with
    | some => contradiction
    | none =>
      obtain ⟨_, afterCheck⟩ := rest_ok rest
      obtain ⟨_, inserted⟩ := rest_ok afterCheck
      exact rows_kept_create inserted
  · contradiction

theorem rows_kept_by_copy (accountId userId : Int) (dto : CopyBudgetRequest)
    (tables : BudgetTables) :
    RowsKept tables (committed tables (copyToMonth accountId userId dto tables)) ∧
      ∀ row ∈ tables.budgets,
        row ∈ (committed tables (copyToMonth accountId userId dto tables)).budgets := by
  apply rows_kept_committed
  intro _ copied
  unfold copyToMonth at copied
  split at copied
  · obtain ⟨source, _, rest⟩ := bind_eq_ok.mp copied
    cases source with
    | none => contradiction
    | some =>
      dsimp only at rest
      split at rest
      · contradiction
      · obtain ⟨target, _, afterTarget⟩ := bind_eq_ok.mp rest
        cases target with
        | some => contradiction
        | none => exact rows_kept_create afterTarget
  · contradiction

theorem rows_kept_by_delete (budgetId accountId userId : Int) (tables : BudgetTables) :
    RowsKept tables (committed tables (delete budgetId accountId userId tables)) ∧
      ∀ row ∈ tables.budgets, row.id ≠ budgetId →
        row ∈ (committed tables (delete budgetId accountId userId tables)).budgets := by
  cases deleted : delete budgetId accountId userId tables with
  | error => exact ⟨rows_kept_refl tables, fun row member _ => member⟩
  | ok =>
    obtain ⟨_, returned⟩ := rest_ok deleted
    cases returned
    constructor
    · constructor
      · intro row member
        exact Or.inl ⟨row, (mem_filter.mp member).1, rfl, rfl⟩
      · exact le_refl _
      · rfl
    · intro _ member other
      exact mem_filter.mpr ⟨member, by simp [other]⟩

/-- New lines leave the other columns alone. -/
theorem rows_kept_by_lines (tables : BudgetTables) (budgetId : Int) (lines : List BudgetLine) :
    RowsKept tables (changeBudget tables budgetId (setLines lines)) ∧
      ∀ row ∈ tables.budgets, ∃ kept ∈ (changeBudget tables budgetId (setLines lines)).budgets,
        kept.id = row.id ∧ kept.closedAt = row.closedAt := by
  constructor
  · constructor
    · intro row member
      rcases mem_change_budget.mp member with ⟨stored, _⟩ | ⟨old, stored, _, rfl⟩
      · exact Or.inl ⟨row, stored, rfl, rfl⟩
      · exact Or.inl ⟨old, stored, rfl, rfl⟩
    · exact le_refl _
    · rfl
  · intro row member
    by_cases here : row.id = budgetId
    · exact ⟨_, mem_change_budget.mpr (Or.inr ⟨row, member, here, rfl⟩), rfl, rfl⟩
    · exact ⟨row, mem_change_budget.mpr (Or.inl ⟨member, here⟩), rfl, rfl⟩

theorem write_close_ok_iff {event : BudgetMonthClosedEvent} {written : BudgetTables} :
    writeClose now budgetId month year event tables = .ok written ↔
      (∃ row ∈ tables.budgets, row.id = budgetId ∧ row.closedAt = none) ∧
        event.payload.correlationId.length ≤ correlationIdLimit ∧
        written = { changeBudget tables budgetId (setClosedAt now) with
          outbox := tables.outbox ++ [⟨event, budgetId⟩] } := by
  have isOpen : (tables.budgets.any fun row => row.id = budgetId && row.closedAt.isNone) = true ↔
      ∃ row ∈ tables.budgets, row.id = budgetId ∧ row.closedAt = none := by
    simp
  unfold writeClose markClosed
  by_cases found : tables.budgets.any fun row => row.id = budgetId && row.closedAt.isNone
  · rw [if_pos found]
    by_cases short : event.payload.correlationId.length ≤ correlationIdLimit
    · simp only [addToOutbox, short, if_true, Except.ok.injEq, true_and]
      constructor
      · intro returned
        exact ⟨isOpen.mp found, returned.symm⟩
      · intro both
        exact both.2.symm
    · simp [addToOutbox, short]
  · rw [if_neg found]
    simp only [reduceCtorEq, false_iff, not_and]
    intro some_row
    exact absurd (isOpen.mpr some_row) found

def Marked (session : Session) (budgetId : Int) (lines : List BudgetLine) (close : MonthClose) :
    Prop := ∃ now, session = .closingMarked budgetId lines now close

structure CloseInv (initial : BudgetTables) (state : State) : Prop where
  holder : ∀ (index : ℕ) session budgetId lines close, state.sessions[index]? = some session →
    Marked session budgetId lines close →
      (∃ row ∈ state.tables.budgets, row.id = budgetId ∧ row.closedAt = none) ∧
        close.event.payload.budgetedAmount = some (totalOf lines)
  exclusive : ∀ (first second : ℕ) left right budgetId, state.sessions[first]? = some left →
    state.sessions[second]? = some right → left.locksRow budgetId = true →
      right.locksRow budgetId = true → first = second
  nextId : initial.nextId ≤ state.tables.nextId
  recordedIds : ∀ closing ∈ state.closings, closing.budgetId < state.tables.nextId
  closedRows : ∀ row ∈ state.tables.budgets, row.closedAt.isSome = true ↔
    (∃ old ∈ initial.budgets, old.id = row.id ∧ old.closedAt.isSome = true) ∨
      ∃ closing ∈ state.closings, closing.budgetId = row.id
  once : (state.closings.map Closing.budgetId).Nodup
  outbox : state.tables.outbox = initial.outbox ++
    state.closings.map fun closing => ⟨closing.event, closing.budgetId⟩

theorem start_inv (initial : BudgetTables) : CloseInv initial (start initial) where
  holder index session budgetId lines close found := by simp [start] at found
  exclusive first second left right budgetId found := by simp [start] at found
  nextId := le_refl _
  recordedIds := by simp [start]
  closedRows row member := by
    simp only [start, not_mem_nil, false_and, exists_false, or_false]
    constructor
    · intro closed
      exact ⟨row, member, rfl, closed⟩
    · rintro ⟨old, stored, same, closed⟩
      rw [← budget_eq_of_id initial stored member same]
      exact closed
  once := nodup_nil
  outbox := by simp [start]

theorem locks_row_of_marked (marked : Marked session budgetId lines close) :
    session.locksRow budgetId = true := by
  obtain ⟨_, rfl⟩ := marked
  simp [Session.locksRow]

theorem locks_row_iff :
    session.locksRow budgetId = true ↔ ∃ lines close, Marked session budgetId lines close := by
  constructor
  · intro locks
    cases session with
    | closingMarked marked lines now close =>
      simp only [Session.locksRow, decide_eq_true_eq] at locks
      subst locks
      exact ⟨lines, close, now, rfl⟩
    | _ => simp [Session.locksRow] at locks
  · rintro ⟨lines, close, marked⟩
    exact locks_row_of_marked marked

theorem inv_of_session (invariant : CloseInv initial state) (index : ℕ) (session : Session)
    (marks : ∀ budgetId lines close, Marked session budgetId lines close →
      ((∃ row ∈ state.tables.budgets, row.id = budgetId ∧ row.closedAt = none) ∧
        close.event.payload.budgetedAmount = some (totalOf lines)) ∧
      state.sessions.any (Session.locksRow budgetId) = false) :
    CloseInv initial (setSession state index session) := by
  have unlocked : ∀ budgetId, session.locksRow budgetId = true → ∀ (other : ℕ) found,
      state.sessions[other]? = some found → found.locksRow budgetId = false := by
    intro budgetId locks _ found present
    obtain ⟨lines, close, marked⟩ := locks_row_iff.mp locks
    have free := (marks budgetId lines close marked).2
    rw [any_eq_false] at free
    simpa using free found (mem_of_getElem? present)
  refine ⟨?_, ?_, invariant.nextId, invariant.recordedIds, invariant.closedRows, invariant.once,
    invariant.outbox⟩
  · intro other found budgetId lines close present marked
    rcases get_set_cases present with ⟨_, rfl⟩ | ⟨_, before⟩
    · exact (marks budgetId lines close marked).1
    · exact invariant.holder other found budgetId lines close before marked
  · intro first second left right budgetId leftFound rightFound leftLocks rightLocks
    rcases get_set_cases leftFound with ⟨isFirst, rfl⟩ | ⟨_, leftBefore⟩
    · rcases get_set_cases rightFound with ⟨isSecond, _⟩ | ⟨_, rightBefore⟩
      · rw [isFirst, isSecond]
      · have free := unlocked budgetId leftLocks second right rightBefore
        rw [rightLocks] at free
        contradiction
    · rcases get_set_cases rightFound with ⟨_, rfl⟩ | ⟨_, rightBefore⟩
      · have free := unlocked budgetId rightLocks first left leftBefore
        rw [leftLocks] at free
        contradiction
      · exact invariant.exclusive first second left right budgetId leftBefore rightBefore leftLocks
          rightLocks

theorem inv_of_ended (invariant : CloseInv initial state) (index : ℕ) :
    CloseInv initial (setSession state index .ended) := by
  apply inv_of_session invariant
  rintro budgetId lines close ⟨now, marked⟩
  contradiction

theorem inv_of_started (invariant : CloseInv initial state) (session : Session)
    (unmarked : ∀ budgetId lines close, ¬ Marked session budgetId lines close) :
    CloseInv initial { state with sessions := state.sessions ++ [session] } := by
  have earlier : ∀ (other : ℕ) found budgetId lines close,
      (state.sessions ++ [session])[other]? = some found → Marked found budgetId lines close →
        state.sessions[other]? = some found := by
    intro _ _ budgetId lines close present marked
    rw [List.getElem?_append] at present
    split at present
    · exact present
    · have isStarted := mem_of_getElem? present
      rw [mem_singleton] at isStarted
      subst isStarted
      exact absurd marked (unmarked budgetId lines close)
  refine ⟨?_, ?_, invariant.nextId, invariant.recordedIds, invariant.closedRows, invariant.once,
    invariant.outbox⟩
  · intro other found budgetId lines close present marked
    exact invariant.holder other found budgetId lines close
      (earlier other found budgetId lines close present marked) marked
  · intro first second left right budgetId leftFound rightFound leftLocks rightLocks
    obtain ⟨leftLines, leftClose, leftMarked⟩ := locks_row_iff.mp leftLocks
    obtain ⟨rightLines, rightClose, rightMarked⟩ := locks_row_iff.mp rightLocks
    exact invariant.exclusive first second left right budgetId
      (earlier first left budgetId leftLines leftClose leftFound leftMarked)
      (earlier second right budgetId rightLines rightClose rightFound rightMarked) leftLocks
      rightLocks

/-- A unit of work that keeps the rows, and keeps the marked ones stored. -/
theorem inv_of_rows_kept {after : BudgetTables} (invariant : CloseInv initial state)
    (kept : RowsKept state.tables after)
    (held : ∀ row ∈ state.tables.budgets, state.sessions.any (Session.locksRow row.id) = true →
        ∃ stored ∈ after.budgets, stored.id = row.id ∧ stored.closedAt = row.closedAt) :
    CloseInv initial { state with tables := after } := by
  refine ⟨?_, invariant.exclusive, le_trans invariant.nextId kept.nextId, ?_, ?_, invariant.once,
    ?_⟩
  · intro index session budgetId lines close present marked
    obtain ⟨⟨row, stored, here, isOpen⟩, truthful⟩ :=
      invariant.holder index session budgetId lines close present marked
    refine ⟨?_, truthful⟩
    have locked : state.sessions.any (Session.locksRow row.id) = true := by
      rw [any_eq_true, here]
      exact ⟨session, mem_of_getElem? present, locks_row_of_marked marked⟩
    obtain ⟨still, member, same, sameClosed⟩ := held row stored locked
    exact ⟨still, member, same.trans here, sameClosed.trans isOpen⟩
  · intro closing member
    exact lt_of_lt_of_le (invariant.recordedIds closing member) kept.nextId
  · intro row member
    rcases kept.rows row member with ⟨old, stored, same, sameClosed⟩ | ⟨fresh, _, isOpen⟩
    · rw [← sameClosed, ← same]
      exact invariant.closedRows old stored
    · -- a new row has an id that neither the initial rows nor the closings have
      rw [isOpen]
      simp only [Option.isSome_none, Bool.false_eq_true, false_iff, not_or]
      constructor
      · rintro ⟨old, stored, same, _⟩
        have below := initial.idsBelow old stored
        have grown := invariant.nextId
        omega
      · rintro ⟨closing, recorded, same⟩
        have below := invariant.recordedIds closing recorded
        omega
  · exact kept.outbox.trans invariant.outbox

theorem commit_close_cases (state : State) (index : ℕ) (budgetId now : Int) (close : MonthClose) :
    commitClose state index budgetId now close = setSession state index .ended ∨
      (∃ row ∈ state.tables.budgets, row.id = budgetId ∧ row.closedAt = none) ∧
        commitClose state index budgetId now close =
          { tables := { changeBudget state.tables budgetId (setClosedAt now) with
              outbox := state.tables.outbox ++ [⟨close.event, budgetId⟩] }
            sessions := state.sessions.set index .ended
            closings := state.closings ++
              [⟨budgetId, close.event, totalOf (linesOf state.tables budgetId)⟩] } := by
  unfold commitClose
  cases result : writeClose now budgetId close.event.payload.month close.event.payload.year
      close.event state.tables with
  | error => exact Or.inl rfl
  | ok =>
    obtain ⟨isOpen, _, rfl⟩ := write_close_ok_iff.mp result
    exact Or.inr ⟨isOpen, rfl⟩

theorem inv_of_commit_close (invariant : CloseInv initial state) {index : ℕ}
    (present : state.sessions[index]? = some (.closingMarked budgetId lines now close)) :
    CloseInv initial (commitClose state index budgetId now close) := by
  rcases commit_close_cases state index budgetId now close with
    ended | ⟨⟨row, stored, here, isOpen⟩, commits⟩
  · rw [ended]
    exact inv_of_ended invariant index
  rw [commits]
  have notRecorded : ∀ closing ∈ state.closings, closing.budgetId ≠ budgetId := by
    intro closing recorded same
    have closed := (invariant.closedRows row stored).mpr
      (Or.inr ⟨closing, recorded, same.trans here.symm⟩)
    simp [isOpen] at closed
  have remaining : ∀ (other : ℕ) found, (state.sessions.set index .ended)[other]? = some found →
      ∀ marked, found.locksRow marked = true →
        state.sessions[other]? = some found ∧ other ≠ index := by
    intro _ _ foundAt _ locks
    rcases get_set_cases foundAt with ⟨_, rfl⟩ | ⟨differs, before⟩
    · simp [Session.locksRow] at locks
    · exact ⟨before, differs⟩
  refine ⟨?_, ?_, invariant.nextId, ?_, ?_, ?_, ?_⟩
  · intro other found marked otherLines otherClose foundAt isMarked
    obtain ⟨before, differs⟩ := remaining other found foundAt marked (locks_row_of_marked isMarked)
    obtain ⟨⟨held, heldStored, heldHere, heldOpen⟩, truthful⟩ :=
      invariant.holder other found marked otherLines otherClose before isMarked
    refine ⟨⟨held, mem_change_budget.mpr (Or.inl ⟨heldStored, ?_⟩), heldHere, heldOpen⟩, truthful⟩
    intro sameRow
    have sameMark : marked = budgetId := heldHere.symm.trans sameRow
    subst sameMark
    exact differs (invariant.exclusive other index found _ marked before present
      (locks_row_of_marked isMarked) (by simp [Session.locksRow]))
  · intro first second left right marked leftFound rightFound leftLocks rightLocks
    exact invariant.exclusive first second left right marked
      (remaining first left leftFound marked leftLocks).1
      (remaining second right rightFound marked rightLocks).1 leftLocks rightLocks
  · refine forall_snoc invariant.recordedIds ?_
    have below := state.tables.idsBelow row stored
    rwa [here] at below
  · intro current member
    rcases mem_change_budget.mp member with ⟨currentStored, other⟩ | ⟨old, oldStored, oldHere, rfl⟩
    · rw [invariant.closedRows current currentStored]
      simp only [mem_append, mem_singleton, or_and_right, exists_or, exists_eq_left,
        Ne.symm other, or_false]
    · simp only [setClosedAt, Option.isSome_some, true_iff]
      exact Or.inr ⟨_, mem_append_right _ (mem_singleton.mpr rfl), oldHere.symm⟩
  · rw [map_append, nodup_append]
    refine ⟨invariant.once, by simp, ?_⟩
    intro _ member _ addedMember
    obtain ⟨closing, recorded, rfl⟩ := mem_map.mp member
    simp only [map_cons, map_nil, mem_singleton] at addedMember
    rw [addedMember]
    exact notRecorded closing recorded
  · simp only [map_append, map_cons, map_nil, invariant.outbox,
      append_assoc]

theorem prepared_budgeted {spendPort : SpendPort} {budgeted : Decimal} {budgetStartDay : Int}
    (prepared : prepareClose spendPort budgeted accountId year month budgetStartDay userId =
      .ok close) :
    close.event.payload.budgetedAmount = some budgeted := by
  unfold prepareClose at prepared
  split at prepared
  · contradiction
  · obtain ⟨spent, _, built⟩ := bind_eq_ok.mp prepared
    obtain ⟨_, computed, returned⟩ := bind_eq_ok.mp built
    cases returned
    obtain ⟨surplus, _, made⟩ := bind_eq_ok.mp computed
    cases result : BudgetMonthClosedEvent.make ⟨accountId, year, month, some budgeted, some spent,
        some surplus, makeBudgetMonthClosedSourceKey accountId year month⟩ with
    | error =>
      rw [result] at made
      contradiction
    | ok =>
      rw [result] at made
      cases made
      rw [make_eq_ok_iff.mp result]

theorem mark_row_marks {request : CloseRequest} {surroundings : Surroundings} {marked : Int}
    {markedLines : List BudgetLine}
    (isMarked : Marked (markRow state request budgetId lines surroundings) marked markedLines close) :
    ((∃ row ∈ state.tables.budgets, row.id = marked ∧ row.closedAt = none) ∧
      close.event.payload.budgetedAmount = some (totalOf markedLines)) ∧
    state.sessions.any (Session.locksRow marked) = false := by
  obtain ⟨_, isMarked⟩ := isMarked
  unfold markRow at isMarked
  split at isMarked
  · contradiction
  next found prepared =>
    split at isMarked
    · contradiction
    next unlocked =>
      split at isMarked
      next closable =>
        cases isMarked
        refine ⟨⟨?_, prepared_budgeted prepared⟩, by simpa using unlocked⟩
        unfold markClosed at closable
        split at closable
        next found' => simpa using found'
        · contradiction
      · contradiction

theorem not_marked_of_not_locked (unlocked : ∀ budgetId, session.locksRow budgetId = false)
    (budgetId : Int) (lines : List BudgetLine) (close : MonthClose) :
    ¬ Marked session budgetId lines close := by
  intro marked
  have locks := locks_row_of_marked marked
  rw [unlocked] at locks
  contradiction

theorem proceed_inv (invariant : CloseInv initial state) (index : ℕ) (surroundings : Surroundings) :
    CloseInv initial (proceed state index surroundings) := by
  have unmarked : ∀ session : Session, (∀ budgetId, session.locksRow budgetId = false) →
      CloseInv initial (setSession state index session) := by
    intro _ unlocked
    apply inv_of_session invariant
    intro budgetId lines close marked
    exact absurd marked (not_marked_of_not_locked unlocked budgetId lines close)
  unfold proceed
  cases present : state.sessions[index]? with
  | none => exact invariant
  | some session =>
    cases session with
    | closing =>
      apply unmarked
      intro _
      dsimp only [readRow]
      split <;> rfl
    | closingRow => exact unmarked _ fun _ => rfl
    | closingLines =>
      apply inv_of_session invariant
      intro _ _ _ isMarked
      exact mark_row_marks isMarked
    | closingMarked => exact inv_of_commit_close invariant present
    | updating =>
      apply unmarked
      intro _
      dsimp only [findRow]
      split <;> rfl
    | updatingRow =>
      apply unmarked
      intro _
      dsimp only [deleteLines]
      split
      · split <;> rfl
      · rfl
    | updatingLines budgetId removed lines =>
      dsimp only [commitUpdate]
      split
      · exact inv_of_ended invariant index
      next budget found =>
        split
        · obtain ⟨kept, held⟩ := rows_kept_by_lines state.tables budgetId
            (updatedLines budget removed lines)
          exact inv_of_rows_kept (inv_of_ended invariant index) kept
            fun row member _ => held row member
        · exact inv_of_ended invariant index
    | ended => exact invariant

theorem step_inv (state : State) (label : Label) (invariant : CloseInv initial state) :
    CloseInv initial (step state label) := by
  cases label with
  | create categoryPort accountId userId dto =>
    obtain ⟨kept, held⟩ := rows_kept_by_create categoryPort accountId userId dto state.tables
    exact inv_of_rows_kept invariant kept fun row member _ =>
      ⟨row, held row member, rfl, rfl⟩
  | copyToMonth accountId userId dto =>
    obtain ⟨kept, held⟩ := rows_kept_by_copy accountId userId dto state.tables
    exact inv_of_rows_kept invariant kept fun row member _ =>
      ⟨row, held row member, rfl, rfl⟩
  | delete budgetId accountId userId =>
    dsimp only [step, deleteRow]
    split
    · exact invariant
    next unlocked =>
      obtain ⟨kept, held⟩ := rows_kept_by_delete budgetId accountId userId state.tables
      apply inv_of_rows_kept invariant kept
      intro row member locked
      refine ⟨row, held row member ?_, rfl, rfl⟩
      rintro rfl
      apply unlocked
      rw [any_eq_true] at locked ⊢
      obtain ⟨session, present, locks⟩ := locked
      exact ⟨session, present, by simp [locks]⟩
  | startClose | startUpdate =>
    exact inv_of_started invariant _ (not_marked_of_not_locked fun _ => rfl)
  | proceed index surroundings => exact proceed_inv invariant index surroundings
  | lose index => exact inv_of_ended invariant index

theorem run_inv (initial : BudgetTables) (labels : List Label) :
    CloseInv initial (runFrom step (start initial) labels) :=
  run_keeps step (fun state label invariant => step_inv state label invariant)
    (start_inv initial) labels

def Closing.Truthful (closing : Closing) : Prop :=
  closing.event.payload.budgetedAmount = some closing.storedTotal

instance (closing : Closing) : Decidable closing.Truthful :=
  inferInstanceAs (Decidable (_ = _))

/-- When the commit of a close goes through, the lines stored in its row add up to what
the lines did that it read before it asked for the spending total. -/
def CommitsStoredTotal (state : State) : Label → Prop
  | .proceed index _ =>
    match state.sessions[index]? with
    | some (.closingMarked budgetId lines _ close) =>
      close.event.payload.correlationId.length ≤ correlationIdLimit →
        totalOf (linesOf state.tables budgetId) = totalOf lines
    | _ => True
  | _ => True

structure Recorded (initial : BudgetTables) (state : State) : Prop where
  once : (state.closings.map Closing.budgetId).Nodup
  events : state.tables.outbox = initial.outbox ++
    state.closings.map fun closing => ⟨closing.event, closing.budgetId⟩
  withClosedAt : ∀ row ∈ state.tables.budgets, row.closedAt.isSome = true ↔
    (∃ old ∈ initial.budgets, old.id = row.id ∧ old.closedAt.isSome = true) ∨
      ∃ closing ∈ state.closings, closing.budgetId = row.id
  truthful : ∀ closing ∈ state.closings, closing.Truthful

theorem commit_close_truthful_iff (invariant : CloseInv initial state) {index : ℕ}
    (present : state.sessions[index]? = some (.closingMarked budgetId lines now close)) :
    (∀ closing ∈ (commitClose state index budgetId now close).closings, closing.Truthful) ↔
      (∀ closing ∈ state.closings, closing.Truthful) ∧
        (close.event.payload.correlationId.length ≤ correlationIdLimit →
          totalOf (linesOf state.tables budgetId) = totalOf lines) := by
  obtain ⟨isOpen, budgeted⟩ := invariant.holder index _ budgetId lines close present ⟨now, rfl⟩
  unfold commitClose
  by_cases short : close.event.payload.correlationId.length ≤ correlationIdLimit
  · rw [write_close_ok_iff.mpr ⟨isOpen, short, rfl⟩]
    simp only [mem_append, mem_singleton, or_imp, forall_and, forall_eq, short,
      forall_const, Closing.Truthful, budgeted, Option.some.injEq]
    exact and_congr_right fun _ => eq_comm
  · have refused : ∃ failure, writeClose now budgetId close.event.payload.month
        close.event.payload.year close.event state.tables = .error failure := by
      cases result : writeClose now budgetId close.event.payload.month
          close.event.payload.year close.event state.tables with
      | error failure => exact ⟨failure, rfl⟩
      | ok => exact absurd (write_close_ok_iff.mp result).2.1 short
    obtain ⟨_, result⟩ := refused
    rw [result]
    simp [setSession, short]

theorem step_truthful_iff (label : Label) (invariant : CloseInv initial state) :
    (∀ closing ∈ (step state label).closings, closing.Truthful) ↔
      (∀ closing ∈ state.closings, closing.Truthful) ∧ CommitsStoredTotal state label := by
  cases label with
  | proceed index =>
    simp only [step, proceed, CommitsStoredTotal]
    cases present : state.sessions[index]? with
    | none => simp
    | some session =>
      cases session with
      | closingMarked =>
        exact commit_close_truthful_iff invariant present
      | updatingLines =>
        simp only [commitUpdate, and_true]
        split
        · rfl
        · split <;> rfl
      | _ => simp [setSession]
  | delete =>
    simp only [step, deleteRow, CommitsStoredTotal, and_true]
    split <;> rfl
  | _ => simp [step, setSession, CommitsStoredTotal]

theorem run_truthful_iff (labels : List Label) (invariant : CloseInv initial state) :
    (∀ closing ∈ (runFrom step state labels).closings, closing.Truthful) ↔
      (∀ closing ∈ state.closings, closing.Truthful) ∧
        AllSteps step CommitsStoredTotal state labels := by
  induction labels generalizing state with
  | nil => simp [AllSteps]
  | cons label labels ih =>
    rw [run_from_cons, ih (step_inv state label invariant), step_truthful_iff label invariant,
      and_assoc]
    rfl

/-- In every run at most one event a budget row is committed, together with
`closed_at`; every committed event is truthful exactly when every close commits while
the stored lines still add up to what it read. -/
theorem month_close_recorded_iff (initial : BudgetTables) (labels : List Label) :
    Recorded initial (runFrom step (start initial) labels) ↔
      AllSteps step CommitsStoredTotal (start initial) labels := by
  have invariant := run_inv initial labels
  have truthful := run_truthful_iff labels (start_inv initial)
  constructor
  · intro recorded
    exact (truthful.mp recorded.truthful).2
  · intro steps
    exact ⟨invariant.once, invariant.outbox, invariant.closedRows,
      truthful.mpr ⟨by simp [start], steps⟩⟩

def februaryClose : CloseRequest where
  accountId := 1
  year := 2026
  month := 2
  userId := 1

def februaryUpdate : UpdateRequest where
  budgetId := 1
  accountId := 1
  userId := 1
  lines := [⟨5, .finite 500, by decide⟩]

/-- The update commits after the close has read the lines and before it marks the row. -/
def overtakenClose : List Label :=
  [.startClose februaryClose, .startUpdate februaryUpdate,
   .proceed 0 {}, .proceed 0 {}, .proceed 1 {}, .proceed 1 {}, .proceed 1 {},
   .proceed 0 {}, .proceed 0 {}]

/-- The event says 1000 while the row holds 500. -/
theorem overtaken_close_not_recorded : ¬ ∀ (initial : BudgetTables) (labels : List Label),
      Recorded initial (runFrom step (start initial) labels) := by
  intro claimed
  have truthful := (claimed ScheduledClose.februaryTables overtakenClose).truthful
  have untruthful : ¬ ∀ closing ∈ (runFrom step (start ScheduledClose.februaryTables)
      overtakenClose).closings, closing.Truthful := by
    decide +kernel
  exact untruthful truthful

end FinanceTracker.Budget.CloseRuns
