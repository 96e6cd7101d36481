import FinanceTracker.Library.ReadCommitted
import FinanceTracker.Goal.MonthCloseRuns

/-!
# Overlapping use cases on goals

Calls of `set_default_goal`, `clear_default_goal`, `delete_goal` and `update_goal` and
deliveries of closed months interleave at their statements under READ COMMITTED. An
update waits for the row that another transaction has written, and a row becomes the
default only when the partial unique index has no other one of its account. The rows
that a delivery inserts are kept in its phase until it commits. The outbox and the
owner in its events are left out, since no call reads them.
-/

namespace FinanceTracker.Goal.ConcurrentGoals

open Library KeyedRows Columns ReadCommitted Shared.BudgetEvents Service
open MonthCloseRuns (updatedRow)

inductive Request where
  | setDefaultGoal
  | clearDefaultGoal
  | deleteGoal
  | updateGoal (data : GoalBase)
  deriving DecidableEq

/-- How far a use case has come; `clearing` holds the goals that the first update of
`set_default_savings_goal` has found when it began. -/
inductive RequestPhase where
  | requested
  | owned (existing : Goal)
  | clearing (accountId : Int) (defaults : List Int)
  | cleared
  | loaded (data : GoalBase) (model : Goal)
  | written
  | answered
  deriving DecidableEq

inductive ClosePhase where
  | received
  | notAllocated
  | unrecorded
  | goalChosen (chosen : Option Goal)
  | surplusAdded (entry : UnallocatedSurplus) (status : HandlingStatus)
  | allocationAdded (goal : Goal) (amount : Nat)
  | amountRead (goal : Goal) (amount current : Nat)
  | incremented (goal : Goal) (amount : Nat)
  deriving DecidableEq

inductive Outcome where
  | notFound
  | answered
  | handled (status : HandlingStatus)
  | raised (error : GoalError)
  deriving DecidableEq

inductive Session where
  | request (request : Request) (goalId userId : Int) (phase : RequestPhase)
  | monthClose (event : BudgetMonthClosedEvent) (phase : ClosePhase)
  | ended (outcome : Outcome)

structure State where
  goals : Table ℕ Goal.id
  allocations : List Allocation := []
  unallocated : List UnallocatedSurplus := []
  sessions : List Session := []

/-- A statement on the database; reads write nothing. -/
inductive Statement where
  | reads
  | clearDefaults (accountId : Int) (defaults : List Int)
  | setDefault (goalId : Int)
  | clearDefault (goalId : Int)
  | delete (goalId : Int)
  | assign (goalId : Int) (data : GoalBase) (loaded : Goal)
  | addAllocation (sourceKey : SourceKey) (goalId : Int)
  | addUnallocated (sourceKey : SourceKey)
  | increment (goalId : Int) (incremented : Nat)
  | commit (allocations : List Allocation) (unallocated : List UnallocatedSurplus)
  | rollback
  deriving DecidableEq

/-- What a transaction reads: its own writes of goals, and committed rows. -/
def State.seenBy (state : State) (party : ℕ) : GoalTables where
  goals := state.goals.view (some party)
  allocations := state.allocations
  unallocated := state.unallocated

def isDefaultOf (accountId : Int) (goal : Goal) : Bool :=
  goal.accountId = accountId && goal.isDefaultSavingsGoal

def defaultsOf (goals : List Goal) (accountId : Int) : List Int :=
  (goals.filter (isDefaultOf accountId)).map Goal.id

def assignsColumns (data : GoalBase) (loaded : Goal) : Bool :=
  data.name ≠ loaded.name || toDouble data.targetAmount ≠ fromCents loaded.targetAmount ||
    toDouble data.currentAmount ≠ fromCents loaded.currentAmount ||
    data.targetDate ≠ loaded.targetDate || data.status ≠ loaded.status

/-- The next statement of a use case and how it goes on after it. -/
def nextRequest (state : State) (party : ℕ) (accountPort : AccountPort) (request : Request)
    (goalId userId : Int) : RequestPhase → Statement × Session
  | .requested =>
    match ownedGoal accountPort goalId userId (state.seenBy party) with
    | .error error => (.rollback, .ended (.raised error))
    | .ok none => (.rollback, .ended .notFound)
    | .ok (some (existing, _)) => (.reads, .request request goalId userId (.owned existing))
  | .owned existing =>
    match request with
    | .setDefaultGoal =>
      (.reads, .request request goalId userId
        (.clearing existing.accountId
          (defaultsOf (state.goals.view (some party)) existing.accountId)))
    | .clearDefaultGoal => (.clearDefault goalId, .request request goalId userId .written)
    | .deleteGoal =>
      match getById (state.seenBy party) goalId with
      | none => (.rollback, .ended .notFound)
      | some _ => (.delete goalId, .request request goalId userId .answered)
    | .updateGoal data =>
      match getById (state.seenBy party) goalId with
      | none => (.rollback, .ended (.raised (.goalNotFound goalId)))
      | some model => (.reads, .request request goalId userId (.loaded data model))
  | .clearing accountId defaults =>
    (.clearDefaults accountId defaults, .request request goalId userId .cleared)
  | .cleared => (.setDefault goalId, .request request goalId userId .written)
  | .loaded data model =>
    if assignsColumns data model then
      (.assign goalId data model, .request request goalId userId .answered)
    else (.reads, .request request goalId userId .answered)
  -- `assert result is not None`
  | .written =>
    match getById (state.seenBy party) goalId with
    | none => (.rollback, .ended (.raised .database))
    | some _ => (.reads, .request request goalId userId .answered)
  | .answered => (.commit [] [], .ended .answered)

def nextUnallocated (event : BudgetMonthClosedEvent) (reason : UnallocatedReason)
    (status : HandlingStatus) : Statement × Session :=
  match entryAmount event with
  | .error error => (.rollback, .ended (.raised error))
  | .ok amount =>
    (.addUnallocated (sourceKeyOf event), .monthClose event
      (.surplusAdded ⟨sourceKeyOf event, event.payload.accountId, amount, reason⟩ status))

def nextClose (state : State) (party : ℕ) (event : BudgetMonthClosedEvent) :
    ClosePhase → Statement × Session
  | .received =>
    if event.surplus = .zero then (.reads, .ended (.handled .ignoredZeroSurplus))
    else if allocationExists (state.seenBy party) (sourceKeyOf event) then
      (.rollback, .ended (.handled .duplicate))
    else (.reads, .monthClose event .notAllocated)
  | .notAllocated =>
    if unallocatedExists (state.seenBy party) (sourceKeyOf event) then
      (.rollback, .ended (.handled .duplicate))
    else (.reads, .monthClose event .unrecorded)
  | .unrecorded =>
    if fitsInteger event.payload.accountId then
      (.reads, .monthClose event
        (.goalChosen (getDefaultSavingsGoal (state.seenBy party) event.payload.accountId)))
    else (.rollback, .ended (.raised .database))
  | .goalChosen none => nextUnallocated event .noDefaultGoal .unallocatedNoDefaultGoal
  | .goalChosen (some goal) =>
    if isGoalComplete goal then
      nextUnallocated event .goalAlreadyComplete (.unallocatedGoalAlreadyComplete goal.id)
    else
      match entryAmount event with
      | .error error => (.rollback, .ended (.raised error))
      | .ok amount =>
        (.addAllocation (sourceKeyOf event) goal.id,
          .monthClose event (.allocationAdded goal amount))
  | .surplusAdded entry status => (.commit [] [entry], .ended (.handled status))
  -- The goal is looked up by its id alone, deleted or not.
  | .allocationAdded goal amount =>
    match lookup Goal.id (state.goals.view (some party)) goal.id with
    | none => (.rollback, .ended (.raised (.goalNotFound goal.id)))
    | some model => (.reads, .monthClose event (.amountRead goal amount model.currentAmount))
  -- A stored amount is at least a cent, so that the sum is another one and is written.
  | .amountRead goal amount current =>
    match incrementedAmount current event.surplus with
    | .error error => (.rollback, .ended (.raised error))
    | .ok incremented =>
      (.increment goal.id incremented, .monthClose event (.incremented goal amount))
  | .incremented goal amount =>
    (.commit [⟨sourceKeyOf event, goal.id, event.payload.accountId, amount⟩] [],
      .ended (.handled (.allocated goal.id)))

def nextStatement (state : State) (party : ℕ) (accountPort : AccountPort) :
    Session → Statement × Session
  | .request request goalId userId phase =>
    nextRequest state party accountPort request goalId userId phase
  | .monthClose event phase => nextClose state party event phase
  | .ended outcome => (.reads, .ended outcome)

def hasId (goalId : Int) (goal : Goal) : Bool := goal.id = goalId

def isLive (goalId : Int) (goal : Goal) : Bool := goal.id = goalId && !goal.deleted

def isOneOf (goalIds : List Int) (goal : Goal) : Bool := goal.id ∈ goalIds

/-- The row stands against a default goal of the account in the partial unique index. -/
def isOtherDefault (accountId goalId : Int) (goal : Goal) : Bool :=
  isDefaultOf accountId goal && goal.id ≠ goalId

def Session.pendingAllocation : Session → Option (SourceKey × Int)
  | .monthClose event (.allocationAdded goal _) => some (sourceKeyOf event, goal.id)
  | .monthClose event (.amountRead goal _ _) => some (sourceKeyOf event, goal.id)
  | .monthClose event (.incremented goal _) => some (sourceKeyOf event, goal.id)
  | _ => none

def Session.pendingUnallocated : Session → Option SourceKey
  | .monthClose event (.surplusAdded _ _) => some (sourceKeyOf event)
  | _ => none

/-- Another transaction has written a row of the account that is a default before or
after it. -/
def indexBlocked (state : State) (party : ℕ) (goalId : Int) : Bool :=
  match getById (state.seenBy party) goalId with
  | none => false
  | some goal =>
    state.goals.rows.any fun row =>
      row.isLockedFor party && row.versions.any (isOtherDefault goal.accountId goalId)

def blocked (state : State) (party : ℕ) : Statement → Bool
  | .clearDefaults _ defaults => state.goals.blocked party (isOneOf defaults)
  | .setDefault goalId =>
    state.goals.blocked party (isLive goalId) || indexBlocked state party goalId
  | .clearDefault goalId => state.goals.blocked party (hasId goalId)
  | .delete goalId => state.goals.blocked party (isLive goalId)
  | .assign goalId _ _ => state.goals.blocked party (hasId goalId)
  | .addAllocation sourceKey goalId =>
    (sourceKey, goalId) ∈ state.sessions.filterMap Session.pendingAllocation
  | .addUnallocated sourceKey => sourceKey ∈ state.sessions.filterMap Session.pendingUnallocated
  | .increment goalId _ => state.goals.blocked party (hasId goalId)
  | _ => false

/-- A statement that the database refuses, once it need not wait. -/
def refused (state : State) (party : ℕ) : Statement → Option GoalError
  | .setDefault goalId =>
    match getById (state.seenBy party) goalId with
    | none => none
    | some goal =>
      if (state.goals.view (some party)).any (isOtherDefault goal.accountId goalId) then
        some .integrity
      else none
  | .assign _ data _ => if fitsColumns data then none else some .database
  | .addAllocation sourceKey goalId =>
    if MonthCloseRuns.allocationStored (state.seenBy party) sourceKey goalId then some .integrity
    else none
  | .addUnallocated sourceKey =>
    if unallocatedExists (state.seenBy party) sourceKey then some .integrity else none
  | _ => none

def writeGoals (table : Table ℕ Goal.id) (party : ℕ) (wanted : Goal → Bool) (change : Goal → Goal)
    (keeps : ∀ goal, (change goal).id = goal.id) : Table ℕ Goal.id :=
  table.write party wanted (fun goal => some (change goal)) (by
    intro old _ changed
    cases changed
    exact keeps old)

/-- The condition is looked at again in the version that is there by now. -/
def clearDefaults (table : Table ℕ Goal.id) (party : ℕ) (accountId : Int) (defaults : List Int) :
    Table ℕ Goal.id :=
  writeGoals table party (fun goal => isOneOf defaults goal && isDefaultOf accountId goal)
    (fun goal => { goal with isDefaultSavingsGoal := false }) fun _ => rfl

def setDefault (table : Table ℕ Goal.id) (party : ℕ) (goalId : Int) : Table ℕ Goal.id :=
  writeGoals table party (isLive goalId)
    (fun goal => { goal with isDefaultSavingsGoal := true }) fun _ => rfl

def clearDefault (table : Table ℕ Goal.id) (party : ℕ) (goalId : Int) : Table ℕ Goal.id :=
  writeGoals table party (hasId goalId)
    (fun goal => { goal with isDefaultSavingsGoal := false }) fun _ => rfl

def delete (table : Table ℕ Goal.id) (party : ℕ) (goalId : Int) : Table ℕ Goal.id :=
  writeGoals table party (isLive goalId)
    (fun goal => { goal with deleted := true, isDefaultSavingsGoal := false }) fun _ => rfl

def assign (table : Table ℕ Goal.id) (party : ℕ) (goalId : Int) (data : GoalBase)
    (loaded : Goal) : Table ℕ Goal.id :=
  writeGoals table party (hasId goalId) (updatedRow data loaded) fun _ => rfl

def increment (table : Table ℕ Goal.id) (party : ℕ) (goalId : Int) (incremented : Nat) :
    Table ℕ Goal.id :=
  writeGoals table party (hasId goalId)
    (fun goal => { goal with currentAmount := incremented }) fun _ => rfl

def execute (state : State) (party : ℕ) : Statement → State
  | .clearDefaults accountId defaults =>
    { state with goals := clearDefaults state.goals party accountId defaults }
  | .setDefault goalId => { state with goals := setDefault state.goals party goalId }
  | .clearDefault goalId => { state with goals := clearDefault state.goals party goalId }
  | .delete goalId => { state with goals := delete state.goals party goalId }
  | .assign goalId data loaded =>
    { state with goals := assign state.goals party goalId data loaded }
  | .increment goalId incremented =>
    { state with goals := increment state.goals party goalId incremented }
  | .commit allocations unallocated =>
    { state with
      goals := state.goals.commit party
      allocations := state.allocations ++ allocations
      unallocated := state.unallocated ++ unallocated }
  | .rollback => { state with goals := state.goals.rollback party }
  | .reads => state
  | .addAllocation _ _ => state
  | .addUnallocated _ => state

inductive Label where
  | request (request : Request) (goalId userId : Int)
  | deliver (event : BudgetMonthClosedEvent)
  | proceed (party : ℕ) (accountPort : AccountPort)
  | abort (party : ℕ)

def State.setSession (state : State) (party : ℕ) (session : Session) : State :=
  { state with sessions := state.sessions.set party session }

def proceed (state : State) (party : ℕ) (accountPort : AccountPort) (session : Session) : State :=
  let (statement, next) := nextStatement state party accountPort session
  if blocked state party statement then state
  else
    match refused state party statement with
    | some error => (execute state party .rollback).setSession party (.ended (.raised error))
    | none => (execute state party statement).setSession party next

/-- An error elsewhere, a deadlock and a crash roll back what is not committed. -/
def abort (state : State) (party : ℕ) : Session → State
  | .ended _ => state
  | _ => (execute state party .rollback).setSession party (.ended (.raised .database))

def step (state : State) : Label → State
  | .request request goalId userId =>
    { state with sessions := state.sessions ++ [.request request goalId userId .requested] }
  | .deliver event => { state with sessions := state.sessions ++ [.monthClose event .received] }
  | .proceed party accountPort =>
    match state.sessions[party]? with
    | none => state
    | some session => proceed state party accountPort session
  | .abort party =>
    match state.sessions[party]? with
    | none => state
    | some session => abort state party session

end FinanceTracker.Goal.ConcurrentGoals
