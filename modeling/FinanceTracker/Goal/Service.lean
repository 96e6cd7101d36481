import FinanceTracker.Library.Columns
import FinanceTracker.Library.KeyedRows
import FinanceTracker.Library.Runs
import FinanceTracker.Shared.BudgetEvents
import FinanceTracker.Shared.GoalEvents

/-!
# Goals and their month-close allocations

The tables of goal-service, the use cases of `GoalService` and the handler of
closed budget months. A use case is one unit of work: it commits its rows with
its outbox events or leaves the tables as they were. Amounts are `NUMERIC(12, 2)`
columns in whole cents, and the owner of an account is asked for over the port.
-/

namespace FinanceTracker.Goal.Service

open Library Binary64 Calendar Columns Decimals KeyedRows Runs Shared.BudgetEvents Shared.GoalEvents

inductive StoredGoalStatus where
  | active
  | paused
  deriving DecidableEq

def StoredGoalStatus.value : StoredGoalStatus → String
  | .active => "active"
  | .paused => "paused"

structure Goal where
  id : Int
  name : Option String
  targetAmount : Nat
  currentAmount : Nat
  targetDate : Option Date
  status : StoredGoalStatus
  accountId : Int
  isDefaultSavingsGoal : Bool := false
  deleted : Bool := false
  deriving DecidableEq

structure SourceKey where
  accountId : Int
  year : Int
  month : Int
  deriving DecidableEq

instance : LawfulBEq (SourceKey × Int) :=
  inferInstance

def SourceKey.text (key : SourceKey) : String :=
  makeBudgetMonthClosedSourceKey key.accountId key.year key.month

structure Allocation where
  sourceKey : SourceKey
  goalId : Int
  accountId : Int
  amount : Nat
  deriving DecidableEq

inductive UnallocatedReason where
  | noDefaultGoal
  | goalAlreadyComplete
  deriving DecidableEq

structure UnallocatedSurplus where
  sourceKey : SourceKey
  accountId : Int
  amount : Nat
  reason : UnallocatedReason
  deriving DecidableEq

structure GoalTables where
  goals : List Goal := []
  nextId : Int := 1
  allocations : List Allocation := []
  unallocated : List UnallocatedSurplus := []
  outbox : List GoalEvent := []

inductive GoalError where
  | notAccountOwner
  | accountNotFound (accountId : Int)
  | upstreamUnavailable
  | goalNotFound (goalId : Int)
  | integrity
  | database
  deriving DecidableEq

/-- The answer of account-service, at the moment of the call. -/
abbrev AccountPort := Int → Except GoalError Int

def amountLimit : Nat := 10 ^ 12

/-- `float(model.current_amount)`. -/
def toDouble (cents : Nat) : ℚ := nearestDouble (fromCents cents)

theorem to_double_near {cents : Nat} (fits : cents < amountLimit) :
    |toDouble cents - fromCents cents| ≤ 1 / 524288 := by
  have limit : (cents : ℚ) < 10 ^ 12 := by exact_mod_cast fits
  have power : (2 : ℚ) ^ (34 : ℤ) = 17179869184 := by norm_num
  have error : (2 : ℚ) ^ ((34 : ℤ) - 53) = 1 / 524288 := by norm_num
  unfold toDouble
  rw [← error]
  apply nearest_double_near 34
  · unfold fromCents
    positivity
  · unfold fromCents
    rw [power]
    linarith

theorem to_double_eq_cents {assigned loaded : Nat} (fits : assigned < amountLimit)
    (same : toDouble assigned = fromCents loaded) : assigned = loaded := by
  have near := to_double_near fits
  rw [same] at near
  unfold fromCents at near
  rw [abs_le] at near
  have above : (loaded : ℚ) < assigned + 1 := by linarith [near.2]
  have below : (assigned : ℚ) < loaded + 1 := by linarith [near.1]
  have aboveNat : loaded < assigned + 1 := by exact_mod_cast above
  have belowNat : assigned < loaded + 1 := by exact_mod_cast below
  omega

def getById (tables : GoalTables) (goalId : Int) : Option Goal :=
  tables.goals.find? fun goal => goal.id = goalId && !goal.deleted

def getDefaultSavingsGoal (tables : GoalTables) (accountId : Int) : Option Goal :=
  tables.goals.find? fun goal =>
    goal.accountId = accountId && goal.isDefaultSavingsGoal && !goal.deleted

def clearDefaultOfAccount (accountId : Int) (goal : Goal) : Goal :=
  if goal.accountId = accountId ∧ goal.isDefaultSavingsGoal then
    { goal with isDefaultSavingsGoal := false }
  else goal

def setDefaultSavingsGoal (goals : List Goal) (goalId accountId : Int) : List Goal :=
  (goals.map (clearDefaultOfAccount accountId)).map fun goal =>
    if goal.id = goalId ∧ goal.deleted = false then { goal with isDefaultSavingsGoal := true }
    else goal

def clearDefaultSavingsGoal (goals : List Goal) (goalId : Int) : List Goal :=
  replace Goal.id goals goalId fun goal => { goal with isDefaultSavingsGoal := false }

structure GoalBase where
  name : Option String := none
  targetAmount : Nat
  currentAmount : Nat := 0
  targetDate : Option Date := none
  status : StoredGoalStatus := .active
  deriving DecidableEq

def fitsColumns (data : GoalBase) : Bool :=
  data.targetAmount < amountLimit && data.currentAmount < amountLimit

def payloadOf (goal : Goal) (ownerId : Int) : GoalPayload where
  goalId := goal.id
  userId := ownerId
  name := goal.name
  targetAmount := toDouble goal.targetAmount
  currentAmount := toDouble goal.currentAmount
  targetDate := goal.targetDate
  status := some goal.status.value

def createGoal (accountPort : AccountPort) (now : Int) (accountId : Int) (data : GoalBase)
    (userId : Int) (tables : GoalTables) : Except GoalError (GoalTables × Goal) := do
  let ownerId ← accountPort accountId
  if ownerId ≠ userId then throw .notAccountOwner
  if !fitsColumns data then throw .database
  let created : Goal :=
    { id := tables.nextId
      name := data.name
      targetAmount := data.targetAmount
      currentAmount := data.currentAmount
      targetDate := data.targetDate
      status := data.status
      accountId := accountId }
  return ({ tables with
    goals := tables.goals ++ [created]
    nextId := tables.nextId + 1
    outbox := tables.outbox ++ [⟨now, .created (payloadOf created ownerId)⟩] }, created)

/-- The goal of an owner who asks for it; `none` answers 404. -/
def ownedGoal (accountPort : AccountPort) (goalId userId : Int) (tables : GoalTables) :
    Except GoalError (Option (Goal × Int)) := do
  match getById tables goalId with
  | none => return none
  | some existing =>
    let ownerId ← accountPort existing.accountId
    if ownerId ≠ userId then return none
    return some (existing, ownerId)

def updateGoal (accountPort : AccountPort) (now : Int) (goalId : Int) (data : GoalBase)
    (userId : Int) (tables : GoalTables) : Except GoalError (GoalTables × Option Goal) := do
  match ← ownedGoal accountPort goalId userId tables with
  | none => return (tables, none)
  | some (existing, ownerId) =>
    if !fitsColumns data then throw .database
    let updated : Goal :=
      { existing with
        name := data.name
        targetAmount := data.targetAmount
        currentAmount := data.currentAmount
        targetDate := data.targetDate
        status := data.status }
    return ({ tables with
      goals := replace Goal.id tables.goals goalId fun _ => updated
      outbox := tables.outbox ++ [⟨now, .updated (payloadOf updated ownerId)⟩] }, some updated)

def deleteGoal (accountPort : AccountPort) (now : Int) (goalId userId : Int)
    (tables : GoalTables) : Except GoalError (GoalTables × Bool) := do
  match ← ownedGoal accountPort goalId userId tables with
  | none => return (tables, false)
  | some (_, ownerId) =>
    return ({ tables with
      goals := replace Goal.id tables.goals goalId fun goal =>
        { goal with deleted := true, isDefaultSavingsGoal := false }
      outbox := tables.outbox ++ [⟨now, .deleted goalId ownerId⟩] }, true)

def writeDefaultGoal (write : Goal → List Goal → List Goal) (accountPort : AccountPort)
    (now : Int) (goalId userId : Int) (tables : GoalTables) :
    Except GoalError (GoalTables × Option Goal) := do
  match ← ownedGoal accountPort goalId userId tables with
  | none => return (tables, none)
  | some (existing, ownerId) =>
    let written := { tables with goals := write existing tables.goals }
    match getById written goalId with
    | none => throw .database
    | some result =>
      return ({ written with
        outbox := tables.outbox ++ [⟨now, .updated (payloadOf result ownerId)⟩] }, some result)

def setDefaultGoal : AccountPort → Int → Int → Int → GoalTables →
    Except GoalError (GoalTables × Option Goal) :=
  writeDefaultGoal fun existing goals =>
    setDefaultSavingsGoal goals existing.id existing.accountId

def clearDefaultGoal : AccountPort → Int → Int → Int → GoalTables →
    Except GoalError (GoalTables × Option Goal) :=
  writeDefaultGoal fun existing goals => clearDefaultSavingsGoal goals existing.id

def sourceKeyOf (event : BudgetMonthClosedEvent) : SourceKey :=
  ⟨event.payload.accountId, event.payload.year, event.payload.month⟩

inductive HandlingStatus where
  | ignoredZeroSurplus
  | unallocatedNoDefaultGoal
  | unallocatedGoalAlreadyComplete (goalId : Int)
  | allocated (goalId : Int)
  | duplicate
  deriving DecidableEq

def allocationExists (tables : GoalTables) (sourceKey : SourceKey) : Bool :=
  tables.allocations.any fun entry => entry.sourceKey = sourceKey

def unallocatedExists (tables : GoalTables) (sourceKey : SourceKey) : Bool :=
  tables.unallocated.any fun entry => entry.sourceKey = sourceKey

def alreadyHandled (tables : GoalTables) (sourceKey : SourceKey) : Bool :=
  allocationExists tables sourceKey || unallocatedExists tables sourceKey

def isGoalComplete (goal : Goal) : Bool := goal.targetAmount ≤ goal.currentAmount

/-- The columns of an entry beside its amount. -/
def entryFits (event : BudgetMonthClosedEvent) : Bool :=
  fitsInteger event.payload.accountId && fitsVarchar 255 (sourceKeyOf event).text &&
    fitsVarchar 255 event.payload.correlationId

/-- The insert of an entry: first the columns, then the check that the stored amount is
positive. -/
def entryAmount (event : BudgetMonthClosedEvent) : Except GoalError Nat :=
  if entryFits event then
    match event.surplus with
    | .finite value =>
      if amountLimit ≤ toCents value then .error .database
      else if toCents value = 0 then .error .integrity
      else .ok (toCents value)
    | _ => .error .database
  else .error .database

def addUnallocated (event : BudgetMonthClosedEvent) (reason : UnallocatedReason)
    (tables : GoalTables) : Except GoalError GoalTables := do
  let amount ← entryAmount event
  return { tables with
    unallocated := tables.unallocated ++
      [⟨sourceKeyOf event, event.payload.accountId, amount, reason⟩] }

def incrementedAmount (currentAmount : Nat) (amount : Decimal) : Except GoalError Nat :=
  match amount with
  | .finite value =>
    let sum := Decimal.contextRound (fromCents currentAmount + value)
    if toCents sum < amountLimit then .ok (toCents sum) else .error .database
  | _ => .error .database

def incrementCurrentAmount (goal : Goal) (amount : Decimal) : Except GoalError Goal := do
  let incremented ← incrementedAmount goal.currentAmount amount
  return { goal with currentAmount := incremented }

/-- The `goal.reached` event of an allocation that brings the goal to its target. -/
def reachedEvents (now : Int) (goal : Goal) (event : BudgetMonthClosedEvent) : List GoalEvent :=
  match event.surplus with
  | .finite value =>
    let target := fromCents goal.targetAmount
    let newCurrent := Decimal.contextRound (fromCents goal.currentAmount + value)
    if 0 < target ∧ target ≤ newCurrent then
      [⟨now, .reached goal.id event.payload.accountId goal.name target newCurrent⟩]
    else []
  | _ => []

def handleMonthClosed (now : Int) (event : BudgetMonthClosedEvent) (tables : GoalTables) :
    Except GoalError (GoalTables × HandlingStatus) := do
  if event.surplus = .zero then return (tables, .ignoredZeroSurplus)
  if alreadyHandled tables (sourceKeyOf event) then return (tables, .duplicate)
  if !fitsInteger event.payload.accountId then throw .database
  match getDefaultSavingsGoal tables event.payload.accountId with
  | none =>
    let written ← addUnallocated event .noDefaultGoal tables
    return (written, .unallocatedNoDefaultGoal)
  | some goal =>
    if isGoalComplete goal then
      let written ← addUnallocated event .goalAlreadyComplete tables
      return (written, .unallocatedGoalAlreadyComplete goal.id)
    else
      let amount ← entryAmount event
      let incremented ← incrementCurrentAmount goal event.surplus
      return ({ tables with
        goals := replace Goal.id tables.goals goal.id fun _ => incremented
        allocations := tables.allocations ++
          [⟨sourceKeyOf event, goal.id, event.payload.accountId, amount⟩]
        outbox := tables.outbox ++ reachedEvents now goal event }, .allocated goal.id)

variable {event : BudgetMonthClosedEvent} {currentAmount incremented : Nat} {tables : GoalTables}

theorem entry_amount_ok_iff {cents : Nat} : entryAmount event = .ok cents ↔
      entryFits event = true ∧ ∃ value, event.surplus = .finite value ∧
        cents = toCents value ∧ 0 < cents ∧ cents < amountLimit := by
  unfold entryAmount
  cases fits : entryFits event with
  | false => simp
  | true =>
    cases surplus : event.surplus with
    | finite =>
      simp only [if_true, true_and, Decimal.finite.injEq, exists_eq_left']
      split_ifs with large none_left
      · simp only [false_iff, not_and, not_lt]
        rintro rfl _
        exact large
      · simp only [false_iff, not_and]
        rintro rfl positive
        omega
      · simp only [Except.ok.injEq]
        constructor
        · rintro rfl
          exact ⟨rfl, by omega, by omega⟩
        · exact fun facts => facts.1.symm
    | infinity => simp
    | nan => simp

theorem incremented_amount_ok_iff {amount : Decimal} :
    incrementedAmount currentAmount amount = .ok incremented ↔ ∃ value, amount = .finite value ∧
        incremented = toCents (Decimal.contextRound (fromCents currentAmount + value)) ∧
        incremented < amountLimit := by
  cases amount with
  | finite =>
    simp only [incrementedAmount, Decimal.finite.injEq, exists_eq_left']
    split
    next fits =>
      simp only [Except.ok.injEq]
      constructor
      · rintro rfl
        exact ⟨rfl, fits⟩
      · exact fun facts => facts.1.symm
    next large =>
      simp only [reduceCtorEq, false_iff, not_and]
      rintro rfl
      exact large
  | infinity | nan => simp [incrementedAmount]

theorem context_round_cents (cents added : Nat) (fits : cents + added < 10 ^ 28) :
    Decimal.contextRound (fromCents cents + fromCents added) = fromCents (cents + added) := by
  have digits := Decimal.context_round_digits ((cents + added : Nat) : ℤ) 2 (by
    rw [abs_of_nonneg (by positivity)]
    exact_mod_cast fits)
  have sum : fromCents cents + fromCents added = ((cents + added : Nat) : ℤ) / 10 ^ 2 := by
    unfold fromCents
    push_cast
    ring
  rw [sum, digits]
  unfold fromCents
  push_cast
  norm_num

theorem incremented_whole_cents {added : Nat}
    (sum : incrementedAmount currentAmount (.finite (fromCents added)) = .ok incremented)
    (fits : currentAmount + added < 10 ^ 28) : incremented = currentAmount + added := by
  obtain ⟨_, same, rounded, _⟩ := incremented_amount_ok_iff.mp sum
  cases same
  rw [rounded, context_round_cents currentAmount added fits, to_cents_from_cents]

theorem incremented_amount_grows {value : ℚ}
    (added : incrementedAmount currentAmount (.finite value) = .ok incremented)
    (positive : 0 < toCents value) : currentAmount < incremented := by
  obtain ⟨_, sameValue, rfl, _⟩ := incremented_amount_ok_iff.mp added
  cases sameValue
  have half := (to_cents_pos_iff value).mp positive
  by_contra notGrown
  have bound : currentAmount < amountLimit := by
    by_contra large
    -- a sum from the limit on rounds to at least the limit
    have low : fromCents amountLimit ≤ fromCents currentAmount + value := by
      have cast : (amountLimit : ℚ) ≤ currentAmount := by
        exact_mod_cast not_lt.mp large
      unfold fromCents
      linarith
    have rounded := Decimal.context_round_mono (by unfold fromCents; positivity) low
    have exact : Decimal.contextRound (fromCents amountLimit) = fromCents amountLimit := by
      have sum := context_round_cents amountLimit 0 (by decide)
      have zero : fromCents 0 = 0 := by simp [fromCents]
      rwa [zero, add_zero, Nat.add_zero] at sum
    rw [exact] at rounded
    have cents := to_cents_mono rounded
    rw [to_cents_from_cents] at cents
    omega
  have digits : Decimal.contextRound (((10 * currentAmount + 5 : Nat) : ℤ) / 10 ^ 3) =
      ((10 * currentAmount + 5 : Nat) : ℤ) / 10 ^ 3 := by
    apply Decimal.context_round_digits
    rw [abs_of_nonneg (by positivity)]
    have small : 10 * currentAmount + 5 < 10 ^ 28 := by
      unfold amountLimit at bound
      omega
    exact_mod_cast small
  have halfCent : ((10 * currentAmount + 5 : Nat) : ℤ) / 10 ^ 3 =
      fromCents currentAmount + 1 / 200 := by
    unfold fromCents
    push_cast
    ring
  have more : fromCents currentAmount + 1 / 200 ≤ fromCents currentAmount + value := by
    linarith
  have rounded := Decimal.context_round_mono (by unfold fromCents; positivity) more
  rw [← halfCent, digits, halfCent] at rounded
  have cents := to_cents_mono rounded
  rw [to_cents_add currentAmount (by norm_num : (0 : ℚ) ≤ 1 / 200)] at cents
  have cent := (to_cents_pos_iff (1 / 200)).mpr (le_refl _)
  omega

theorem default_goal_mem {accountId : Int} {goal : Goal}
    (found : getDefaultSavingsGoal tables accountId = some goal) :
    goal ∈ tables.goals ∧ goal.deleted = false := by
  unfold getDefaultSavingsGoal at found
  have selected := List.find?_some found
  rw [Bool.and_eq_true, Bool.not_eq_true'] at selected
  exact ⟨List.mem_of_find?_eq_some found, selected.2⟩

/-- What the handler has done when it returns. -/
inductive Handled (now : Int) (event : BudgetMonthClosedEvent) (tables : GoalTables) :
    GoalTables → HandlingStatus → Prop where
  | ignored (zero : event.surplus = .zero) : Handled now event tables tables .ignoredZeroSurplus
  | duplicate (recorded : alreadyHandled tables (sourceKeyOf event) = true) :
      Handled now event tables tables .duplicate
  | unallocated (written : GoalTables) (amount : Nat) (reason : UnallocatedReason)
      (status : HandlingStatus) (notZero : event.surplus ≠ .zero)
      (free : alreadyHandled tables (sourceKeyOf event) = false)
      (checked : entryAmount event = .ok amount)
      (writes : written = { tables with
        unallocated := tables.unallocated ++
          [⟨sourceKeyOf event, event.payload.accountId, amount, reason⟩] })
      (notAllocated : ∀ goalId, status ≠ .allocated goalId) :
      Handled now event tables written status
  | allocated (written : GoalTables) (goal : Goal) (amount incremented : Nat)
      (notZero : event.surplus ≠ .zero)
      (free : alreadyHandled tables (sourceKeyOf event) = false)
      (chosen : getDefaultSavingsGoal tables event.payload.accountId = some goal)
      (incomplete : isGoalComplete goal = false) (checked : entryAmount event = .ok amount)
      (sum : incrementedAmount goal.currentAmount event.surplus = .ok incremented)
      (writes : written = { tables with
        goals := replace Goal.id tables.goals goal.id fun _ =>
          { goal with currentAmount := incremented }
        allocations := tables.allocations ++
          [⟨sourceKeyOf event, goal.id, event.payload.accountId, amount⟩]
        outbox := tables.outbox ++ reachedEvents now goal event }) :
      Handled now event tables written (.allocated goal.id)

theorem add_unallocated_ok {reason : UnallocatedReason} {written : GoalTables}
    (added : addUnallocated event reason tables = .ok written) :
    ∃ amount, entryAmount event = .ok amount ∧ written = { tables with
      unallocated := tables.unallocated ++
        [⟨sourceKeyOf event, event.payload.accountId, amount, reason⟩] } := by
  unfold addUnallocated at added
  obtain ⟨amount, checked, added⟩ := bind_eq_ok.mp added
  cases added
  exact ⟨amount, checked, rfl⟩

theorem handle_month_closed_handled {now : Int} {written : GoalTables} {status : HandlingStatus}
    (returned : handleMonthClosed now event tables = .ok (written, status)) :
    Handled now event tables written status := by
  unfold handleMonthClosed at returned
  by_cases zero : event.surplus = .zero
  · rw [if_pos zero] at returned
    cases returned
    exact .ignored zero
  rw [if_neg zero] at returned
  cases recorded : alreadyHandled tables (sourceKeyOf event) with
  | true =>
    rw [recorded] at returned
    cases returned
    exact .duplicate recorded
  | false =>
    rw [recorded] at returned
    cases integer : fitsInteger event.payload.accountId with
    | false =>
      rw [integer] at returned
      cases returned
    | true =>
      rw [integer] at returned
      cases chosen : getDefaultSavingsGoal tables event.payload.accountId with
      | none =>
        rw [chosen] at returned
        obtain ⟨_, added, returned⟩ := bind_eq_ok.mp returned
        obtain ⟨amount, checked, writes⟩ := add_unallocated_ok added
        cases returned
        exact .unallocated written amount _ _ zero recorded checked writes nofun
      | some goal =>
        rw [chosen] at returned
        cases complete : isGoalComplete goal with
        | true =>
          dsimp only at returned
          rw [complete] at returned
          obtain ⟨_, added, returned⟩ := bind_eq_ok.mp returned
          obtain ⟨amount, checked, writes⟩ := add_unallocated_ok added
          cases returned
          exact .unallocated written amount _ _ zero recorded checked writes nofun
        | false =>
          dsimp only at returned
          rw [complete] at returned
          obtain ⟨amount, checked, returned⟩ := bind_eq_ok.mp returned
          obtain ⟨_, increments, returned⟩ := bind_eq_ok.mp returned
          obtain ⟨incremented, sum, increments⟩ := bind_eq_ok.mp increments
          cases increments
          cases returned
          exact .allocated _ goal amount incremented zero recorded chosen complete checked
            sum rfl

end FinanceTracker.Goal.Service
