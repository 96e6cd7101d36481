import FinanceTracker.Banking.MarkSyncComplete
import FinanceTracker.Messaging.ConsumerBase
import FinanceTracker.Notifications.Domain
import FinanceTracker.Shared.BudgetEvents

/-!
# The notification service

The five handlers up to the point where they touch the database or account-service: an
event is ignored, or it asks for a notification of a user or of the owner of an account.
The validation of a payload by its contract is a parameter; it is given the id that it
draws for an absent correlation id.
-/

namespace FinanceTracker.Notifications.Service

open Library Decimals Json Runs
open Banking.MarkSyncComplete (SyncTrigger)
open Messaging.ConsumerBase (Failure)
open Domain Shared.BudgetEvents

structure BankSyncCompletedEvent where
  connectionId : String
  userId : Int
  newImported : Int
  errors : Int
  parseSkipped : Int := 0
  trigger : SyncTrigger := .manual
  correlationId : String

/-- An amount is none where its text denotes no number. -/
structure GoalUpdatedEvent where
  goalId : Int
  userId : Int
  name : Option String := none
  targetAmount : Option Decimal
  currentAmount : Option Decimal

structure GoalReachedEvent where
  goalId : Int
  accountId : Int
  name : Option String := none
  targetAmount : Option Decimal

structure BudgetLineThresholdCrossedEvent where
  accountId : Int
  year : Int
  month : Int
  categoryId : Int
  categoryName : String
  percentageUsed : Int
  threshold : Int
  daysRemaining : Int

def makeBudgetLineThresholdCrossedSourceKey (accountId year month categoryId threshold : Int) :
    String :=
  "budget.line_threshold_crossed:" ++ toString accountId ++ ":" ++ toString year ++ ":" ++
    toString month ++ ":" ++ toString categoryId ++ ":" ++ toString threshold

def BudgetLineThresholdCrossedEvent.sourceKey (event : BudgetLineThresholdCrossedEvent) : String :=
  makeBudgetLineThresholdCrossedSourceKey event.accountId event.year event.month event.categoryId
    event.threshold

inductive Event where
  | bankSyncCompleted (event : BankSyncCompletedEvent)
  | goalUpdated (event : GoalUpdatedEvent)
  | goalReached (event : GoalReachedEvent)
  | budgetMonthClosed (event : BudgetMonthClosedEvent)
  | budgetLineThresholdCrossed (event : BudgetLineThresholdCrossedEvent)

/-- `model_validate` of the five contracts. -/
structure ModelValidate where
  bankSyncCompleted : JsonObject → String → Option BankSyncCompletedEvent
  goalUpdated : JsonObject → String → Option GoalUpdatedEvent
  goalReached : JsonObject → String → Option GoalReachedEvent
  budgetMonthClosed : JsonObject → String → Option BudgetMonthClosedEvent
  budgetLineThresholdCrossed : JsonObject → String → Option BudgetLineThresholdCrossedEvent

def parse {Model : Type} (validated : Option Model) (make : Model → Event) : Except Failure Event :=
  match validated with
  | some event => .ok (make event)
  | none => .error .poison

/-- The first half of `_dispatch`: the contract of the event type. -/
def parseEvent (validate : ModelValidate) (payload : JsonObject) (drawnId : String) :
    Except Failure Event :=
  match getD payload "event_type" .null with
  | .str "bank.sync.completed" =>
    parse (validate.bankSyncCompleted payload drawnId) .bankSyncCompleted
  | .str "goal.updated" => parse (validate.goalUpdated payload drawnId) .goalUpdated
  | .str "goal.reached" => parse (validate.goalReached payload drawnId) .goalReached
  | .str "budget.month_closed" =>
    parse (validate.budgetMonthClosed payload drawnId) .budgetMonthClosed
  | .str "budget.line_threshold_crossed" =>
    parse (validate.budgetLineThresholdCrossed payload drawnId) .budgetLineThresholdCrossed
  | _ => .error .poison

/-- A notification that a handler asks for; without a user it is for the owner of the
account. -/
structure Request where
  content : NotificationContent
  sourceKey : String
  deriving DecidableEq

inductive Plan where
  | ignored
  | create (userId : Int) (request : Request)
  | resolve (accountId : Int) (request : Request)
  deriving DecidableEq

/-- A trapped signal is no `PoisonMessageError`. -/
def orFails {Value : Type} : Except Signal Value → Except Failure Value
  | .ok value => .ok value
  | .error .invalidOperation => .error .other

/-- `Decimal(text)`. -/
def decimalOf (amount : Option Decimal) : Except Failure Decimal :=
  match amount with
  | some value => .ok value
  | none => .error .other

def bankSyncKey (event : BankSyncCompletedEvent) : String :=
  "bank.sync.completed:" ++ event.connectionId ++ ":" ++ event.correlationId

def goalReachedKey (goalId : Int) : String := "goal.reached:" ++ toString goalId

def isWorthNotifying (event : BankSyncCompletedEvent) : Bool :=
  shouldNotifyBankSync (event.trigger = .scheduled) event.newImported event.errors
    event.parseSkipped

/-- `target <= 0 or current < target`. -/
def isNotReached (target current : Decimal) : Except Signal Bool := do
  if ← Decimal.zero.lt target then current.lt target else .ok true

def handleBankSyncCompleted (event : BankSyncCompletedEvent) : Except Failure Plan :=
  if !isWorthNotifying event then .ok .ignored
  else
    .ok (.create event.userId
      { content := buildBankSyncCompleted event.newImported event.errors
        sourceKey := bankSyncKey event })

def handleGoalUpdated (event : GoalUpdatedEvent) : Except Failure Plan := do
  let target ← decimalOf event.targetAmount
  let current ← decimalOf event.currentAmount
  if ← orFails (isNotReached target current) then .ok .ignored
  else
    let content ← orFails (buildGoalReached event.name target)
    .ok (.create event.userId { content := content, sourceKey := goalReachedKey event.goalId })

def handleGoalReached (event : GoalReachedEvent) : Except Failure Plan := do
  let target ← decimalOf event.targetAmount
  let content ← orFails (buildGoalReached event.name target)
  .ok (.resolve event.accountId { content := content, sourceKey := goalReachedKey event.goalId })

def handleBudgetMonthClosed (event : BudgetMonthClosedEvent) : Except Failure Plan := do
  let content ← orFails
    (buildBudgetMonthClosed event.payload.year event.payload.month event.surplus)
  .ok (.resolve event.payload.accountId { content := content, sourceKey := event.sourceKey })

def handleBudgetLineThresholdCrossed (event : BudgetLineThresholdCrossedEvent) :
    Except Failure Plan :=
  .ok (.resolve event.accountId
    { content := buildBudgetLineThresholdCrossed event.categoryName event.percentageUsed
        event.threshold event.daysRemaining
      sourceKey := event.sourceKey })

def handleEvent : Event → Except Failure Plan
  | .bankSyncCompleted event => handleBankSyncCompleted event
  | .goalUpdated event => handleGoalUpdated event
  | .goalReached event => handleGoalReached event
  | .budgetMonthClosed event => handleBudgetMonthClosed event
  | .budgetLineThresholdCrossed event => handleBudgetLineThresholdCrossed event

def Event.sourceKey : Event → String
  | .bankSyncCompleted event => bankSyncKey event
  | .goalUpdated event => goalReachedKey event.goalId
  | .goalReached event => goalReachedKey event.goalId
  | .budgetMonthClosed event => event.sourceKey
  | .budgetLineThresholdCrossed event => event.sourceKey

/-- A quiet sync, or an edit that leaves the goal below its target. -/
def Event.isSuppressed : Event → Bool
  | .bankSyncCompleted event => !isWorthNotifying event
  | .goalUpdated event =>
    match event.targetAmount, event.currentAmount with
    | some target, some current => decide (isNotReached target current = .ok true)
    | _, _ => false
  | _ => false

/-- The account whose owner is notified; the other events name their user. -/
def Event.accountId : Event → Option Int
  | .goalReached event => some event.accountId
  | .budgetMonthClosed event => some event.payload.accountId
  | .budgetLineThresholdCrossed event => some event.accountId
  | _ => none

/-- A handler that returns ignores a suppressed event and asks for a notification with
the key of any other one. -/
inductive Planned (event : Event) : Plan → Prop where
  | ignored (suppressed : event.isSuppressed = true) : Planned event .ignored
  | create (userId : Int) (request : Request) (key : request.sourceKey = event.sourceKey) :
      Planned event (.create userId request)
  | resolve (accountId : Int) (request : Request) (key : request.sourceKey = event.sourceKey)
      (account : event.accountId = some accountId) : Planned event (.resolve accountId request)

theorem or_fails_ok {Value : Type} {result : Except Signal Value} {value : Value}
    (returned : orFails result = .ok value) : result = .ok value := by
  cases result with
  | ok => exact congrArg Except.ok (Except.ok.inj returned)
  | error signal =>
    cases signal
    cases returned

theorem decimal_of_ok {amount : Option Decimal} {value : Decimal}
    (read : decimalOf amount = .ok value) : amount = some value := by
  cases amount with
  | none => cases read
  | some => exact congrArg some (Except.ok.inj read)

theorem bank_sync_planned {event : BankSyncCompletedEvent} {plan : Plan}
    (handled : handleBankSyncCompleted event = .ok plan) : Planned (.bankSyncCompleted event) plan := by
  unfold handleBankSyncCompleted at handled
  split at handled
  · next quiet =>
    cases handled
    exact .ignored quiet
  · cases handled
    exact .create _ _ rfl

theorem goal_updated_planned {event : GoalUpdatedEvent} {plan : Plan}
    (handled : handleGoalUpdated event = .ok plan) : Planned (.goalUpdated event) plan := by
  unfold handleGoalUpdated at handled
  obtain ⟨_, readTarget, handled⟩ := bind_eq_ok.mp handled
  obtain ⟨_, readCurrent, handled⟩ := bind_eq_ok.mp handled
  obtain ⟨notReached, compared, handled⟩ := bind_eq_ok.mp handled
  cases notReached with
  | true =>
    cases handled
    apply Planned.ignored
    simp [Event.isSuppressed, decimal_of_ok readTarget, decimal_of_ok readCurrent,
      or_fails_ok compared]
  | false =>
    obtain ⟨_, handled⟩ := rest_ok handled
    cases handled
    exact .create _ _ rfl

theorem goal_reached_planned {event : GoalReachedEvent} {plan : Plan}
    (handled : handleGoalReached event = .ok plan) : Planned (.goalReached event) plan := by
  unfold handleGoalReached at handled
  obtain ⟨_, handled⟩ := rest_ok handled
  obtain ⟨_, handled⟩ := rest_ok handled
  cases handled
  exact .resolve _ _ rfl rfl

theorem budget_month_closed_planned {event : BudgetMonthClosedEvent} {plan : Plan}
    (handled : handleBudgetMonthClosed event = .ok plan) :
    Planned (.budgetMonthClosed event) plan := by
  unfold handleBudgetMonthClosed at handled
  obtain ⟨_, handled⟩ := rest_ok handled
  cases handled
  exact .resolve _ _ rfl rfl

theorem event_planned {event : Event} {plan : Plan} (handled : handleEvent event = .ok plan) :
    Planned event plan := by
  cases event with
  | bankSyncCompleted => exact bank_sync_planned handled
  | goalUpdated => exact goal_updated_planned handled
  | goalReached => exact goal_reached_planned handled
  | budgetMonthClosed => exact budget_month_closed_planned handled
  | budgetLineThresholdCrossed =>
    cases handled
    exact .resolve _ _ rfl rfl

end FinanceTracker.Notifications.Service
