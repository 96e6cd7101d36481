import FinanceTracker.Analytics.GuardedUpsert
import FinanceTracker.Shared.GoalEvents

/-!
# The goal projection of analytics-service

One document per goal, written by the guarded full-state upsert. `goal.reached`
is not registered, so the worker acknowledges it without a write.
-/

namespace FinanceTracker.Analytics.GoalStore

open Library Calendar Runs Shared.GoalEvents TransactionStore GuardedUpsert

structure GoalFields where
  goalId : Int
  userId : Int
  name : Option String
  targetAmount : ℚ
  currentAmount : ℚ
  targetDate : Option Date
  status : Option String
  deriving DecidableEq

/-- No field of a goal is optional. -/
abbrev GoalDoc := GuardedDoc GoalFields Empty Empty

/-- The parameters of the upsert of a created or updated event. -/
def goalState (payload : GoalPayload) (timestamp : Int) : FullState GoalFields Empty Empty where
  required :=
    { goalId := payload.goalId
      userId := payload.userId
      name := payload.name
      targetAmount := payload.targetAmount
      currentAmount := payload.currentAmount
      targetDate := payload.targetDate
      status := payload.status }
  optional := fun _ => none
  eventTs := eventTsMillis timestamp

def markDeleted (eventTs : Int) (stored : Option GoalDoc) : Option GoalDoc :=
  some { stored.getD {} with isDeleted := true, updatedAt := some eventTs }

def projectGoal (documents : Int → Option GoalDoc) (event : GoalEvent) : Int → Option GoalDoc :=
  match event.body with
  | .created payload | .updated payload =>
    Function.update documents payload.goalId
      (guardedFullStateUpsert (goalState payload event.timestamp)
        (documents payload.goalId)).1
  | .deleted goalId _ =>
    Function.update documents goalId
      (markDeleted (eventTsMillis event.timestamp) (documents goalId))
  | .reached _ _ _ _ _ => documents

/-- The documents after the events in their order. -/
def projectGoals (events : List GoalEvent) : Int → Option GoalDoc :=
  runFrom projectGoal (fun _ => none) events

end FinanceTracker.Analytics.GoalStore
