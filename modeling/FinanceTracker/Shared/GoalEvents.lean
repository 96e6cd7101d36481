import FinanceTracker.Library.Calendar

/-!
# Goal events

The contract events of one savings goal. A created or updated event carries the
full state of the row. Amounts are printed and parsed without loss, so an event
carries the value of its amount texts.
-/

namespace FinanceTracker.Shared.GoalEvents

open Library.Calendar

structure GoalPayload where
  goalId : Int
  userId : Int
  name : Option String := none
  targetAmount : ℚ
  currentAmount : ℚ
  targetDate : Option Date := none
  status : Option String := none
  deriving DecidableEq

inductive GoalEventBody where
  | created (payload : GoalPayload)
  | updated (payload : GoalPayload)
  | deleted (goalId userId : Int)
  | reached (goalId accountId : Int) (name : Option String) (targetAmount currentAmount : ℚ)
  deriving DecidableEq

/-- `timestamp` is in microseconds since the epoch. -/
structure GoalEvent where
  timestamp : Int
  body : GoalEventBody
  deriving DecidableEq

end FinanceTracker.Shared.GoalEvents
