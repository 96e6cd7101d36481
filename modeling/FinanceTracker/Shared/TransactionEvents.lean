import FinanceTracker.Library.Calendar

/-!
# Transaction events

The contract events of one transaction that both transaction-service and
analytics-service work with, with the fields their handlers read. A transaction
id selects the row or the document an event is for, so the id is a parameter of
the handlers and not a field here.
-/

namespace FinanceTracker.Shared.TransactionEvents

open Library.Calendar

/-- The fields that `transaction.created` and `transaction.updated` share;
`timestamp` is in microseconds since the epoch. -/
structure CoreEvent where
  accountId : Int
  userId : Int
  amount : String
  transactionType : String
  txDate : Date
  description : String := ""
  categoryId : Option Int := none
  category : String := ""
  subcategoryId : Option Int := none
  categorizationTier : Option String := none
  categorizationConfidence : Option String := none
  timestamp : Int
  deriving DecidableEq

structure CategorizedEvent where
  categoryId : Int
  categoryName : String := ""
  subcategoryId : Int
  subcategoryName : String := ""
  tier : String := ""
  confidence : String := ""
  timestamp : Int
  deriving DecidableEq

inductive TransactionEvent where
  | created (event : CoreEvent)
  | updated (event : CoreEvent)
  | categorized (event : CategorizedEvent)
  deriving DecidableEq

def TransactionEvent.timestamp : TransactionEvent → Int
  | .created event => event.timestamp
  | .updated event => event.timestamp
  | .categorized event => event.timestamp

def TransactionEvent.isCategorized : TransactionEvent → Bool
  | .categorized _ => true
  | _ => false

def orNone (text : String) : Option String := if text = "" then none else some text

end FinanceTracker.Shared.TransactionEvents
