import Mathlib.Data.List.Basic

/-!
# Messages of the bank sync saga

The JSON bodies that saga-service and the participants exchange. A body is a
record of the keys the three services read or write; an absent key, or a null
where the reader treats both alike, is none.
-/

namespace FinanceTracker.Shared.SagaMessages

/-- One fetched transaction as JSON gives it; a null description differs from an
absent one. -/
structure FetchedItem where
  amount : Option String
  transactionType : Option String
  date : Option String
  description : Option (Option String) := none
  externalId : Option String := none
  currency : Option String := none
  deriving DecidableEq

/-- The keys of a command beside the four the orchestrator writes. -/
structure CommandFields where
  connectionId : Option String := none
  userId : Option Int := none
  dateFrom : Option String := none
  bankAccountUid : Option String := none
  accountId : Option Int := none
  accountName : Option String := none
  items : Option (List FetchedItem) := none
  transactionIds : Option (List Nat) := none
  totalFetched : Option Int := none
  newImported : Option Int := none
  duplicatesSkipped : Option Int := none
  errors : Option Int := none
  parseSkipped : Option Int := none
  deriving DecidableEq

structure SagaCommand where
  eventType : String
  sagaId : String
  stepName : String
  fields : CommandFields
  deriving DecidableEq

/-- A command in the queue of a participant, with its `x-retry-count` header. -/
structure CommandMessage where
  body : SagaCommand
  retryCount : Nat := 0
  deriving DecidableEq

structure ResultData where
  items : Option (List FetchedItem) := none
  totalFetched : Option Int := none
  parseSkipped : Option Int := none
  errors : Option Int := none
  imported : Option Int := none
  duplicatesSkipped : Option Int := none
  importedIds : Option (List Nat) := none
  deriving DecidableEq

/-- What a command handler returns. -/
structure ReplyData where
  success : Bool
  errorMessage : Option String := none
  resultData : Option ResultData := none
  isCompensation : Bool := false
  deriving DecidableEq

/-- The payload of a `saga.reply.*` event. -/
structure SagaReply where
  sagaId : String
  stepName : String
  success : Bool
  errorMessage : Option String
  resultData : Option ResultData
  isCompensation : Bool
  deriving DecidableEq

def maxRetries : Nat := 3

end FinanceTracker.Shared.SagaMessages
