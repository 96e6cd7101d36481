import FinanceTracker.Shared.SagaMessages
import FinanceTracker.Saga.Orchestrator

/-!
# The bank sync saga

`BankSyncSagaDefinition`: fetch, import, mark complete. The context is the JSON
object of the saga as a record of its keys; an absent key is none. A missing key
that a hook subscripts makes the hook raise.
-/

namespace FinanceTracker.Saga.BankSync

open Shared.SagaMessages Domain Orchestrator

structure BankSyncContext where
  connectionId : Option String := none
  userId : Option Int := none
  accountId : Option Int := none
  accountName : Option String := none
  bankAccountUid : Option String := none
  dateFrom : Option String := none
  fetchedItems : Option (List FetchedItem) := none
  totalFetched : Option Int := none
  parseSkipped : Option Int := none
  errors : Option Int := none
  importedIds : Option (List Nat) := none
  newImported : Option Int := none
  duplicatesSkipped : Option Int := none
  deriving DecidableEq

/-- `context[key]`. -/
def subscript {Value : Type} (key : String) (value : Option Value) : Except SagaError Value :=
  match value with
  | some value => .ok value
  | none => .error (.other ("'" ++ key ++ "'"))

def fetchStep : StepDefinition where
  name := "fetch_transactions"
  commandEventType := "saga.cmd.bank_fetch_transactions"

def importStep : StepDefinition where
  name := "import_transactions"
  commandEventType := "saga.cmd.bulk_import_transactions"
  compensateEventType := some "saga.cmd.rollback_import"

def markCompleteStep : StepDefinition where
  name := "mark_sync_complete"
  commandEventType := "saga.cmd.mark_sync_complete"

def buildCommand (stepIndex : Nat) (context : BankSyncContext) :
    Except SagaError CommandFields :=
  match stepIndex with
  | 0 => do
    let connectionId ← subscript "connection_id" context.connectionId
    let userId ← subscript "user_id" context.userId
    let bankAccountUid ← subscript "bank_account_uid" context.bankAccountUid
    return { connectionId := some connectionId
             userId := some userId
             dateFrom := context.dateFrom
             bankAccountUid := some bankAccountUid }
  | 1 => do
    let userId ← subscript "user_id" context.userId
    let accountId ← subscript "account_id" context.accountId
    let accountName ← subscript "account_name" context.accountName
    let items ← subscript "fetched_items" context.fetchedItems
    return { userId := some userId
             accountId := some accountId
             accountName := some accountName
             items := some items }
  | 2 => do
    let connectionId ← subscript "connection_id" context.connectionId
    let userId ← subscript "user_id" context.userId
    return { connectionId := some connectionId
             userId := some userId
             totalFetched := some (context.totalFetched.getD 0)
             newImported := some (context.newImported.getD 0)
             duplicatesSkipped := some (context.duplicatesSkipped.getD 0)
             errors := some (context.errors.getD 0)
             parseSkipped := some (context.parseSkipped.getD 0) }
  | _ => return {}

def buildCompensateCommand (stepIndex : Nat) (context : BankSyncContext) :
    Except SagaError (Option CommandFields) :=
  if stepIndex = 1 then
    let importedIds := context.importedIds.getD []
    if importedIds = [] then .ok none
    else do
      let userId ← subscript "user_id" context.userId
      return some { userId := some userId, transactionIds := some importedIds }
  else .ok none

def onReply (stepIndex : Nat) (context : BankSyncContext) (resultData : Option ResultData) :
    BankSyncContext :=
  match resultData with
  | none => context
  | some result =>
    match stepIndex with
    | 0 =>
      { context with
        fetchedItems := some (result.items.getD [])
        totalFetched := some (result.totalFetched.getD 0)
        parseSkipped := some (result.parseSkipped.getD 0)
        errors := some (context.errors.getD 0 + result.errors.getD 0) }
    | 1 =>
      { context with
        importedIds := some (result.importedIds.getD [])
        newImported := some (result.imported.getD 0)
        duplicatesSkipped := some (result.duplicatesSkipped.getD 0)
        errors := some (context.errors.getD 0 + result.errors.getD 0) }
    | _ => context

def bankSyncDefinition : SagaDefinition BankSyncContext CommandFields ResultData where
  sagaType := "bank_sync"
  steps := [fetchStep, importStep, markCompleteStep]
  buildCommand := buildCommand
  buildCompensateCommand := buildCompensateCommand
  onReply := fun stepIndex context resultData => .ok (onReply stepIndex context resultData)

def sagaRegistry : SagaRegistry BankSyncContext CommandFields ResultData :=
  SagaRegistry.register [] bankSyncDefinition

abbrev BankSyncDb := SagaDb BankSyncContext CommandFields

def commandBody (entry : OutboxEntry CommandFields) : SagaCommand where
  eventType := entry.payload.eventType
  sagaId := entry.payload.sagaId
  stepName := entry.payload.stepName
  fields := entry.payload.fields

/-- The context that the start consumer takes from a `saga.bank_sync.start` event;
it raises on a missing key. -/
structure BankSyncStart where
  connectionId : String
  userId : Int
  accountId : Int
  accountName : String
  bankAccountUid : String
  dateFrom : Option String := none
  deriving DecidableEq

def startContext (event : BankSyncStart) : BankSyncContext where
  connectionId := some event.connectionId
  userId := some event.userId
  accountId := some event.accountId
  accountName := some event.accountName
  bankAccountUid := some event.bankAccountUid
  dateFrom := event.dateFrom.filter fun text => text ≠ ""

end FinanceTracker.Saga.BankSync
