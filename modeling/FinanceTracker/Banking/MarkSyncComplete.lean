import FinanceTracker.Library.KeyedRows

/-!
# The mark_sync_complete command

The last step of a bank sync in banking-service: the inbox check, the read of
the connection and the commit of its effects, each as one statement on the
database. The claim statements of the sync API, which share the connection's
columns, are here too. Of the connection only the claim, the account and
`last_synced_at` are modelled; of the event not its own ids and timestamp.
-/

namespace FinanceTracker.Banking.MarkSyncComplete

open Library.KeyedRows

/-- Microseconds since the epoch. -/
abbrev Instant := Int

inductive SyncTrigger where
  | manual
  | scheduled
  deriving DecidableEq, Repr

def SyncTrigger.value : SyncTrigger → String
  | .manual => "manual"
  | .scheduled => "scheduled"

structure BankConnection where
  id : String
  accountId : Int
  lastSyncedAt : Option Instant := none
  syncSagaId : Option String := none
  syncStartedAt : Option Instant := none
  syncTrigger : Option String := none
  deriving DecidableEq

structure BankSyncCompletedEvent where
  connectionId : String
  accountId : Int
  userId : Int
  totalFetched : Int
  newImported : Int
  duplicatesSkipped : Int
  errors : Int
  parseSkipped : Int
  trigger : SyncTrigger
  deriving DecidableEq

/-- A row of the outbox. The ghost field `inboxKey` names the command whose
delivery added it; the table has no such column. -/
structure OutboxEvent where
  event : BankSyncCompletedEvent
  aggregateType : String
  aggregateId : String
  inboxKey : Option String
  deriving DecidableEq

structure ProcessedEvent where
  correlationId : String
  consumerName : String
  deriving DecidableEq

structure BankingDb where
  connections : List BankConnection
  outbox : List OutboxEvent
  processedEvents : List ProcessedEvent
  deriving DecidableEq

def getConnection (db : BankingDb) (connectionId : String) : Option BankConnection :=
  lookup BankConnection.id db.connections connectionId

def updateConnection (db : BankingDb) (connectionId : String)
    (change : BankConnection → BankConnection) : BankingDb :=
  { db with connections := replace BankConnection.id db.connections connectionId change }

def claimFor (sagaId : String) (now : Instant) (trigger : SyncTrigger)
    (conn : BankConnection) : BankConnection :=
  { conn with
    syncSagaId := some sagaId
    syncStartedAt := some now
    syncTrigger := some trigger.value }

def tryClaimSync (db : BankingDb) (connectionId sagaId : String) (now ttl : Instant)
    (trigger : SyncTrigger) : BankingDb :=
  updateConnection db connectionId fun conn =>
    if conn.syncStartedAt.all fun startedAt => startedAt < now - ttl then
      claimFor sagaId now trigger conn
    else conn

/-- `steal_sync_claim`: takes over the claim of a saga known to have ended. -/
def stealSyncClaim (db : BankingDb) (connectionId oldSagaId newSagaId : String) (now : Instant)
    (trigger : SyncTrigger) : BankingDb :=
  updateConnection db connectionId fun conn =>
    if conn.syncSagaId = some oldSagaId then claimFor newSagaId now trigger conn else conn

def escalateTriggerToManual (db : BankingDb) (connectionId sagaId : String) : BankingDb :=
  updateConnection db connectionId fun conn =>
    if conn.syncSagaId = some sagaId then
      { conn with syncTrigger := some SyncTrigger.manual.value }
    else conn

/-- The body of the command; an absent key is none. -/
structure MarkSyncCommand where
  connectionId : Option String
  userId : Option Int
  sagaId : Option String
  stepName : Option String
  totalFetched : Option Int := none
  newImported : Option Int := none
  duplicatesSkipped : Option Int := none
  errors : Option Int := none
  parseSkipped : Option Int := none
  deriving DecidableEq

def queueName : String := "banking_service.saga_commands"

def stepKey (sagaId stepName : String) : String := sagaId ++ ":" ++ stepName

/-- `_inbox_key_or_none`: no key, and so no guard, unless both parts are given. -/
def inboxKeyOrNone (body : MarkSyncCommand) : Option String :=
  let sagaId := body.sagaId.getD ""
  let stepName := body.stepName.getD ""
  if sagaId = "" ∨ stepName = "" then none else some (stepKey sagaId stepName)

def inboxRow (inboxKey : String) : ProcessedEvent where
  correlationId := inboxKey
  consumerName := queueName

def isDuplicate (db : BankingDb) (inboxKey : Option String) : Bool :=
  inboxKey.any fun key => db.processedEvents.any fun row => row = inboxRow key

def parseSyncTrigger (raw : Option String) : SyncTrigger :=
  if raw = some SyncTrigger.scheduled.value then .scheduled else .manual

def ownClaim (body : MarkSyncCommand) (conn : BankConnection) : Bool :=
  body.sagaId.getD "" ≠ "" && conn.syncSagaId = body.sagaId

def completedEvent (body : MarkSyncCommand) (connectionId : String) (userId : Int)
    (conn : BankConnection) : BankSyncCompletedEvent where
  connectionId := connectionId
  accountId := conn.accountId
  userId := userId
  totalFetched := body.totalFetched.getD 0
  newImported := body.newImported.getD 0
  duplicatesSkipped := body.duplicatesSkipped.getD 0
  errors := body.errors.getD 0
  parseSkipped := body.parseSkipped.getD 0
  trigger := if ownClaim body conn then parseSyncTrigger conn.syncTrigger else .manual

/-- The update of the connection. Only columns whose value differs from the one
that was read are written, and they are written to the row as it is now. -/
def stampConnection (body : MarkSyncCommand) (now : Instant) (loaded row : BankConnection) :
    BankConnection :=
  let release := ownClaim body loaded
  { row with
    lastSyncedAt := some now
    syncSagaId := if release then none else row.syncSagaId
    syncStartedAt :=
      if release && loaded.syncStartedAt.isSome then none else row.syncStartedAt
    syncTrigger := if release && loaded.syncTrigger.isSome then none else row.syncTrigger }

/-- The transaction of the effects. The unique constraint of the inbox decides at
the commit: the loser of a race is rolled back and leaves the database as it was.
The update locks the row until then, so update and commit are one statement. -/
def commitCompletion (body : MarkSyncCommand) (connectionId : String) (userId : Int)
    (now : Instant) (loaded : BankConnection) (db : BankingDb) : BankingDb :=
  let inboxKey := inboxKeyOrNone body
  if isDuplicate db inboxKey then db
  else
    { connections :=
        replace BankConnection.id db.connections loaded.id (stampConnection body now loaded)
      outbox := db.outbox ++
        [{ event := completedEvent body connectionId userId loaded
           aggregateType := "bank_connection"
           aggregateId := connectionId
           inboxKey := inboxKey }]
      processedEvents := db.processedEvents ++ (inboxKey.map inboxRow).toList }

/-- How far a delivery has come, with its local variables. An aborted one
crashed or raised: it does not return, and what it did not commit is rolled back. -/
inductive Progress where
  | started
  | checked (connectionId : String) (userId : Int)
  | loaded (connectionId : String) (userId : Int) (conn : BankConnection)
  | committed
  | returned (success : Bool)
  | aborted
  deriving DecidableEq

structure Delivery where
  body : MarkSyncCommand
  progress : Progress
  deriving DecidableEq

/-- The next statement of `_handle_mark_sync_complete`. `parseUuid` is the text
conversion of the language, which raises where it gives none. -/
def runStatement (parseUuid : String → Option String) (now : Instant) (db : BankingDb)
    (delivery : Delivery) : BankingDb × Progress :=
  match delivery.progress with
  | .started =>
    match delivery.body.connectionId, delivery.body.userId with
    | some connectionId, some userId =>
      if isDuplicate db (inboxKeyOrNone delivery.body) then (db, .returned true)
      else (db, .checked connectionId userId)
    | _, _ => (db, .aborted)
  | .checked connectionId userId =>
    match parseUuid connectionId with
    | none => (db, .aborted)
    | some id =>
      match getConnection db id with
      | none => (db, .returned true)
      | some conn => (db, .loaded connectionId userId conn)
  | .loaded connectionId userId conn =>
    (commitCompletion delivery.body connectionId userId now conn db, .committed)
  | .committed => (db, .returned true)
  | .returned success => (db, .returned success)
  | .aborted => (db, .aborted)

end FinanceTracker.Banking.MarkSyncComplete
