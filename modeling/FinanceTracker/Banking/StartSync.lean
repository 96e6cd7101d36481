import FinanceTracker.Banking.MarkSyncComplete

/-!
# The start_sync_saga use case

The checks of a request, then one call of the use case as it runs on the
database: each unit of work, each read of the claim and each status lookup is one
statement. A unit of work that claims adds the start event in the same commit.
-/

namespace FinanceTracker.Banking.StartSync

open MarkSyncComplete

structure StartRequest where
  connectionId : String
  userId : Int
  dateFrom : Option String := none
  bearerToken : Option String := none
  trigger : SyncTrigger := .manual
  deriving DecidableEq

/-- The columns of a connection that only the checks and the event read. -/
structure ConnectionDetails where
  userId : Int
  status : String := "active"
  bankAccountUid : String
  expiresAt : Option Instant := none

structure BankSyncSagaStartEvent where
  correlationId : String
  connectionId : String
  userId : Int
  accountId : Int
  accountName : String
  bankAccountUid : String
  dateFrom : Option String
  deriving DecidableEq

inductive StartError where
  | bankConnectionNotFound (connectionId : String)
  | bankConnectionInactive (connectionId status : String)
  | bankAccountNotOwned (accountId : Int)
  | bankConsentExpired (connectionId : String) (expiresAt : Option Instant)
  | projectionIntegrity (accountId : Int)
  | accountService

inductive AccountError where
  | notOwned
  | unavailable

/-- How far a call has come, with the ids that it has read. An aborted one crashed
or raised, and what it did not commit is rolled back. -/
inductive CallProgress where
  | claiming
  | conflict
  | retrying
  | retryLost
  | contested (existingId : String)
  | stealing (existingId : String)
  | stealLost (existingId : String)
  | deferring (winnerId : String)
  | returned (sagaId : String) (alreadyRunning : Bool)
  | aborted
  deriving DecidableEq

/-- The local variables of a call. The ghost field `sawWinner` is false once the call
has lost its second attempt and then read no claim. -/
structure StartCall where
  request : StartRequest
  sagaId : String
  now : Instant
  accountId : Int
  accountName : String
  bankAccountUid : String
  progress : CallProgress := .claiming
  sawWinner : Bool := true
  deriving DecidableEq

def isExpiredAt (details : ConnectionDetails) (now : Instant) : Bool :=
  details.expiresAt.any fun expiresAt => expiresAt < now

/-- The checks of a request; `checkedAt` and `now` are readings of the clock, and
`sagaId` is the drawn id. -/
def precheck (request : StartRequest) (stored : Option BankConnection)
    (details : ConnectionDetails) (checkedAt : Instant)
    (accountName : Except AccountError String) (sagaId : String) (now : Instant) :
    Except StartError StartCall :=
  match stored with
  | none => .error (.bankConnectionNotFound request.connectionId)
  | some conn =>
    if details.status ≠ "active" then
      .error (.bankConnectionInactive request.connectionId details.status)
    else if details.userId ≠ request.userId then .error (.bankAccountNotOwned conn.accountId)
    else if isExpiredAt details checkedAt then
      .error (.bankConsentExpired request.connectionId details.expiresAt)
    else
      match accountName with
      | .error .notOwned => .error (.projectionIntegrity conn.accountId)
      | .error .unavailable => .error .accountService
      | .ok accountName =>
        .ok
          { request := request
            sagaId := sagaId
            now := now
            accountId := conn.accountId
            accountName := accountName
            bankAccountUid := details.bankAccountUid }

structure SyncTables where
  db : BankingDb
  startEvents : List BankSyncSagaStartEvent := []
  deriving DecidableEq

def startEvent (call : StartCall) : BankSyncSagaStartEvent where
  correlationId := call.sagaId
  connectionId := call.request.connectionId
  userId := call.request.userId
  accountId := call.accountId
  accountName := call.accountName
  bankAccountUid := call.bankAccountUid
  dateFrom := call.request.dateFrom

/-- The row count of `try_claim_sync` is 1. -/
def claimIsFree (db : BankingDb) (connectionId : String) (now ttl : Instant) : Bool :=
  (getConnection db connectionId).any fun conn =>
    conn.syncStartedAt.all fun startedAt => startedAt < now - ttl

def currentClaim (db : BankingDb) (connectionId : String) : Option String :=
  (getConnection db connectionId).bind BankConnection.syncSagaId

/-- The row count of `steal_sync_claim` is 1. -/
def holdsClaim (db : BankingDb) (connectionId sagaId : String) : Bool :=
  currentClaim db connectionId = some sagaId

def claimOr (won : Bool) (claimed : BankingDb) (lost : CallProgress) (tables : SyncTables)
    (call : StartCall) : SyncTables × StartCall :=
  if won then
    ({ db := claimed, startEvents := tables.startEvents ++ [startEvent call] },
      { call with progress := .returned call.sagaId false })
  else (tables, { call with progress := lost })

def tryClaim (ttl : Instant) (lost : CallProgress) (tables : SyncTables) (call : StartCall) :
    SyncTables × StartCall :=
  claimOr (claimIsFree tables.db call.request.connectionId call.now ttl)
    (tryClaimSync tables.db call.request.connectionId call.sagaId call.now ttl
      call.request.trigger) lost tables call

def isTerminal (status : String) : Bool :=
  status = "completed" || status = "failed" || status = "timed_out"

/-- `claim or fallback`: an empty id counts as none. -/
def givenClaim (claim : Option String) : Option String := claim.filter fun sagaId => sagaId ≠ ""

/-- The next statement of a call; `status` is the answer of a status lookup. -/
def runCall (ttl : Instant) (status : Option String) (tables : SyncTables) (call : StartCall) :
    SyncTables × StartCall :=
  let connectionId := call.request.connectionId
  match call.progress with
  | .claiming => tryClaim ttl .conflict tables call
  | .conflict =>
    match currentClaim tables.db connectionId with
    | none => (tables, { call with progress := .retrying })
    | some existingId => (tables, { call with progress := .contested existingId })
  | .retrying => tryClaim ttl .retryLost tables call
  | .retryLost =>
    match givenClaim (currentClaim tables.db connectionId) with
    | none => (tables, { call with progress := .deferring call.sagaId, sawWinner := false })
    | some winnerId => (tables, { call with progress := .deferring winnerId })
  | .contested existingId =>
    if status.any isTerminal then (tables, { call with progress := .stealing existingId })
    else (tables, { call with progress := .deferring existingId })
  | .stealing existingId =>
    claimOr (holdsClaim tables.db connectionId existingId)
      (stealSyncClaim tables.db connectionId existingId call.sagaId call.now
        call.request.trigger) (.stealLost existingId) tables call
  | .stealLost existingId =>
    (tables, { call with
      progress := .deferring
        ((givenClaim (currentClaim tables.db connectionId)).getD existingId) })
  | .deferring winnerId =>
    ({ tables with
        db := if call.request.trigger = .manual then
            escalateTriggerToManual tables.db connectionId winnerId
          else tables.db },
      { call with progress := .returned winnerId true })
  | .returned _ _ | .aborted => (tables, call)

end FinanceTracker.Banking.StartSync
