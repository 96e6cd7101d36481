import FinanceTracker.Library.Sessions
import FinanceTracker.Saga.BankSync

/-!
# The saga start consumer

`SagaStartConsumer` on its queue: several instances handle copies of start events,
statement by statement under READ COMMITTED. An INSERT waits for an uncommitted saga with
its key. A delivery that fails goes to the back of the own queue with a raised count until
the limit is reached; one whose consumer crashes comes again as it was. Replies and
timeouts, which work on committed sagas under their row locks, are whole calls of the
orchestrator in between.

`transients` counts the attempts at a message that failed for a reason that is not in the
data. The broker has no such header; it only serves statements.
-/

namespace FinanceTracker.Saga.StartConsumer

open Library.Runs Domain Orchestrator BankSync Shared.SagaMessages

def maxRetries : Nat := 3

/-- The keys of a start event; an absent key is none. -/
structure StartBody where
  correlationId : Option String := none
  eventType : String := ""
  sagaType : Option String := none
  connectionId : Option String := none
  userId : Option Int := none
  accountId : Option Int := none
  accountName : Option String := none
  bankAccountUid : Option String := none
  dateFrom : Option String := none
  context : BankSyncContext := {}
  deriving DecidableEq

inductive ParseError where
  | keyError (key : String)
  | valueError (message : String)
  deriving DecidableEq

def required {Value : Type} (key : String) (value : Option Value) : Except ParseError Value :=
  match value with
  | some value => .ok value
  | none => .error (.keyError key)

def parseStartEvent (body : StartBody) :
    Except ParseError (String × BankSyncContext × Option String) :=
  if body.eventType = "saga.bank_sync.start" ∨ body.sagaType = some "bank_sync" then do
    let connectionId ← required "connection_id" body.connectionId
    let userId ← required "user_id" body.userId
    let accountId ← required "account_id" body.accountId
    let accountName ← required "account_name" body.accountName
    let bankAccountUid ← required "bank_account_uid" body.bankAccountUid
    let event : BankSyncStart :=
      { connectionId := connectionId
        userId := userId
        accountId := accountId
        accountName := accountName
        bankAccountUid := bankAccountUid
        dateFrom := body.dateFrom }
    return ("bank_sync", startContext event, body.correlationId)
  else
    let sagaType := body.sagaType.getD ""
    if sagaType = "" then .error (.valueError "missing saga_type")
    else .ok (sagaType, body.context, body.correlationId)

/-- The text of a UUID as `str(uuid4())` writes it; the id column takes no other text. -/
def isUuidText (text : String) : Bool :=
  text.toList.length = 36 && text.toList.zipIdx.all fun place =>
    if place.2 ∈ [8, 13, 18, 23] then place.1 = '-'
    else "0123456789abcdef".toList.contains place.1

structure Copy where
  body : StartBody
  retryCount : Nat := 0
  transients : Nat := 0
  deriving DecidableEq

inductive Failure where
  | poison
  | other
  deriving DecidableEq

/-- `PoisonMessageError` for a domain error, the ladder for anything else. -/
def failureOf (failure : SagaError) : Failure :=
  if failure.isDomainError then .poison else .other

inductive Phase where
  | received
  | absent (saga : SagaInstance BankSyncContext)
  | inserted (saga : SagaInstance BankSyncContext)
  | prepared (saga : SagaInstance BankSyncContext) (command : OutboxEntry CommandFields)
  | handled (result : Except Failure Unit)
  | settled

structure Session where
  copy : Copy
  now : Instant := 0
  phase : Phase := .received

structure State where
  db : BankSyncDb := SagaDb.empty
  queue : List Copy := []
  sessions : List Session := []
  acknowledged : List Copy := []
  deadLettered : List Copy := []

def State.setSession (state : State) (index : Nat) (session : Session) : State :=
  { state with sessions := state.sessions.set index session }

def Session.at (session : Session) (phase : Phase) : Session := { session with phase := phase }

def pendingId (session : Session) : Option String :=
  match session.phase with
  | .inserted saga => some saga.id
  | .prepared saga _ => some saga.id
  | _ => none

def heldByOther (state : State) (index : Nat) (sagaId : String) : Bool :=
  (List.range state.sessions.length).any fun other =>
    other ≠ index && state.sessions[other]?.bind pendingId = some sagaId

/-- What one attempt draws: a clock reading, the id of a saga without a correlation id, and
whether a republished message is accepted. -/
structure Choice where
  now : Instant := 0
  generatedId : String := ""
  published : Bool := true

def select (db : BankSyncDb) (choice : Choice) (body : StartBody) : Phase :=
  match parseStartEvent body with
  | .error _ => .handled (.error .poison)
  | .ok (sagaType, context, correlationId) =>
    match getDefinition sagaRegistry sagaType with
    | .error failure => .handled (.error (failureOf failure))
    | .ok definition =>
      let saga := newSaga definition choice.now sagaType context
        (sagaIdFor correlationId choice.generatedId)
      if (getByCorrelationId db saga.correlationId).isSome then .handled (.ok ())
      else .absent saga

def insertSaga (db : BankSyncDb) (saga : SagaInstance BankSyncContext) : Phase :=
  if isUuidText saga.id then
    match save db saga with
    | .error failure => .handled (.error (failureOf failure))
    | .ok _ => .inserted saga
  else .handled (.error .other)

/-- The step rows and the outbox row of the first command. -/
def prepare (saga : SagaInstance BankSyncContext) : Phase :=
  let published : Except SagaError (OutboxEntry CommandFields) := do
    let definition ← getDefinition sagaRegistry saga.sagaType
    publishStepCommand saga definition 0
  match published with
  | .error failure => .handled (.error (failureOf failure))
  | .ok command => .prepared saga command

/-- What the transaction of a prepared saga leaves. -/
def committed (db : BankSyncDb) (now : Instant) (saga : SagaInstance BankSyncContext)
    (command : OutboxEntry CommandFields) : BankSyncDb :=
  update (addOutbox { db with sagas := db.sagas ++ [saga] } [command])
    (saga.modifyStep 0 (markExecuting now))

def Copy.next (copy : Copy) : Copy := { copy with retryCount := copy.retryCount + 1 }

/-- What `_on_message` does with the result of `handle`. -/
def settle (state : State) (index : Nat) (session : Session) (result : Except Failure Unit)
    (published : Bool) : State :=
  let settled := state.setSession index (session.at .settled)
  match result with
  | .ok _ => { settled with acknowledged := state.acknowledged ++ [session.copy] }
  | .error .poison => { settled with deadLettered := state.deadLettered ++ [session.copy] }
  | .error .other =>
    if session.copy.retryCount < maxRetries then
      if published then { settled with queue := state.queue ++ [session.copy.next] }
      else { settled with queue := state.queue ++ [session.copy] }
    else { settled with deadLettered := state.deadLettered ++ [session.copy] }

/-- The next statement; a session that waits stays as it is. -/
def advance (state : State) (index : Nat) (choice : Choice) (session : Session) : State :=
  match session.phase with
  | .received =>
    state.setSession index
      { session with now := choice.now, phase := select state.db choice session.copy.body }
  | .absent saga =>
    if heldByOther state index saga.id then state
    else state.setSession index (session.at (insertSaga state.db saga))
  | .inserted saga => state.setSession index (session.at (prepare saga))
  | .prepared saga command =>
    { state with db := committed state.db session.now saga command }.setSession index
      (session.at (.handled (.ok ())))
  | .handled result => settle state index session result choice.published
  | .settled => state

/-- The database after a transaction that ends without an answer, committed or not. -/
def dbAfter (state : State) (session : Session) (commits : Bool) : BankSyncDb :=
  match session.phase with
  | .prepared saga command =>
    if commits then committed state.db session.now saga command else state.db
  | _ => state.db

/-- A transient error inside `handle`. -/
def fail (state : State) (index : Nat) (commits : Bool) (session : Session) : State :=
  match session.phase with
  | .handled _ => state
  | .settled => state
  | _ =>
    { state with db := dbAfter state session commits }.setSession index
      { session with
        copy := { session.copy with transients := session.copy.transients + 1 }
        phase := .handled (.error .other) }

/-- The consumer crashes: the delivery was not settled and comes again. A failed one may
have been republished. -/
def crash (state : State) (index : Nat) (done : Bool) (session : Session) : State :=
  let again := session.copy :: state.queue
  match session.phase with
  | .settled => state
  | .handled (.error .other) =>
    { state with
      queue := if done ∧ session.copy.retryCount < maxRetries then again ++ [session.copy.next]
               else again }.setSession index (session.at .settled)
  | _ =>
    { state with db := dbAfter state session done, queue := again }.setSession index
      (session.at .settled)

inductive Label where
  | publish (body : StartBody)
  | take (position : Nat)
  | advance (index : Nat) (choice : Choice)
  | fail (index : Nat) (commits : Bool)
  | crash (index : Nat) (done : Bool)
  | orchestrate (call : Call BankSyncContext ResultData)

/-- Only the start consumer starts sagas. -/
def orchestrate (db : BankSyncDb) (call : Call BankSyncContext ResultData) : BankSyncDb :=
  match call with
  | .startSaga _ _ _ _ _ => db
  | call => runCall sagaRegistry db call

def step (state : State) : Label → State
  | .publish body => { state with queue := state.queue ++ [{ body := body }] }
  | .take position =>
    match state.queue[position]? with
    | none => state
    | some copy =>
      { state with
        queue := state.queue.eraseIdx position
        sessions := state.sessions ++ [{ copy := copy }] }
  | .advance index choice =>
    match state.sessions[index]? with
    | none => state
    | some session => advance state index choice session
  | .fail index commits =>
    match state.sessions[index]? with
    | none => state
    | some session => fail state index commits session
  | .crash index done =>
    match state.sessions[index]? with
    | none => state
    | some session => crash state index done session
  | .orchestrate call => { state with db := orchestrate state.db call }

def startRun (labels : List Label) : State :=
  runFrom step {} labels

end FinanceTracker.Saga.StartConsumer
