import Mathlib.Data.List.Infix
import FinanceTracker.Library.KeyedRows
import FinanceTracker.Library.Runs
import FinanceTracker.Saga.Domain

/-!
# The saga orchestrator

`SagaOrchestrator` over its unit of work. The database is the list of stored
sagas and the outbox in insertion order. A saga-level helper returns the changed
saga and the rows it adds to the outbox; a call returns the committed database
or raises, and a call that raises leaves the database as it was. One clock
reading stands for the readings of one call. The row lock makes calls on one
saga serial, so a run is a sequence of calls.

An outbox row also records which helper added it and for which step. The table
has no such columns; the two ghost fields only name the row in statements.
-/

namespace FinanceTracker.Saga.Orchestrator

open Library KeyedRows Runs Domain

variable {Context Payload Result : Type}

/-- Registered definitions, the latest registration of a type first. -/
abbrev SagaRegistry (Context Payload Result : Type) :=
  List (SagaDefinition Context Payload Result)

def SagaRegistry.register (registry : SagaRegistry Context Payload Result)
    (definition : SagaDefinition Context Payload Result) :
    SagaRegistry Context Payload Result :=
  definition :: registry

def getDefinition (registry : SagaRegistry Context Payload Result) (sagaType : String) :
    Except SagaError (SagaDefinition Context Payload Result) :=
  match registry.find? fun definition => definition.sagaType = sagaType with
  | some definition => .ok definition
  | none => .error (.unknownSagaType sagaType)

inductive CommandRole where
  | execution
  | compensation
  deriving DecidableEq, Repr

structure CommandPayload (Payload : Type) where
  fields : Payload
  sagaId : String
  sagaType : String
  stepName : String
  eventType : String
  deriving DecidableEq

structure OutboxEntry (Payload : Type) where
  eventType : String
  payload : CommandPayload Payload
  aggregateType : String
  aggregateId : String
  correlationId : String
  role : CommandRole
  stepIndex : Nat
  deriving DecidableEq

structure SagaDb (Context Payload : Type) where
  sagas : List (SagaInstance Context)
  outbox : List (OutboxEntry Payload)
  deriving DecidableEq

def SagaDb.empty : SagaDb Context Payload := { sagas := [], outbox := [] }

def getById (db : SagaDb Context Payload) (sagaId : String) : Option (SagaInstance Context) :=
  lookup SagaInstance.id db.sagas sagaId

def getByCorrelationId (db : SagaDb Context Payload) (correlationId : String) :
    Option (SagaInstance Context) :=
  db.sagas.find? fun saga => saga.correlationId = correlationId

/-- Inserts a saga; `id` is the primary key of the table. -/
def save (db : SagaDb Context Payload) (saga : SagaInstance Context) :
    Except SagaError (SagaDb Context Payload) :=
  if db.sagas.any fun stored => stored.id = saga.id then
    .error (.other "duplicate key value violates unique constraint")
  else .ok { db with sagas := db.sagas ++ [saga] }

/-- The columns an update writes; identity columns and `started_at` stay. -/
def writeColumns (stored saga : SagaInstance Context) : SagaInstance Context :=
  { stored with
    currentStep := saga.currentStep
    status := saga.status
    context := saga.context
    steps := saga.steps
    errorDetail := saga.errorDetail
    completedAt := saga.completedAt
    updatedAt := saga.updatedAt }

def update (db : SagaDb Context Payload) (saga : SagaInstance Context) :
    SagaDb Context Payload :=
  { db with
    sagas := replace SagaInstance.id db.sagas saga.id fun stored => writeColumns stored saga }

def addOutbox (db : SagaDb Context Payload) (added : List (OutboxEntry Payload)) :
    SagaDb Context Payload :=
  { db with outbox := db.outbox ++ added }

def findStaleIds (db : SagaDb Context Payload) (olderThan : Instant) : List String :=
  (db.sagas.filter fun saga =>
    saga.isActive && saga.updatedAt.any fun updatedAt => updatedAt ≤ olderThan).map
      SagaInstance.id

def outboxCompensationCommand (saga : SagaInstance Context) (step : SagaStep)
    (compensateEventType : String) (payload : Payload) : OutboxEntry Payload where
  eventType := compensateEventType
  payload :=
    { fields := payload
      sagaId := saga.id
      sagaType := saga.sagaType
      stepName := step.name
      eventType := compensateEventType }
  aggregateType := "saga"
  aggregateId := saga.id
  correlationId := saga.correlationId
  role := .compensation
  stepIndex := saga.currentStep

def publishStepCommand (saga : SagaInstance Context)
    (definition : SagaDefinition Context Payload Result) (stepIndex : Nat) :
    Except SagaError (OutboxEntry Payload) :=
  match definition.steps[stepIndex]? with
  | none => .error (.other "list index out of range")
  | some stepDef => do
    let payload ← definition.buildCommand stepIndex saga.context
    return {
      eventType := stepDef.commandEventType
      payload :=
        { fields := payload
          sagaId := saga.id
          sagaType := saga.sagaType
          stepName := stepDef.name
          eventType := stepDef.commandEventType }
      aggregateType := "saga"
      aggregateId := saga.id
      correlationId := saga.correlationId
      role := .execution
      stepIndex := stepIndex }

abbrev SagaWork (Context Payload : Type) :=
  SagaInstance Context × List (OutboxEntry Payload)

def markExecuting (now : Instant) (step : SagaStep) : SagaStep :=
  { step with status := .executing, commandSentAt := some now }

def markReplied (now : Instant) (step : SagaStep) : SagaStep :=
  { step with replyReceivedAt := some now }

def markSucceeded (step : SagaStep) : SagaStep :=
  { step with status := .succeeded }

def markCompensated (now : Instant) (step : SagaStep) : SagaStep :=
  { step with status := .compensated, compensatedAt := some now }

def markFailed (errorDetail : Option String) (step : SagaStep) : SagaStep :=
  { step with status := .failed, errorDetail := errorDetail }

/-- The `while` loop of `_compensate_previous`, entered with the cursor at the
loop counter. A step that is not SUCCEEDED is passed over; one without a
compensation command is marked and passed; the first command found ends it. -/
def compensateFrom (definition : SagaDefinition Context Payload Result) (now : Instant) :
    Nat → SagaInstance Context → Except SagaError (SagaWork Context Payload)
  | 0, saga =>
    .ok ({ saga with currentStep := 0, status := .failed, completedAt := some now }, [])
  | cursor + 1, saga =>
    let saga := { saga with currentStep := cursor }
    match saga.steps[cursor]? with
    | none => .error (.other "list index out of range")
    | some step =>
      if step.status ≠ .succeeded then compensateFrom definition now cursor saga
      else
        match definition.steps[cursor]? with
        | none => .error (.other "list index out of range")
        | some stepDef =>
          match stepDef.compensateEventType with
          | none =>
            compensateFrom definition now cursor
              (saga.modifyStep cursor (markCompensated now))
          | some compensateEventType => do
            match ← definition.buildCompensateCommand cursor saga.context with
            | none =>
              compensateFrom definition now cursor
                (saga.modifyStep cursor (markCompensated now))
            | some payload =>
              return (saga, [outboxCompensationCommand saga step compensateEventType payload])

def compensatePrevious (definition : SagaDefinition Context Payload Result) (now : Instant)
    (saga : SagaInstance Context) : Except SagaError (SagaWork Context Payload) :=
  compensateFrom definition now saga.currentStep saga

def beginCompensation (definition : SagaDefinition Context Payload Result) (now : Instant)
    (saga : SagaInstance Context) (errorMessage : Option String) :
    Except SagaError (SagaWork Context Payload) :=
  match saga.currentStepObj with
  | none => .error (.other "list index out of range")
  | some _ =>
    let saga := saga.modifyStep saga.currentStep (markFailed errorMessage)
    compensatePrevious definition now
      { saga with status := .compensating, errorDetail := errorMessage }

def advance (definition : SagaDefinition Context Payload Result) (now : Instant)
    (saga : SagaInstance Context) (resultData : Option Result) :
    Except SagaError (SagaWork Context Payload) := do
  let saga := saga.modifyStep saga.currentStep markSucceeded
  let context ← definition.onReply saga.currentStep saga.context resultData
  let saga := { saga with context := context }
  if saga.isLastStep then
    return ({ saga with status := .completed, completedAt := some now }, [])
  else
    let saga := { saga with currentStep := saga.currentStep + 1 }
    let saga := saga.modifyStep saga.currentStep (markExecuting now)
    let command ← publishStepCommand saga definition saga.currentStep
    return (saga, [command])

def hasCompensatableWork (definition : SagaDefinition Context Payload Result)
    (context : Context) : List SagaStep → Except SagaError Bool
  | [] => .ok false
  | step :: steps =>
    if step.status ≠ .succeeded then hasCompensatableWork definition context steps
    else
      match definition.steps[step.index]? with
      | none => .error (.other "list index out of range")
      | some stepDef =>
        if stepDef.compensateEventType = none then
          hasCompensatableWork definition context steps
        else do
          match ← definition.buildCompensateCommand step.index context with
          | some _ => return true
          | none => hasCompensatableWork definition context steps

/-- `f"{max_age.total_seconds()}s"` for a whole number of seconds. -/
def secondsText (maxAge : Int) : String := toString maxAge ++ ".0s"

def handleStaleExecution (definition : SagaDefinition Context Payload Result) (now : Instant)
    (maxAge : Int) (saga : SagaInstance Context) :
    Except SagaError (SagaWork Context Payload) := do
  if ← hasCompensatableWork definition saga.context saga.steps then
    beginCompensation definition now saga
      (some ("timed out after " ++ secondsText maxAge ++ "; compensating"))
  else
    return ({ saga with
      status := .timedOut
      errorDetail := some ("Timed out after " ++ secondsText maxAge)
      completedAt := some now }, [])

/-- Recorded in `error_detail` once a stale compensation command was re-emitted. -/
def compensationReemitMarker : String := "compensation command re-emitted"

def containsMarker (errorDetail : Option String) : Bool :=
  errorDetail.any fun detail => decide (compensationReemitMarker.toList <:+: detail.toList)

def joinDetail (errorDetail : Option String) (note : String) : Option String :=
  match errorDetail with
  | some detail => if detail = "" then some note else some (detail ++ "; " ++ note)
  | none => some note

def failStaleCompensation (now : Instant) (saga : SagaInstance Context) :
    SagaInstance Context :=
  let saga := saga.modifyStep saga.currentStep (markFailed (some "compensation timed out"))
  { saga with
    status := .failed
    errorDetail := joinDetail saga.errorDetail "compensation timed out"
    completedAt := some now }

def pendingCompensation (definition : SagaDefinition Context Payload Result)
    (saga : SagaInstance Context) :
    Except SagaError (Option (SagaStep × String × Payload)) :=
  match saga.currentStepObj with
  | none => .ok none
  | some step =>
    match definition.steps[saga.currentStep]? with
    | none => .error (.other "list index out of range")
    | some stepDef =>
      match stepDef.compensateEventType with
      | none => .ok none
      | some compensateEventType => do
        match ← definition.buildCompensateCommand saga.currentStep saga.context with
        | none => return none
        | some payload => return some (step, compensateEventType, payload)

def handleStaleCompensation (definition : SagaDefinition Context Payload Result) (now : Instant)
    (maxAge : Int) (saga : SagaInstance Context) :
    Except SagaError (SagaWork Context Payload) := do
  match ← pendingCompensation definition saga with
  | none => return (failStaleCompensation now saga, [])
  | some (step, compensateEventType, payload) =>
    if containsMarker saga.errorDetail then
      return (failStaleCompensation now saga, [])
    else
      let note := compensationReemitMarker ++ " after " ++ secondsText maxAge
      return ({ saga with errorDetail := joinDetail saga.errorDetail note },
        [outboxCompensationCommand saga step compensateEventType payload])

def checkStep (saga : SagaInstance Context) (stepName : String) : Except SagaError Unit :=
  match saga.currentStepObj with
  | none => .error (.sagaStepMismatch saga.id "<none>" stepName)
  | some step =>
    if step.name ≠ stepName then .error (.sagaStepMismatch saga.id step.name stepName)
    else .ok ()

def decideReply (registry : SagaRegistry Context Payload Result) (now : Instant)
    (saga : SagaInstance Context) (stepName : String) (success : Bool)
    (resultData : Option Result) (errorMessage : Option String) :
    Except SagaError (SagaWork Context Payload) := do
  if saga.status ≠ .started then
    throw (.sagaAlreadyCompleted saga.id)
  let definition ← getDefinition registry saga.sagaType
  checkStep saga stepName
  let saga := saga.modifyStep saga.currentStep (markReplied now)
  let saga := { saga with updatedAt := some now }
  if success then advance definition now saga resultData
  else beginCompensation definition now saga errorMessage

def compensationFailure (stepName : String) (errorMessage : Option String) : String :=
  "compensation failed: " ++ stepName ++
    (match errorMessage with
      | some message => if message = "" then "" else ": " ++ message
      | none => "")

def decideCompensationReply (registry : SagaRegistry Context Payload Result) (now : Instant)
    (saga : SagaInstance Context) (stepName : String) (success : Bool)
    (errorMessage : Option String) : Except SagaError (SagaWork Context Payload) := do
  if saga.status ≠ .compensating then
    throw (.sagaAlreadyCompleted saga.id)
  let definition ← getDefinition registry saga.sagaType
  checkStep saga stepName
  let saga := { saga with updatedAt := some now }
  if success then
    compensatePrevious definition now
      (saga.modifyStep saga.currentStep (markCompensated now))
  else
    let saga := saga.modifyStep saga.currentStep (markFailed errorMessage)
    return ({ saga with
      status := .failed
      errorDetail := some (compensationFailure stepName errorMessage)
      completedAt := some now }, [])

def isStale (saga : SagaInstance Context) (cutoff : Instant) : Bool :=
  match saga.updatedAt with
  | none => true
  | some updatedAt => updatedAt ≤ cutoff

/-- One candidate of the sweep; `none` when the locked re-read finds it settled. -/
def decideTimeout (registry : SagaRegistry Context Payload Result) (now : Instant)
    (maxAge : Int) (cutoff : Instant) (saga : SagaInstance Context) :
    Except SagaError (Option (SagaWork Context Payload)) := do
  if saga.isActive && isStale saga cutoff then
    let definition ← getDefinition registry saga.sagaType
    let (saga, added) ←
      if saga.status = .compensating then handleStaleCompensation definition now maxAge saga
      else handleStaleExecution definition now maxAge saga
    return some ({ saga with updatedAt := some now }, added)
  else return none

def newSaga (definition : SagaDefinition Context Payload Result) (now : Instant)
    (sagaType : String) (context : Context) (sagaId : String) : SagaInstance Context where
  id := sagaId
  sagaType := sagaType
  correlationId := sagaId
  context := context
  steps := definition.steps.mapIdx fun index stepDef => { index := index, name := stepDef.name }
  startedAt := some now
  updatedAt := some now

/-- `correlation_id` names the saga when it is given and not empty; otherwise the
generated id does. -/
def sagaIdFor (correlationId : Option String) (generatedId : String) : String :=
  match correlationId with
  | some correlationId => if correlationId = "" then generatedId else correlationId
  | none => generatedId

def startSaga (registry : SagaRegistry Context Payload Result) (db : SagaDb Context Payload)
    (now : Instant) (sagaType : String) (context : Context) (correlationId : Option String)
    (generatedId : String) :
    Except SagaError (SagaDb Context Payload × SagaInstance Context) := do
  let definition ← getDefinition registry sagaType
  let saga := newSaga definition now sagaType context (sagaIdFor correlationId generatedId)
  if (getByCorrelationId db saga.correlationId).isSome then
    throw (.duplicateSaga saga.correlationId)
  let db ← save db saga
  let command ← publishStepCommand saga definition 0
  let saga := saga.modifyStep 0 (markExecuting now)
  return (update (addOutbox db [command]) saga, saga)

def loadForUpdate (db : SagaDb Context Payload) (sagaId : String) :
    Except SagaError (SagaInstance Context) :=
  match getById db sagaId with
  | none => .error (.sagaNotFound sagaId)
  | some saga => .ok saga

def storeWork (db : SagaDb Context Payload) (work : SagaWork Context Payload) :
    SagaDb Context Payload :=
  update (addOutbox db work.2) work.1

def handleReply (registry : SagaRegistry Context Payload Result) (db : SagaDb Context Payload)
    (now : Instant) (sagaId stepName : String) (success : Bool) (resultData : Option Result)
    (errorMessage : Option String) :
    Except SagaError (SagaDb Context Payload × SagaInstance Context) := do
  let saga ← loadForUpdate db sagaId
  let work ← decideReply registry now saga stepName success resultData errorMessage
  return (storeWork db work, work.1)

def handleCompensationReply (registry : SagaRegistry Context Payload Result)
    (db : SagaDb Context Payload) (now : Instant) (sagaId stepName : String) (success : Bool)
    (errorMessage : Option String) :
    Except SagaError (SagaDb Context Payload × SagaInstance Context) := do
  let saga ← loadForUpdate db sagaId
  let work ← decideCompensationReply registry now saga stepName success errorMessage
  return (storeWork db work, work.1)

def checkCandidate (registry : SagaRegistry Context Payload Result) (now : Instant)
    (maxAge : Int) (cutoff : Instant)
    (progress : SagaDb Context Payload × List (SagaInstance Context)) (sagaId : String) :
    Except SagaError (SagaDb Context Payload × List (SagaInstance Context)) :=
  match getById progress.1 sagaId with
  | none => .ok progress
  | some saga => do
    match ← decideTimeout registry now maxAge cutoff saga with
    | none => return progress
    | some work => return (storeWork progress.1 work, progress.2 ++ [work.1])

/-- `max_age` is a whole number of seconds. -/
def checkTimeouts (registry : SagaRegistry Context Payload Result) (db : SagaDb Context Payload)
    (now : Instant) (maxAge : Int) :
    Except SagaError (SagaDb Context Payload × List (SagaInstance Context)) :=
  let cutoff := now - maxAge * 1000000
  (findStaleIds db cutoff).foldlM (checkCandidate registry now maxAge cutoff) (db, [])

inductive Call (Context Result : Type) where
  | startSaga (now : Instant) (sagaType : String) (context : Context)
      (correlationId : Option String) (generatedId : String)
  | handleReply (now : Instant) (sagaId stepName : String) (success : Bool)
      (resultData : Option Result) (errorMessage : Option String)
  | handleCompensationReply (now : Instant) (sagaId stepName : String) (success : Bool)
      (errorMessage : Option String)
  | checkTimeouts (now : Instant) (maxAge : Int)

def runCall (registry : SagaRegistry Context Payload Result) (db : SagaDb Context Payload) :
    Call Context Result → SagaDb Context Payload
  | .startSaga now sagaType context correlationId generatedId =>
    stateAfter db (startSaga registry db now sagaType context correlationId generatedId)
  | .handleReply now sagaId stepName success resultData errorMessage =>
    stateAfter db
      (handleReply registry db now sagaId stepName success resultData errorMessage)
  | .handleCompensationReply now sagaId stepName success errorMessage =>
    stateAfter db
      (handleCompensationReply registry db now sagaId stepName success errorMessage)
  | .checkTimeouts now maxAge => stateAfter db (checkTimeouts registry db now maxAge)

def runCalls (registry : SagaRegistry Context Payload Result)
    (calls : List (Call Context Result)) : SagaDb Context Payload :=
  runFrom (runCall registry) SagaDb.empty calls

end FinanceTracker.Saga.Orchestrator
