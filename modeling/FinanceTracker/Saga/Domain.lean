import Mathlib.Data.List.Basic

/-!
# Sagas: instances, steps, definitions and exceptions

The saga-service domain. A saga definition is kept abstract: its context, its
command payloads and its reply data are arbitrary types and its hooks may raise.
Contexts are JSON values, which survive the storage round trip unchanged, so
loading a stored saga returns the saga that was written.
-/

namespace FinanceTracker.Saga.Domain

inductive SagaStatus where
  | started
  | compensating
  | completed
  | failed
  | timedOut
  deriving DecidableEq, Repr

inductive StepStatus where
  | pending
  | executing
  | succeeded
  | failed
  | compensated
  deriving DecidableEq, Repr

/-- Microseconds since the epoch. -/
abbrev Instant := Int

structure SagaStep where
  index : Nat
  name : String
  status : StepStatus := .pending
  commandSentAt : Option Instant := none
  replyReceivedAt : Option Instant := none
  compensatedAt : Option Instant := none
  errorDetail : Option String := none
  deriving DecidableEq

structure SagaInstance (Context : Type) where
  id : String
  sagaType : String
  correlationId : String
  currentStep : Nat := 0
  status : SagaStatus := .started
  context : Context
  steps : List SagaStep := []
  errorDetail : Option String := none
  startedAt : Option Instant := none
  completedAt : Option Instant := none
  updatedAt : Option Instant := none
  deriving DecidableEq

section SagaInstance

variable {Context : Type}

def SagaInstance.isActive (saga : SagaInstance Context) : Bool :=
  saga.status = .started || saga.status = .compensating

def SagaInstance.currentStepObj (saga : SagaInstance Context) : Option SagaStep :=
  saga.steps[saga.currentStep]?

def SagaInstance.isLastStep (saga : SagaInstance Context) : Bool :=
  saga.steps.length ≤ saga.currentStep + 1

/-- The in-place assignment to fields of `saga.steps[index]`. -/
def SagaInstance.modifyStep (saga : SagaInstance Context) (index : Nat)
    (change : SagaStep → SagaStep) : SagaInstance Context :=
  { saga with steps := saga.steps.modify index change }

def SagaInstance.stepStatus (saga : SagaInstance Context) (index : Nat) : Option StepStatus :=
  saga.steps[index]?.map SagaStep.status

theorem modify_step_status (saga : SagaInstance Context) (index other : Nat)
    (change : SagaStep → SagaStep) :
    (saga.modifyStep index change).stepStatus other =
      if index = other then saga.steps[other]?.map fun step => (change step).status
      else saga.stepStatus other := by
  simp only [SagaInstance.modifyStep, SagaInstance.stepStatus, List.getElem?_modify]
  split_ifs <;> simp [Function.comp_def]

end SagaInstance

structure StepDefinition where
  name : String
  commandEventType : String
  compensateEventType : Option String := none
  deriving DecidableEq

/-- What the orchestrator's calls raise: the domain exceptions, and anything
raised by a hook of a saga definition or by the database driver. -/
inductive SagaError where
  | sagaNotFound (sagaId : String)
  | sagaAlreadyCompleted (sagaId : String)
  | sagaStepMismatch (sagaId expectedStep receivedStep : String)
  | duplicateSaga (correlationId : String)
  | unknownSagaType (sagaType : String)
  | other (message : String)
  deriving DecidableEq

def SagaError.message : SagaError → String
  | .sagaNotFound sagaId => "Saga " ++ sagaId ++ " not found"
  | .sagaAlreadyCompleted sagaId => "Saga " ++ sagaId ++ " is already completed"
  | .sagaStepMismatch sagaId expectedStep receivedStep =>
    "Saga " ++ sagaId ++ ": expected reply for step '" ++ expectedStep ++ "', got '" ++
      receivedStep ++ "'"
  | .duplicateSaga correlationId =>
    "Saga with correlation_id '" ++ correlationId ++ "' already exists"
  | .unknownSagaType sagaType => "No saga definition registered for type '" ++ sagaType ++ "'"
  | .other message => message

def SagaError.isDomainError : SagaError → Bool
  | .other _ => false
  | _ => true

structure SagaDefinition (Context Payload Result : Type) where
  sagaType : String
  steps : List StepDefinition
  buildCommand : Nat → Context → Except SagaError Payload
  buildCompensateCommand : Nat → Context → Except SagaError (Option Payload)
  onReply : Nat → Context → Option Result → Except SagaError Context

end FinanceTracker.Saga.Domain
