import FinanceTracker.Saga.BankSync

/-!
# The saga reply consumer

`SagaReplyConsumer.handle`: the flag of the reply selects the orchestrator call,
and the exception it raises decides what becomes of the message.
-/

namespace FinanceTracker.Saga.ReplyConsumer

open Library.Runs Shared.SagaMessages Domain Orchestrator BankSync

inductive ReplyRoute where
  | execution
  | compensation
  deriving DecidableEq, Repr

/-- What the consumer does with the message: acknowledged as processed or as a
duplicate, dead-lettered, or left to the retry ladder. -/
inductive Disposition where
  | processed
  | duplicate
  | poison
  | retry (failure : SagaError)
  deriving DecidableEq

def route (reply : SagaReply) : ReplyRoute :=
  if reply.isCompensation then .compensation else .execution

def callOrchestrator (db : BankSyncDb) (now : Instant) (reply : SagaReply) :
    Except SagaError (BankSyncDb × SagaInstance BankSyncContext) :=
  match route reply with
  | .compensation =>
    handleCompensationReply sagaRegistry db now reply.sagaId reply.stepName reply.success
      reply.errorMessage
  | .execution =>
    handleReply sagaRegistry db now reply.sagaId reply.stepName reply.success reply.resultData
      reply.errorMessage

def handle (db : BankSyncDb) (now : Instant) (reply : SagaReply) : BankSyncDb × Disposition :=
  if reply.sagaId = "" ∨ reply.stepName = "" then (db, .poison)
  else
    match callOrchestrator db now reply with
    | .ok (next, _) => (next, .processed)
    | .error (.sagaAlreadyCompleted _) => (db, .duplicate)
    | .error failure => if failure.isDomainError then (db, .poison) else (db, .retry failure)

def replyCall (now : Instant) (reply : SagaReply) : Call BankSyncContext ResultData :=
  match route reply with
  | .compensation =>
    .handleCompensationReply now reply.sagaId reply.stepName reply.success reply.errorMessage
  | .execution =>
    .handleReply now reply.sagaId reply.stepName reply.success reply.resultData
      reply.errorMessage

/-- The database after a reply is the one its call leaves, or the one before. -/
theorem handle_runs (db : BankSyncDb) (now : Instant) (reply : SagaReply) :
    (handle db now reply).1 = db ∨
      (handle db now reply).1 = runCall sagaRegistry db (replyCall now reply) := by
  have called : runCall sagaRegistry db (replyCall now reply) =
      stateAfter db (callOrchestrator db now reply) := by
    unfold replyCall callOrchestrator
    cases route reply with
    | compensation | execution => rfl
  unfold handle
  split
  · exact Or.inl rfl
  · rw [called]
    cases callOrchestrator db now reply with
    | ok => exact Or.inr rfl
    | error failure =>
      apply Or.inl
      cases failure with
      | sagaAlreadyCompleted => rfl
      | sagaNotFound => rfl
      | sagaStepMismatch => rfl
      | duplicateSaga => rfl
      | unknownSagaType => rfl
      | other => rfl

end FinanceTracker.Saga.ReplyConsumer
