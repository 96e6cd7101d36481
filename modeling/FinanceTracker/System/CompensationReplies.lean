import FinanceTracker.Saga.BankSyncProgress
import FinanceTracker.Saga.ReplyConsumer
import FinanceTracker.Transaction.SagaCommands

/-!
# Replies to a rollback command

Transaction-service sets `is_compensation` on the replies its rollback handler
returns, and saga-service routes by that flag. The reply after the last retry is
built elsewhere and lacks the flag, so it reaches the execution handler, which
takes it for a late duplicate.
-/

namespace FinanceTracker.System.CompensationReplies

open Library KeyedRows Runs Shared.CommandConsumer Shared.SagaMessages Saga.Domain Saga.Orchestrator
  Saga.Invariant Saga.Commands Saga.BankSync Saga.BankSyncProgress Saga.ReplyConsumer
  Transaction.Domain Transaction.BulkImport Transaction.SagaCommands List

/-- The reply is routed to `handle_compensation_reply`, and every stored saga that
is COMPENSATING at its step moves back or becomes FAILED on it. -/
def ReachesCompensation (reply : SagaReply) : Prop :=
  route reply = .compensation ∧ ∀ (calls : List (Call BankSyncContext ResultData)) (now : Instant)
      (saga : SagaInstance BankSyncContext), reply.sagaId ≠ "" →
      getById (runCalls sagaRegistry calls) reply.sagaId = some saga →
      saga.status = .compensating →
      (∃ step, saga.currentStepObj = some step ∧ step.name = reply.stepName) →
      ∃ next after, handle (runCalls sagaRegistry calls) now reply = (next, .processed) ∧
        getById next reply.sagaId = some after ∧
        (after.status = .failed ∨
          after.status = .compensating ∧ after.currentStep < saga.currentStep)

theorem reaches_compensation_iff (reply : SagaReply) :
    ReachesCompensation reply ↔ reply.isCompensation = true := by
  constructor
  · intro reaches
    have routed := reaches.1
    unfold route at routed
    split at routed
    · assumption
    · contradiction
  · intro flagged
    have routed : route reply = .compensation := by
      unfold route
      rw [if_pos flagged]
    refine ⟨routed, ?_⟩
    intro calls now saga given found status current
    have stored := lookup_mem found
    obtain ⟨registered, invariant⟩ :=
      stored_bank_sync (run_calls_invariant sagaRegistry calls) found
    obtain ⟨next, added, decided, id, failed⟩ := @decide_compensation_reply_fails now
      saga reply.stepName reply.success reply.errorMessage registered invariant status current
    obtain ⟨_, isCurrent, name⟩ := current
    have named : reply.stepName ≠ "" := by
      rw [← name, import_step_name invariant (compensating_at_import invariant status).1 isCurrent]
      decide
    have called : callOrchestrator (runCalls sagaRegistry calls) now reply =
        .ok (storeWork (runCalls sagaRegistry calls) (next, added), next) := by
      unfold callOrchestrator
      rw [routed]
      unfold handleCompensationReply loadForUpdate
      rw [found]
      change (do
        let work ← decideCompensationReply sagaRegistry now saga reply.stepName reply.success
          reply.errorMessage
        return (storeWork (runCalls sagaRegistry calls) work, work.1)) = _
      rw [decided]
      rfl
    refine ⟨storeWork (runCalls sagaRegistry calls) (next, added), writeColumns saga next, ?_, ?_,
      Or.inl failed⟩
    · unfold handle
      rw [if_neg (not_or.mpr ⟨given, named⟩), called]
    · rw [get_by_id_store_work, if_pos (by rw [id, stored.2]), found]
      rfl

variable {reads : ItemReads} {copies : ReadCopies}

def RollbackRepliesFlagged (consumer : Consumer) : Prop :=
  ∀ published ∈ consumer.replies, published.command.eventType = rollbackImportEventType →
    published.reply.isCompensation = true

/-- No delivery of a rollback command raises with its retries used up. -/
def RetriesLeft (consumer : Consumer) (label : Label) : Prop :=
  ∀ acked running error, label = .settle acked → consumer.running = some running →
    running.work = .raised error → running.message.body.eventType = rollbackImportEventType →
    running.message.retryCount < maxRetries

variable {consumer : Consumer} {running : Running Work}

theorem settle_exhausted {error : String} (acked : Bool)
    (isRunning : consumer.running = some running) (work : running.work = .raised error)
    (noRetry : maxRetries ≤ running.message.retryCount) :
    step reads copies consumer (.settle acked) =
      publishReply (settleMessage consumer running.message acked) running.message.body
        (exhaustedReply error) := by
  unfold step
  rw [isRunning]
  change settleRaised consumer running acked = _
  unfold settleRaised
  rw [work]
  dsimp only
  rw [if_pos noRetry]

theorem replies_extended (consumer : Consumer) (label : Label) :
    ∃ added, (step reads copies consumer label).replies = consumer.replies ++ added := by
  have stepped := step_stepped reads copies consumer label
  generalize step reads copies consumer label = next at stepped ⊢
  cases stepped with
  | exhausted | finished => exact ⟨_, rfl⟩
  | idle | delivered | taken | chunkCommitted | raised | idDeleted | idGone | idFailed
  | republished | crashed => exact ⟨[], (append_nil _).symm⟩

theorem flagged_append {next : Consumer} {published : PublishedReply}
    (before : RollbackRepliesFlagged consumer)
    (replies : next.replies = consumer.replies ++ [published])
    (flagged : published.command.eventType = rollbackImportEventType →
      published.reply.isCompensation = true) : RollbackRepliesFlagged next := by
  intro reply member
  rw [replies] at member
  rcases mem_snoc.mp member with earlier | rfl
  · exact before reply earlier
  · exact flagged

theorem finished_rollback_flagged {data : ReplyData} (matching : WorkMatches running)
    (done : finishedReply running.work = some data)
    (isRollback : running.message.body.eventType = rollbackImportEventType) :
    data.isCompensation = true := by
  unfold WorkMatches at matching
  unfold finishedReply at done
  split at done
  · next work =>
    rw [work] at matching
    dsimp only at matching
    rw [isRollback] at matching
    exact absurd matching.1 (by decide)
  · cases done
    unfold rollbackReply
    split
    · rfl
    · rfl
  · contradiction

theorem step_flagged_iff (invariant : RunningMatches consumer) (label : Label) :
    RollbackRepliesFlagged (step reads copies consumer label) ↔
      RollbackRepliesFlagged consumer ∧ RetriesLeft consumer label := by
  constructor
  · intro flagged
    constructor
    · intro published member
      obtain ⟨_, extended⟩ := @replies_extended reads copies consumer label
      apply flagged published
      rw [extended]
      exact mem_append_left _ member
    · rintro acked running error rfl isRunning work isRollback
      by_contra noRetry
      rw [settle_exhausted acked isRunning work (Nat.le_of_not_lt noRetry)] at flagged
      have unflagged := flagged _ (mem_append_right _ (mem_singleton_self _)) isRollback
      contradiction
  · rintro ⟨before, retriesLeft⟩
    have stepped := step_stepped reads copies consumer label
    generalize step reads copies consumer label = next at stepped ⊢
    cases stepped with
    | exhausted isRunning work noRetry =>
      apply flagged_append before rfl
      intro isRollback
      exact absurd (retriesLeft _ _ _ rfl isRunning work isRollback) (Nat.not_lt_of_le noRetry)
    | finished isRunning done =>
      apply flagged_append before rfl
      exact finished_rollback_flagged (invariant _ isRunning) done
    | idle | delivered | taken | chunkCommitted | raised | idDeleted | idGone | idFailed
    | republished | crashed => exact before

theorem run_flagged_iff {consumer : Consumer} (invariant : RunningMatches consumer)
    (labels : List Label) :
    RollbackRepliesFlagged (runFrom (step reads copies) consumer labels) ↔
      RollbackRepliesFlagged consumer ∧
        AllSteps (step reads copies) RetriesLeft consumer labels := by
  induction labels generalizing consumer with
  | nil => exact (and_iff_left trivial).symm
  | cons label labels ih =>
    rw [run_from_cons, ih (step_keeps_matches consumer label invariant),
      step_flagged_iff invariant label]
    exact and_assoc

def RollbackRepliesReach (reads : ItemReads) (copies : ReadCopies) (db : TransactionDb)
    (labels : List Label) : Prop :=
  ∀ published ∈ (runFrom (step reads copies) { db := db } labels).replies,
    published.command.eventType = rollbackImportEventType → ReachesCompensation published.reply

/-- The replies reach the handler exactly in the runs in which no delivery of a
rollback command raises after its last retry. -/
theorem rollback_replies_reach_iff (reads : ItemReads) (copies : ReadCopies)
    (db : TransactionDb) (labels : List Label) :
    RollbackRepliesReach reads copies db labels ↔
      AllSteps (step reads copies) RetriesLeft { db := db } labels := by
  have start : RunningMatches { db := db } := by
    intro _ _
    contradiction
  have flagged : RollbackRepliesFlagged { db := db } := by
    intro _ _
    contradiction
  have runs := @run_flagged_iff reads copies _ start labels
  unfold RollbackRepliesReach
  simp only [reaches_compensation_iff]
  constructor
  · intro reached
    exact (runs.mp reached).2
  · intro retriesLeft
    exact runs.mpr ⟨flagged, retriesLeft⟩

def rollbackCommand : SagaCommand where
  eventType := rollbackImportEventType
  sagaId := "s"
  stepName := "import_transactions"
  fields := { userId := some 1, transactionIds := some [7] }

def everyAttemptRaises : List Label :=
  .deliver rollbackCommand ::
    (List.replicate 4 [.take 0, .raise "database unavailable", .settle true]).flatten

theorem exhausted_rollback_unheard :
    ¬ RollbackRepliesReach { decimal := fun _ => none, date := fun _ => none, strip := id }
      { categoryName := fun _ => none, subcategory := fun _ => none }
      { transactions := [], nextId := 1 } everyAttemptRaises := by
  intro reach
  have published := reach (publishedReply rollbackCommand (exhaustedReply "database unavailable"))
    (by decide) rfl
  rw [reaches_compensation_iff] at published
  contradiction

end FinanceTracker.System.CompensationReplies
