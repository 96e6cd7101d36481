import FinanceTracker.System.BankSyncRuns

/-!
# An unsuccessful sync leaves nothing behind

The compensation of a bank sync deletes the ids that the accepted import reply
listed. It can only undo what that list names, so two things decide whether rows
of an unsuccessful sync stay live: whether every live row is listed by the time
the orchestrator gives the saga up, and whether any row is inserted after that.
-/

namespace FinanceTracker.System.ImportAtomicity

open Library.Runs Shared.CommandConsumer Shared.SagaMessages Saga.Domain Saga.Orchestrator
  Saga.Transitions Saga.Invariant Saga.Decisions Saga.BankSync Saga.BankSyncCommands
  Saga.ReplyConsumer List
open Transaction.SagaCommands (Consumer Work finishedReply)
open Transaction.ImportedRows
open Banking.MarkSyncComplete (BankConnection)
open BankSyncRuns

def CompensationFailed (saga : SagaInstance BankSyncContext) : Prop :=
  ∃ later < saga.steps.length, ∃ earlier < later,
    saga.stepStatus earlier = some .failed ∧ saga.stepStatus later = some .failed

instance (saga : SagaInstance BankSyncContext) : Decidable (CompensationFailed saga) :=
  inferInstanceAs (Decidable (∃ later < saga.steps.length, ∃ earlier < later, _ ∧ _))

def Unsuccessful (saga : SagaInstance BankSyncContext) : Prop :=
  saga.status = .failed ∧ ¬ CompensationFailed saga ∨ saga.status = .timedOut

instance (saga : SagaInstance BankSyncContext) : Decidable (Unsuccessful saga) :=
  inferInstanceAs (Decidable (_ ∧ _ ∨ _))

def Inserted (consumer : Consumer) (sagaId : String) (id : Nat) : Prop :=
  (sagaId, id) ∈ consumer.inserted

/-- Once the saga has ended unsuccessfully and nothing of it is in flight, every row
its import inserted is deleted. -/
def ImportUndone (system : BankSyncSystem) (sagaId : String) : Prop :=
  ∀ saga, getById system.saga sagaId = some saga → Unsuccessful saga →
    NothingInFlight system sagaId →
      ∀ id, Inserted system.transaction sagaId id → Deleted system.transaction.db id

def ListsLiveRows (consumer : Consumer) (sagaId : String)
    (saga : SagaInstance BankSyncContext) : Prop :=
  ∀ inserted ∈ consumer.inserted, inserted.1 = sagaId →
    inserted.2 ∈ saga.context.importedIds.getD [] ∨ Deleted consumer.db inserted.2

instance (consumer : Consumer) (sagaId : String) (saga : SagaInstance BankSyncContext) :
    Decidable (ListsLiveRows consumer sagaId saga) :=
  inferInstanceAs (Decidable (∀ inserted ∈ consumer.inserted, _ → _))

def insertsForSaga (system : BankSyncSystem) (sagaId : String) : Label → Bool
  | .transaction inner => commitsRows system.transaction sagaId inner
  | _ => false

/-- No rows are inserted once the saga is on its way back or has ended
unsuccessfully, and when the orchestrator gives the saga up, every live row is
listed in its context. -/
def KeepsAtomicity (sagaId : String) (system : BankSyncSystem) (label : Label) : Prop :=
  (insertsForSaga system sagaId label = true → ∀ saga ∈ getById system.saga sagaId,
    saga.status ≠ .compensating ∧ ¬ Unsuccessful saga) ∧
  (givesUp system sagaId label = true → ∀ saga ∈ getById system.saga sagaId,
    ListsLiveRows system.transaction sagaId saga)

instance (sagaId : String) (system : BankSyncSystem) (label : Label) :
    Decidable (KeepsAtomicity sagaId system label) :=
  inferInstanceAs (Decidable (_ ∧ _))

/-- How far the rollback of the saga has come: a running handler has the ids it did
not reach or could not delete still in hand, and a success reply was earned. -/
structure RollbackProgress (consumer : Consumer) (sagaId : String)
    (saga : SagaInstance BankSyncContext) : Prop where
  running : ∀ running userId rest failedIds, consumer.running = some running →
    running.message.body.sagaId = sagaId → running.work = .rollingBack userId rest failedIds →
      ∀ id, Inserted consumer sagaId id → id ∈ saga.context.importedIds.getD [] →
        id ∈ rest ∨ id ∈ failedIds ∨ Deleted consumer.db id
  replied : ∀ published ∈ consumer.replies, published.reply.isCompensation = true →
    published.reply.success = true → published.reply.sagaId = sagaId →
      ∀ id, Inserted consumer sagaId id → id ∈ saga.context.importedIds.getD [] →
        Deleted consumer.db id

/-- What the state of the saga says about its rows. -/
structure Accounted (consumer : Consumer) (sagaId : String)
    (saga : SagaInstance BankSyncContext) : Prop where
  listed : saga.status = .compensating → ∀ id, Inserted consumer sagaId id →
    id ∈ saga.context.importedIds.getD [] ∨ Deleted consumer.db id
  progress : saga.status = .compensating → RollbackProgress consumer sagaId saga
  undone : Unsuccessful saga → ∀ id, Inserted consumer sagaId id → Deleted consumer.db id

structure OwnRows (db : BankSyncDb) (consumer : Consumer) (sagaId : String) : Prop where
  rowIds : ∀ row ∈ consumer.db.transactions, row.id < consumer.db.nextId
  insertedIds : ∀ id, Inserted consumer sagaId id → id < consumer.db.nextId
  owner : ∀ id, Inserted consumer sagaId id → ∃ saga, getById db sagaId = some saga ∧
    ∀ row ∈ consumer.db.transactions, row.id = id → saga.context.userId = some row.userId

structure ImportInvariant (sagaId : String) (system : BankSyncSystem) : Prop where
  services : SystemInvariant system
  rows : OwnRows system.saga system.transaction sagaId
  accounted : ∀ saga, getById system.saga sagaId = some saga →
    Accounted system.transaction sagaId saga

theorem accounted_not_compensating {consumer : Consumer} {sagaId : String}
    {saga : SagaInstance BankSyncContext} (notCompensating : saga.status ≠ .compensating)
    (undone : Unsuccessful saga → ∀ id, Inserted consumer sagaId id → Deleted consumer.db id) :
    Accounted consumer sagaId saga :=
  ⟨fun compensating => absurd compensating notCompensating,
    fun compensating => absurd compensating notCompensating, undone⟩

theorem accounted_while_compensating {consumer : Consumer} {sagaId : String}
    {saga : SagaInstance BankSyncContext} (compensating : saga.status = .compensating)
    (listed : ∀ id, Inserted consumer sagaId id →
      id ∈ saga.context.importedIds.getD [] ∨ Deleted consumer.db id)
    (progress : RollbackProgress consumer sagaId saga) : Accounted consumer sagaId saga := by
  constructor
  · intro _
    exact listed
  · intro _
    exact progress
  · intro unsuccessful
    unfold Unsuccessful at unsuccessful
    simp [compensating] at unsuccessful

theorem accounted_ongoing {consumer : Consumer} {sagaId : String}
    {saga : SagaInstance BankSyncContext}
    (ongoing : saga.status = .started ∨ saga.status = .completed) :
    Accounted consumer sagaId saga := by
  apply accounted_not_compensating
  · rcases ongoing with status | status <;> rw [status] <;> decide
  · intro unsuccessful
    unfold Unsuccessful at unsuccessful
    rcases ongoing with status | status <;> simp [status] at unsuccessful

theorem nothing_recorded {saga : SagaInstance BankSyncContext}
    (facts : BankSyncFacts saga) (started : saga.status = .started)
    (nothing : 1 < saga.currentStep → ¬ HasCompensationCommand bankSyncDefinition 1 saga.context) :
    saga.context.importedIds.getD [] = [] := by
  by_cases imported : 1 < saga.currentStep
  · exact no_imported_ids facts (nothing imported)
  · rw [facts.notImported started (Nat.le_of_not_lt imported)]
    rfl

theorem timed_out_nothing {saga : SagaInstance BankSyncContext}
    (holds : SagaInvariant bankSyncDefinition saga) (started : saga.status = .started)
    (nothing : ∀ step ∈ saga.steps, step.status = .succeeded →
      ¬ HasCompensationCommand bankSyncDefinition step.index saga.context)
    (imported : 1 < saga.currentStep) :
    ¬ HasCompensationCommand bankSyncDefinition 1 saga.context := by
  have succeeded := (holds.started started).before 1 imported
  obtain ⟨step, found, status⟩ := Option.map_eq_some_iff.mp succeeded
  have label := holds.labels 1
  rw [found] at label
  have isImport : step.index = 1 := congrArg Prod.fst (Option.some.inj label)
  have absent := nothing step (mem_of_getElem? found) status
  rw [isImport] at absent
  exact absent

variable {next : SagaInstance BankSyncContext} {system : BankSyncSystem}
  {work : SagaWork BankSyncContext CommandFields}

theorem compensation_failed_shape {saga : SagaInstance BankSyncContext}
    (holds : SagaInvariant bankSyncDefinition saga) (compensating : saga.status = .compensating)
    (kept : Kept saga next)
    (statuses : ∀ index, next.stepStatus index =
      if index = saga.currentStep then some .failed else saga.stepStatus index) :
    CompensationFailed next := by
  obtain ⟨failed, shape⟩ := holds.compensating compensating
  have isFailed := (shape.failedOnly failed).mpr rfl
  refine ⟨failed, ?_, saga.currentStep, shape.after, ?_, ?_⟩
  · rw [kept_length kept]
    exact step_status_isSome isFailed
  · rw [statuses, if_pos rfl]
  · rw [statuses, if_neg (Nat.ne_of_gt shape.after)]
    exact isFailed

theorem no_rollback_yet (invariant : SystemInvariant system) {sagaId : String}
    {saga : SagaInstance BankSyncContext} (found : getById system.saga sagaId = some saga)
    (started : saga.status = .started) :
    RollbackProgress system.transaction sagaId next := by
  have notGivenUp : ¬ GivenUp saga := by
    unfold GivenUp
    simp [started]
  have noRollback : ∀ command, Owned system.saga command → command.sagaId = sagaId →
      command.eventType ≠ rollbackEventType := by
    intro _ owned sameSaga isRollback
    obtain ⟨_, ownerFound, commandOf⟩ := owned
    rw [sameSaga, found] at ownerFound
    cases ownerFound
    exact notGivenUp (commandOf.rollsBack isRollback).1
  constructor
  · intro running _ _ _ isRunning sameSaga work
    have matched := invariant.matching running isRunning
    unfold Transaction.SagaCommands.WorkMatches at matched
    rw [work] at matched
    have owned := invariant.transactionCommands _ (running_holds isRunning)
    exact absurd matched.1 (noRollback _ owned sameSaga)
  · intro published member flagged _ sameSaga
    obtain ⟨isRollback, sameCommand, owned⟩ :=
      invariant.compensationReplies published member flagged
    exact absurd isRollback (noRollback _ owned (sameCommand.trans sameSaga))

theorem accounted_given_up (invariant : SystemInvariant system) {sagaId : String}
    {saga : SagaInstance BankSyncContext} (facts : BankSyncFacts saga)
    (holds : SagaInvariant bankSyncDefinition saga) (found : getById system.saga sagaId = some saga)
    (started : saga.status = .started) (listed : ListsLiveRows system.transaction sagaId saga)
    (unwinding : Unwinding bankSyncDefinition saga work) :
    Accounted system.transaction sagaId work.1 := by
  have undone : saga.context.importedIds.getD [] = [] → ∀ id,
      Inserted system.transaction sagaId id → Deleted system.transaction.db id := by
    intro empty id inserted
    rcases listed (sagaId, id) inserted rfl with isListed | deleted
    · rw [empty] at isListed
      contradiction
    · exact deleted
  cases unwinding with
  | compensationStarted kept before after earlier completedAt context =>
    apply accounted_while_compensating after
    · intro id inserted
      rw [context]
      exact listed (sagaId, id) inserted rfl
    · exact no_rollback_yet invariant found started
  | failedAtOnce kept before after completedAt context statuses nothing =>
    apply accounted_not_compensating
    · rw [after]
      decide
    · intro _
      exact undone (nothing_recorded facts started (nothing 1))
  | timedOut kept before after completedAt context statuses nothing =>
    apply accounted_not_compensating
    · rw [after]
      decide
    · intro _
      exact undone (nothing_recorded facts started (timed_out_nothing holds started nothing))
  | compensationContinued kept before | compensationFinished kept before
  | compensationFailed kept before | reemitted kept before =>
    rw [started] at before
    contradiction

theorem progress_same_context {consumer : Consumer} {sagaId : String}
    {saga : SagaInstance BankSyncContext} (context : next.context = saga.context)
    (progress : RollbackProgress consumer sagaId saga) :
    RollbackProgress consumer sagaId next := by
  constructor
  · rw [context]
    exact progress.running
  · rw [context]
    exact progress.replied

/-- Moving on with a compensation. -/
theorem accounted_compensating {consumer : Consumer} {sagaId : String}
    {saga : SagaInstance BankSyncContext} (holds : SagaInvariant bankSyncDefinition saga)
    (compensating : saga.status = .compensating) (accounted : Accounted consumer sagaId saga)
    (replied : work.1.stepStatus saga.currentStep = some .compensated →
      ∀ id, Inserted consumer sagaId id → id ∈ saga.context.importedIds.getD [] →
        Deleted consumer.db id) (unwinding : Unwinding bankSyncDefinition saga work) :
    Accounted consumer sagaId work.1 := by
  have stillCompensating : ∀ next : SagaInstance BankSyncContext,
      next.status = .compensating → next.context = saga.context →
        Accounted consumer sagaId next := by
    intro _ after context
    apply accounted_while_compensating after
    · rw [context]
      exact accounted.listed compensating
    · exact progress_same_context context (accounted.progress compensating)
  cases unwinding with
  | compensationContinued kept before after earlier completedAt context
  | reemitted kept before after position completedAt context =>
    exact stillCompensating _ after context
  | compensationFinished kept before after completedAt context statuses =>
    apply accounted_not_compensating
    · rw [after]
      decide
    · intro _ id inserted
      rcases accounted.listed compensating id inserted with isListed | deleted
      · apply replied _ id inserted isListed
        rw [statuses, if_pos (Nat.le_refl _)]
      · exact deleted
  | compensationFailed kept before after completedAt context statuses =>
    have failed := compensation_failed_shape holds compensating kept statuses
    apply accounted_not_compensating
    · rw [after]
      decide
    · intro unsuccessful
      unfold Unsuccessful at unsuccessful
      rcases unsuccessful with ⟨_, notFailed⟩ | timedOut
      · exact absurd failed notFailed
      · rw [after] at timedOut
        contradiction
  | compensationStarted kept before | failedAtOnce kept before | timedOut kept before =>
    rw [compensating] at before
    contradiction

theorem compensation_reply_published (invariant : SystemInvariant system) {label : Label}
    {now : Instant} {sagaId stepName : String} {errorMessage : Option String}
    (isCall : labelCall system label =
      some (.handleCompensationReply now sagaId stepName true errorMessage)) :
    ∃ published ∈ system.transaction.replies, published.reply.isCompensation = true ∧
      published.reply.success = true ∧ published.reply.sagaId = sagaId := by
  cases label with
  | reply participant =>
    obtain ⟨reply, pending, isReply⟩ := Option.map_eq_some_iff.mp isCall
    unfold replyCall route at isReply
    split at isReply
    · next routed =>
      split at routed
      · next flagged =>
        simp only [Call.handleCompensationReply.injEq] at isReply
        obtain ⟨_, sameSaga, _, succeeded, _⟩ := isReply
        cases participant with
        | transaction =>
          obtain ⟨published, member, rfl⟩ :=
            mem_map.mp (mem_of_getElem? pending)
          exact ⟨published, member, flagged, succeeded, sameSaga⟩
        | banking =>
          have unflagged := invariant.bankingReplies reply (mem_of_getElem? pending)
          rw [unflagged] at flagged
          contradiction
      · contradiction
    · contradiction
  | startSaga | checkTimeouts => cases isCall
  | publish | transaction | banking => contradiction

def CallKeeps (system : BankSyncSystem) (call : Call BankSyncContext ResultData)
    (sagaId : String) (current : BankSyncDb) : Prop :=
  BankSyncInvariant current ∧ ∀ saga, getById current sagaId = some saga →
    Accounted system.transaction sagaId saga ∧ (saga.status = .started → unwinds call saga = true →
        getById system.saga sagaId = some saga)

theorem accounted_written {consumer : Consumer} {sagaId : String}
    {saga : SagaInstance BankSyncContext} (accounted : Accounted consumer sagaId next) :
    Accounted consumer sagaId (writeColumns saga next) :=
  ⟨accounted.listed, fun compensating =>
    ⟨(accounted.progress compensating).running, (accounted.progress compensating).replied⟩,
    accounted.undone⟩

theorem advancing_ongoing {saga : SagaInstance BankSyncContext}
    (advancing : Advancing bankSyncDefinition saga work) :
    work.1.status = .started ∨ work.1.status = .completed := by
  cases advancing with
  | advanced kept before after =>
    exact Or.inl after
  | completed kept before after => exact Or.inr after

theorem call_keeps_accounted (invariant : SystemInvariant system) {sagaId : String} {label : Label}
    {call : Call BankSyncContext ResultData} (isCall : labelCall system label = some call)
    (accounted : ∀ saga, getById system.saga sagaId = some saga →
      Accounted system.transaction sagaId saga)
    (listed : ∀ saga, getById system.saga sagaId = some saga → saga.status = .started →
      unwinds call saga = true → ListsLiveRows system.transaction sagaId saga) :
    CallKeeps system call sagaId (runCall sagaRegistry system.saga call) := by
  apply run_call_rule call
  · exact ⟨invariant.sagas, fun saga found => ⟨accounted saga found, fun _ _ => found⟩⟩
  · intro _ _ _ _ _ _ isStart inserted
    obtain ⟨_, rfl⟩ := label_call_from_event isCall _ _ _ _ _ isStart
    refine ⟨(insert_keeps_bank_sync invariant.sagas inserted).1, ?_⟩
    cases inserted with
    | @inserted definition created command registered absent fresh given published =>
      intro saga found
      rw [get_inserted absent] at found
      split at found
      · cases found
        refine ⟨accounted_ongoing (Or.inl fresh.status), ?_⟩
        intro _ unwound
        rw [isStart] at unwound
        contradiction
      · exact ⟨accounted saga found, fun _ _ => found⟩
  · intro _ stored _ holds storedFound decides
    obtain ⟨currentInvariant, kept⟩ := holds
    refine ⟨(store_keeps_bank_sync currentInvariant storedFound decides).1, ?_⟩
    obtain ⟨stateHolds, facts, sameId, transition⟩ :=
      decides_bank_sync currentInvariant storedFound decides
    intro saga found
    rw [get_stored storedFound sameId] at found
    by_cases here : sagaId = stored.id
    · subst here
      rw [if_pos rfl] at found
      cases found
      obtain ⟨before, untouched⟩ := kept stored storedFound
      rcases transition with ⟨advancing, never⟩ | ⟨unwinding, cause⟩
      · refine ⟨accounted_written (accounted_ongoing (advancing_ongoing advancing)), ?_⟩
        intro _ unwound
        rw [never] at unwound
        contradiction
      · refine ⟨accounted_written ?_, ?_⟩
        · rcases transition_needs_active (Or.inr unwinding) with started | compensating
          · have unwound := cause.started started
            have original := untouched started unwound
            exact accounted_given_up invariant facts stateHolds original started
              (listed stored original started unwound) unwinding
          · apply accounted_compensating stateHolds compensating before _ unwinding
            intro marked
            obtain ⟨_, _, _, rfl⟩ := cause.compensated compensating marked
            obtain ⟨published, member, flagged, succeeded, sameSaga⟩ :=
              compensation_reply_published invariant isCall
            exact (before.progress compensating).replied published member flagged succeeded
              sameSaga
        · intro started
          exact absurd started (unwinding_shape unwinding).2.1
    · rw [if_neg here] at found
      exact kept saga found

section TransactionStep

variable {environment : Environment} {saga : BankSyncDb} {consumer : Consumer}
  {sagaId : String} {label : Transaction.SagaCommands.Label}

theorem step_keeps_rows
    (commands : ∀ command, consumer.Holds command → Owned saga command)
    (matching : Transaction.SagaCommands.RunningMatches consumer)
    (rows : OwnRows saga consumer sagaId) :
    OwnRows saga (Transaction.SagaCommands.step environment.reads environment.copies consumer
      label) sagaId := by
  have grown := step_grown environment.reads environment.copies consumer label
  constructor
  · exact ids_stay_bounded grown rows.rowIds
  · intro id inserted
    rcases step_inserted rows.rowIds matching inserted with before | ⟨_, _, upper, _⟩
    · exact Nat.lt_of_lt_of_le (rows.insertedIds id before) grown.nextId
    · exact upper
  · intro id inserted
    rcases step_inserted rows.rowIds matching inserted with
      before | ⟨_, _, _, running, userId, isRunning, sameSaga, isImport, isUser, users⟩
    · obtain ⟨owner, found, owned⟩ := rows.owner id before
      refine ⟨owner, found, ?_⟩
      intro row member isId
      rcases grown.rows row member with ⟨old, oldMember, sameId, sameUser, _⟩ | ⟨new, _⟩
      · rw [← sameUser]
        exact owned old oldMember (sameId.trans isId)
      · have bound := rows.insertedIds id before
        omega
    · obtain ⟨owner, found, commandOf⟩ := commands _ (running_holds isRunning)
      rw [sameSaga] at found
      refine ⟨owner, found, ?_⟩
      intro row member isId
      rw [← commandOf.imports isImport, isUser, users row member isId]

variable {stored : SagaInstance BankSyncContext} {userId : Int} {id : Nat} {running : Running Work}

theorem deleted_for_owner (rows : OwnRows saga consumer sagaId)
    (found : getById saga sagaId = some stored) (isUser : stored.context.userId = some userId)
    (inserted : Inserted consumer sagaId id)
    (gone : ∀ row ∈ consumer.db.transactions, row.id = id → row.userId = userId →
      row.deleted = true) : Deleted consumer.db id := by
  intro row member isId
  obtain ⟨owner, ownerFound, owned⟩ := rows.owner id inserted
  rw [found] at ownerFound
  cases ownerFound
  have sameUser := owned row member isId
  rw [isUser] at sameUser
  exact gone row member isId (Option.some.inj sameUser).symm

theorem rollback_of_saga {rest failedIds : List Nat} (found : getById saga sagaId = some stored)
    (owned : Owned saga running.message.body) (sameSaga : running.message.body.sagaId = sagaId)
    (matched : Transaction.SagaCommands.WorkMatches running)
    (work : running.work = .rollingBack userId rest failedIds) :
    stored.context.userId = some userId ∧ running.message.body.fields.transactionIds =
        some (stored.context.importedIds.getD []) := by
  obtain ⟨_, ownerFound, commandOf⟩ := owned
  rw [sameSaga, found] at ownerFound
  cases ownerFound
  unfold Transaction.SagaCommands.WorkMatches at matched
  rw [work] at matched
  obtain ⟨_, sameUser, ids⟩ := commandOf.rollsBack matched.1
  exact ⟨sameUser.symm.trans matched.2, ids⟩

variable {after : Consumer}

theorem step_keeps_running_rollback (stepped : after =
      Transaction.SagaCommands.step environment.reads environment.copies consumer label)
    (commands : ∀ command, after.Holds command → Owned saga command)
    (matching : Transaction.SagaCommands.RunningMatches after) (rows : OwnRows saga after sagaId)
    (found : getById saga sagaId = some stored)
    (progress : RollbackProgress consumer sagaId stored) {rest failedIds : List Nat}
    (isRunning : after.running = some running) (sameSaga : running.message.body.sagaId = sagaId)
    (work : running.work = .rollingBack userId rest failedIds)
    (earlier : Inserted consumer sagaId id) (inserted : Inserted after sagaId id)
    (stays : Deleted consumer.db id → Deleted after.db id)
    (listed : id ∈ stored.context.importedIds.getD []) :
    id ∈ rest ∨ id ∈ failedIds ∨ Deleted after.db id := by
  subst stepped
  obtain ⟨isUser, ids⟩ := rollback_of_saga found (commands _ (running_holds isRunning)) sameSaga
    (matching running isRunning) work
  rcases step_rollback isRunning work with
    same | begun | ⟨old, next, failedBefore, wasRunning, sameMessage, oldWork, outcome⟩
  · rcases progress.running running userId rest failedIds same sameSaga work id earlier listed
      with inRest | inFailed | deleted
    · exact Or.inl inRest
    · exact Or.inr (Or.inl inFailed)
    · exact Or.inr (Or.inr (stays deleted))
  · rw [work] at begun
    rw [Transaction.SagaCommands.begun_rollback begun, ids]
    exact Or.inl listed
  · have oldSaga : old.message.body.sagaId = sagaId := by
      rw [sameMessage]
      exact sameSaga
    rcases progress.running old userId (next :: rest) failedBefore wasRunning oldSaga oldWork id
      earlier listed with inRest | inFailed | deleted
    · rcases mem_cons.mp inRest with isNext | later
      · subst isNext
        rcases outcome with failed | ⟨_, gone⟩
        · rw [failed]
          exact Or.inr (Or.inl (mem_append_right _ (mem_singleton_self _)))
        · exact Or.inr (Or.inr (deleted_for_owner rows found isUser inserted gone))
      · exact Or.inl later
    · rcases outcome with failed | ⟨same, _⟩
      · rw [failed]
        exact Or.inr (Or.inl (mem_append_left _ inFailed))
      · rw [same]
        exact Or.inr (Or.inl inFailed)
    · exact Or.inr (Or.inr (stays deleted))

theorem finished_rollback_deleted (progress : RollbackProgress consumer sagaId stored)
    (isRunning : consumer.running = some running) (sameSaga : running.message.body.sagaId = sagaId)
    {data : ReplyData} (done : finishedReply running.work = some data)
    (flagged : data.isCompensation = true) (succeeded : data.success = true)
    (inserted : Inserted consumer sagaId id) (listed : id ∈ stored.context.importedIds.getD []) :
    Deleted consumer.db id := by
  obtain ⟨userId, failedIds, work, isData⟩ :=
    Transaction.SagaCommands.finished_compensation done flagged
  have noneFailed : failedIds = [] := by
    by_contra some
    rw [isData] at succeeded
    unfold Transaction.SagaCommands.rollbackReply at succeeded
    rw [if_neg some] at succeeded
    contradiction
  rcases progress.running running userId [] failedIds isRunning sameSaga work id inserted listed
    with inRest | inFailed | deleted
  · contradiction
  · rw [noneFailed] at inFailed
    contradiction
  · exact deleted

theorem step_keeps_progress (stepped : after =
      Transaction.SagaCommands.step environment.reads environment.copies consumer label)
    (commands : ∀ command, after.Holds command → Owned saga command)
    (matching : Transaction.SagaCommands.RunningMatches after)
    (before : OwnRows saga consumer sagaId) (rows : OwnRows saga after sagaId)
    (found : getById saga sagaId = some stored)
    (noNew : ∀ id, Inserted after sagaId id → Inserted consumer sagaId id)
    (progress : RollbackProgress consumer sagaId stored) :
    RollbackProgress after sagaId stored := by
  have grown := step_grown environment.reads environment.copies consumer label
  rw [← stepped] at grown
  constructor
  · intro _ _ _ _ isRunning sameSaga work id inserted listed
    have earlier := noNew id inserted
    apply step_keeps_running_rollback stepped commands matching rows found progress isRunning sameSaga
      work earlier inserted _ listed
    exact deleted_stays grown (before.insertedIds id earlier)
  · intro published member flagged succeeded sameSaga id inserted listed
    have earlier := noNew id inserted
    apply deleted_stays grown (before.insertedIds id earlier)
    rw [stepped] at member
    rcases Transaction.SagaCommands.step_replies member with
      old | ⟨running, data, isRunning, rfl, done | ⟨error, rfl⟩⟩
    · exact progress.replied published old flagged succeeded sameSaga id earlier listed
    · exact finished_rollback_deleted progress isRunning sameSaga done flagged succeeded earlier
        listed
    · contradiction

end TransactionStep

theorem transaction_keeps_accounted {environment : Environment} {system next : BankSyncSystem}
    {sagaId : String} {inner : Transaction.SagaCommands.Label} (after : SystemInvariant next)
    (rows : OwnRows next.saga next.transaction sagaId) (invariant : ImportInvariant sagaId system)
    (saga : next.saga = system.saga)
    (transaction : next.transaction = Transaction.SagaCommands.step environment.reads
      environment.copies system.transaction inner)
    (keeps : commitsRows system.transaction sagaId inner = true →
      ∀ saga ∈ getById system.saga sagaId, saga.status ≠ .compensating ∧ ¬ Unsuccessful saga)
    (stored : SagaInstance BankSyncContext) (found : getById next.saga sagaId = some stored) :
    Accounted next.transaction sagaId stored := by
  have commands := after.transactionCommands
  rw [saga] at commands rows found
  have grown := step_grown environment.reads environment.copies system.transaction inner
  rw [← transaction] at grown
  have noNew : stored.status = .compensating ∨ Unsuccessful stored → ∀ id,
      Inserted next.transaction sagaId id → Inserted system.transaction sagaId id := by
    intro ended _ inserted
    rw [transaction] at inserted
    rcases step_inserted invariant.rows.rowIds invariant.services.matching inserted with
      before | ⟨commits, _⟩
    · exact before
    · obtain ⟨notCompensating, notUnsuccessful⟩ := keeps commits stored found
      rcases ended with compensating | unsuccessful
      · exact absurd compensating notCompensating
      · exact absurd unsuccessful notUnsuccessful
  have accounted := invariant.accounted stored found
  constructor
  · intro compensating id inserted
    have earlier := noNew (Or.inl compensating) id inserted
    rcases accounted.listed compensating id earlier with listed | deleted
    · exact Or.inl listed
    · exact Or.inr (deleted_stays grown (invariant.rows.insertedIds id earlier) deleted)
  · intro compensating
    exact step_keeps_progress transaction commands after.matching invariant.rows rows found
      (noNew (Or.inl compensating)) (accounted.progress compensating)
  · intro unsuccessful id inserted
    have earlier := noNew (Or.inr unsuccessful) id inserted
    exact deleted_stays grown (invariant.rows.insertedIds id earlier)
      (accounted.undone unsuccessful id earlier)

theorem step_keeps_owner (environment : Environment) (sagaId : String) (system : BankSyncSystem)
    (label : Label)
    (owned : SystemInvariant system ∧ OwnRows system.saga system.transaction sagaId) :
    SystemInvariant (step environment system label) ∧
      OwnRows (step environment system label).saga (step environment system label).transaction
        sagaId := by
  refine ⟨step_keeps_system environment system label owned.1, ?_⟩
  have moved := step_moved environment system label
  generalize step environment system label = next at moved ⊢
  cases moved with
  | idle saga transaction | banking inner origin saga transaction =>
    rw [saga, transaction]
    exact owned.2
  | called call isCall saga transaction =>
    rw [saga, transaction]
    refine ⟨owned.2.rowIds, owned.2.insertedIds, ?_⟩
    intro id inserted
    obtain ⟨old, found, isOwner⟩ := owned.2.owner id inserted
    obtain ⟨new, newFound, evolved⟩ :=
      (run_call_bank_sync (label_call_from_event isCall) owned.1.sagas).2 sagaId old found
    refine ⟨new, newFound, ?_⟩
    rw [evolved.userId]
    exact isOwner
  | transaction inner origin saga transaction =>
    rw [saga, transaction]
    exact step_keeps_rows owned.1.transactionCommands owned.1.matching owned.2

theorem step_keeps_import (environment : Environment) (sagaId : String)
    (system : BankSyncSystem) (label : Label) (keeps : KeepsAtomicity sagaId system label)
    (invariant : ImportInvariant sagaId system) :
    ImportInvariant sagaId (step environment system label) := by
  obtain ⟨after, rows⟩ :=
    step_keeps_owner environment sagaId system label ⟨invariant.services, invariant.rows⟩
  refine ⟨after, rows, ?_⟩
  have moved := step_moved environment system label
  generalize step environment system label = next at after rows moved ⊢
  cases moved with
  | idle saga transaction | banking inner origin saga transaction =>
    rw [saga, transaction]
    exact invariant.accounted
  | called call isCall saga transaction =>
    rw [saga, transaction]
    intro stored found
    have kept := call_keeps_accounted invariant.services isCall invariant.accounted (by
      intro original originalFound started unwound
      apply keeps.2 _ original originalFound
      unfold givesUp
      rw [isCall, originalFound]
      simp [started, unwound])
    exact (kept.2 stored found).1
  | transaction inner origin saga transaction =>
    refine transaction_keeps_accounted after rows invariant saga transaction ?_
    intro commits
    rcases origin with ⟨rfl, _⟩ | ⟨entry, _, rfl⟩
    · exact keeps.1 commits
    · contradiction

theorem initial_import (table : TransactionTable) (connections : List BankConnection)
    (sagaId : String) : ImportInvariant sagaId (initial table connections) := by
  refine ⟨initial_system table connections, ⟨table.ids, ?_, ?_⟩, ?_⟩
  · intro _ _
    contradiction
  · intro _ _
    contradiction
  · intro _ _
    contradiction

/-- In every run, what an import inserts belongs to the user of its saga. -/
theorem imports_owned (environment : Environment) (table : TransactionTable)
    (connections : List BankConnection) (sagaId : String) (labels : List Label) :
    let system := runFrom (step environment) (initial table connections) labels
    OwnRows system.saga system.transaction sagaId := by
  have initially := initial_import table connections sagaId
  exact (run_keeps (step environment) (step_keeps_owner environment sagaId)
    ⟨initially.services, initially.rows⟩ labels).2

/-- In every run whose steps keep the atomicity, a saga that ended unsuccessfully
leaves no live row of its import. -/
theorem unsuccessful_import_undone (environment : Environment) (table : TransactionTable)
    (connections : List BankConnection) (sagaId : String) (labels : List Label)
    (keeps : AllSteps (step environment) (KeepsAtomicity sagaId) (initial table connections)
      labels) :
    ImportUndone (runFrom (step environment) (initial table connections) labels) sagaId := by
  have invariant := allowed_run_keeps (step environment) (step_keeps_import environment sagaId)
    (initial_import table connections sagaId) labels keeps
  intro saga found unsuccessful _
  exact (invariant.accounted saga found).undone unsuccessful

/-- The accepted reply lists the row, and the compensation deletes it. -/
def listedRun : List Label :=
  chunkCommitted ++ importReplied ++ markExhausted ++
    [.publish 3, .transaction (.take 0), .transaction (.deleteNext false),
      .transaction (.finish true), .reply .transaction 1 4 true]

theorem listed_import_undone :
    (getById (sampleRun listedRun).saga "s").any (fun saga => Unsuccessful saga) = true ∧
      NothingInFlight (sampleRun listedRun) "s" ∧ ImportUndone (sampleRun listedRun) "s" := by
  refine ⟨?_, ?_, ?_⟩
  · decide +kernel
  · decide +kernel
  · apply unsuccessful_import_undone sampleEnvironment emptyTable [sampleConnection] "s" listedRun
    decide +kernel

/-- The handler dies after its commit; the redelivered command finds only
duplicates and replies without ids. -/
def redeliveredRun : List Label :=
  chunkCommitted ++ [.transaction .crash, .transaction (.take 0), .transaction .commitChunk] ++
    importReplied ++ markExhausted

/-- The saga has nothing to compensate, is FAILED at once, and its row stays live. -/
theorem redelivered_import_stays : ¬ ∀ (environment : Environment) (table : TransactionTable)
        (connections : List BankConnection) (sagaId : String) (labels : List Label),
      ImportUndone (runFrom (step environment) (initial table connections) labels) sagaId := by
  intro undone
  have rowsUndone := undone sampleEnvironment emptyTable [sampleConnection] "s" redeliveredRun
  have isUnsuccessful : (getById (sampleRun redeliveredRun).saga "s").any
      (fun saga => Unsuccessful saga) = true := by decide +kernel
  obtain ⟨saga, found, unsuccessful⟩ := (Option.any_eq_true _ _).mp isUnsuccessful
  have settled : NothingInFlight (sampleRun redeliveredRun) "s" := by decide +kernel
  have inserted : Inserted (sampleRun redeliveredRun).transaction "s" 1 := by
    unfold Inserted
    decide +kernel
  have live : ¬ Deleted (sampleRun redeliveredRun).transaction.db 1 := by decide +kernel
  exact live (rowsUndone saga found (of_decide_eq_true unsuccessful) settled 1 inserted)

end FinanceTracker.System.ImportAtomicity
