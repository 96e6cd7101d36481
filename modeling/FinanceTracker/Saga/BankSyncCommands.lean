import FinanceTracker.Saga.BankSyncProgress
import FinanceTracker.Saga.Decisions

/-!
# The commands of a bank sync saga

A command stays in flight while its saga goes on. What it was built from is
therefore related to the saga as it is now: the user never changes, and once the
saga is on its way back neither does the rest of the context.
-/

namespace FinanceTracker.Saga.BankSyncCommands

open Library KeyedRows Runs Shared.SagaMessages Domain Orchestrator Transitions Invariant Commands
  Decisions BankSync BankSyncProgress List

def rollbackEventType : String := "saga.cmd.rollback_import"

/-- The saga is on its way back or has failed. -/
def GivenUp (saga : SagaInstance BankSyncContext) : Prop :=
  saga.status = .compensating ∨ saga.status = .failed

/-- What later calls leave of a stored saga. -/
structure Evolved (old new : SagaInstance BankSyncContext) : Prop where
  userId : new.context.userId = old.context.userId
  givenUp : GivenUp old → GivenUp new ∧ new.context = old.context

/-- What a command of the saga says about it, now and later. -/
structure CommandOf (saga : SagaInstance BankSyncContext) (command : SagaCommand) : Prop where
  imports : command.eventType = importStep.commandEventType →
    command.fields.userId = saga.context.userId
  rollsBack : command.eventType = rollbackEventType →
    GivenUp saga ∧ command.fields.userId = saga.context.userId ∧
      command.fields.transactionIds = some (saga.context.importedIds.getD [])
  marks : command.eventType = markCompleteStep.commandEventType →
    command.stepName = markCompleteStep.name

structure BankSyncFacts (saga : SagaInstance BankSyncContext) : Prop where
  userGiven : saga.context.userId.isSome
  notImported : saga.status = .started → saga.currentStep ≤ 1 → saga.context.importedIds = none

def Owned (db : BankSyncDb) (command : SagaCommand) : Prop :=
  ∃ saga, getById db command.sagaId = some saga ∧ CommandOf saga command

structure BankSyncInvariant (db : BankSyncDb) : Prop where
  valid : DbInvariant sagaRegistry db
  facts : ∀ saga ∈ db.sagas, BankSyncFacts saga
  commands : ∀ entry ∈ db.outbox, Owned db (commandBody entry)

theorem subscript_ok {Value : Type} {key : String} {given : Option Value} {value : Value}
    (found : subscript key given = .ok value) : given = some value := by
  unfold subscript at found
  split at found
  · cases found
    rfl
  · contradiction

variable {context : BankSyncContext} {fields : CommandFields} {index : Nat}
  {entry : OutboxEntry CommandFields} {command : SagaCommand}

theorem build_import_user (built : buildCommand 1 context = .ok fields) :
    fields.userId = context.userId := by
  unfold buildCommand at built
  obtain ⟨_, isUser, built⟩ := bind_eq_ok.mp built
  obtain ⟨_, built⟩ := rest_ok built
  obtain ⟨_, built⟩ := rest_ok built
  obtain ⟨_, built⟩ := rest_ok built
  cases built
  exact (subscript_ok isUser).symm

theorem build_compensate_fields (built : buildCompensateCommand index context = .ok (some fields)) :
    fields.userId = context.userId ∧
      fields.transactionIds = some (context.importedIds.getD []) := by
  unfold buildCompensateCommand at built
  split at built
  · dsimp only at built
    split at built
    · cases built
    · obtain ⟨_, isUser, built⟩ := bind_eq_ok.mp built
      cases built
      exact ⟨(subscript_ok isUser).symm, rfl⟩
  · cases built

variable {saga : SagaInstance BankSyncContext} {work : SagaWork BankSyncContext CommandFields}
  {db : BankSyncDb} {call : Call BankSyncContext ResultData}

theorem no_imported_ids (facts : BankSyncFacts saga)
    (nothing : ¬ HasCompensationCommand bankSyncDefinition 1 saga.context) :
    saga.context.importedIds.getD [] = [] := by
  by_contra recorded
  apply nothing
  obtain ⟨userId, isUser⟩ := Option.isSome_iff_exists.mp facts.userGiven
  refine ⟨importStep, rollbackEventType,
    { userId := some userId, transactionIds := some (saga.context.importedIds.getD []) }, rfl, rfl,
    ?_⟩
  change buildCompensateCommand 1 saga.context = _
  unfold buildCompensateCommand
  rw [if_pos rfl, isUser]
  dsimp only
  rw [if_neg recorded]
  rfl

theorem published_command_of
    (published : publishStepCommand saga bankSyncDefinition index = .ok entry) :
    entry.payload.sagaId = saga.id ∧ CommandOf saga (commandBody entry) := by
  unfold publishStepCommand at published
  match index with
  | 0 =>
    obtain ⟨_, published⟩ := rest_ok published
    cases published
    refine ⟨rfl, ?_, ?_, ?_⟩
    · intro isImport
      exact absurd isImport (show fetchStep.commandEventType ≠ importStep.commandEventType by decide)
    · intro isRollback
      exact absurd isRollback (show fetchStep.commandEventType ≠ rollbackEventType by decide)
    · intro isMark
      exact absurd isMark (show fetchStep.commandEventType ≠ markCompleteStep.commandEventType by decide)
  | 1 =>
    obtain ⟨_, built, published⟩ := bind_eq_ok.mp published
    cases published
    refine ⟨rfl, ?_, ?_, ?_⟩
    · intro _
      exact build_import_user built
    · intro isRollback
      exact absurd isRollback (show importStep.commandEventType ≠ rollbackEventType by decide)
    · intro isMark
      exact absurd isMark (show importStep.commandEventType ≠ markCompleteStep.commandEventType by decide)
  | 2 =>
    obtain ⟨_, published⟩ := rest_ok published
    cases published
    refine ⟨rfl, ?_, ?_, ?_⟩
    · intro isImport
      exact absurd isImport (show markCompleteStep.commandEventType ≠ importStep.commandEventType by decide)
    · intro isRollback
      exact absurd isRollback (show markCompleteStep.commandEventType ≠ rollbackEventType by decide)
    · intro _
      rfl
  | index + 3 => contradiction

theorem compensation_command_of (givenUp : GivenUp saga)
    (row : CompensationRow bankSyncDefinition saga entry) :
    entry.payload.sagaId = saga.id ∧ CommandOf saga (commandBody entry) := by
  have position := compensation_command_at (has_command_of_row row)
  obtain ⟨_, _, _, _, _, defined, compensates, built, rfl⟩ := row
  rw [position] at defined
  cases defined
  cases compensates
  refine ⟨rfl, ?_, ?_, ?_⟩
  · intro isImport
    exact absurd isImport (show rollbackEventType ≠ importStep.commandEventType by decide)
  · intro _
    exact ⟨givenUp, build_compensate_fields built⟩
  · intro isMark
    exact absurd isMark (show rollbackEventType ≠ markCompleteStep.commandEventType by decide)

theorem evolved_refl (saga : SagaInstance BankSyncContext) : Evolved saga saga :=
  ⟨rfl, fun givenUp => ⟨givenUp, rfl⟩⟩

theorem command_of_evolved {old new : SagaInstance BankSyncContext} (evolved : Evolved old new)
    (commandOf : CommandOf old command) : CommandOf new command where
  imports isImport := (commandOf.imports isImport).trans evolved.userId.symm
  rollsBack isRollback := by
    obtain ⟨givenUp, userId, transactionIds⟩ := commandOf.rollsBack isRollback
    obtain ⟨still, context⟩ := evolved.givenUp givenUp
    rw [context]
    exact ⟨still, userId, transactionIds⟩
  marks := commandOf.marks

theorem on_reply_user (index : Nat) (context : BankSyncContext)
    (resultData : Option ResultData) :
    (onReply index context resultData).userId = context.userId := by
  unfold onReply
  split
  · rfl
  · split <;> rfl

theorem advancing_evolves (facts : BankSyncFacts saga)
    (advancing : Advancing bankSyncDefinition saga work) :
    Evolved saga work.1 ∧ BankSyncFacts work.1 ∧
      ∀ entry ∈ work.2, entry.payload.sagaId = saga.id ∧ CommandOf work.1 (commandBody entry) := by
  have merged : ∀ next : SagaInstance BankSyncContext, saga.status = .started →
      (∃ resultData, bankSyncDefinition.onReply saga.currentStep saga.context resultData =
        .ok next.context) → Evolved saga next ∧ next.context.userId.isSome := by
    intro next before replied
    obtain ⟨resultData, replied⟩ := replied
    have sameUser : next.context.userId = saga.context.userId := by
      rw [← Except.ok.inj replied]
      exact on_reply_user saga.currentStep saga.context resultData
    refine ⟨⟨sameUser, ?_⟩, ?_⟩
    · intro givenUp
      unfold GivenUp at givenUp
      rw [before] at givenUp
      simp at givenUp
    · rw [sameUser]
      exact facts.userGiven
  cases advancing with
  | @advanced next entry kept before after position inside completedAt context statuses command =>
    obtain ⟨evolved, userGiven⟩ := merged next before context
    refine ⟨evolved, ⟨userGiven, ?_⟩, ?_⟩
    · intro _ early
      rw [position] at early
      obtain ⟨resultData, replied⟩ := context
      have first : saga.currentStep = 0 := by omega
      have before := facts.notImported before (by omega)
      rw [first] at replied
      rw [← Except.ok.inj replied]
      cases resultData with
      | none => exact before
      | some => exact before
    · intro _ member
      rw [mem_singleton.mp member]
      obtain ⟨sagaId, commandOf⟩ := published_command_of command
      exact ⟨sagaId.trans kept.id, commandOf⟩
  | @completed next kept before after last completedAt context statuses =>
    obtain ⟨evolved, userGiven⟩ := merged next before context
    refine ⟨evolved, ⟨userGiven, ?_⟩, ?_⟩
    · intro started
      rw [after] at started
      contradiction
    · intro _ _
      contradiction

theorem unwinding_shape {definition : SagaDefinition BankSyncContext CommandFields ResultData}
    (unwinding : Unwinding definition saga work) :
    work.1.context = saga.context ∧ work.1.status ≠ .started ∧
      (saga.status = .compensating → GivenUp work.1) ∧
      ∀ entry ∈ work.2, work.1.status = .compensating ∧
        CompensationRow definition work.1 entry := by
  unfold GivenUp
  cases unwinding with
  | compensationStarted kept before after earlier completedAt context statuses command
  | compensationContinued kept before after earlier completedAt context detail statuses command
  | reemitted kept before after position completedAt context statuses unmarked marked command =>
    simpa [before, after, context] using command
  | failedAtOnce kept before after completedAt context
  | timedOut kept before after completedAt context =>
    simp [before, after, context]
  | compensationFinished kept before after completedAt context
  | compensationFailed kept before after completedAt context =>
    simp [after, context]

theorem unwinding_evolves (facts : BankSyncFacts saga)
    (unwinding : Unwinding bankSyncDefinition saga work) :
    Evolved saga work.1 ∧ BankSyncFacts work.1 ∧
      ∀ entry ∈ work.2, entry.payload.sagaId = saga.id ∧ CommandOf work.1 (commandBody entry) := by
  obtain ⟨context, notStarted, givenUp, rows⟩ := unwinding_shape unwinding
  refine ⟨⟨congrArg BankSyncContext.userId context, ?_⟩, ⟨?_, ?_⟩, ?_⟩
  · rintro (compensating | failed)
    · exact ⟨givenUp compensating, context⟩
    · rcases transition_needs_active (Or.inr unwinding) with status | status
      · rw [failed] at status
        contradiction
      · rw [failed] at status
        contradiction
  · rw [context]
    exact facts.userGiven
  · intro started
    exact absurd started notStarted
  · intro entry member
    obtain ⟨compensating, row⟩ := rows entry member
    obtain ⟨sagaId, commandOf⟩ := compensation_command_of (Or.inl compensating) row
    exact ⟨sagaId.trans (unwinding_kept unwinding).id, commandOf⟩

theorem decides_bank_sync (invariant : BankSyncInvariant db)
    (found : getById db saga.id = some saga) (decides : Decides sagaRegistry call saga work) :
    SagaInvariant bankSyncDefinition saga ∧ BankSyncFacts saga ∧ work.1.id = saga.id ∧
      (Advancing bankSyncDefinition saga work ∧ (∀ other, unwinds call other = false) ∨
        Unwinding bankSyncDefinition saga work ∧ UnwoundBy call saga work) := by
  obtain ⟨_, registered, holds, transition⟩ :=
    decides_transition invariant.valid found decides
  cases registered_definition registered
  refine ⟨holds, invariant.facts saga (lookup_mem found).1, ?_, transition⟩
  rcases transition with ⟨advancing, _⟩ | ⟨unwinding, _⟩
  · exact (advancing_kept advancing).id
  · exact (unwinding_kept unwinding).id

theorem get_stored (found : getById db saga.id = some saga) (sameId : work.1.id = saga.id)
    (sagaId : String) :
    getById (storeWork db work) sagaId =
      if sagaId = saga.id then some (writeColumns saga work.1) else getById db sagaId := by
  rw [get_by_id_store_work, sameId]
  by_cases here : sagaId = saga.id
  · rw [if_pos here, if_pos here, here, found]
    rfl
  · rw [if_neg here, if_neg here]

theorem get_inserted {db : BankSyncDb} {saga : SagaInstance BankSyncContext}
    {outbox : List (OutboxEntry CommandFields)}
    (absent : ∀ stored ∈ db.sagas, stored.id ≠ saga.id) (sagaId : String) :
    getById { sagas := db.sagas ++ [saga], outbox := outbox } sagaId =
      if sagaId = saga.id then some saga else getById db sagaId :=
  lookup_append absent

/-- A saga stays stored and evolves. -/
def Grows (before after : BankSyncDb) : Prop :=
  ∀ sagaId old, getById before sagaId = some old →
    ∃ new, getById after sagaId = some new ∧ Evolved old new

theorem owned_grows {before after : BankSyncDb} (grows : Grows before after)
    (owned : Owned before command) : Owned after command := by
  obtain ⟨old, found, commandOf⟩ := owned
  obtain ⟨new, stored, evolved⟩ := grows command.sagaId old found
  exact ⟨new, stored, command_of_evolved evolved commandOf⟩

theorem evolved_written {next : SagaInstance BankSyncContext} (evolved : Evolved saga next) :
    Evolved saga (writeColumns saga next) :=
  ⟨evolved.userId, evolved.givenUp⟩

theorem store_grows (found : getById db saga.id = some saga) (sameId : work.1.id = saga.id)
    (evolved : Evolved saga work.1) :
    Grows db (storeWork db work) := by
  intro sagaId old isOld
  rw [get_stored found sameId]
  by_cases here : sagaId = saga.id
  · rw [here, found] at isOld
    cases isOld
    rw [if_pos here]
    exact ⟨_, rfl, evolved_written evolved⟩
  · rw [if_neg here]
    exact ⟨old, isOld, evolved_refl old⟩

theorem grows_refl (db : BankSyncDb) : Grows db db :=
  fun _ old found => ⟨old, found, evolved_refl old⟩

theorem grows_trans {first second third : BankSyncDb} (left : Grows first second)
    (right : Grows second third) : Grows first third := by
  intro sagaId old found
  obtain ⟨middle, middleFound, toMiddle⟩ := left sagaId old found
  obtain ⟨new, newFound, toNew⟩ := right sagaId middle middleFound
  refine ⟨new, newFound, toNew.userId.trans toMiddle.userId, ?_⟩
  intro givenUp
  obtain ⟨middleGivenUp, toMiddleContext⟩ := toMiddle.givenUp givenUp
  obtain ⟨newGivenUp, toNewContext⟩ := toNew.givenUp middleGivenUp
  exact ⟨newGivenUp, toNewContext.trans toMiddleContext⟩

theorem store_keeps_bank_sync (invariant : BankSyncInvariant db)
    (found : getById db saga.id = some saga) (decides : Decides sagaRegistry call saga work) :
    BankSyncInvariant (storeWork db work) ∧ Grows db (storeWork db work) := by
  obtain ⟨registered, _⟩ := stored_bank_sync invariant.valid found
  obtain ⟨holds, facts, sameId, transition⟩ := decides_bank_sync invariant found decides
  have evolves : Evolved saga work.1 ∧ BankSyncFacts work.1 ∧ ∀ entry ∈ work.2,
      entry.payload.sagaId = saga.id ∧ CommandOf work.1 (commandBody entry) := by
    rcases transition with ⟨advancing, _⟩ | ⟨unwinding, _⟩
    · exact advancing_evolves facts advancing
    · exact unwinding_evolves facts unwinding
  obtain ⟨evolved, nextFacts, rows⟩ := evolves
  have kept : Kept saga work.1 := by
    rcases transition with ⟨advancing, _⟩ | ⟨unwinding, _⟩
    · exact advancing_kept advancing
    · exact unwinding_kept unwinding
  have grows := store_grows found sameId evolved
  refine ⟨⟨?_, ?_, ?_⟩, grows⟩
  · apply store_work_invariant invariant.valid found registered kept
    intro _
    rcases transition with ⟨advancing, _⟩ | ⟨unwinding, _⟩
    · exact advancing_keeps holds advancing
    · exact unwinding_keeps holds unwinding
  · intro stored member
    rcases (mem_store_work invariant.valid.ids found kept).mp member with other | rfl
    · exact invariant.facts stored other.1
    · exact ⟨nextFacts.userGiven, nextFacts.notImported⟩
  · intro entry member
    rcases mem_append.mp member with earlier | added
    · exact owned_grows grows (invariant.commands entry earlier)
    · obtain ⟨sagaId, commandOf⟩ := rows entry added
      refine ⟨writeColumns saga work.1, ?_, ⟨commandOf.1, commandOf.2, commandOf.3⟩⟩
      rw [get_stored found sameId]
      exact if_pos sagaId

theorem insert_keeps_bank_sync {next : BankSyncDb} {event : BankSyncStart}
    (invariant : BankSyncInvariant db)
    (inserted : Inserted sagaRegistry (startContext event) db next) :
    BankSyncInvariant next ∧ Grows db next := by
  have valid := inserted_keeps invariant.valid inserted
  cases inserted with
  | @inserted definition saga command registered absent fresh given published =>
    cases registered_definition registered
    have lookups := @get_inserted db saga (db.outbox ++ [command]) absent
    have grows : Grows db { sagas := db.sagas ++ [saga], outbox := db.outbox ++ [command] } := by
      intro sagaId old found
      have other : sagaId ≠ saga.id := by
        intro same
        obtain ⟨member, isId⟩ := lookup_mem found
        exact absent old member (isId.trans same)
      rw [lookups, if_neg other]
      exact ⟨old, found, evolved_refl old⟩
    refine ⟨⟨valid, ?_, ?_⟩, grows⟩
    · refine forall_snoc invariant.facts ?_
      constructor
      · rw [given]
        rfl
      · intro _ _
        rw [given]
        rfl
    · intro entry member
      rcases mem_snoc.mp member with earlier | rfl
      · exact owned_grows grows (invariant.commands entry earlier)
      · obtain ⟨sagaId, commandOf⟩ := published_command_of published
        refine ⟨saga, ?_, commandOf⟩
        rw [lookups]
        exact if_pos sagaId

def StartsFromEvent (call : Call BankSyncContext ResultData) : Prop :=
  ∀ now sagaType context correlationId generatedId,
    call = .startSaga now sagaType context correlationId generatedId →
      ∃ event, context = startContext event

theorem run_call_bank_sync (fromEvent : StartsFromEvent call) (invariant : BankSyncInvariant db) :
    BankSyncInvariant (runCall sagaRegistry db call) ∧ Grows db (runCall sagaRegistry db call) := by
  apply @run_call_rule _ _ _ sagaRegistry
    (fun current => BankSyncInvariant current ∧ Grows db current) db call
  · exact ⟨invariant, grows_refl db⟩
  · intro _ _ _ _ _ _ isStart inserted
    obtain ⟨_, rfl⟩ := fromEvent _ _ _ _ _ isStart
    exact insert_keeps_bank_sync invariant inserted
  · rintro current saga work ⟨currentInvariant, grown⟩ found decides
    obtain ⟨kept, grows⟩ := store_keeps_bank_sync currentInvariant found decides
    exact ⟨kept, grows_trans grown grows⟩

theorem empty_bank_sync : BankSyncInvariant SagaDb.empty where
  valid := empty_invariant sagaRegistry
  facts := by
    intro _ _
    contradiction
  commands := by
    intro _ _
    contradiction

end FinanceTracker.Saga.BankSyncCommands
