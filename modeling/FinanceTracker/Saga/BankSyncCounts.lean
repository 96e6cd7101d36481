import FinanceTracker.Saga.BankSyncCommands

/-!
# The counters of a bank sync saga

The context takes its counters from two replies: the fetch reply says how many
transactions were parsed and which items came of them, the import reply what became of
the items. Each is merged once, and the commands built from the context repeat it.
-/

namespace FinanceTracker.Saga.BankSyncCounts

open Library KeyedRows Runs Shared.SagaMessages Domain Orchestrator Transitions Invariant Decisions
  BankSync BankSyncProgress BankSyncCommands List

structure FetchResult (parsed : Nat) (result : ResultData) : Prop where
  total : result.totalFetched = some (parsed : Int)
  counted : ((result.items.getD []).length : Int) + result.errors.getD 0 = parsed

/-- An import reply that counts these rows and accounts for this many items. -/
structure ImportResult (items rows : Nat) (result : ResultData) : Prop where
  imported : result.imported = some (rows : Int)
  counted : (rows : Int) + result.duplicatesSkipped.getD 0 + result.errors.getD 0 = items

structure FetchMerged (parsed : Nat) (context : BankSyncContext) : Prop where
  total : context.totalFetched = some (parsed : Int)
  items : context.fetchedItems.isSome
  counted : ((context.fetchedItems.getD []).length : Int) + context.errors.getD 0 = parsed

structure ImportMerged (parsed rows : Nat) (context : BankSyncContext) : Prop where
  total : context.totalFetched = some (parsed : Int)
  imported : context.newImported = some (rows : Int)
  conserved : (rows : Int) + context.duplicatesSkipped.getD 0 + context.errors.getD 0 = parsed

variable {context : BankSyncContext} {parsed : Nat} {result : ResultData} {fields : CommandFields}
  {entry : OutboxEntry CommandFields}

theorem fetch_merges (fetched : FetchResult parsed result) (fresh : context.errors = none) :
    FetchMerged parsed (onReply 0 context (some result)) := by
  refine ⟨?_, rfl, ?_⟩
  · change some (result.totalFetched.getD 0) = _
    rw [fetched.total]
    rfl
  · change ((result.items.getD []).length : Int) + (context.errors.getD 0 + result.errors.getD 0)
      = _
    rw [fresh, ← fetched.counted]
    simp

theorem import_merges {rows : Nat}
    (imported : ImportResult (context.fetchedItems.getD []).length rows result)
    (fetched : FetchMerged parsed context) :
    ImportMerged parsed rows (onReply 1 context (some result)) := by
  refine ⟨fetched.total, ?_, ?_⟩
  · change some (result.imported.getD 0) = _
    rw [imported.imported]
    rfl
  · change (rows : Int) + result.duplicatesSkipped.getD 0 +
      (context.errors.getD 0 + result.errors.getD 0) = _
    have items := imported.counted
    have counted := fetched.counted
    omega

/-- How far the counters of a saga have come, with the number of transactions that the
accepted fetch reply parsed and of rows that its import has inserted. -/
structure ContextCounts (parsed : Option Nat) (rows : Nat) (saga : SagaInstance BankSyncContext) :
    Prop where
  fetching : saga.status = .started → saga.currentStep = 0 →
    saga.context.fetchedItems = none ∧ saga.context.errors = none
  importing : saga.status = .started → saga.currentStep = 1 →
    ∃ count, parsed = some count ∧ FetchMerged count saga.context
  notImported : saga.status = .started → saga.currentStep ≤ 1 → saga.context.newImported = none
  marking : saga.status = .started → 2 ≤ saga.currentStep → saga.context.newImported.isSome
  imported : saga.context.newImported.isSome →
    ∃ count, parsed = some count ∧ ImportMerged count rows saga.context

structure RepeatsCounters (context : BankSyncContext) (fields : CommandFields) : Prop where
  totalFetched : fields.totalFetched = some (context.totalFetched.getD 0)
  newImported : fields.newImported = some (context.newImported.getD 0)
  duplicatesSkipped : fields.duplicatesSkipped = some (context.duplicatesSkipped.getD 0)
  errors : fields.errors = some (context.errors.getD 0)

/-- What a command of the saga says of the context, now and later. -/
structure CommandCounts (saga : SagaInstance BankSyncContext) (command : SagaCommand) : Prop where
  fetches : command.eventType = fetchStep.commandEventType → command.stepName = fetchStep.name
  imports : command.eventType = importStep.commandEventType →
    command.stepName = importStep.name ∧ saga.context.fetchedItems.isSome ∧
      command.fields.items = saga.context.fetchedItems
  marks : command.eventType = markCompleteStep.commandEventType →
    command.stepName = markCompleteStep.name ∧ saga.context.newImported.isSome ∧
      RepeatsCounters saga.context command.fields

/-- What later calls leave of the items and the counters. -/
structure CountersKept (before after : BankSyncContext) : Prop where
  items : before.fetchedItems.isSome → after.fetchedItems = before.fetchedItems
  counters : before.newImported.isSome → after = before

theorem counters_kept_refl (context : BankSyncContext) : CountersKept context context :=
  ⟨fun _ => rfl, fun _ => rfl⟩

theorem command_counts_kept {saga next : SagaInstance BankSyncContext} {command : SagaCommand}
    (kept : CountersKept saga.context next.context) (counts : CommandCounts saga command) :
    CommandCounts next command := by
  refine ⟨counts.fetches, ?_, ?_⟩
  · intro isImport
    obtain ⟨stepName, given, items⟩ := counts.imports isImport
    have same := kept.items given
    refine ⟨stepName, ?_, ?_⟩
    · rw [same]
      exact given
    · rw [same]
      exact items
  · intro isMark
    obtain ⟨stepName, given, repeats⟩ := counts.marks isMark
    rw [kept.counters given]
    exact ⟨stepName, given, repeats⟩

theorem build_import_items (built : buildCommand 1 context = .ok fields) :
    context.fetchedItems.isSome ∧ fields.items = context.fetchedItems := by
  unfold buildCommand at built
  obtain ⟨_, built⟩ := rest_ok built
  obtain ⟨_, built⟩ := rest_ok built
  obtain ⟨_, built⟩ := rest_ok built
  obtain ⟨_, isItems, built⟩ := bind_eq_ok.mp built
  cases built
  rw [subscript_ok isItems]
  exact ⟨rfl, rfl⟩

theorem build_mark_counters (built : buildCommand 2 context = .ok fields) :
    RepeatsCounters context fields := by
  unfold buildCommand at built
  obtain ⟨_, built⟩ := rest_ok built
  obtain ⟨_, built⟩ := rest_ok built
  cases built
  exact ⟨rfl, rfl, rfl, rfl⟩

theorem published_command_counts {saga : SagaInstance BankSyncContext} {index : Nat}
    (marking : 2 ≤ index → saga.context.newImported.isSome)
    (published : publishStepCommand saga bankSyncDefinition index = .ok entry) :
    CommandCounts saga (commandBody entry) := by
  unfold publishStepCommand at published
  match index with
  | 0 =>
    obtain ⟨_, published⟩ := rest_ok published
    cases published
    refine ⟨fun _ => rfl, ?_, ?_⟩
    · intro isImport
      exact absurd isImport
        (show fetchStep.commandEventType ≠ importStep.commandEventType by decide)
    · intro isMark
      exact absurd isMark
        (show fetchStep.commandEventType ≠ markCompleteStep.commandEventType by decide)
  | 1 =>
    obtain ⟨_, built, published⟩ := bind_eq_ok.mp published
    cases published
    refine ⟨?_, fun _ => ⟨rfl, build_import_items built⟩, ?_⟩
    · intro isFetch
      exact absurd isFetch
        (show importStep.commandEventType ≠ fetchStep.commandEventType by decide)
    · intro isMark
      exact absurd isMark
        (show importStep.commandEventType ≠ markCompleteStep.commandEventType by decide)
  | 2 =>
    obtain ⟨_, built, published⟩ := bind_eq_ok.mp published
    cases published
    refine ⟨?_, ?_, fun _ => ⟨rfl, marking (Nat.le_refl 2), build_mark_counters built⟩⟩
    · intro isFetch
      exact absurd isFetch
        (show markCompleteStep.commandEventType ≠ fetchStep.commandEventType by decide)
    · intro isImport
      exact absurd isImport
        (show markCompleteStep.commandEventType ≠ importStep.commandEventType by decide)
  | index + 3 => contradiction

theorem compensation_command_counts {saga next : SagaInstance BankSyncContext}
    (row : CompensationRow bankSyncDefinition next entry) :
    CommandCounts saga (commandBody entry) := by
  have position := compensation_command_at (has_command_of_row row)
  obtain ⟨_, _, _, _, _, defined, compensates, _, rfl⟩ := row
  rw [position] at defined
  cases defined
  cases compensates
  refine ⟨?_, ?_, ?_⟩
  · intro isFetch
    exact absurd isFetch (show rollbackEventType ≠ fetchStep.commandEventType by decide)
  · intro isImport
    exact absurd isImport (show rollbackEventType ≠ importStep.commandEventType by decide)
  · intro isMark
    exact absurd isMark (show rollbackEventType ≠ markCompleteStep.commandEventType by decide)

/-- What an accepted reply brings to the step it answers, with the number of parsed
transactions before and after it. -/
structure Brings (before after : Option Nat) (rows : Nat) (saga : SagaInstance BankSyncContext)
    (resultData : Option ResultData) : Prop where
  fetched : saga.currentStep = 0 → ∃ count result, after = some count ∧
    resultData = some result ∧ FetchResult count result
  imported : saga.currentStep = 1 → ∃ result, resultData = some result ∧
    ImportResult (saga.context.fetchedItems.getD []).length rows result
  later : saga.currentStep ≠ 0 → after = before

section Saga

variable {before after : Option Nat} {rows : Nat} {saga next : SagaInstance BankSyncContext}

theorem counts_while_fetching (started : saga.status = .started) (position : saga.currentStep = 0)
    (counts : ContextCounts before rows saga) : ContextCounts after rows saga := by
  have nothing := counts.notImported started (by omega)
  refine ⟨counts.fetching, ?_, counts.notImported, counts.marking, ?_⟩
  · intro _ _
    omega
  · rw [nothing]
    intro _
    contradiction

variable {resultData : Option ResultData}

theorem fetched_counts (counts : ContextCounts before rows saga) (started : saga.status = .started)
    (position : saga.currentStep = 0) (brings : Brings before after rows saga resultData)
    (context : next.context = onReply saga.currentStep saga.context resultData)
    (goesOn : next.status = .started → next.currentStep = saga.currentStep + 1) :
    ContextCounts after rows next ∧ CountersKept saga.context next.context := by
  obtain ⟨count, _, isCount, rfl, fetched⟩ := brings.fetched position
  obtain ⟨noItems, noErrors⟩ := counts.fetching started position
  have nothing := counts.notImported started (by omega)
  rw [position] at context
  have stillNothing : next.context.newImported = none := by
    rw [context]
    exact nothing
  refine ⟨⟨?_, ?_, ?_, ?_, ?_⟩, ⟨?_, ?_⟩⟩
  · intro ongoing _
    have further := goesOn ongoing
    omega
  · intro _ _
    rw [context]
    exact ⟨count, isCount, fetch_merges fetched noErrors⟩
  · intro _ _
    exact stillNothing
  · intro ongoing _
    have further := goesOn ongoing
    omega
  · rw [stillNothing]
    intro _
    contradiction
  · rw [noItems]
    intro _
    contradiction
  · rw [nothing]
    intro _
    contradiction

theorem imported_counts (counts : ContextCounts before rows saga) (started : saga.status = .started)
    (position : saga.currentStep = 1) (brings : Brings before after rows saga resultData)
    (context : next.context = onReply saga.currentStep saga.context resultData)
    (goesOn : next.status = .started → next.currentStep = saga.currentStep + 1) :
    ContextCounts after rows next ∧ CountersKept saga.context next.context := by
  obtain ⟨_, rfl, imported⟩ := brings.imported position
  obtain ⟨count, isCount, fetched⟩ := counts.importing started position
  have nothing := counts.notImported started (by omega)
  have same := brings.later (by omega)
  rw [position] at context
  have merged : ImportMerged count rows next.context := by
    rw [context]
    exact import_merges imported fetched
  refine ⟨⟨?_, ?_, ?_, ?_, ?_⟩, ⟨?_, ?_⟩⟩
  · intro ongoing _
    have further := goesOn ongoing
    omega
  · intro ongoing _
    have further := goesOn ongoing
    omega
  · intro ongoing _
    have further := goesOn ongoing
    omega
  · intro _ _
    rw [merged.imported]
    rfl
  · intro _
    exact ⟨count, same.trans isCount, merged⟩
  · intro _
    rw [context]
    rfl
  · rw [nothing]
    intro _
    contradiction

theorem marked_counts (counts : ContextCounts before rows saga) (started : saga.status = .started)
    (position : 2 ≤ saga.currentStep) (brings : Brings before after rows saga resultData)
    (context : next.context = onReply saga.currentStep saga.context resultData)
    (goesOn : next.status = .started → next.currentStep = saga.currentStep + 1) :
    ContextCounts after rows next ∧ CountersKept saga.context next.context := by
  have same : next.context = saga.context := by
    rw [context]
    obtain ⟨_, isIndex⟩ := Nat.exists_eq_add_of_le' position
    rw [isIndex]
    cases resultData with
    | none | some => rfl
  have marked := counts.marking started position
  rw [brings.later (by omega)]
  refine ⟨⟨?_, ?_, ?_, ?_, ?_⟩, ?_⟩
  · intro ongoing _
    have further := goesOn ongoing
    omega
  · intro ongoing _
    have further := goesOn ongoing
    omega
  · intro ongoing _
    have further := goesOn ongoing
    omega
  · intro _ _
    rw [same]
    exact marked
  · rw [same]
    exact counts.imported
  · rw [same]
    exact counters_kept_refl saga.context

theorem advanced_counts (counts : ContextCounts before rows saga) (started : saga.status = .started)
    (brings : Brings before after rows saga resultData)
    (context : next.context = onReply saga.currentStep saga.context resultData)
    (goesOn : next.status = .started → next.currentStep = saga.currentStep + 1) :
    ContextCounts after rows next ∧ CountersKept saga.context next.context := by
  by_cases fetching : saga.currentStep = 0
  · exact fetched_counts counts started fetching brings context goesOn
  · by_cases importing : saga.currentStep = 1
    · exact imported_counts counts started importing brings context goesOn
    · exact marked_counts counts started (by omega) brings context goesOn

theorem unwound_counts (counts : ContextCounts before rows saga)
    (context : next.context = saga.context) (ended : next.status ≠ .started) :
    ContextCounts before rows next := by
  refine ⟨?_, ?_, ?_, ?_, ?_⟩
  · intro started
    exact absurd started ended
  · intro started
    exact absurd started ended
  · intro started
    exact absurd started ended
  · intro started
    exact absurd started ended
  · rw [context]
    exact counts.imported

end Saga

/-- What the saga and the commands it has emitted say of its counters. -/
structure SagaCounts (sagaId : String) (parsed : Option Nat) (rows : Nat) (db : BankSyncDb) :
    Prop where
  context : ∀ saga, getById db sagaId = some saga → ContextCounts parsed rows saga
  commands : ∀ entry ∈ db.outbox, entry.payload.sagaId = sagaId →
    ∃ saga, getById db sagaId = some saga ∧ CommandCounts saga (commandBody entry)

def acceptsReply (db : BankSyncDb) (sagaId : String) (stepIndex : Nat) :
    Call BankSyncContext ResultData → Bool
  | .handleReply _ id stepName success _ _ =>
    success && id = sagaId && (getById db sagaId).any fun saga =>
      saga.status = .started && saga.currentStep = stepIndex &&
        saga.currentStepObj.any fun step => step.name = stepName
  | _ => false

variable {call : Call BankSyncContext ResultData} {work : SagaWork BankSyncContext CommandFields}

theorem accepts_reply_saga {db : BankSyncDb} {sagaId : String} {stepIndex : Nat}
    (accepts : acceptsReply db sagaId stepIndex call = true) :
    ∃ now stepName resultData errorMessage saga step,
      call = .handleReply now sagaId stepName true resultData errorMessage ∧
        getById db sagaId = some saga ∧ saga.status = .started ∧ saga.currentStep = stepIndex ∧
        saga.currentStepObj = some step ∧ step.name = stepName := by
  unfold acceptsReply at accepts
  split at accepts
  · next now id stepName success resultData errorMessage =>
    simp only [Bool.and_eq_true, decide_eq_true_eq, Option.any_eq_true] at accepts
    obtain ⟨⟨succeeded, isSaga⟩, saga, found, ⟨started, position⟩, step, current, name⟩ := accepts
    subst succeeded isSaga
    exact ⟨now, stepName, resultData, errorMessage, saga, step, rfl, found, started, position,
      current, name⟩
  · contradiction

variable {db : BankSyncDb} {sagaId : String} {before after : Option Nat} {rows : Nat}

theorem store_keeps_saga_counts {saga : SagaInstance BankSyncContext}
    (found : getById db saga.id = some saga) (sameId : work.1.id = saga.id)
    (own : ∀ entry ∈ work.2, entry.payload.sagaId = saga.id)
    (here : saga.id = sagaId → ContextCounts after rows work.1 ∧
      CountersKept saga.context work.1.context ∧
      ∀ entry ∈ work.2, CommandCounts work.1 (commandBody entry))
    (elsewhere : saga.id ≠ sagaId → after = before) (counts : SagaCounts sagaId before rows db) :
    SagaCounts sagaId after rows (storeWork db work) := by
  have stored := get_stored found sameId sagaId
  by_cases isSaga : sagaId = saga.id
  · rw [if_pos isSaga] at stored
    obtain ⟨context, kept, commands⟩ := here isSaga.symm
    constructor
    · intro _ isNext
      rw [stored] at isNext
      cases isNext
      exact ⟨context.1, context.2, context.3, context.4, context.5⟩
    · intro entry member ofSaga
      refine ⟨writeColumns saga work.1, stored, ?_⟩
      rcases mem_append.mp member with earlier | added
      · obtain ⟨_, oldFound, command⟩ := counts.commands entry earlier ofSaga
        rw [isSaga, found] at oldFound
        cases oldFound
        exact command_counts_kept kept command
      · obtain ⟨fetches, imports, marks⟩ := commands entry added
        exact ⟨fetches, imports, marks⟩
  · rw [if_neg isSaga] at stored
    rw [elsewhere fun same => isSaga same.symm]
    constructor
    · intro next isNext
      rw [stored] at isNext
      exact counts.context next isNext
    · intro entry member ofSaga
      rw [stored]
      rcases mem_append.mp member with earlier | added
      · exact counts.commands entry earlier ofSaga
      · rw [own entry added] at ofSaga
        exact absurd ofSaga.symm isSaga

theorem unwinding_keeps_saga_counts {saga : SagaInstance BankSyncContext}
    (found : getById db saga.id = some saga) (unwinding : Unwinding bankSyncDefinition saga work)
    (counts : SagaCounts sagaId before rows db) :
    SagaCounts sagaId before rows (storeWork db work) := by
  obtain ⟨context, notStarted, _, added⟩ := unwinding_shape unwinding
  have sameId := (unwinding_kept unwinding).id
  refine store_keeps_saga_counts found sameId ?_ ?_ (fun _ => rfl) counts
  · intro entry member
    obtain ⟨_, row⟩ := added entry member
    obtain ⟨_, _, _, _, _, _, _, _, rfl⟩ := row
    exact sameId
  · intro isSaga
    subst isSaga
    refine ⟨unwound_counts (counts.context saga found) context notStarted, ?_, ?_⟩
    · rw [context]
      exact counters_kept_refl saga.context
    · intro entry member
      exact compensation_command_counts (added entry member).2

theorem insert_keeps_saga_counts {next : BankSyncDb} {event : BankSyncStart}
    (inserted : Inserted sagaRegistry (startContext event) db next)
    (counts : SagaCounts sagaId before rows db) : SagaCounts sagaId before rows next := by
  cases inserted with
  | @inserted definition saga command registered absent fresh given published =>
    cases registered_definition registered
    have lookups := @get_inserted db saga (db.outbox ++ [command]) absent sagaId
    have ofNew := (published_command_of published).1
    by_cases isSaga : sagaId = saga.id
    · rw [if_pos isSaga] at lookups
      constructor
      · intro _ isStored
        rw [lookups] at isStored
        cases isStored
        have position := fresh.position
        refine ⟨?_, ?_, ?_, ?_, ?_⟩
        · intro _ _
          rw [given]
          exact ⟨rfl, rfl⟩
        · intro _ _
          omega
        · intro _ _
          rw [given]
          rfl
        · intro _ _
          omega
        · rw [given]
          intro _
          contradiction
      · intro entry member ofSaga
        refine ⟨saga, lookups, ?_⟩
        rcases mem_snoc.mp member with earlier | rfl
        · obtain ⟨old, oldFound, _⟩ := counts.commands entry earlier ofSaga
          obtain ⟨stored, isId⟩ := lookup_mem oldFound
          exact absurd (isId.trans isSaga) (absent old stored)
        · exact published_command_counts (by omega) published
    · rw [if_neg isSaga] at lookups
      constructor
      · intro stored isStored
        rw [lookups] at isStored
        exact counts.context stored isStored
      · intro entry member ofSaga
        rw [lookups]
        rcases mem_snoc.mp member with earlier | rfl
        · exact counts.commands entry earlier ofSaga
        · rw [ofNew] at ofSaga
          exact absurd ofSaga.symm isSaga

theorem decided_success_context {saga : SagaInstance BankSyncContext} {now : Instant}
    {stepName : String} {resultData : Option ResultData} {errorMessage : Option String}
    (decided : decideReply sagaRegistry now saga stepName true resultData errorMessage = .ok work)
    (registered : getDefinition sagaRegistry saga.sagaType = .ok bankSyncDefinition) :
    work.1.context = onReply saga.currentStep saga.context resultData := by
  unfold decideReply at decided
  dsimp only at decided
  split at decided
  · cases decided
  · obtain ⟨_, isDefinition, decided⟩ := bind_eq_ok.mp decided
    rw [registered] at isDefinition
    cases isDefinition
    obtain ⟨_, decided⟩ := rest_ok decided
    rw [if_pos rfl] at decided
    unfold advance at decided
    obtain ⟨_, merged, decided⟩ := bind_eq_ok.mp decided
    cases merged
    dsimp only at decided
    split at decided
    · cases decided
      rfl
    · obtain ⟨_, decided⟩ := rest_ok decided
      cases decided
      rfl

theorem accepted_keeps_saga_counts {saga : SagaInstance BankSyncContext}
    {resultData : Option ResultData} (found : getById db saga.id = some saga)
    (advancing : Advancing bankSyncDefinition saga work)
    (context : work.1.context = onReply saga.currentStep saga.context resultData)
    (brings : saga.id = sagaId → Brings before after rows saga resultData)
    (elsewhere : saga.id ≠ sagaId → after = before) (counts : SagaCounts sagaId before rows db) :
    SagaCounts sagaId after rows (storeWork db work) := by
  have sameId := (advancing_kept advancing).id
  cases advancing with
  | @advanced next entry kept started ongoing position inside completedAt merged statuses command =>
    refine store_keeps_saga_counts found sameId ?_ ?_ elsewhere counts
    · intro _ member
      rw [mem_singleton.mp member]
      exact (published_command_of command).1.trans sameId
    · intro isSaga
      subst isSaga
      obtain ⟨nextCounts, countersKept⟩ := advanced_counts (counts.context saga found) started
        (brings rfl) context fun _ => position
      refine ⟨nextCounts, countersKept, ?_⟩
      intro _ member
      rw [mem_singleton.mp member]
      exact published_command_counts (nextCounts.marking ongoing) command
  | @completed next kept started ended last completedAt merged statuses =>
    refine store_keeps_saga_counts found sameId ?_ ?_ elsewhere counts
    · intro _ _
      contradiction
    · intro isSaga
      subst isSaga
      obtain ⟨nextCounts, countersKept⟩ := advanced_counts (counts.context saga found) started
        (brings rfl) context (by
          intro ongoing
          rw [ended] at ongoing
          contradiction)
      refine ⟨nextCounts, countersKept, ?_⟩
      intro _ _
      contradiction

theorem other_call_keeps_saga_counts (fromEvent : StartsFromEvent call)
    (invariant : BankSyncInvariant db)
    (other : ∀ now id stepName resultData errorMessage,
      call ≠ .handleReply now id stepName true resultData errorMessage)
    (counts : SagaCounts sagaId before rows db) :
    SagaCounts sagaId before rows (runCall sagaRegistry db call) := by
  have kept : BankSyncInvariant (runCall sagaRegistry db call) ∧
      SagaCounts sagaId before rows (runCall sagaRegistry db call) := by
    apply @run_call_rule _ _ _ sagaRegistry
      (fun current => BankSyncInvariant current ∧ SagaCounts sagaId before rows current) db call
    · exact ⟨invariant, counts⟩
    · intro _ _ _ _ _ _ isStart inserted
      obtain ⟨_, rfl⟩ := fromEvent _ _ _ _ _ isStart
      exact ⟨(insert_keeps_bank_sync invariant inserted).1,
        insert_keeps_saga_counts inserted counts⟩
    · rintro current saga work ⟨currentInvariant, currentCounts⟩ found decides
      refine ⟨(store_keeps_bank_sync currentInvariant found decides).1, ?_⟩
      have ready := stored_ready currentInvariant.valid found
      have unwinds : ∃ definition, getDefinition sagaRegistry saga.sagaType = .ok definition ∧
          Unwinding definition saga work := by
        cases call with
        | startSaga => exact decides.elim
        | handleReply now id stepName success resultData errorMessage =>
          cases success with
          | true => exact absurd rfl (other now id stepName resultData errorMessage)
          | false =>
            obtain ⟨definition, registered, _, _, _, rejected⟩ :=
              decide_reply_cases ready decides.2
            exact ⟨definition, registered, rejected rfl⟩
        | handleCompensationReply =>
          obtain ⟨definition, registered, _, _, unwinding⟩ :=
            decide_compensation_reply_cases ready decides.2
          exact ⟨definition, registered, unwinding⟩
        | checkTimeouts =>
          obtain ⟨definition, registered, _, _, unwinding⟩ := decide_timeout_cases ready decides
          exact ⟨definition, registered, unwinding⟩
      obtain ⟨_, registered, unwinding⟩ := unwinds
      cases registered_definition registered
      exact unwinding_keeps_saga_counts found unwinding currentCounts
  exact kept.2

/-- A call that changes nothing; the reply may have been taken at the fetch. -/
theorem unchanged_keeps_saga_counts
    (otherwise : acceptsReply db sagaId 0 call = false → after = before)
    (counts : SagaCounts sagaId before rows db) : SagaCounts sagaId after rows db := by
  refine ⟨?_, counts.commands⟩
  intro saga found
  cases accepts : acceptsReply db sagaId 0 call with
  | false =>
    rw [otherwise accepts]
    exact counts.context saga found
  | true =>
    obtain ⟨_, _, _, _, _, _, _, isStored, started, position, _⟩ :=
      accepts_reply_saga accepts
    rw [found] at isStored
    cases isStored
    exact counts_while_fetching started position (counts.context saga found)

theorem rows_free_before_import {other : Nat}
    (notImported : ∀ saga, getById db sagaId = some saga → saga.context.newImported = none)
    (counts : SagaCounts sagaId before rows db) : SagaCounts sagaId before other db := by
  refine ⟨?_, counts.commands⟩
  intro saga found
  obtain ⟨fetching, importing, early, marking, _⟩ := counts.context saga found
  refine ⟨fetching, importing, early, marking, ?_⟩
  rw [notImported saga found]
  intro _
  contradiction

theorem call_keeps_saga_counts (fromEvent : StartsFromEvent call) (invariant : BankSyncInvariant db)
    (brings : ∀ now stepName resultData errorMessage saga,
      call = .handleReply now sagaId stepName true resultData errorMessage →
        getById db sagaId = some saga → acceptsReply db sagaId saga.currentStep call = true →
          Brings before after rows saga resultData)
    (otherwise : acceptsReply db sagaId 0 call = false → after = before)
    (counts : SagaCounts sagaId before rows db) :
    SagaCounts sagaId after rows (runCall sagaRegistry db call) := by
  by_cases isReply : ∃ now id stepName resultData errorMessage,
      call = .handleReply now id stepName true resultData errorMessage
  · obtain ⟨now, id, stepName, resultData, errorMessage, rfl⟩ := isReply
    rcases state_after_cases db
      (handleReply sagaRegistry db now id stepName true resultData errorMessage) with
      same | ⟨saga, returned⟩
    · change SagaCounts sagaId after rows (stateAfter db _)
      rw [same]
      exact unchanged_keeps_saga_counts otherwise counts
    · change SagaCounts sagaId after rows (stateAfter db _)
      generalize stateAfter db _ = next at returned ⊢
      obtain ⟨stored, _, rfl, found, decided, isNext⟩ := reply_ok returned
      cases isNext
      obtain ⟨registered, _⟩ := stored_bank_sync invariant.valid found
      obtain ⟨_, other, started, ⟨_, current, name⟩, accepted, _⟩ :=
        decide_reply_cases (stored_ready invariant.valid found) decided
      cases registered_definition other
      apply accepted_keeps_saga_counts found (accepted rfl)
        (decided_success_context decided registered) _ _ counts
      · intro isSaga
        subst isSaga
        apply brings now stepName resultData errorMessage stored rfl found
        unfold acceptsReply
        simp [found, started, current, name]
      · intro isOther
        apply otherwise
        unfold acceptsReply
        simp [isOther]
  · have same : after = before := by
      apply otherwise
      rw [Bool.eq_false_iff]
      intro accepts
      obtain ⟨now, stepName, resultData, errorMessage, _, _, isCall, _⟩ :=
        accepts_reply_saga accepts
      exact isReply ⟨now, sagaId, stepName, resultData, errorMessage, isCall⟩
    rw [same]
    apply other_call_keeps_saga_counts fromEvent invariant _ counts
    intro now id stepName resultData errorMessage isCall
    exact isReply ⟨now, id, stepName, resultData, errorMessage, isCall⟩

def Emitted (db : BankSyncDb) (command : SagaCommand) : Prop :=
  ∃ entry ∈ db.outbox, commandBody entry = command

theorem emitted_stays {command : SagaCommand} (emitted : Emitted db command) :
    Emitted (runCall sagaRegistry db call) command := by
  obtain ⟨entry, member, isCommand⟩ := emitted
  refine ⟨entry, ?_, isCommand⟩
  apply @run_call_rule _ _ _ sagaRegistry (fun current => entry ∈ current.outbox) db call member
  · intro _ _ _ _ _ _ _ inserted
    cases inserted with
    | inserted => exact mem_append_left _ member
  · intro _ _ _ stored _ _
    exact mem_append_left _ stored

theorem emitted_counts {command : SagaCommand} (counts : SagaCounts sagaId before rows db)
    (emitted : Emitted db command) (ofSaga : command.sagaId = sagaId) :
    ∃ saga, getById db sagaId = some saga ∧ CommandCounts saga command := by
  obtain ⟨entry, member, rfl⟩ := emitted
  exact counts.commands entry member ofSaga

end FinanceTracker.Saga.BankSyncCounts
