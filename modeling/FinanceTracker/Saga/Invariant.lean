import Mathlib.Logic.Relation
import FinanceTracker.Saga.Transitions

/-!
# The saga state machine

The invariant couples the status of a saga, its cursor and the status of each
of its steps. Each transition keeps it; each call of the orchestrator is a
sequence of transitions on stored sagas, or inserts a new one, or changes
nothing. It therefore holds of every stored saga after every run of calls.
-/

namespace FinanceTracker.Saga.Invariant

open Library KeyedRows Runs Domain Orchestrator Transitions List

variable {Context Payload Result : Type}

/-- Steps before the cursor SUCCEEDED, the cursor's is EXECUTING, later ones are PENDING. -/
structure StartedShape (saga : SagaInstance Context) : Prop where
  inside : saga.currentStep < saga.steps.length
  before : ∀ index < saga.currentStep, saga.stepStatus index = some .succeeded
  current : saga.stepStatus saga.currentStep = some .executing
  later : ∀ index, saga.currentStep < index → index < saga.steps.length →
    saga.stepStatus index = some .pending

/-- Compensation stands at the cursor on its way back from the step that failed. -/
structure CompensatingShape (definition : SagaDefinition Context Payload Result)
    (saga : SagaInstance Context) (failed : Nat) : Prop where
  after : saga.currentStep < failed
  failedOnly : ∀ index, saga.stepStatus index = some .failed ↔ index = failed
  pending : ∀ index, failed < index → index < saga.steps.length →
    saga.stepStatus index = some .pending
  current : saga.stepStatus saga.currentStep = some .succeeded
  command : HasCompensationCommand definition saga.currentStep saga.context
  between : ∀ index, saga.currentStep < index → index < failed →
    saga.stepStatus index = some .compensated
  before : ∀ index < saga.currentStep, saga.stepStatus index = some .succeeded

structure SagaInvariant (definition : SagaDefinition Context Payload Result)
    (saga : SagaInstance Context) : Prop where
  labels : ∀ index : Nat, saga.steps[index]?.map stepLabel =
    definition.steps[index]?.map fun stepDef => (index, stepDef.name)
  started : saga.status = .started → StartedShape saga
  compensating : saga.status = .compensating → ∃ failed, CompensatingShape definition saga failed
  completed : saga.status = .completed → ∀ step ∈ saga.steps, step.status = .succeeded
  timedOut : saga.status = .timedOut → ∀ step ∈ saga.steps, step.status = .succeeded →
    ¬ HasCompensationCommand definition step.index saga.context
  completedAt : saga.completedAt.isSome ↔
    saga.status = .completed ∨ saga.status = .failed ∨ saga.status = .timedOut

theorem is_active_iff (saga : SagaInstance Context) :
    saga.isActive = true ↔ saga.status = .started ∨ saga.status = .compensating := by
  simp [SagaInstance.isActive]

variable {saga stored finished : SagaInstance Context}
  {definition : SagaDefinition Context Payload Result} {work : SagaWork Context Payload}
  {db next : SagaDb Context Payload} {registry : SagaRegistry Context Payload Result}
  {sagaId stepName : String} {context : Context} {now : Instant} {call : Call Context Result}
  {index : Nat} {entry : OutboxEntry Payload} {added : List (OutboxEntry Payload)}
  {sagaType : String} {success : Bool} {errorMessage : Option String} {maxAge : Int}
  {cutoff : Instant} {progress : SagaDb Context Payload × List (SagaInstance Context)}

theorem step_status_of_get {step : SagaStep} (found : saga.steps[index]? = some step) :
    saga.stepStatus index = some step.status := by
  simp [SagaInstance.stepStatus, found]

theorem step_status_none (outside : saga.steps.length ≤ index) :
    saga.stepStatus index = none := by
  simp [SagaInstance.stepStatus, outside]

theorem kept_length {next : SagaInstance Context} (kept : Kept saga next) :
    next.steps.length = saga.steps.length := by
  apply Nat.le_antisymm
  · have outside := kept.labels saga.steps.length
    rw [List.getElem?_eq_none (Nat.le_refl _)] at outside
    simpa using outside
  · have outside := kept.labels next.steps.length
    rw [List.getElem?_eq_none (Nat.le_refl next.steps.length)] at outside
    simpa using outside.symm

/-- An active saga gives the helpers what they need. -/
theorem cursor_ready (invariant : SagaInvariant definition saga) (active : saga.isActive = true) :
    CursorReady saga := by
  rcases (is_active_iff saga).mp active with started | compensating
  · have shape := invariant.started started
    exact ⟨shape.inside, shape.before⟩
  · obtain ⟨_, shape⟩ := invariant.compensating compensating
    exact ⟨step_status_isSome shape.current, shape.before⟩

theorem has_command_of_row {next : SagaInstance Context}
    (row : CompensationRow definition next entry) :
    HasCompensationCommand definition next.currentStep next.context := by
  obtain ⟨_, stepDef, compensateEventType, payload, _, defined, compensates, built, _⟩ := row
  exact ⟨stepDef, compensateEventType, payload, defined, compensates, built⟩

/-- The labels of a transition's result are those of the definition. -/
theorem kept_labels {next : SagaInstance Context} (invariant : SagaInvariant definition saga)
    (kept : Kept saga next) (index : Nat) : next.steps[index]?.map stepLabel =
      definition.steps[index]?.map fun stepDef => (index, stepDef.name) :=
  (kept.labels index).trans (invariant.labels index)

/-- A saga that ended FAILED owes nothing but its completion time. -/
theorem failed_invariant
    (labels : ∀ index : Nat, saga.steps[index]?.map stepLabel =
      definition.steps[index]?.map fun stepDef => (index, stepDef.name))
    (failed : saga.status = .failed) (completedAt : saga.completedAt.isSome) :
    SagaInvariant definition saga where
  labels := labels
  started := by simp [failed]
  compensating := by simp [failed]
  completed := by simp [failed]
  timedOut := by simp [failed]
  completedAt := by simp [failed, completedAt]

theorem compensating_invariant (failed : Nat)
    (labels : ∀ index : Nat, saga.steps[index]?.map stepLabel =
      definition.steps[index]?.map fun stepDef => (index, stepDef.name))
    (compensating : saga.status = .compensating) (running : saga.completedAt.isSome = false)
    (shape : CompensatingShape definition saga failed) : SagaInvariant definition saga where
  labels := labels
  started := by simp [compensating]
  compensating := fun _ => ⟨failed, shape⟩
  completed := by simp [compensating]
  timedOut := by simp [compensating]
  completedAt := by simp [compensating, running]

theorem running_of_active (invariant : SagaInvariant definition saga)
    (active : saga.status = .started ∨ saga.status = .compensating) :
    saga.completedAt.isSome = false := by
  rw [Bool.eq_false_iff]
  intro finished
  have ended := invariant.completedAt.mp finished
  rcases active with status | status <;> simp [status] at ended

theorem advancing_keeps {next : SagaInstance Context} (invariant : SagaInvariant definition saga)
    (advancing : Advancing definition saga (next, added)) : SagaInvariant definition next := by
  cases advancing with
  | advanced kept before after position inside completedAt context statuses =>
    have shape := invariant.started before
    have running := running_of_active invariant (Or.inl before)
    refine ⟨kept_labels invariant kept, fun _ => ⟨?_, ?_, ?_, ?_⟩, by simp [after],
      by simp [after], by simp [after], by simp [after, completedAt, running]⟩
    · rw [kept_length kept]
      exact inside
    · intro index _
      rw [statuses]
      by_cases here : index = saga.currentStep
      · rw [if_pos here]
      · rw [if_neg here, if_neg (by omega)]
        exact shape.before index (by omega)
    · rw [statuses, if_neg (by omega), if_pos position]
    · intro index _ inRange
      rw [kept_length kept] at inRange
      rw [statuses, if_neg (by omega), if_neg (by omega)]
      exact shape.later index (by omega) inRange
  | completed kept before after last completedAt context statuses =>
    have shape := invariant.started before
    refine ⟨kept_labels invariant kept, by simp [after], by simp [after], fun _ => ?_,
      by simp [after], by simp [after, completedAt]⟩
    intro _ member
    obtain ⟨index, found⟩ := mem_iff_getElem?.mp member
    have inRange := (List.getElem?_eq_some_iff.mp found).1
    rw [kept_length kept] at inRange
    have status := statuses index
    rw [step_status_of_get found] at status
    by_cases here : index = saga.currentStep
    · rw [if_pos here] at status
      exact Option.some.inj status
    · rw [if_neg here, shape.before index (by omega)] at status
      exact Option.some.inj status

theorem unwinding_keeps {next : SagaInstance Context} (invariant : SagaInvariant definition saga)
    (unwinding : Unwinding definition saga (next, added)) : SagaInvariant definition next := by
  cases unwinding with
  | compensationStarted kept before after earlier completedAt context statuses command =>
    have shape := invariant.started before
    have running := running_of_active invariant (Or.inl before)
    refine compensating_invariant saga.currentStep (kept_labels invariant kept)
      after (by rw [completedAt, running]) ⟨earlier, ?_, ?_, ?_, has_command_of_row command,
      ?_, ?_⟩
    · intro index
      rw [statuses]
      by_cases here : index = saga.currentStep
      · simp [here]
      · rw [if_neg here]
        split_ifs
        · simp [here]
        · rcases Nat.lt_or_gt_of_ne here with lower | upper
          · simp [shape.before index lower, here]
          · by_cases inRange : index < saga.steps.length
            · simp [shape.later index upper inRange, here]
            · simp [step_status_none (Nat.le_of_not_lt inRange), here]
    · intro index bound inRange
      rw [kept_length kept] at inRange
      rw [statuses, if_neg (by omega), if_neg (by omega)]
      exact shape.later index bound inRange
    · rw [statuses, if_neg (by omega), if_neg (by omega)]
      exact shape.before _ earlier
    · intro _ lower upper
      rw [statuses, if_neg (by omega), if_pos ⟨lower, upper⟩]
    · intro index _
      rw [statuses, if_neg (by omega), if_neg (by omega)]
      exact shape.before index (by omega)
  | failedAtOnce kept before after completedAt
  | compensationFinished kept before after completedAt
  | compensationFailed kept before after completedAt =>
    exact failed_invariant (kept_labels invariant kept) after completedAt
  | timedOut kept before after completedAt context statuses nothing =>
    refine ⟨kept_labels invariant kept, by simp [after], by simp [after], by simp [after],
      fun _ => ?_, by simp [after, completedAt]⟩
    intro step member succeeded
    obtain ⟨index, found⟩ := mem_iff_getElem?.mp member
    have label := kept.labels index
    have status := statuses index
    rw [step_status_of_get found] at status
    rw [found, Option.map_some] at label
    obtain ⟨old, oldFound, oldLabel⟩ := Option.map_eq_some_iff.mp label.symm
    rw [step_status_of_get oldFound] at status
    have sameStatus := Option.some.inj status
    have absent := nothing old (mem_of_getElem? oldFound) (sameStatus.symm.trans succeeded)
    have sameIndex : old.index = step.index := congrArg Prod.fst oldLabel
    rw [context, ← sameIndex]
    exact absent
  | compensationContinued kept before after earlier completedAt context detail statuses command =>
    obtain ⟨failed, shape⟩ := invariant.compensating before
    have running := running_of_active invariant (Or.inr before)
    have after_cursor := shape.after
    refine compensating_invariant failed (kept_labels invariant kept) after
      (by rw [completedAt, running]) ⟨by omega, ?_, ?_, ?_, has_command_of_row command, ?_, ?_⟩
    · intro index
      rw [statuses]
      split_ifs with passed
      · have other : index ≠ failed := by omega
        simp [other]
      · exact shape.failedOnly index
    · intro index bound inRange
      rw [kept_length kept] at inRange
      rw [statuses, if_neg (by omega)]
      exact shape.pending index bound inRange
    · rw [statuses, if_neg (by omega)]
      exact shape.before _ earlier
    · intro index lower upper
      rw [statuses]
      by_cases passed : index ≤ saga.currentStep
      · rw [if_pos ⟨lower, passed⟩]
      · rw [if_neg (by omega)]
        exact shape.between index (by omega) upper
    · intro index _
      rw [statuses, if_neg (by omega)]
      exact shape.before index (by omega)
  | reemitted kept before after position completedAt context statuses unmarked marked command =>
    obtain ⟨failed, shape⟩ := invariant.compensating before
    have running := running_of_active invariant (Or.inr before)
    refine compensating_invariant failed (kept_labels invariant kept) after
      (by rw [completedAt, running]) ⟨?_, ?_, ?_, ?_, has_command_of_row command, ?_, ?_⟩
    · rw [position]
      exact shape.after
    · intro index
      rw [statuses]
      exact shape.failedOnly index
    · intro index bound inRange
      rw [kept_length kept] at inRange
      rw [statuses]
      exact shape.pending index bound inRange
    · rw [position, statuses]
      exact shape.current
    · intro index lower upper
      rw [position] at lower
      rw [statuses]
      exact shape.between index lower upper
    · intro index bound
      rw [position] at bound
      rw [statuses]
      exact shape.before index bound

structure DbInvariant (registry : SagaRegistry Context Payload Result)
    (db : SagaDb Context Payload) : Prop where
  ids : DistinctKeys SagaInstance.id db.sagas
  sagas : ∀ saga ∈ db.sagas, ∃ definition,
    getDefinition registry saga.sagaType = .ok definition ∧ SagaInvariant definition saga

/-- The row of a saga as `start_saga` leaves it. -/
structure FreshSaga (definition : SagaDefinition Context Payload Result)
    (saga : SagaInstance Context) : Prop where
  labels : ∀ index : Nat, saga.steps[index]?.map stepLabel =
    definition.steps[index]?.map fun stepDef => (index, stepDef.name)
  status : saga.status = .started
  position : saga.currentStep = 0
  shape : StartedShape saga
  completedAt : saga.completedAt = none

/-- `start_saga` adds one fresh saga and the command of its first step. -/
inductive Inserted (registry : SagaRegistry Context Payload Result) (context : Context)
    (db : SagaDb Context Payload) : SagaDb Context Payload → Prop
  | inserted {definition : SagaDefinition Context Payload Result} {saga : SagaInstance Context}
      {command : OutboxEntry Payload}
      (registered : getDefinition registry saga.sagaType = .ok definition)
      (absent : ∀ stored ∈ db.sagas, stored.id ≠ saga.id)
      (fresh : FreshSaga definition saga) (given : saga.context = context)
      (published : publishStepCommand saga definition 0 = .ok command) :
      Inserted registry context db { sagas := db.sagas ++ [saga], outbox := db.outbox ++ [command] }

/-- An accepted successful reply to `stepName` advances the stored saga. -/
inductive Advanced (registry : SagaRegistry Context Payload Result)
    (sagaId stepName : String) (db : SagaDb Context Payload) : SagaDb Context Payload → Prop
  | advanced {definition : SagaDefinition Context Payload Result} {saga : SagaInstance Context}
      {work : SagaWork Context Payload} (found : getById db sagaId = some saga)
      (registered : getDefinition registry saga.sagaType = .ok definition)
      (current : ∃ step, saga.currentStepObj = some step ∧ step.name = stepName)
      (advancing : Advancing definition saga work) :
      Advanced registry sagaId stepName db (storeWork db work)

/-- A failure, a compensation reply or a timeout unwinds one stored saga. -/
inductive Unwound (registry : SagaRegistry Context Payload Result)
    (db : SagaDb Context Payload) : SagaDb Context Payload → Prop
  | unwound {definition : SagaDefinition Context Payload Result} {sagaId : String}
      {saga : SagaInstance Context} {work : SagaWork Context Payload}
      (found : getById db sagaId = some saga)
      (registered : getDefinition registry saga.sagaType = .ok definition)
      (unwinding : Unwinding definition saga work) :
      Unwound registry db (storeWork db work)

theorem write_columns_kept {next : SagaInstance Context} (kept : Kept stored next) :
    writeColumns stored next = { next with startedAt := stored.startedAt } := by
  simp only [writeColumns, ← kept.id, ← kept.sagaType, ← kept.correlationId]

theorem advancing_kept (advancing : Advancing definition saga work) : Kept saga work.1 := by
  cases advancing <;> assumption

theorem unwinding_kept (unwinding : Unwinding definition saga work) : Kept saga work.1 := by
  cases unwinding <;> assumption

theorem invariant_started_at (startedAt : Option Instant)
    (invariant : SagaInvariant definition saga) :
    SagaInvariant definition { saga with startedAt := startedAt } where
  labels := invariant.labels
  started status := ⟨(invariant.started status).1, (invariant.started status).2,
    (invariant.started status).3, (invariant.started status).4⟩
  compensating status :=
    have ⟨failed, shape⟩ := invariant.compensating status
    ⟨failed, shape.1, shape.2, shape.3, shape.4, shape.5, shape.6, shape.7⟩
  completed := invariant.completed
  timedOut := invariant.timedOut
  completedAt := invariant.completedAt

theorem mem_store_work {db : SagaDb Context Payload} {stored saga : SagaInstance Context}
    {work : SagaWork Context Payload} (distinct : DistinctKeys SagaInstance.id db.sagas)
    (found : getById db stored.id = some stored) (kept : Kept stored work.1) :
    saga ∈ (storeWork db work).sagas ↔ (saga ∈ db.sagas ∧ saga.id ≠ stored.id) ∨
        saga = { work.1 with startedAt := stored.startedAt } := by
  have isStored := lookup_mem found
  have rows : (storeWork db work).sagas =
      replace SagaInstance.id db.sagas stored.id fun row => writeColumns row work.1 := by
    rw [← kept.id]
    rfl
  rw [rows, mem_replace]
  constructor
  · rintro (other | ⟨old, member, same, rfl⟩)
    · exact Or.inl other
    · have oldStored := (lookup_iff distinct).mpr ⟨member, same⟩
      rw [getById, oldStored] at found
      cases found
      exact Or.inr (write_columns_kept kept)
  · rintro (other | rfl)
    · exact Or.inl other
    · exact Or.inr ⟨stored, isStored.1, rfl, (write_columns_kept kept).symm⟩

theorem store_work_distinct (work : SagaWork Context Payload)
    (distinct : DistinctKeys SagaInstance.id db.sagas) :
    DistinctKeys SagaInstance.id (storeWork db work).sagas :=
  replace_distinct distinct fun _ _ _ => rfl

theorem store_work_invariant (invariant : DbInvariant registry db)
    (found : getById db sagaId = some stored)
    (registered : getDefinition registry stored.sagaType = .ok definition)
    (kept : Kept stored work.1)
    (keeps : SagaInvariant definition stored → SagaInvariant definition work.1) :
    DbInvariant registry (storeWork db work) where
  ids := store_work_distinct work invariant.ids
  sagas := by
    intro saga member
    have isStored := lookup_mem found
    rw [← isStored.2] at found
    rcases (mem_store_work invariant.ids found kept).mp member with other | rfl
    · exact invariant.sagas saga other.1
    · obtain ⟨_, knownRegistered, holds⟩ := invariant.sagas stored isStored.1
      rw [registered] at knownRegistered
      cases knownRegistered
      refine ⟨definition, ?_, invariant_started_at stored.startedAt (keeps holds)⟩
      rw [← registered]
      exact congrArg (getDefinition registry) kept.sagaType

theorem unwound_keeps (invariant : DbInvariant registry db) (unwound : Unwound registry db next) :
    DbInvariant registry next := by
  cases unwound with
  | unwound found registered unwinding =>
    exact store_work_invariant invariant found registered (unwinding_kept unwinding)
      fun holds => unwinding_keeps holds unwinding

theorem advanced_keeps (invariant : DbInvariant registry db)
    (advanced : Advanced registry sagaId stepName db next) : DbInvariant registry next := by
  cases advanced with
  | advanced found registered current advancing =>
    exact store_work_invariant invariant found registered (advancing_kept advancing)
      fun holds => advancing_keeps holds advancing

theorem inserted_keeps (invariant : DbInvariant registry db)
    (inserted : Inserted registry context db next) : DbInvariant registry next := by
  cases inserted with
  | inserted registered absent fresh =>
    refine ⟨append_distinct invariant.ids absent, ?_⟩
    refine forall_mem_append.mpr ⟨invariant.sagas, ?_⟩
    intro saga new
    rw [mem_singleton] at new
    subst new
    refine ⟨_, registered, fresh.labels, fun _ => fresh.shape, ?_, ?_, ?_, ?_⟩
    · simp [fresh.status]
    · simp [fresh.status]
    · simp [fresh.status]
    · simp [fresh.status, fresh.completedAt]

theorem publish_step_command_ok {stepIndex : Nat}
    (published : publishStepCommand saga definition stepIndex = .ok entry) :
    stepIndex < definition.steps.length ∧ entry.role = .execution ∧
      entry.stepIndex = stepIndex ∧ entry.aggregateId = saga.id ∧
      entry.payload.sagaId = saga.id ∧
      definition.steps[stepIndex]?.map StepDefinition.name = some entry.payload.stepName := by
  unfold publishStepCommand at published
  split at published
  · contradiction
  · next stepDef defined =>
    obtain ⟨_, published⟩ := rest_ok published
    cases published
    exact ⟨(List.getElem?_eq_some_iff.mp defined).1, rfl, rfl, rfl, rfl, by simp [defined]⟩

theorem new_saga_fresh (steps : 0 < definition.steps.length) :
    FreshSaga definition
      ((newSaga definition now sagaType context sagaId).modifyStep 0 (markExecuting now)) := by
  have pending : ∀ index, (newSaga definition now sagaType context sagaId).stepStatus index =
      if index < definition.steps.length then some .pending else none := by
    intro index
    simp only [SagaInstance.stepStatus, newSaga, List.getElem?_mapIdx]
    by_cases inRange : index < definition.steps.length
    · simp [inRange]
    · simp [inRange]
  have sameLength : (newSaga definition now sagaType context sagaId).steps.length =
      definition.steps.length := by
    simp [newSaga]
  have inside : 0 < (newSaga definition now sagaType context sagaId).steps.length := by
    rw [sameLength]
    exact steps
  have statuses := modify_step_status_of_present
    (newSaga definition now sagaType context sagaId) inside
    (fun step => show (markExecuting now step).status = .executing from rfl)
  refine ⟨?_, rfl, rfl, ⟨?_, ?_, ?_, ?_⟩, rfl⟩
  · intro index
    refine (modify_step_labels _ 0
      (fun step => show stepLabel (markExecuting now step) = stepLabel step from rfl) index).trans ?_
    simp only [newSaga, List.getElem?_mapIdx, Option.map_map]
    rfl
  · change 0 < ((newSaga definition now sagaType context sagaId).steps.modify 0 _).length
    rw [length_modify]
    exact inside
  · intro index (bound : index < 0)
    exact absurd bound (Nat.not_lt_zero index)
  · exact (statuses 0).trans (if_pos rfl)
  · intro index (later : 0 < index) inRange
    have bound : index < definition.steps.length := by
      simpa [SagaInstance.modifyStep, sameLength] using inRange
    rw [statuses, if_neg (by omega), pending, if_pos bound]

theorem start_saga_inserts {correlationId : Option String} {generatedId : String}
    (returned : startSaga registry db now sagaType context correlationId generatedId =
      .ok (next, saga)) : Inserted registry context db next := by
  unfold startSaga at returned
  obtain ⟨definition, registered, returned⟩ := bind_eq_ok.mp returned
  dsimp only at returned
  split at returned
  · cases returned
  · obtain ⟨_, isSaved, returned⟩ := bind_eq_ok.mp returned
    obtain ⟨command, published, returned⟩ := bind_eq_ok.mp returned
    cases returned
    unfold save at isSaved
    split at isSaved
    · contradiction
    · next unused =>
      cases isSaved
      let created := newSaga definition now sagaType context
        (sagaIdFor correlationId generatedId)
      let executing := created.modifyStep 0 (markExecuting now)
      have absent : ∀ stored ∈ db.sagas, stored.id ≠ created.id := by
        simpa using unused
      have rows : (replace SagaInstance.id (db.sagas ++ [created]) created.id
          fun stored => writeColumns stored executing) = db.sagas ++ [executing] :=
        replace_appended absent
      have fresh : FreshSaga definition executing :=
        new_saga_fresh (publish_step_command_ok published).1
      have publishedAfter : publishStepCommand executing definition 0 = .ok command := published
      change Inserted registry context db
        { sagas := replace SagaInstance.id (db.sagas ++ [created]) created.id
            fun stored => writeColumns stored executing
          outbox := db.outbox ++ [command] }
      rw [rows]
      exact .inserted registered absent fresh rfl publishedAfter

theorem load_for_update_ok (loaded : loadForUpdate db sagaId = .ok saga) :
    getById db sagaId = some saga := by
  unfold loadForUpdate at loaded
  split at loaded
  · contradiction
  · next found =>
    cases loaded
    exact found

theorem reply_ok {decide : SagaInstance Context → Except SagaError (SagaWork Context Payload)}
    {result : SagaDb Context Payload × SagaInstance Context}
    (returned : (do
      let saga ← loadForUpdate db sagaId
      let work ← decide saga
      return (storeWork db work, work.1)) = .ok result) :
    ∃ saga work, saga.id = sagaId ∧ getById db saga.id = some saga ∧ decide saga = .ok work ∧
      (storeWork db work, work.1) = result := by
  obtain ⟨saga, loaded, returned⟩ := bind_eq_ok.mp returned
  obtain ⟨work, decided, returned⟩ := bind_eq_ok.mp returned
  cases returned
  have found := load_for_update_ok loaded
  have sameId := (lookup_mem found).2
  refine ⟨saga, work, sameId, ?_, decided, rfl⟩
  rw [sameId]
  exact found

theorem stored_ready (invariant : DbInvariant registry db) (found : getById db sagaId = some saga) :
    saga.isActive = true → CursorReady saga := by
  intro active
  obtain ⟨_, _, holds⟩ := invariant.sagas saga (lookup_mem found).1
  exact cursor_ready holds active

theorem handle_reply_changes (invariant : DbInvariant registry db) {resultData : Option Result}
    (returned : handleReply registry db now sagaId stepName success resultData errorMessage =
      .ok (next, saga)) :
    (success = true → Advanced registry sagaId stepName db next) ∧
      (success = false → Unwound registry db next) := by
  obtain ⟨_, _, rfl, found, decided, stored⟩ := reply_ok returned
  cases stored
  obtain ⟨_, registered, _, current, accepted, rejected⟩ :=
    decide_reply_cases (stored_ready invariant found) decided
  constructor
  · intro success
    exact .advanced found registered current (accepted success)
  · intro failure
    exact .unwound found registered (rejected failure)

theorem handle_compensation_reply_changes (invariant : DbInvariant registry db)
    (returned : handleCompensationReply registry db now sagaId stepName success errorMessage =
      .ok (next, saga)) : Unwound registry db next := by
  obtain ⟨_, _, rfl, found, decided, stored⟩ := reply_ok returned
  cases stored
  obtain ⟨_, registered, _, _, unwinding⟩ :=
    decide_compensation_reply_cases (stored_ready invariant found) decided
  exact .unwound found registered unwinding

theorem check_candidate_changes {next : SagaDb Context Payload × List (SagaInstance Context)}
    (invariant : DbInvariant registry progress.1)
    (returned : checkCandidate registry now maxAge cutoff progress sagaId = .ok next) :
    next.1 = progress.1 ∨ Unwound registry progress.1 next.1 := by
  unfold checkCandidate at returned
  split at returned
  · cases returned
    exact Or.inl rfl
  · next saga found =>
    obtain ⟨decision, decided, returned⟩ := bind_eq_ok.mp returned
    cases decision with
    | none =>
      cases returned
      exact Or.inl rfl
    | some =>
      cases returned
      obtain ⟨_, registered, _, _, unwinding⟩ :=
        decide_timeout_cases (stored_ready invariant found) decided
      exact Or.inr (.unwound found registered unwinding)

/-- The sweep unwinds stored sagas one after the other. -/
theorem check_candidates_change (sagaIds : List String)
    {next : SagaDb Context Payload × List (SagaInstance Context)}
    (invariant : DbInvariant registry progress.1)
    (returned : sagaIds.foldlM (checkCandidate registry now maxAge cutoff) progress = .ok next) :
    Relation.ReflTransGen (Unwound registry) progress.1 next.1 := by
  induction sagaIds generalizing progress with
  | nil =>
    cases returned
    exact .refl
  | cons sagaId sagaIds ih =>
    rw [foldlM_cons] at returned
    obtain ⟨_, checked, returned⟩ := bind_eq_ok.mp returned
    rcases check_candidate_changes invariant checked with same | unwound
    · rw [← same]
      rw [← same] at invariant
      exact ih invariant returned
    · exact .head unwound (ih (unwound_keeps invariant unwound) returned)

/-- What one call of the orchestrator does to the database. -/
inductive Changed (registry : SagaRegistry Context Payload Result)
    (db : SagaDb Context Payload) : Call Context Result → SagaDb Context Payload → Prop
  | unchanged {call : Call Context Result} : Changed registry db call db
  | inserted {next : SagaDb Context Payload} {now : Instant} {sagaType : String}
      {context : Context} {correlationId : Option String} {generatedId : String}
      (inserted : Inserted registry context db next) :
      Changed registry db (.startSaga now sagaType context correlationId generatedId) next
  | advanced {next : SagaDb Context Payload} {now : Instant} {sagaId stepName : String}
      {resultData : Option Result} {errorMessage : Option String}
      (advanced : Advanced registry sagaId stepName db next) :
      Changed registry db (.handleReply now sagaId stepName true resultData errorMessage) next
  | unwound {call : Call Context Result} {next : SagaDb Context Payload}
      (unwound : Relation.ReflTransGen (Unwound registry) db next) :
      Changed registry db call next

theorem changed_of_eq (same : next = db) : Changed registry db call next := by
  subst same
  exact .unchanged

theorem run_call_changes (invariant : DbInvariant registry db) (call : Call Context Result) :
    Changed registry db call (runCall registry db call) := by
  cases call with
  | startSaga now sagaType context correlationId generatedId =>
    rcases state_after_cases db
      (startSaga registry db now sagaType context correlationId generatedId) with
      same | ⟨saga, returned⟩
    · exact changed_of_eq same
    · exact .inserted (start_saga_inserts returned)
  | handleReply now sagaId stepName success resultData errorMessage =>
    rcases state_after_cases db
      (handleReply registry db now sagaId stepName success resultData errorMessage) with
      same | ⟨saga, returned⟩
    · exact changed_of_eq same
    · obtain ⟨accepted, rejected⟩ := handle_reply_changes invariant returned
      cases success with
      | true => exact .advanced (accepted rfl)
      | false => exact .unwound (.single (rejected rfl))
  | handleCompensationReply now sagaId stepName success errorMessage =>
    rcases state_after_cases db
      (handleCompensationReply registry db now sagaId stepName success errorMessage) with
      same | ⟨saga, returned⟩
    · exact changed_of_eq same
    · exact .unwound (.single (handle_compensation_reply_changes invariant returned))
  | checkTimeouts now maxAge =>
    rcases state_after_cases db (checkTimeouts registry db now maxAge) with
      same | ⟨handled, returned⟩
    · exact changed_of_eq same
    · exact .unwound (check_candidates_change (findStaleIds db (now - maxAge * 1000000))
        invariant returned)

theorem unwound_chain_keeps (invariant : DbInvariant registry db)
    (chain : Relation.ReflTransGen (Unwound registry) db next) : DbInvariant registry next := by
  induction chain with
  | refl => exact invariant
  | tail _ unwound ih => exact unwound_keeps ih unwound

theorem changed_keeps (invariant : DbInvariant registry db)
    (changed : Changed registry db call next) :
    DbInvariant registry next := by
  cases changed with
  | unchanged => exact invariant
  | inserted inserted => exact inserted_keeps invariant inserted
  | advanced advanced => exact advanced_keeps invariant advanced
  | unwound chain => exact unwound_chain_keeps invariant chain

theorem empty_invariant (registry : SagaRegistry Context Payload Result) :
    DbInvariant registry (SagaDb.empty : SagaDb Context Payload) :=
  ⟨nodup_nil, by simp [SagaDb.empty]⟩

theorem run_call_keeps (registry : SagaRegistry Context Payload Result)
    (db : SagaDb Context Payload) (call : Call Context Result)
    (invariant : DbInvariant registry db) : DbInvariant registry (runCall registry db call) :=
  changed_keeps invariant (run_call_changes invariant call)

theorem run_calls_invariant (registry : SagaRegistry Context Payload Result)
    (calls : List (Call Context Result)) : DbInvariant registry (runCalls registry calls) :=
  run_keeps (runCall registry) (run_call_keeps registry) (empty_invariant registry) calls

theorem transition_needs_active
    (changed : Advancing definition saga work ∨ Unwinding definition saga work) :
    saga.status = .started ∨ saga.status = .compensating := by
  rcases changed with advancing | unwinding
  · cases advancing <;> exact Or.inl ‹_›
  · cases unwinding <;> first | exact Or.inl ‹_› | exact Or.inr ‹_›

theorem store_work_keeps_finished (invariant : DbInvariant registry db)
    (found : getById db sagaId = some stored)
    (changed : Advancing definition stored work ∨ Unwinding definition stored work)
    (member : finished ∈ db.sagas) (completed : finished.completedAt.isSome) :
    finished ∈ (storeWork db work).sagas := by
  have isStored := lookup_mem found
  rw [← isStored.2] at found
  have kept : Kept stored work.1 := by
    rcases changed with advancing | unwinding
    · exact advancing_kept advancing
    · exact unwinding_kept unwinding
  refine (mem_store_work invariant.ids found kept).mpr (Or.inl ⟨member, ?_⟩)
  intro same
  have identical := inj_on_of_nodup_map invariant.ids member isStored.1 same
  subst identical
  obtain ⟨_, _, holds⟩ := invariant.sagas finished member
  rw [running_of_active holds (transition_needs_active changed)] at completed
  contradiction

theorem unwound_keeps_finished (invariant : DbInvariant registry db)
    (completed : finished.completedAt.isSome)
    (chain : Relation.ReflTransGen (Unwound registry) db next) (member : finished ∈ db.sagas) :
    finished ∈ next.sagas := by
  induction chain with
  | refl => exact member
  | tail steps unwound ih =>
    have before := unwound_chain_keeps invariant steps
    cases unwound with
    | unwound found registered unwinding =>
      exact store_work_keeps_finished before found (Or.inr unwinding) ih completed

theorem changed_keeps_finished (invariant : DbInvariant registry db)
    (changed : Changed registry db call next) (completed : finished.completedAt.isSome)
    (member : finished ∈ db.sagas) : finished ∈ next.sagas := by
  cases changed with
  | unchanged => exact member
  | inserted inserted =>
    cases inserted with
    | inserted => exact mem_append_left _ member
  | advanced advanced =>
    cases advanced with
    | advanced found registered current advancing =>
      exact store_work_keeps_finished invariant found (Or.inl advancing) member completed
  | unwound chain => exact unwound_keeps_finished invariant completed chain member

theorem finished_stays (registry : SagaRegistry Context Payload Result)
    (calls further : List (Call Context Result)) (member : saga ∈ (runCalls registry calls).sagas)
    (completed : saga.completedAt.isSome) :
    getById (runCalls registry (calls ++ further)) saga.id = some saga := by
  have keeps : ∀ (db : SagaDb Context Payload) (call : Call Context Result),
      DbInvariant registry db ∧ saga ∈ db.sagas → DbInvariant registry (runCall registry db call) ∧
          saga ∈ (runCall registry db call).sagas := fun db call both =>
    ⟨run_call_keeps registry db call both.1,
      changed_keeps_finished both.1 (run_call_changes both.1 call) completed both.2⟩
  have later := run_keeps (runCall registry) keeps
    ⟨run_calls_invariant registry calls, member⟩ further
  unfold runCalls at later ⊢
  rw [run_from_append]
  exact (lookup_iff later.1.ids).mpr ⟨later.2, rfl⟩

/-- Every stored saga satisfies the invariant after every run of calls, whatever
their arguments and whether they return or raise; a saga whose completion time
is set is still stored, unchanged, after any further calls. -/
theorem saga_state_machine (registry : SagaRegistry Context Payload Result)
    (calls : List (Call Context Result)) :
    (∀ saga ∈ (runCalls registry calls).sagas, ∃ definition,
      getDefinition registry saga.sagaType = .ok definition ∧ SagaInvariant definition saga) ∧
    (∀ saga ∈ (runCalls registry calls).sagas, saga.completedAt.isSome →
      ∀ further : List (Call Context Result),
        getById (runCalls registry (calls ++ further)) saga.id = some saga) := by
  constructor
  · exact (run_calls_invariant registry calls).sagas
  · intro _ member completed further
    exact finished_stays registry calls further member completed

end FinanceTracker.Saga.Invariant
