import Mathlib.Data.List.Range
import Mathlib.Data.Finset.Card
import FinanceTracker.Saga.Invariant

/-!
# The command history of a saga

The outbox rows of one saga, read in order: execution commands go forward one
step at a time, compensation commands go back, and the marker in `error_detail`
allows one repetition of a compensation command in the life of a saga.
-/

namespace FinanceTracker.Saga.Commands

open Library KeyedRows Runs Domain Orchestrator Transitions Invariant List

variable {Context Payload Result : Type}

def commandSteps (role : CommandRole) (outbox : List (OutboxEntry Payload)) (sagaId : String) :
    List Nat :=
  (outbox.filter fun entry => entry.aggregateId = sagaId && entry.role = role).map
    OutboxEntry.stepIndex

theorem command_steps_append (role : CommandRole) (outbox added : List (OutboxEntry Payload))
    (sagaId : String) : commandSteps role (outbox ++ added) sagaId =
      commandSteps role outbox sagaId ++ commandSteps role added sagaId := by
  simp [commandSteps]

theorem command_steps_singleton (role : CommandRole) (entry : OutboxEntry Payload)
    (sagaId : String) : commandSteps role [entry] sagaId =
      if entry.aggregateId = sagaId ∧ entry.role = role then [entry.stepIndex] else [] := by
  by_cases here : entry.aggregateId = sagaId ∧ entry.role = role
  · simp [commandSteps, here.1, here.2]
  · rw [if_neg here]
    simp only [commandSteps, map_eq_nil_iff, filter_eq_nil_iff, mem_singleton,
      Bool.and_eq_true, decide_eq_true_eq]
    rintro other rfl
    exact here

variable {added outbox : List (OutboxEntry Payload)} {sagaId : String} {indices : List Nat}
  {index : Nat} {saga : SagaInstance Context} {definition : SagaDefinition Context Payload Result}
  {work : SagaWork Context Payload} {registry : SagaRegistry Context Payload Result}
  {db next : SagaDb Context Payload}

theorem command_steps_foreign (role : CommandRole)
    (foreign : ∀ entry ∈ added, entry.aggregateId ≠ sagaId) :
    commandSteps role added sagaId = [] := by
  simp only [commandSteps, map_eq_nil_iff, filter_eq_nil_iff, Bool.and_eq_true,
    decide_eq_true_eq, not_and]
  intro entry member own
  exact absurd own (foreign entry member)

/-- At most one element of the list repeats an earlier one. -/
def RepeatsOnce (indices : List Nat) : Prop :=
  indices.length ≤ indices.toFinset.card + 1

theorem nodup_repeats_once (distinct : indices.Nodup) : RepeatsOnce indices := by
  unfold RepeatsOnce
  rw [toFinset_card_of_nodup distinct]
  exact Nat.le_succ _

theorem repeats_once_append (distinct : indices.Nodup) (index : Nat) :
    RepeatsOnce (indices ++ [index]) := by
  have included : indices.toFinset.card ≤ (indices ++ [index]).toFinset.card :=
    Finset.card_le_card (by
      rw [toFinset_append]
      exact Finset.subset_union_left)
  rw [toFinset_card_of_nodup distinct] at included
  unfold RepeatsOnce
  rw [length_append, length_singleton]
  exact Nat.succ_le_succ included

theorem repeats_once_fresh (once : RepeatsOnce indices) (fresh : index ∉ indices) :
    RepeatsOnce (indices ++ [index]) := by
  have size : (indices ++ [index]).toFinset.card = indices.toFinset.card + 1 := by
    rw [toFinset_append, Finset.union_comm]
    have single : ([index] : List Nat).toFinset = {index} := by simp
    rw [single, ← Finset.insert_eq, Finset.card_insert_of_notMem (by simpa using fresh)]
  unfold RepeatsOnce at once ⊢
  rw [size, length_append, length_singleton]
  exact Nat.succ_le_succ once

theorem count_add_card_le (indices : List Nat) (index : Nat) :
    indices.count index + indices.toFinset.card ≤ indices.length + 1 := by
  induction indices with
  | nil => simp
  | cons head tail =>
    rw [toFinset_cons, length_cons]
    by_cases repeated : head ∈ tail
    · rw [Finset.insert_eq_of_mem (by simpa using repeated)]
      have grows : (head :: tail).count index ≤ tail.count index + 1 := by
        rw [count_cons]
        split_ifs <;> omega
      omega
    · rw [Finset.card_insert_of_notMem (by simpa using repeated)]
      by_cases here : head = index
      · subst here
        rw [count_cons_self, count_eq_zero.mpr repeated]
        have bound := toFinset_card_le tail
        omega
      · rw [count_cons_of_ne here]
        omega

/-- One repetition in all, so no element occurs three times. -/
theorem repeats_once_count (once : RepeatsOnce indices) (index : Nat) :
    indices.count index ≤ 2 := by
  have bound := count_add_card_le indices index
  unfold RepeatsOnce at once
  omega

/-- The commands sent so far, tied to the cursor while the saga is active. -/
structure CommandInvariant (saga : SagaInstance Context)
    (outbox : List (OutboxEntry Payload)) : Prop where
  sent : ∃ count, commandSteps .execution outbox saga.id = List.range count
  started : saga.status = .started →
    commandSteps .execution outbox saga.id = List.range (saga.currentStep + 1) ∧
      commandSteps .compensation outbox saga.id = []
  backwards : (commandSteps .compensation outbox saga.id).Pairwise (· ≥ ·)
  once : RepeatsOnce (commandSteps .compensation outbox saga.id)
  compensating : saga.status = .compensating →
    (∀ index ∈ commandSteps .compensation outbox saga.id, saga.currentStep ≤ index) ∧
      (containsMarker saga.errorDetail = false → (commandSteps .compensation outbox saga.id).Nodup)

theorem command_invariant_foreign (invariant : CommandInvariant saga outbox)
    (foreign : ∀ entry ∈ added, entry.aggregateId ≠ saga.id) :
    CommandInvariant saga (outbox ++ added) := by
  have same : ∀ role, commandSteps role (outbox ++ added) saga.id =
      commandSteps role outbox saga.id := by
    intro role
    rw [command_steps_append, command_steps_foreign role foreign, append_nil]
  refine ⟨?_, ?_, ?_, ?_, ?_⟩ <;> simp only [same]
  · exact invariant.sent
  · exact invariant.started
  · exact invariant.backwards
  · exact invariant.once
  · exact invariant.compensating

theorem advancing_row (advancing : Advancing definition saga work) : ∀ entry ∈ work.2,
      entry.role = .execution ∧ entry.aggregateId = saga.id ∧
        entry.stepIndex = saga.currentStep + 1 ∧ entry.payload.sagaId = saga.id ∧
        definition.steps[entry.stepIndex]?.map StepDefinition.name =
          some entry.payload.stepName := by
  cases advancing with
  | advanced kept before after position inside completedAt context statuses command =>
    intro _ member
    rw [mem_singleton] at member
    subst member
    obtain ⟨_, role, stepIndex, aggregateId, sagaId, stepName⟩ :=
      publish_step_command_ok command
    rw [stepIndex]
    exact ⟨role, aggregateId.trans kept.id, position, sagaId.trans kept.id, stepName⟩
  | completed => simp

theorem unwinding_row (invariant : SagaInvariant definition saga)
    (unwinding : Unwinding definition saga work) :
    ∀ entry ∈ work.2, entry.role = .compensation ∧ entry.aggregateId = saga.id ∧
      entry.stepIndex = work.1.currentStep ∧
      saga.stepStatus entry.stepIndex = some .succeeded ∧ entry.payload.sagaId = saga.id ∧
      work.1.steps[entry.stepIndex]?.map SagaStep.name = some entry.payload.stepName := by
  have row : ∀ {next : SagaInstance Context} {entry : OutboxEntry Payload}, Kept saga next →
      CompensationRow definition next entry →
      saga.stepStatus next.currentStep = some .succeeded →
      ∀ added ∈ [entry], added.role = .compensation ∧ added.aggregateId = saga.id ∧
        added.stepIndex = next.currentStep ∧
        saga.stepStatus added.stepIndex = some .succeeded ∧ added.payload.sagaId = saga.id ∧
        next.steps[added.stepIndex]?.map SagaStep.name = some added.payload.stepName := by
    intro _ _ kept command succeeded _ member
    obtain ⟨_, _, _, _, found, _, _, _, rfl⟩ := command
    rw [mem_singleton] at member
    subst member
    refine ⟨rfl, kept.id, rfl, succeeded, kept.id, ?_⟩
    simp [outboxCompensationCommand, found]
  cases unwinding with
  | compensationStarted kept before after earlier completedAt context statuses command =>
    apply row kept command
    exact (invariant.started before).before _ earlier
  | compensationContinued kept before after earlier completedAt context detail statuses command =>
    obtain ⟨_, shape⟩ := invariant.compensating before
    apply row kept command
    exact shape.before _ earlier
  | reemitted kept before after position completedAt context statuses unmarked marked command =>
    obtain ⟨_, shape⟩ := invariant.compensating before
    apply row kept command
    rw [position]
    exact shape.current
  | failedAtOnce | timedOut | compensationFinished | compensationFailed => simp

/-- A saga that is no longer active and whose history did not change. -/
theorem command_invariant_ended {next : SagaInstance Context}
    (invariant : CommandInvariant saga outbox) (kept : Kept saga next)
    (ended : next.status ≠ .started ∧ next.status ≠ .compensating) :
    CommandInvariant next (outbox ++ []) := by
  rw [append_nil]
  refine ⟨?_, fun status => absurd status ended.1, ?_, ?_, fun status => absurd status ended.2⟩
  · rw [kept.id]
    exact invariant.sent
  · rw [kept.id]
    exact invariant.backwards
  · rw [kept.id]
    exact invariant.once

theorem advancing_commands {next : SagaInstance Context} (invariant : CommandInvariant saga outbox)
    (advancing : Advancing definition saga (next, added)) :
    CommandInvariant next (outbox ++ added) := by
  have rows := advancing_row advancing
  cases advancing with
  | advanced kept before after position inside completedAt context statuses command =>
    rename_i entry
    obtain ⟨role, aggregateId, stepIndex, _⟩ := rows entry (mem_singleton_self entry)
    obtain ⟨forward, none⟩ := invariant.started before
    have execution : commandSteps .execution (outbox ++ [entry]) next.id =
        List.range (next.currentStep + 1) := by
      rw [command_steps_append, command_steps_singleton, kept.id, if_pos ⟨aggregateId, role⟩,
        forward, stepIndex, position, ← range_succ]
    have compensation : commandSteps .compensation (outbox ++ [entry]) next.id = [] := by
      rw [command_steps_append, command_steps_singleton, kept.id, none, role]
      simp
    refine ⟨⟨_, execution⟩, fun _ => ⟨execution, compensation⟩, ?_, ?_, ?_⟩
    · rw [compensation]
      exact List.Pairwise.nil
    · rw [compensation]
      exact nodup_repeats_once nodup_nil
    · simp [after]
  | completed kept before after =>
    exact command_invariant_ended invariant kept (by simp [after])

theorem compensation_appended {next : SagaInstance Context} {entry : OutboxEntry Payload}
    (invariant : CommandInvariant saga outbox) (id : next.id = saga.id)
    (role : entry.role = .compensation) (aggregateId : entry.aggregateId = saga.id)
    (stepIndex : entry.stepIndex = next.currentStep) (status : next.status = .compensating)
    (above : ∀ index ∈ commandSteps .compensation outbox saga.id, next.currentStep ≤ index)
    (once : RepeatsOnce (commandSteps .compensation outbox saga.id ++ [next.currentStep]))
    (distinct : containsMarker next.errorDetail = false →
      (commandSteps .compensation outbox saga.id ++ [next.currentStep]).Nodup) :
    CommandInvariant next (outbox ++ [entry]) := by
  have execution : commandSteps .execution (outbox ++ [entry]) next.id =
      commandSteps .execution outbox saga.id := by
    rw [command_steps_append, command_steps_singleton, id, role]
    simp
  have compensation : commandSteps .compensation (outbox ++ [entry]) next.id =
      commandSteps .compensation outbox saga.id ++ [next.currentStep] := by
    rw [command_steps_append, command_steps_singleton, id, if_pos ⟨aggregateId, role⟩, stepIndex]
  refine ⟨?_, by simp [status], ?_, ?_, fun _ => ⟨?_, ?_⟩⟩
  · rw [execution]
    exact invariant.sent
  · rw [compensation, pairwise_append]
    refine ⟨invariant.backwards, pairwise_singleton _ _, ?_⟩
    intro index member _ lastMember
    rw [mem_singleton] at lastMember
    subst lastMember
    exact above index member
  · rw [compensation]
    exact once
  · rw [compensation]
    refine forall_mem_append.mpr ⟨above, ?_⟩
    intro index new
    rw [mem_singleton] at new
    exact Nat.le_of_eq new.symm
  · rw [compensation]
    exact distinct

theorem nodup_append_fresh (distinct : indices.Nodup) (below : ∀ other ∈ indices, index < other) :
    (indices ++ [index]).Nodup := by
  rw [nodup_append]
  refine ⟨distinct, nodup_singleton _, ?_⟩
  intro other member _ lastMember
  rw [mem_singleton] at lastMember
  subst lastMember
  exact Nat.ne_of_gt (below other member)

theorem unwinding_commands {next : SagaInstance Context} (holds : SagaInvariant definition saga)
    (invariant : CommandInvariant saga outbox) (unwinding : Unwinding definition saga (next, added)) :
    CommandInvariant next (outbox ++ added) := by
  have rows := unwinding_row holds unwinding
  cases unwinding with
  | compensationStarted kept before after earlier completedAt context statuses command =>
    rename_i entry
    obtain ⟨role, aggregateId, stepIndex, _⟩ := rows entry (mem_singleton_self entry)
    have none := (invariant.started before).2
    refine compensation_appended invariant kept.id role aggregateId stepIndex after ?_ ?_ ?_
    · simp [none]
    · rw [none]
      exact nodup_repeats_once (nodup_singleton _)
    · intro _
      rw [none]
      exact nodup_singleton _
  | compensationContinued kept before after earlier completedAt context detail statuses command =>
    rename_i entry
    obtain ⟨role, aggregateId, stepIndex, _⟩ := rows entry (mem_singleton_self entry)
    obtain ⟨above, distinct⟩ := invariant.compensating before
    have below : ∀ index ∈ commandSteps .compensation outbox saga.id,
        next.currentStep < index :=
      fun index member => Nat.lt_of_lt_of_le earlier (above index member)
    refine compensation_appended invariant kept.id role aggregateId stepIndex after ?_ ?_ ?_
    · exact fun index member => Nat.le_of_lt (below index member)
    · exact repeats_once_fresh invariant.once fun member => Nat.lt_irrefl _ (below _ member)
    · intro unmarked
      rw [detail] at unmarked
      exact nodup_append_fresh (distinct unmarked) below
  | reemitted kept before after position completedAt context statuses unmarked marked command =>
    rename_i entry
    obtain ⟨role, aggregateId, stepIndex, _⟩ := rows entry (mem_singleton_self entry)
    obtain ⟨above, distinct⟩ := invariant.compensating before
    refine compensation_appended invariant kept.id role aggregateId stepIndex after ?_ ?_ ?_
    · rw [position]
      exact above
    · exact repeats_once_append (distinct unmarked) next.currentStep
    · intro stillUnmarked
      rw [marked] at stillUnmarked
      contradiction
  | failedAtOnce kept before after | timedOut kept before after
  | compensationFinished kept before after | compensationFailed kept before after =>
    exact command_invariant_ended invariant kept (by simp [after])

structure HistoryInvariant (registry : SagaRegistry Context Payload Result)
    (db : SagaDb Context Payload) : Prop where
  valid : DbInvariant registry db
  commands : ∀ saga ∈ db.sagas, CommandInvariant saga db.outbox
  owners : ∀ entry ∈ db.outbox, ∃ saga ∈ db.sagas, saga.id = entry.aggregateId ∧
    entry.payload.sagaId = saga.id ∧
    saga.steps[entry.stepIndex]?.map SagaStep.name = some entry.payload.stepName

theorem step_name_of_labels {stepName : String}
    (labels : ∀ index : Nat, saga.steps[index]?.map stepLabel =
      definition.steps[index]?.map fun stepDef => (index, stepDef.name))
    (defined : definition.steps[index]?.map StepDefinition.name = some stepName) :
    saga.steps[index]?.map SagaStep.name = some stepName := by
  have names := congrArg (Option.map Prod.snd) (labels index)
  simp only [Option.map_map] at names
  exact names.trans defined

theorem kept_step_name {next : SagaInstance Context} (kept : Kept saga next) (index : Nat) :
    next.steps[index]?.map SagaStep.name = saga.steps[index]?.map SagaStep.name := by
  have names := congrArg (Option.map Prod.snd) (kept.labels index)
  simp only [Option.map_map] at names
  exact names

theorem store_work_history {stored : SagaInstance Context} (history : HistoryInvariant registry db)
    (valid : DbInvariant registry (storeWork db work)) (found : getById db sagaId = some stored)
    (kept : Kept stored work.1) (commands : CommandInvariant work.1 (db.outbox ++ work.2))
    (rows : ∀ entry ∈ work.2, entry.aggregateId = stored.id ∧ entry.payload.sagaId = stored.id ∧
      work.1.steps[entry.stepIndex]?.map SagaStep.name = some entry.payload.stepName) :
    HistoryInvariant registry (storeWork db work) := by
  have isStored := lookup_mem found
  rw [← isStored.2] at found
  have members := fun saga : SagaInstance Context =>
    @mem_store_work Context Payload db stored saga work history.valid.ids found kept
  refine ⟨valid, ?_, ?_⟩
  · intro saga member
    rcases (members saga).mp member with other | rfl
    · apply command_invariant_foreign (history.commands saga other.1)
      intro entry added same
      exact other.2 (same.symm.trans (rows entry added).1)
    · exact ⟨commands.1, commands.2, commands.3, commands.4, commands.5⟩
  · intro entry member
    rcases mem_append.mp member with old | new
    · obtain ⟨owner, ownerMember, id, payloadId, stepName⟩ := history.owners entry old
      by_cases same : owner.id = stored.id
      · have identical :=
          inj_on_of_nodup_map history.valid.ids ownerMember isStored.1 same
        subst identical
        refine ⟨_, (members _).mpr (Or.inr rfl), kept.id.trans id, payloadId.trans kept.id.symm, ?_⟩
        exact (kept_step_name kept entry.stepIndex).trans stepName
      · exact ⟨owner, (members owner).mpr (Or.inl ⟨ownerMember, same⟩), id, payloadId, stepName⟩
    · obtain ⟨aggregateId, payloadId, stepName⟩ := rows entry new
      exact ⟨_, (members _).mpr (Or.inr rfl), kept.id.trans aggregateId.symm,
        payloadId.trans kept.id.symm, stepName⟩

theorem unwound_history (history : HistoryInvariant registry db)
    (unwound : Unwound registry db next) : HistoryInvariant registry next := by
  have valid := unwound_keeps history.valid unwound
  cases unwound with
  | @unwound definition sagaId saga work found registered unwinding =>
    have member := (lookup_mem found).1
    obtain ⟨_, knownRegistered, holds⟩ := history.valid.sagas saga member
    rw [registered] at knownRegistered
    cases knownRegistered
    have commands := unwinding_commands holds (history.commands saga member) unwinding
    refine store_work_history history valid found (unwinding_kept unwinding) commands ?_
    intro entry added
    obtain ⟨_, aggregateId, _, _, payloadId, stepName⟩ :=
      unwinding_row holds unwinding entry added
    exact ⟨aggregateId, payloadId, stepName⟩

theorem advanced_history {stepName : String} (history : HistoryInvariant registry db)
    (advanced : Advanced registry sagaId stepName db next) : HistoryInvariant registry next := by
  have valid := advanced_keeps history.valid advanced
  cases advanced with
  | @advanced definition saga work found registered current advancing =>
    have member := (lookup_mem found).1
    obtain ⟨_, knownRegistered, holds⟩ := history.valid.sagas saga member
    rw [registered] at knownRegistered
    cases knownRegistered
    have commands := advancing_commands (history.commands saga member) advancing
    refine store_work_history history valid found (advancing_kept advancing) commands ?_
    intro entry added
    obtain ⟨_, aggregateId, _, payloadId, defined⟩ := advancing_row advancing entry added
    exact ⟨aggregateId, payloadId,
      step_name_of_labels (advancing_keeps holds advancing).labels defined⟩

theorem inserted_history {context : Context} (history : HistoryInvariant registry db)
    (inserted : Inserted registry context db next) : HistoryInvariant registry next := by
  have valid := inserted_keeps history.valid inserted
  cases inserted with
  | @inserted definition created command registered absent fresh given published =>
    obtain ⟨_, role, stepIndex, aggregateId, payloadId, defined⟩ :=
      publish_step_command_ok published
    have none : ∀ role, commandSteps role db.outbox created.id = [] := by
      intro _
      apply command_steps_foreign
      intro entry member same
      obtain ⟨owner, ownerMember, id, _⟩ := history.owners entry member
      exact absent owner ownerMember (id.trans same)
    refine ⟨valid, ?_, ?_⟩
    · intro saga member
      rcases mem_append.mp member with old | new
      · apply command_invariant_foreign (history.commands saga old)
        intro _ added same
        rw [mem_singleton] at added
        subst added
        exact absent saga old (same.symm.trans aggregateId)
      · rw [mem_singleton] at new
        subst new
        have execution : commandSteps .execution (db.outbox ++ [command]) saga.id =
            List.range 1 := by
          rw [command_steps_append, none, command_steps_singleton,
            if_pos ⟨aggregateId, role⟩, stepIndex]
          rfl
        have compensation : commandSteps .compensation (db.outbox ++ [command]) saga.id = [] := by
          rw [command_steps_append, none, command_steps_singleton, role]
          simp
        refine ⟨⟨1, execution⟩, fun _ => ⟨?_, compensation⟩, ?_, ?_, ?_⟩
        · rw [fresh.position]
          exact execution
        · rw [compensation]
          exact List.Pairwise.nil
        · rw [compensation]
          exact nodup_repeats_once nodup_nil
        · simp [fresh.status]
    · intro entry member
      rcases mem_append.mp member with old | new
      · obtain ⟨owner, ownerMember, rest⟩ := history.owners entry old
        exact ⟨owner, mem_append_left _ ownerMember, rest⟩
      · rw [mem_singleton] at new
        subst new
        refine ⟨created, mem_append_right _ (mem_singleton_self created),
          aggregateId.symm, payloadId, ?_⟩
        rw [stepIndex]
        exact step_name_of_labels fresh.labels defined

theorem unwound_chain_history (history : HistoryInvariant registry db)
    (chain : Relation.ReflTransGen (Unwound registry) db next) :
    HistoryInvariant registry next := by
  induction chain with
  | refl => exact history
  | tail _ unwound ih => exact unwound_history ih unwound

theorem changed_history {call : Call Context Result} (history : HistoryInvariant registry db)
    (changed : Changed registry db call next) :
    HistoryInvariant registry next := by
  cases changed with
  | unchanged => exact history
  | inserted inserted => exact inserted_history history inserted
  | advanced advanced => exact advanced_history history advanced
  | unwound chain => exact unwound_chain_history history chain

theorem run_calls_history (registry : SagaRegistry Context Payload Result)
    (calls : List (Call Context Result)) : HistoryInvariant registry (runCalls registry calls) :=
  run_keeps (runCall registry)
    (fun _ call history => changed_history history (run_call_changes history.valid call))
    ⟨empty_invariant registry, by simp [SagaDb.empty], by simp [SagaDb.empty]⟩ calls

/-- The call that adds a row, and the saga it found: `start_saga` adds the
command of step 0, an accepted successful reply for step i that of step i+1,
and a compensation command is for a step that had SUCCEEDED. -/
inductive AddedBy (db : SagaDb Context Payload) (call : Call Context Result)
    (entry : OutboxEntry Payload) : Prop
  | first (role : entry.role = .execution) (position : entry.stepIndex = 0)
      (started : ∃ now sagaType context correlationId generatedId,
        call = .startSaga now sagaType context correlationId generatedId)
  | next (saga : SagaInstance Context) (role : entry.role = .execution)
      (found : getById db entry.aggregateId = some saga) (status : saga.status = .started)
      (position : entry.stepIndex = saga.currentStep + 1)
      (replied : ∃ now step resultData errorMessage, saga.steps[saga.currentStep]? = some step ∧
        call = .handleReply now saga.id step.name true resultData errorMessage)
  | compensation (saga : SagaInstance Context) (role : entry.role = .compensation)
      (found : getById db entry.aggregateId = some saga)
      (succeeded : saga.stepStatus entry.stepIndex = some .succeeded)

theorem advancing_started (advancing : Advancing definition saga work) :
    saga.status = .started := by
  cases advancing <;> assumption

theorem unwinding_succeeded (unwinding : Unwinding definition saga work)
    (succeeded : work.1.stepStatus index = some .succeeded) :
    saga.stepStatus index = some .succeeded := by
  cases unwinding with
  | timedOut kept before after completedAt context statuses
  | reemitted kept before after position completedAt context statuses =>
    exact (statuses index).symm.trans succeeded
  | compensationStarted kept before after earlier completedAt context statuses
  | failedAtOnce kept before after completedAt context statuses =>
    rw [statuses] at succeeded
    split_ifs at succeeded
    · simp at succeeded
    · simp at succeeded
    · exact succeeded
  | compensationContinued kept before after earlier completedAt context detail statuses
  | compensationFinished kept before after completedAt context statuses
  | compensationFailed kept before after completedAt context statuses =>
    rw [statuses] at succeeded
    split_ifs at succeeded
    · simp at succeeded
    · exact succeeded

def SucceededBefore (db next : SagaDb Context Payload) : Prop :=
  ∀ sagaId saga index, getById next sagaId = some saga → saga.stepStatus index = some .succeeded →
      ∃ old, getById db sagaId = some old ∧ old.stepStatus index = some .succeeded

/-- The row carries a compensation command for a step that had SUCCEEDED in `db`. -/
def CompensatesSucceeded (db : SagaDb Context Payload) (entry : OutboxEntry Payload) : Prop :=
  entry.role = .compensation ∧ ∃ saga, getById db entry.aggregateId = some saga ∧
    saga.stepStatus entry.stepIndex = some .succeeded

theorem get_by_id_store_work (db : SagaDb Context Payload) (work : SagaWork Context Payload)
    (sagaId : String) : getById (storeWork db work) sagaId =
      if sagaId = work.1.id then (getById db sagaId).map fun row => writeColumns row work.1
      else getById db sagaId := by
  have keeps : ∀ row ∈ db.sagas, row.id = work.1.id → (writeColumns row work.1).id = row.id :=
    fun _ _ _ => rfl
  exact lookup_replace keeps

theorem unwound_added (invariant : DbInvariant registry db) (unwound : Unwound registry db next) :
    SucceededBefore db next ∧ ∃ added, next.outbox = db.outbox ++ added ∧
      ∀ entry ∈ added, CompensatesSucceeded db entry := by
  cases unwound with
  | @unwound definition storedId stored work found registered unwinding =>
    have isStored := lookup_mem found
    have kept := unwinding_kept unwinding
    obtain ⟨_, knownRegistered, holds⟩ := invariant.sagas stored isStored.1
    rw [registered] at knownRegistered
    cases knownRegistered
    refine ⟨?_, work.2, rfl, ?_⟩
    · intro sagaId saga _ loaded succeeded
      rw [get_by_id_store_work] at loaded
      by_cases here : sagaId = work.1.id
      · rw [if_pos here, here, kept.id, isStored.2] at loaded
        rw [found] at loaded
        cases loaded
        refine ⟨stored, ?_, unwinding_succeeded unwinding succeeded⟩
        rw [here, kept.id, isStored.2]
        exact found
      · rw [if_neg here] at loaded
        exact ⟨saga, loaded, succeeded⟩
    · intro entry member
      obtain ⟨role, aggregateId, _, succeeded, _⟩ := unwinding_row holds unwinding entry member
      refine ⟨role, stored, ?_, succeeded⟩
      rw [aggregateId, isStored.2]
      exact found

theorem unwound_chain_added (invariant : DbInvariant registry db)
    (chain : Relation.ReflTransGen (Unwound registry) db next) :
    SucceededBefore db next ∧ ∃ added, next.outbox = db.outbox ++ added ∧
      ∀ entry ∈ added, CompensatesSucceeded db entry := by
  induction chain with
  | refl =>
    exact ⟨fun _ saga _ found succeeded => ⟨saga, found, succeeded⟩, [], by simp, by simp⟩
  | tail steps unwound ih =>
    obtain ⟨before, added, outbox, compensates⟩ := ih
    obtain ⟨stepBefore, more, nextOutbox, moreCompensates⟩ :=
      unwound_added (unwound_chain_keeps invariant steps) unwound
    have earlier : ∀ {sagaId : String} {saga : SagaInstance Context} {index : Nat},
        getById _ sagaId = some saga → saga.stepStatus index = some .succeeded →
          ∃ old, getById db sagaId = some old ∧ old.stepStatus index = some .succeeded :=
      fun found succeeded => before _ _ _ found succeeded
    refine ⟨?_, added ++ more, ?_, ?_⟩
    · intro sagaId saga index found succeeded
      obtain ⟨_, oldFound, oldSucceeded⟩ := stepBefore sagaId saga index found succeeded
      exact earlier oldFound oldSucceeded
    · rw [nextOutbox, outbox, append_assoc]
    · refine forall_mem_append.mpr ⟨compensates, ?_⟩
      intro entry new
      obtain ⟨role, _, found, succeeded⟩ := moreCompensates entry new
      exact ⟨role, earlier found succeeded⟩

theorem changed_added {call : Call Context Result} (invariant : DbInvariant registry db)
    (changed : Changed registry db call next) :
    ∃ added, next.outbox = db.outbox ++ added ∧ ∀ entry ∈ added, AddedBy db call entry := by
  cases changed with
  | unchanged => exact ⟨[], by simp, by simp⟩
  | inserted inserted =>
    cases inserted with
    | @inserted definition created command registered absent fresh given published =>
      obtain ⟨_, role, stepIndex, _⟩ := publish_step_command_ok published
      refine ⟨[command], rfl, ?_⟩
      intro _ member
      rw [mem_singleton] at member
      subst member
      exact .first role stepIndex ⟨_, _, _, _, _, rfl⟩
  | @advanced _ now sagaId stepName resultData errorMessage advanced =>
    cases advanced with
    | @advanced definition saga work found registered current advancing =>
      have sagaKey := (lookup_mem found).2
      obtain ⟨step, isCurrent, name⟩ := current
      refine ⟨work.2, rfl, ?_⟩
      intro entry member
      obtain ⟨role, aggregateId, position, _⟩ := advancing_row advancing entry member
      refine .next saga role ?_ (advancing_started advancing) position
        ⟨now, step, resultData, errorMessage, isCurrent, ?_⟩
      · rw [aggregateId, sagaKey]
        exact found
      · rw [sagaKey, name]
  | unwound chain =>
    obtain ⟨_, added, outbox, compensates⟩ := unwound_chain_added invariant chain
    refine ⟨added, outbox, ?_⟩
    intro entry member
    obtain ⟨role, saga, found, succeeded⟩ := compensates entry member
    exact .compensation saga role found succeeded

/-- The command history of every saga after every run of calls: each step's
execution command at most once and in step order, compensation commands going
back with at most one repetition in all, every row naming its saga and step, and
every row added for the reason the step discipline allows. -/
theorem command_discipline (registry : SagaRegistry Context Payload Result)
    (calls : List (Call Context Result)) :
    (∀ sagaId,
      (commandSteps .execution (runCalls registry calls).outbox sagaId).Pairwise (· < ·) ∧
      (commandSteps .compensation (runCalls registry calls).outbox sagaId).Pairwise (· ≥ ·) ∧
      RepeatsOnce (commandSteps .compensation (runCalls registry calls).outbox sagaId) ∧
      ∀ index,
        (commandSteps .compensation (runCalls registry calls).outbox sagaId).count index ≤ 2) ∧
    (∀ entry ∈ (runCalls registry calls).outbox, ∃ saga ∈ (runCalls registry calls).sagas,
      saga.id = entry.aggregateId ∧ entry.payload.sagaId = saga.id ∧
      saga.steps[entry.stepIndex]?.map SagaStep.name = some entry.payload.stepName) ∧
    (∀ call, ∃ added,
      (runCalls registry (calls ++ [call])).outbox = (runCalls registry calls).outbox ++ added ∧
      ∀ entry ∈ added, AddedBy (runCalls registry calls) call entry) := by
  have history := run_calls_history registry calls
  refine ⟨?_, history.owners, ?_⟩
  · intro sagaId
    by_cases known : ∃ saga ∈ (runCalls registry calls).sagas, saga.id = sagaId
    · obtain ⟨saga, member, rfl⟩ := known
      have commands := history.commands saga member
      obtain ⟨_, sent⟩ := commands.sent
      rw [sent]
      exact ⟨pairwise_lt_range, commands.backwards, commands.once, repeats_once_count commands.once⟩
    · have none : ∀ role, commandSteps role (runCalls registry calls).outbox sagaId = [] := by
        intro _
        apply command_steps_foreign
        intro entry member same
        obtain ⟨owner, ownerMember, id, _⟩ := history.owners entry member
        exact known ⟨owner, ownerMember, id.trans same⟩
      simp [none, RepeatsOnce]
  · intro call
    unfold runCalls
    rw [run_from_snoc]
    exact changed_added history.valid (run_call_changes history.valid call)

end FinanceTracker.Saga.Commands
