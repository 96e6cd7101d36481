import FinanceTracker.Saga.BankSync
import FinanceTracker.Saga.Commands

/-!
# A bank sync saga on its way

What the state machine and the transitions come to for the three steps of the
bank sync definition.
-/

namespace FinanceTracker.Saga.BankSyncProgress

open Library.KeyedRows Shared.SagaMessages Domain Orchestrator Transitions Invariant BankSync

theorem registered_definition {sagaType : String}
    {definition : SagaDefinition BankSyncContext CommandFields ResultData}
    (registered : getDefinition sagaRegistry sagaType = .ok definition) :
    definition = bankSyncDefinition := by
  have member := (get_definition_ok registered).1
  change definition ∈ [bankSyncDefinition] at member
  exact List.mem_singleton.mp member

variable {saga : SagaInstance BankSyncContext}

theorem stored_bank_sync {db : BankSyncDb} (invariant : DbInvariant sagaRegistry db)
    {sagaId : String} (found : getById db sagaId = some saga) :
    getDefinition sagaRegistry saga.sagaType = .ok bankSyncDefinition ∧
      SagaInvariant bankSyncDefinition saga := by
  obtain ⟨_, registered, holds⟩ := invariant.sagas saga (lookup_mem found).1
  have same := registered_definition registered
  subst same
  exact ⟨registered, holds⟩

theorem compensation_command_at {index : Nat} {context : BankSyncContext}
    (has : HasCompensationCommand bankSyncDefinition index context) : index = 1 := by
  obtain ⟨_, _, payload, _, _, built⟩ := has
  change buildCompensateCommand index context = .ok (some payload) at built
  unfold buildCompensateCommand at built
  split at built
  · assumption
  · cases built

theorem compensating_at_import (invariant : SagaInvariant bankSyncDefinition saga)
    (status : saga.status = .compensating) :
    saga.currentStep = 1 ∧ saga.stepStatus 0 = some .succeeded := by
  obtain ⟨_, shape⟩ := invariant.compensating status
  have position := compensation_command_at shape.command
  refine ⟨position, shape.before 0 ?_⟩
  rw [position]
  exact Nat.one_pos

/-- From the import the backwards loop ends at once: the fetch has no
compensation command. -/
theorem compensate_import {now : Instant} {saga : SagaInstance BankSyncContext}
    (position : saga.currentStep = 1) (fetched : saga.stepStatus 0 = some .succeeded) :
    ∃ next, compensatePrevious bankSyncDefinition now saga = .ok (next, []) ∧
      next.id = saga.id ∧ next.status = .failed := by
  obtain ⟨_, found, succeeded⟩ := Option.map_eq_some_iff.mp fetched
  unfold compensatePrevious
  rw [position]
  simp only [compensateFrom, found, succeeded, ne_eq, not_true_eq_false, if_false]
  exact ⟨_, rfl, rfl, rfl⟩

theorem decide_compensation_reply_fails {now : Instant} {saga : SagaInstance BankSyncContext}
    {stepName : String} (success : Bool) (errorMessage : Option String)
    (registered : getDefinition sagaRegistry saga.sagaType = .ok bankSyncDefinition)
    (invariant : SagaInvariant bankSyncDefinition saga) (status : saga.status = .compensating)
    (current : ∃ step, saga.currentStepObj = some step ∧ step.name = stepName) :
    ∃ next added, decideCompensationReply sagaRegistry now saga stepName success errorMessage =
      .ok (next, added) ∧ next.id = saga.id ∧ next.status = .failed := by
  obtain ⟨position, fetched⟩ := compensating_at_import invariant status
  obtain ⟨_, isCurrent, name⟩ := current
  have checked : checkStep saga stepName = .ok () := by
    unfold checkStep
    rw [isCurrent]
    dsimp only
    rw [if_neg (not_not.mpr name)]
  let marked := ({ saga with updatedAt := some now } : SagaInstance BankSyncContext).modifyStep
    saga.currentStep (markCompensated now)
  have markedFetched : marked.stepStatus 0 = some .succeeded := by
    change (SagaInstance.modifyStep _ saga.currentStep (markCompensated now)).stepStatus 0 = _
    rw [modify_step_status, if_neg (by rw [position]; decide)]
    exact fetched
  obtain ⟨next, returned, id, failed⟩ := @compensate_import now marked position markedFetched
  unfold decideCompensationReply
  dsimp only
  rw [if_neg (not_not.mpr status), registered, checked]
  cases success with
  | true => exact ⟨next, [], returned, id, failed⟩
  | false => exact ⟨_, [], rfl, rfl, rfl⟩

theorem import_step_name (invariant : SagaInvariant bankSyncDefinition saga)
    (position : saga.currentStep = 1) {step : SagaStep} (current : saga.currentStepObj = some step) :
    step.name = "import_transactions" := by
  have label := invariant.labels 1
  unfold SagaInstance.currentStepObj at current
  rw [position] at current
  rw [current] at label
  have name := congrArg (Option.map Prod.snd) label
  exact Option.some.inj name

end FinanceTracker.Saga.BankSyncProgress
