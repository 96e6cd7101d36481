import FinanceTracker.Saga.Orchestrator

/-!
# What one call can do to one saga

Every invariant of the orchestrator follows from a single case analysis: a call
that returns changes a well-formed saga by one of nine transitions. A transition
gives the new status, cursor and step statuses and the outbox rows added with
it. The guards and the loop of the source are read here once and not again.
-/

namespace FinanceTracker.Saga.Transitions

open Library.Runs Domain Orchestrator

variable {Context Payload Result : Type} {registry : SagaRegistry Context Payload Result}
  {definition : SagaDefinition Context Payload Result} {saga touched : SagaInstance Context}
  {now : Instant} {work : SagaWork Context Payload} {errorMessage : Option String} {maxAge : Int}
  {stepName : String}

theorem get_definition_ok {sagaType : String}
    (found : getDefinition registry sagaType = .ok definition) :
    definition ∈ registry ∧ definition.sagaType = sagaType := by
  unfold getDefinition at found
  split at found
  · next stored search =>
    cases found
    exact ⟨List.mem_of_find?_eq_some search, by simpa using List.find?_some search⟩
  · contradiction

def HasCompensationCommand (definition : SagaDefinition Context Payload Result) (index : Nat)
    (context : Context) : Prop :=
  ∃ stepDef compensateEventType payload, definition.steps[index]? = some stepDef ∧
    stepDef.compensateEventType = some compensateEventType ∧
    definition.buildCompensateCommand index context = .ok (some payload)

def stepLabel (step : SagaStep) : Nat × String := (step.index, step.name)

/-- The identity of a saga and the index and name of each of its steps stay. -/
structure Kept (saga next : SagaInstance Context) : Prop where
  id : next.id = saga.id
  sagaType : next.sagaType = saga.sagaType
  correlationId : next.correlationId = saga.correlationId
  labels : ∀ index : Nat, next.steps[index]?.map stepLabel = saga.steps[index]?.map stepLabel

variable {next : SagaInstance Context} {change : SagaStep → SagaStep} {index : Nat}
  {status : StepStatus} {resultData : Option Result} {success : Bool}

theorem kept_trans {middle : SagaInstance Context} (first : Kept saga middle)
    (second : Kept middle next) : Kept saga next where
  id := second.id.trans first.id
  sagaType := second.sagaType.trans first.sagaType
  correlationId := second.correlationId.trans first.correlationId
  labels index := (second.labels index).trans (first.labels index)

theorem modify_step_labels (saga : SagaInstance Context) (index : Nat)
    (same : ∀ step, stepLabel (change step) = stepLabel step) (other : Nat) :
    (saga.modifyStep index change).steps[other]?.map stepLabel =
      saga.steps[other]?.map stepLabel := by
  simp only [SagaInstance.modifyStep, List.getElem?_modify]
  cases saga.steps[other]? with
  | none => simp
  | some =>
    by_cases here : index = other
    · simp [here, same]
    · simp [here]

theorem step_status_isSome (present : saga.stepStatus index = some status) :
    index < saga.steps.length := by
  unfold SagaInstance.stepStatus at present
  rw [Option.map_eq_some_iff] at present
  obtain ⟨_, found, _⟩ := present
  exact (List.getElem?_eq_some_iff.mp found).1

theorem modify_step_status_of_present (saga : SagaInstance Context)
    (present : index < saga.steps.length) (written : ∀ step, (change step).status = status)
    (other : Nat) :
    (saga.modifyStep index change).stepStatus other =
      if other = index then some status else saga.stepStatus other := by
  rw [modify_step_status]
  by_cases here : index = other
  · subst here
    simp [List.getElem?_eq_getElem present, written]
  · simp [here, Ne.symm here]

/-- Result of the loop entered at `cursor` over steps that all SUCCEEDED: it
stops at the nearest earlier step that has a compensation command and emits it,
or it runs out of steps and the saga is FAILED. -/
inductive Rewound (definition : SagaDefinition Context Payload Result) (cursor : Nat)
    (saga : SagaInstance Context) : SagaWork Context Payload → Prop
  | stopped {next : SagaInstance Context} {entry : OutboxEntry Payload} (kept : Kept saga next)
      (before : next.currentStep < cursor)
      (status : next.status = saga.status) (completedAt : next.completedAt = saga.completedAt)
      (context : next.context = saga.context) (errorDetail : next.errorDetail = saga.errorDetail)
      (statuses : ∀ index, next.stepStatus index =
        if next.currentStep < index ∧ index < cursor then some .compensated
        else saga.stepStatus index)
      (command : ∃ step stepDef compensateEventType payload,
        next.steps[next.currentStep]? = some step ∧
        definition.steps[next.currentStep]? = some stepDef ∧
        stepDef.compensateEventType = some compensateEventType ∧
        definition.buildCompensateCommand next.currentStep saga.context = .ok (some payload) ∧
        entry = outboxCompensationCommand next step compensateEventType payload) :
      Rewound definition cursor saga (next, [entry])
  | exhausted {next : SagaInstance Context} (kept : Kept saga next)
      (position : next.currentStep = 0) (status : next.status = .failed)
      (completedAt : next.completedAt.isSome)
      (context : next.context = saga.context) (errorDetail : next.errorDetail = saga.errorDetail)
      (statuses : ∀ index, next.stepStatus index =
        if index < cursor then some .compensated else saga.stepStatus index)
      (nothing : ∀ index < cursor, ¬ HasCompensationCommand definition index saga.context) :
      Rewound definition cursor saga (next, [])

/-- One pass of the loop that marks the step at `cursor` and goes on. -/
theorem rewound_past {cursor : Nat} (present : cursor < saga.steps.length)
    (absent : ¬ HasCompensationCommand definition cursor saga.context)
    (rest : Rewound definition cursor
      (({ saga with currentStep := cursor } : SagaInstance Context).modifyStep cursor
        (markCompensated now)) work) :
    Rewound definition (cursor + 1) saga work := by
  have marked := modify_step_status_of_present
    ({ saga with currentStep := cursor } : SagaInstance Context) present
    (fun step => show (markCompensated now step).status = .compensated from rfl)
  have same : ∀ index, ({ saga with currentStep := cursor } : SagaInstance Context).stepStatus
      index = saga.stepStatus index := fun _ => rfl
  have keptMark : Kept saga (({ saga with currentStep := cursor } :
      SagaInstance Context).modifyStep cursor (markCompensated now)) :=
    ⟨rfl, rfl, rfl, modify_step_labels _ cursor fun _ => rfl⟩
  cases rest with
  | stopped kept before status completedAt context errorDetail statuses command =>
    refine .stopped (kept_trans keptMark kept) (by omega) status completedAt context
      errorDetail ?_ command
    intro index
    rw [statuses, marked, same]
    by_cases here : index = cursor
    · subst here
      rw [if_neg (by omega), if_pos rfl, if_pos ⟨before, by omega⟩]
    · simp only [if_neg here]
      congr 1
      apply propext
      omega
  | exhausted kept position status completedAt context errorDetail statuses nothing =>
    refine .exhausted (kept_trans keptMark kept) position status completedAt context
      errorDetail ?_ ?_
    · intro index
      rw [statuses, marked, same]
      by_cases here : index = cursor
      · subst here
        simp
      · simp only [if_neg here]
        congr 1
        apply propext
        omega
    · intro index _
      by_cases here : index = cursor
      · rw [here]
        exact absent
      · exact nothing index (by omega)

theorem compensate_from_rewound (definition : SagaDefinition Context Payload Result)
    (now : Instant) (cursor : Nat) (saga : SagaInstance Context)
    (work : SagaWork Context Payload)
    (succeededBelow : ∀ index < cursor, saga.stepStatus index = some .succeeded)
    (returned : compensateFrom definition now cursor saga = .ok work) :
    Rewound definition cursor saga work := by
  induction cursor generalizing saga with
  | zero =>
    simp only [compensateFrom, Except.ok.injEq] at returned
    subst returned
    refine .exhausted ⟨rfl, rfl, rfl, fun _ => rfl⟩ rfl rfl rfl rfl rfl ?_ ?_
    · intro _
      simp [SagaInstance.stepStatus]
    · intro _ _
      contradiction
  | succ cursor ih =>
    have here := succeededBelow cursor (by omega)
    have present := step_status_isSome here
    have marked := modify_step_status_of_present
      ({ saga with currentStep := cursor } : SagaInstance Context) present
      (fun step => show (markCompensated now step).status = .compensated from rfl)
    have below : ∀ index < cursor,
        (({ saga with currentStep := cursor } : SagaInstance Context).modifyStep cursor
          (markCompensated now)).stepStatus index = some .succeeded := by
      intro index _
      rw [marked, if_neg (by omega)]
      exact succeededBelow index (by omega)
    obtain ⟨step, found, status⟩ := Option.map_eq_some_iff.mp here
    simp only [compensateFrom, found, status, ne_eq, not_true_eq_false, if_false] at returned
    split at returned
    · contradiction
    · next stepDef defined =>
      have unbuilt : ∀ value, definition.buildCompensateCommand cursor saga.context =
          .ok value → value = none →
          ¬ HasCompensationCommand definition cursor saga.context := by
        rintro value built rfl ⟨_, _, payload, _, _, other⟩
        rw [built] at other
        cases other
      split at returned
      · next untyped =>
        refine rewound_past present ?_ (ih _ below returned)
        rintro ⟨otherDef, compensateEventType, _, otherDefined, compensates, _⟩
        rw [defined] at otherDefined
        cases otherDefined
        rw [untyped] at compensates
        contradiction
      · next compensateEventType compensates =>
        obtain ⟨payload, built, returned⟩ := bind_eq_ok.mp returned
        split at returned
        · exact rewound_past present (unbuilt _ built rfl) (ih _ below returned)
        · next payload =>
          cases returned
          refine .stopped ⟨rfl, rfl, rfl, fun _ => rfl⟩ (Nat.lt_succ_self cursor) rfl
            rfl rfl rfl ?_ ⟨step, stepDef, compensateEventType, payload, found, defined,
              compensates, built, rfl⟩
          intro _
          rw [if_neg (by simp only; omega)]
          rfl

def CompensationRow (definition : SagaDefinition Context Payload Result)
    (next : SagaInstance Context) (entry : OutboxEntry Payload) : Prop :=
  ∃ step stepDef compensateEventType payload, next.steps[next.currentStep]? = some step ∧
    definition.steps[next.currentStep]? = some stepDef ∧
    stepDef.compensateEventType = some compensateEventType ∧
    definition.buildCompensateCommand next.currentStep next.context = .ok (some payload) ∧
    entry = outboxCompensationCommand next step compensateEventType payload

/-- A successful reply to the current step. -/
inductive Advancing (definition : SagaDefinition Context Payload Result)
    (saga : SagaInstance Context) : SagaWork Context Payload → Prop
  | advanced {next : SagaInstance Context} {entry : OutboxEntry Payload} (kept : Kept saga next)
      (before : saga.status = .started) (after : next.status = .started)
      (position : next.currentStep = saga.currentStep + 1)
      (inside : next.currentStep < saga.steps.length)
      (completedAt : next.completedAt = saga.completedAt)
      (context : ∃ resultData,
        definition.onReply saga.currentStep saga.context resultData = .ok next.context)
      (statuses : ∀ index, next.stepStatus index =
        if index = saga.currentStep then some .succeeded
        else if index = saga.currentStep + 1 then some .executing
        else saga.stepStatus index)
      (command : publishStepCommand next definition next.currentStep = .ok entry) :
      Advancing definition saga (next, [entry])
  | completed {next : SagaInstance Context} (kept : Kept saga next)
      (before : saga.status = .started) (after : next.status = .completed)
      (last : saga.steps.length = saga.currentStep + 1)
      (completedAt : next.completedAt.isSome)
      (context : ∃ resultData,
        definition.onReply saga.currentStep saga.context resultData = .ok next.context)
      (statuses : ∀ index, next.stepStatus index =
        if index = saga.currentStep then some .succeeded else saga.stepStatus index) :
      Advancing definition saga (next, [])

/-- Everything else: failure replies, compensation replies and timeouts. -/
inductive Unwinding (definition : SagaDefinition Context Payload Result)
    (saga : SagaInstance Context) : SagaWork Context Payload → Prop
  | compensationStarted {next : SagaInstance Context} {entry : OutboxEntry Payload}
      (kept : Kept saga next)
      (before : saga.status = .started) (after : next.status = .compensating)
      (earlier : next.currentStep < saga.currentStep)
      (completedAt : next.completedAt = saga.completedAt)
      (context : next.context = saga.context)
      (statuses : ∀ index, next.stepStatus index =
        if index = saga.currentStep then some .failed
        else if next.currentStep < index ∧ index < saga.currentStep then some .compensated
        else saga.stepStatus index)
      (command : CompensationRow definition next entry) :
      Unwinding definition saga (next, [entry])
  | failedAtOnce {next : SagaInstance Context} (kept : Kept saga next)
      (before : saga.status = .started) (after : next.status = .failed)
      (completedAt : next.completedAt.isSome)
      (context : next.context = saga.context)
      (statuses : ∀ index, next.stepStatus index =
        if index = saga.currentStep then some .failed
        else if index < saga.currentStep then some .compensated
        else saga.stepStatus index)
      (nothing : ∀ index < saga.currentStep,
        ¬ HasCompensationCommand definition index saga.context) :
      Unwinding definition saga (next, [])
  | timedOut {next : SagaInstance Context} (kept : Kept saga next)
      (before : saga.status = .started) (after : next.status = .timedOut)
      (completedAt : next.completedAt.isSome)
      (context : next.context = saga.context)
      (statuses : ∀ index, next.stepStatus index = saga.stepStatus index)
      (nothing : ∀ step ∈ saga.steps, step.status = .succeeded →
        ¬ HasCompensationCommand definition step.index saga.context) :
      Unwinding definition saga (next, [])
  | compensationContinued {next : SagaInstance Context} {entry : OutboxEntry Payload}
      (kept : Kept saga next)
      (before : saga.status = .compensating) (after : next.status = .compensating)
      (earlier : next.currentStep < saga.currentStep)
      (completedAt : next.completedAt = saga.completedAt)
      (context : next.context = saga.context) (errorDetail : next.errorDetail = saga.errorDetail)
      (statuses : ∀ index, next.stepStatus index =
        if next.currentStep < index ∧ index ≤ saga.currentStep then some .compensated
        else saga.stepStatus index)
      (command : CompensationRow definition next entry) :
      Unwinding definition saga (next, [entry])
  | compensationFinished {next : SagaInstance Context} (kept : Kept saga next)
      (before : saga.status = .compensating) (after : next.status = .failed)
      (completedAt : next.completedAt.isSome)
      (context : next.context = saga.context)
      (statuses : ∀ index, next.stepStatus index =
        if index ≤ saga.currentStep then some .compensated else saga.stepStatus index) :
      Unwinding definition saga (next, [])
  | compensationFailed {next : SagaInstance Context} (kept : Kept saga next)
      (before : saga.status = .compensating) (after : next.status = .failed)
      (completedAt : next.completedAt.isSome)
      (context : next.context = saga.context)
      (statuses : ∀ index, next.stepStatus index =
        if index = saga.currentStep then some .failed else saga.stepStatus index) :
      Unwinding definition saga (next, [])
  | reemitted {next : SagaInstance Context} {entry : OutboxEntry Payload} (kept : Kept saga next)
      (before : saga.status = .compensating) (after : next.status = .compensating)
      (position : next.currentStep = saga.currentStep)
      (completedAt : next.completedAt = saga.completedAt)
      (context : next.context = saga.context)
      (statuses : ∀ index, next.stepStatus index = saga.stepStatus index)
      (unmarked : containsMarker saga.errorDetail = false)
      (marked : containsMarker next.errorDetail = true)
      (command : CompensationRow definition next entry) :
      Unwinding definition saga (next, [entry])

/-- What an active saga guarantees to the helpers: the cursor is on a step and
every step before it SUCCEEDED. -/
structure CursorReady (saga : SagaInstance Context) : Prop where
  inside : saga.currentStep < saga.steps.length
  succeededBelow : ∀ index < saga.currentStep, saga.stepStatus index = some .succeeded

theorem begin_compensation_unwinds (ready : CursorReady saga) (started : saga.status = .started)
    (returned : beginCompensation definition now saga errorMessage = .ok work) :
    Unwinding definition saga work := by
  obtain ⟨current, found⟩ : ∃ step, saga.currentStepObj = some step :=
    ⟨_, List.getElem?_eq_getElem ready.inside⟩
  unfold beginCompensation compensatePrevious at returned
  rw [found] at returned
  have failedHere := modify_step_status_of_present saga ready.inside
    (fun step => show (markFailed errorMessage step).status = .failed from rfl)
  have keptFailed : Kept saga (saga.modifyStep saga.currentStep (markFailed errorMessage)) :=
    ⟨rfl, rfl, rfl, modify_step_labels saga _ fun _ => rfl⟩
  have rewound := compensate_from_rewound definition now _ _ work (by
    intro index (bound : index < saga.currentStep)
    refine (failedHere index).trans ?_
    rw [if_neg (Nat.ne_of_lt bound)]
    exact ready.succeededBelow index bound) returned
  cases rewound with
  | stopped kept before status completedAt context errorDetail statuses command =>
    refine .compensationStarted (kept_trans keptFailed ⟨kept.id, kept.sagaType,
      kept.correlationId, kept.labels⟩) started status before completedAt context ?_ ?_
    · intro index
      refine (statuses index).trans ?_
      change (if _ ∧ index < saga.currentStep then _ else
        (saga.modifyStep saga.currentStep (markFailed errorMessage)).stepStatus index) = _
      rw [failedHere]
      by_cases here : index = saga.currentStep
      · subst here
        simp
      · simp [here]
    · obtain ⟨step, stepDef, compensateEventType, payload, found, defined, compensates, built,
        row⟩ := command
      rw [← context] at built
      exact ⟨step, stepDef, compensateEventType, payload, found, defined, compensates, built, row⟩
  | exhausted kept position status completedAt context errorDetail statuses nothing =>
    refine .failedAtOnce (kept_trans keptFailed ⟨kept.id, kept.sagaType, kept.correlationId,
      kept.labels⟩) started status completedAt context ?_ nothing
    intro index
    refine (statuses index).trans ?_
    change (if index < saga.currentStep then _ else
      (saga.modifyStep saga.currentStep (markFailed errorMessage)).stepStatus index) = _
    rw [failedHere]
    by_cases here : index = saga.currentStep
    · subst here
      simp
    · simp [here]

theorem compensation_success_unwinds (ready : CursorReady saga)
    (compensating : saga.status = .compensating)
    (returned : compensatePrevious definition now
      (saga.modifyStep saga.currentStep (markCompensated now)) = .ok work) :
    Unwinding definition saga work := by
  unfold compensatePrevious at returned
  have marked := modify_step_status_of_present saga ready.inside
    (fun step => show (markCompensated now step).status = .compensated from rfl)
  have keptMark : Kept saga (saga.modifyStep saga.currentStep (markCompensated now)) :=
    ⟨rfl, rfl, rfl, modify_step_labels saga _ fun _ => rfl⟩
  have rewound := compensate_from_rewound definition now _ _ work (by
    intro index bound
    rw [marked, if_neg (by exact Nat.ne_of_lt bound)]
    exact ready.succeededBelow index bound) returned
  cases rewound with
  | stopped kept before status completedAt context errorDetail statuses command =>
    change _ < saga.currentStep at before
    refine .compensationContinued (kept_trans keptMark kept) compensating
      (status.trans compensating) before completedAt context errorDetail ?_ ?_
    · intro index
      rw [statuses, marked]
      change (if _ ∧ index < saga.currentStep then _ else _) = _
      by_cases here : index = saga.currentStep
      · subst here
        simp [before]
      · simp only [if_neg here]
        congr 1
        apply propext
        omega
    · obtain ⟨step, stepDef, compensateEventType, payload, found, defined, compensates, built,
        row⟩ := command
      rw [← context] at built
      exact ⟨step, stepDef, compensateEventType, payload, found, defined, compensates, built, row⟩
  | exhausted kept position status completedAt context errorDetail statuses =>
    refine .compensationFinished (kept_trans keptMark kept) compensating status completedAt
      context ?_
    intro index
    rw [statuses, marked]
    change (if index < saga.currentStep then _ else _) = _
    by_cases here : index = saga.currentStep
    · subst here
      simp
    · simp only [if_neg here]
      congr 1
      apply propext
      omega

theorem advance_advances (ready : CursorReady saga) (started : saga.status = .started)
    (returned : advance definition now saga resultData = .ok work) :
    Advancing definition saga work := by
  unfold advance at returned
  obtain ⟨context, merged, returned⟩ := bind_eq_ok.mp returned
  dsimp only at returned
  have succeededHere := modify_step_status_of_present saga ready.inside
    (fun step => show (markSucceeded step).status = .succeeded from rfl)
  have keptHere := modify_step_labels saga saga.currentStep
    (fun step => show stepLabel (markSucceeded step) = stepLabel step from rfl)
  have sameLength : (saga.modifyStep saga.currentStep markSucceeded).steps.length =
      saga.steps.length := by
    simp [SagaInstance.modifyStep]
  split at returned
  · next isLast =>
    cases returned
    have lastBound : saga.steps.length ≤ saga.currentStep + 1 := by
      simpa [SagaInstance.isLastStep, SagaInstance.modifyStep] using isLast
    refine .completed ⟨rfl, rfl, rfl, keptHere⟩ started rfl ?_ rfl ⟨resultData, merged⟩
      succeededHere
    have inside := ready.inside
    omega
  · next notLast =>
    obtain ⟨_, published, returned⟩ := bind_eq_ok.mp returned
    cases returned
    have nextInside : saga.currentStep + 1 < saga.steps.length := by
      simpa [SagaInstance.isLastStep, SagaInstance.modifyStep] using notLast
    have executingHere := modify_step_status_of_present
      ({ saga.modifyStep saga.currentStep markSucceeded with
        context := context, currentStep := saga.currentStep + 1 } : SagaInstance Context)
      (by rw [← sameLength] at nextInside; exact nextInside)
      (fun step => show (markExecuting now step).status = .executing from rfl)
    have keptExecuting := modify_step_labels
      ({ saga.modifyStep saga.currentStep markSucceeded with
        context := context, currentStep := saga.currentStep + 1 } : SagaInstance Context)
      (saga.currentStep + 1)
      (fun step => show stepLabel (markExecuting now step) = stepLabel step from rfl)
    refine .advanced ⟨rfl, rfl, rfl, ?_⟩ started started rfl nextInside rfl
      ⟨resultData, merged⟩ ?_ published
    · intro index
      exact (keptExecuting index).trans (keptHere index)
    · intro index
      refine (executingHere index).trans ?_
      change (if _ then _ else (saga.modifyStep saga.currentStep markSucceeded).stepStatus
        index) = _
      rw [succeededHere]
      by_cases here : index = saga.currentStep
      · subst here
        simp
      · simp [here]

theorem no_compensatable_work {context : Context} (steps : List SagaStep)
    (returned : hasCompensatableWork definition context steps = .ok false) :
    ∀ step ∈ steps, step.status = .succeeded →
      ¬ HasCompensationCommand definition step.index context := by
  induction steps with
  | nil => simp
  | cons head tail ih =>
    intro step member succeeded
    unfold hasCompensatableWork at returned
    by_cases status : head.status = .succeeded
    · simp only [status, ne_eq, not_true_eq_false, if_false] at returned
      split at returned
      · contradiction
      · next stepDef defined =>
        have tailOrHead : (hasCompensatableWork definition context tail = .ok false) ∧
            ¬ HasCompensationCommand definition head.index context := by
          split at returned
          · next noType =>
            refine ⟨returned, ?_⟩
            rintro ⟨otherDef, compensateEventType, payload, otherDefined, compensates, _⟩
            rw [defined] at otherDefined
            cases otherDefined
            rw [noType] at compensates
            contradiction
          · obtain ⟨_, buildReturned, returned⟩ := bind_eq_ok.mp returned
            split at returned
            · cases returned
            · refine ⟨returned, ?_⟩
              rintro ⟨_, _, payload, _, _, other⟩
              rw [buildReturned] at other
              cases other
        rcases List.mem_cons.mp member with rfl | inTail
        · exact tailOrHead.2
        · exact ih tailOrHead.1 step inTail succeeded
    · simp only [status, ne_eq, not_false_eq_true, if_true] at returned
      rcases List.mem_cons.mp member with rfl | inTail
      · exact absurd succeeded status
      · exact ih returned step inTail succeeded

theorem stale_execution_unwinds (ready : CursorReady saga) (started : saga.status = .started)
    (returned : handleStaleExecution definition now maxAge saga = .ok work) :
    Unwinding definition saga work := by
  unfold handleStaleExecution at returned
  obtain ⟨found, search, returned⟩ := bind_eq_ok.mp returned
  cases found with
  | true => exact begin_compensation_unwinds ready started returned
  | false =>
    cases returned
    exact .timedOut ⟨rfl, rfl, rfl, fun _ => rfl⟩ started rfl rfl rfl (fun _ => rfl)
      (no_compensatable_work saga.steps search)

theorem fail_stale_compensation_unwinds (ready : CursorReady saga)
    (compensating : saga.status = .compensating) :
    Unwinding definition saga (failStaleCompensation now saga, ([] : List (OutboxEntry Payload))) := by
  refine .compensationFailed ⟨rfl, rfl, rfl, ?_⟩ compensating rfl rfl rfl ?_
  · exact modify_step_labels saga _ fun _ => rfl
  · exact modify_step_status_of_present saga ready.inside fun _ => rfl

/-- The re-emission note makes every later check find the marker. -/
theorem contains_marker_join (errorDetail : Option String) (suffix : String) :
    containsMarker (joinDetail errorDetail (compensationReemitMarker ++ suffix)) = true := by
  have found : ∀ leading : String,
      containsMarker (some (leading ++ (compensationReemitMarker ++ suffix))) = true := by
    intro leading
    simp only [containsMarker, Option.any_some, decide_eq_true_eq, String.toList_append]
    exact ⟨leading.toList, suffix.toList, by simp⟩
  unfold joinDetail
  split
  · split
    · simpa using found ""
    · next detail _ =>
      have joined := found (detail ++ "; ")
      simpa only [String.append_assoc] using joined
  · simpa using found ""

theorem stale_compensation_unwinds (ready : CursorReady saga)
    (compensating : saga.status = .compensating)
    (returned : handleStaleCompensation definition now maxAge saga = .ok work) :
    Unwinding definition saga work := by
  unfold handleStaleCompensation at returned
  obtain ⟨pending, search, returned⟩ := bind_eq_ok.mp returned
  cases pending with
  | none =>
    cases returned
    exact fail_stale_compensation_unwinds ready compensating
  | some command =>
    obtain ⟨_, _, _⟩ := command
    dsimp only at returned
    by_cases marked : containsMarker saga.errorDetail = true
    · rw [if_pos marked] at returned
      cases returned
      exact fail_stale_compensation_unwinds ready compensating
    · rw [if_neg marked] at returned
      cases returned
      refine .reemitted ⟨rfl, rfl, rfl, fun _ => rfl⟩ compensating compensating rfl rfl rfl
        (fun _ => rfl) (Bool.eq_false_iff.mpr marked) ?_ ?_
      · rw [String.append_assoc]
        exact contains_marker_join saga.errorDetail _
      · unfold pendingCompensation at search
        split at search
        · cases search
        · next found =>
          split at search
          · contradiction
          · next stepDef defined =>
            split at search
            · cases search
            · next compensates =>
              obtain ⟨_, buildReturned, search⟩ := bind_eq_ok.mp search
              split at search
              · cases search
              · cases search
                exact ⟨_, stepDef, _, _, found, defined, compensates, buildReturned, rfl⟩

/-- The last write of `updated_at` changes nothing a transition speaks of. -/
theorem unwinding_touch {added : List (OutboxEntry Payload)} {updatedAt : Option Instant}
    (unwinding : Unwinding definition saga (next, added)) :
    Unwinding definition saga ({ next with updatedAt := updatedAt }, added) := by
  cases unwinding with
  | compensationStarted kept before after earlier completedAt context statuses command =>
    exact .compensationStarted ⟨kept.1, kept.2, kept.3, kept.4⟩ before after earlier completedAt
      context statuses command
  | failedAtOnce kept before after completedAt context statuses nothing =>
    exact .failedAtOnce ⟨kept.1, kept.2, kept.3, kept.4⟩ before after completedAt context statuses
      nothing
  | timedOut kept before after completedAt context statuses nothing =>
    exact .timedOut ⟨kept.1, kept.2, kept.3, kept.4⟩ before after completedAt context statuses
      nothing
  | compensationContinued kept before after earlier completedAt context detail statuses command =>
    exact .compensationContinued ⟨kept.1, kept.2, kept.3, kept.4⟩ before after earlier
      completedAt context detail statuses command
  | compensationFinished kept before after completedAt context statuses =>
    exact .compensationFinished ⟨kept.1, kept.2, kept.3, kept.4⟩ before after completedAt context
      statuses
  | compensationFailed kept before after completedAt context statuses =>
    exact .compensationFailed ⟨kept.1, kept.2, kept.3, kept.4⟩ before after completedAt context
      statuses
  | reemitted kept before after position completedAt context statuses unmarked marked command =>
    exact .reemitted ⟨kept.1, kept.2, kept.3, kept.4⟩ before after position completedAt context
      statuses unmarked marked command

theorem check_step_ok {value : Unit} (checked : checkStep saga stepName = .ok value) :
    ∃ step, saga.currentStepObj = some step ∧ step.name = stepName := by
  unfold checkStep at checked
  split at checked
  · contradiction
  · next step found =>
    split at checked
    · contradiction
    · next same => exact ⟨step, found, by simpa using same⟩

/-- `touched` is `saga` up to the time stamps of the saga and of its steps. -/
structure SameProgress (saga touched : SagaInstance Context) : Prop where
  kept : Kept saga touched
  status : touched.status = saga.status
  currentStep : touched.currentStep = saga.currentStep
  completedAt : touched.completedAt = saga.completedAt
  context : touched.context = saga.context
  errorDetail : touched.errorDetail = saga.errorDetail
  length : touched.steps.length = saga.steps.length
  statuses : ∀ index, touched.stepStatus index = saga.stepStatus index

theorem cursor_ready_of_same (same : SameProgress saga touched) (ready : CursorReady saga) :
    CursorReady touched where
  inside := by
    rw [same.currentStep, same.length]
    exact ready.inside
  succeededBelow index bound := by
    rw [same.statuses]
    rw [same.currentStep] at bound
    exact ready.succeededBelow index bound

theorem advancing_of_same (same : SameProgress saga touched)
    (advancing : Advancing definition touched work) :
    Advancing definition saga work := by
  cases advancing with
  | advanced kept before after position inside completedAt context statuses command =>
    simp only [same.status, same.currentStep, same.length, same.completedAt, same.context,
      same.statuses] at before position inside completedAt context statuses
    exact .advanced (kept_trans same.kept kept) before after position inside completedAt context
      statuses command
  | completed kept before after last completedAt context statuses =>
    simp only [same.status, same.currentStep, same.length, same.context, same.statuses]
      at before last context statuses
    exact .completed (kept_trans same.kept kept) before after last completedAt context statuses

/-- A step of `saga` has a counterpart in `touched` with its label and status. -/
theorem same_progress_step (same : SameProgress saga touched) {step : SagaStep}
    (member : step ∈ saga.steps) :
    ∃ other ∈ touched.steps, other.index = step.index ∧ other.status = step.status := by
  obtain ⟨index, found⟩ := List.mem_iff_getElem?.mp member
  have label := same.kept.labels index
  have status := same.statuses index
  simp only [SagaInstance.stepStatus, found, Option.map_some, Option.map_eq_some_iff] at label status
  obtain ⟨other, otherFound, otherLabel⟩ := label
  obtain ⟨_, anotherFound, anotherStatus⟩ := status
  rw [otherFound] at anotherFound
  cases anotherFound
  exact ⟨other, List.mem_of_getElem? otherFound, congrArg Prod.fst otherLabel, anotherStatus⟩

theorem unwinding_of_same (same : SameProgress saga touched)
    (unwinding : Unwinding definition touched work) :
    Unwinding definition saga work := by
  cases unwinding with
  | compensationStarted kept before after earlier completedAt context statuses command =>
    simp only [same.status, same.currentStep, same.completedAt, same.context, same.statuses]
      at before earlier completedAt context statuses
    exact .compensationStarted (kept_trans same.kept kept) before after earlier completedAt
      context statuses command
  | failedAtOnce kept before after completedAt context statuses nothing =>
    simp only [same.status, same.currentStep, same.context, same.statuses]
      at before context statuses nothing
    exact .failedAtOnce (kept_trans same.kept kept) before after completedAt context statuses
      nothing
  | timedOut kept before after completedAt context statuses nothing =>
    simp only [same.status, same.context, same.statuses] at before context statuses
    refine .timedOut (kept_trans same.kept kept) before after completedAt context statuses ?_
    intro _ member succeeded
    obtain ⟨other, otherMember, index, status⟩ := same_progress_step same member
    have absent := nothing other otherMember (status.trans succeeded)
    rw [index, same.context] at absent
    exact absent
  | compensationContinued kept before after earlier completedAt context detail statuses command =>
    simp only [same.status, same.currentStep, same.completedAt, same.context, same.errorDetail,
      same.statuses] at before earlier completedAt context detail statuses
    exact .compensationContinued (kept_trans same.kept kept) before after earlier completedAt
      context detail statuses command
  | compensationFinished kept before after completedAt context statuses =>
    simp only [same.status, same.currentStep, same.context, same.statuses]
      at before context statuses
    exact .compensationFinished (kept_trans same.kept kept) before after completedAt context
      statuses
  | compensationFailed kept before after completedAt context statuses =>
    simp only [same.status, same.currentStep, same.context, same.statuses]
      at before context statuses
    exact .compensationFailed (kept_trans same.kept kept) before after completedAt context
      statuses
  | reemitted kept before after position completedAt context statuses unmarked marked command =>
    simp only [same.status, same.currentStep, same.completedAt, same.context, same.errorDetail,
      same.statuses] at before position completedAt context statuses unmarked
    exact .reemitted (kept_trans same.kept kept) before after position completedAt context
      statuses unmarked marked command

theorem touch_same_progress (saga : SagaInstance Context) (updatedAt : Option Instant) :
    SameProgress saga { saga with updatedAt := updatedAt } :=
  ⟨⟨rfl, rfl, rfl, fun _ => rfl⟩, rfl, rfl, rfl, rfl, rfl, rfl, fun _ => rfl⟩

theorem replied_same_progress (saga : SagaInstance Context) (now : Instant)
    (updatedAt : Option Instant) :
    SameProgress saga
      { saga.modifyStep saga.currentStep (markReplied now) with updatedAt := updatedAt } := by
  refine ⟨⟨rfl, rfl, rfl, ?_⟩, rfl, rfl, rfl, rfl, rfl, ?_, ?_⟩
  · exact modify_step_labels saga saga.currentStep
      fun step => show stepLabel (markReplied now step) = stepLabel step from rfl
  · simp [SagaInstance.modifyStep]
  · intro index
    change (saga.modifyStep saga.currentStep (markReplied now)).stepStatus index = _
    rw [modify_step_status]
    split
    · rfl
    · rfl

theorem decide_reply_cases (ready : saga.isActive = true → CursorReady saga)
    (returned : decideReply registry now saga stepName success resultData errorMessage = .ok work) :
    ∃ definition, getDefinition registry saga.sagaType = .ok definition ∧ saga.status = .started ∧
      (∃ step, saga.currentStepObj = some step ∧ step.name = stepName) ∧
      (success = true → Advancing definition saga work) ∧
      (success = false → Unwinding definition saga work) := by
  unfold decideReply at returned
  by_cases started : saga.status = .started
  · dsimp only at returned
    rw [if_neg (not_not.mpr started)] at returned
    obtain ⟨definition, registered, returned⟩ := bind_eq_ok.mp returned
    obtain ⟨_, checked, returned⟩ := bind_eq_ok.mp returned
    have active := ready (by simp [SagaInstance.isActive, started])
    have same := replied_same_progress saga now (some now)
    have readyReplied := cursor_ready_of_same same active
    refine ⟨definition, registered, started, check_step_ok checked, ?_, ?_⟩
    · intro accepted
      rw [if_pos accepted] at returned
      exact advancing_of_same same (advance_advances readyReplied started returned)
    · intro rejected
      simp only [rejected, Bool.false_eq_true, if_false] at returned
      exact unwinding_of_same same (begin_compensation_unwinds readyReplied started returned)
  · simp [started, throw, throwThe, MonadExceptOf.throw, bind, Except.bind] at returned

theorem decide_compensation_reply_cases (ready : saga.isActive = true → CursorReady saga)
    (returned : decideCompensationReply registry now saga stepName success errorMessage = .ok work) :
    ∃ definition, getDefinition registry saga.sagaType = .ok definition ∧
      saga.status = .compensating ∧
      (∃ step, saga.currentStepObj = some step ∧ step.name = stepName) ∧
      Unwinding definition saga work := by
  unfold decideCompensationReply at returned
  by_cases compensating : saga.status = .compensating
  · dsimp only at returned
    rw [if_neg (not_not.mpr compensating)] at returned
    obtain ⟨definition, registered, returned⟩ := bind_eq_ok.mp returned
    obtain ⟨_, checked, returned⟩ := bind_eq_ok.mp returned
    have active := ready (by simp [SagaInstance.isActive, compensating])
    have same := touch_same_progress saga (some now)
    have readyTouched := cursor_ready_of_same same active
    refine ⟨definition, registered, compensating, check_step_ok checked, ?_⟩
    cases success with
    | true =>
      simp only [if_true] at returned
      exact unwinding_of_same same
        (compensation_success_unwinds readyTouched compensating returned)
    | false =>
      simp only [Bool.false_eq_true, if_false] at returned
      cases returned
      refine .compensationFailed ⟨rfl, rfl, rfl, ?_⟩ compensating rfl rfl rfl ?_
      · exact modify_step_labels saga saga.currentStep
          fun step => show stepLabel (markFailed errorMessage step) = stepLabel step from rfl
      · exact modify_step_status_of_present saga active.inside fun _ => rfl
  · simp [compensating, throw, throwThe, MonadExceptOf.throw, bind, Except.bind] at returned

theorem decide_timeout_cases {cutoff : Instant} (ready : saga.isActive = true → CursorReady saga)
    (returned : decideTimeout registry now maxAge cutoff saga = .ok (some work)) :
    ∃ definition, getDefinition registry saga.sagaType = .ok definition ∧
      saga.isActive = true ∧ isStale saga cutoff = true ∧ Unwinding definition saga work := by
  unfold decideTimeout at returned
  split at returned
  · next both =>
    have active : saga.isActive = true ∧ isStale saga cutoff = true := by
      simpa using both
    obtain ⟨definition, registered, returned⟩ := bind_eq_ok.mp returned
    dsimp only at returned
    have unwound : ∃ next added, work = ({ next with updatedAt := some now }, added) ∧
        Unwinding definition saga (next, added) := by
      split at returned
      · next compensating =>
        obtain ⟨⟨next, added⟩, handled, returned⟩ := bind_eq_ok.mp returned
        cases returned
        exact ⟨next, added, rfl,
          stale_compensation_unwinds (ready active.1) compensating handled⟩
      · next notCompensating =>
        obtain ⟨⟨next, added⟩, handled, returned⟩ := bind_eq_ok.mp returned
        cases returned
        have started : saga.status = .started := by
          have isActive := active.1
          simpa [SagaInstance.isActive, notCompensating] using isActive
        exact ⟨next, added, rfl, stale_execution_unwinds (ready active.1) started handled⟩
    obtain ⟨_, _, rfl, unwinding⟩ := unwound
    exact ⟨definition, registered, active.1, active.2, unwinding_touch unwinding⟩
  · cases returned

end FinanceTracker.Saga.Transitions
