import FinanceTracker.Saga.Commands
import FinanceTracker.Saga.StartConsumer

/-!
# Every start event starts one saga

A start that commits is one call of `start_saga` on the database it commits to: the
unique keys hold its id free from the INSERT on. The sagas and commands of every run are
therefore those of a run of calls. A lost race is over when it is seen, so it costs a
delivery one attempt at most.
-/

namespace FinanceTracker.Saga.StartedOnce

open Library KeyedRows Runs Sessions Domain List
open Orchestrator hiding advance
open Invariant Commands BankSync StartConsumer
open Shared.SagaMessages (CommandFields ResultData)

structure ValidStart (body : StartBody) (correlationId : String) : Prop where
  parsed : ∃ sagaType context definition,
    parseStartEvent body = .ok (sagaType, context, some correlationId) ∧
      getDefinition sagaRegistry sagaType = .ok definition
  uuid : isUuidText correlationId = true

/-- There is one saga with the correlation id, and its first command is there once. -/
structure OneSaga (db : BankSyncDb) (correlationId : String) : Prop where
  one : (db.sagas.filter fun saga => saga.correlationId = correlationId).length = 1
  command : ∀ saga ∈ db.sagas, saga.correlationId = correlationId →
    (commandSteps .execution db.outbox saga.id).count 0 = 1

structure EachStartsOne (state : State) : Prop where
  acknowledged : ∀ copy ∈ state.acknowledged, ∀ correlationId,
    ValidStart copy.body correlationId → OneSaga state.db correlationId
  deadLettered : ∀ copy ∈ state.deadLettered, ∀ correlationId, ¬ ValidStart copy.body correlationId

/-- Transient errors last fewer attempts at a message than the limit. -/
def FewTransients (state : State) : Label → Prop
  | .fail index _ =>
    ∀ session ∈ state.sessions[index]?, session.copy.transients + 1 < maxRetries
  | _ => True

instance (state : State) (label : Label) : Decidable (FewTransients state label) :=
  match label with
  | .fail index _ => inferInstanceAs (Decidable
      (∀ session ∈ state.sessions[index]?, session.copy.transients + 1 < maxRetries))
  | .publish _ => isTrue trivial
  | .take _ => isTrue trivial
  | .advance _ _ => isTrue trivial
  | .crash _ _ => isTrue trivial
  | .orchestrate _ => isTrue trivial

section Rewritten

variable {Context Payload Result : Type} {registry : SagaRegistry Context Payload Result}
  {db middle next : SagaDb Context Payload}

structure Rewritten (db next : SagaDb Context Payload) : Prop where
  ids : next.sagas.map SagaInstance.id = db.sagas.map SagaInstance.id
  rows : ∀ saga ∈ next.sagas, ∃ old ∈ db.sagas, old.id = saga.id ∧
    old.correlationId = saga.correlationId
  outbox : db.outbox <+: next.outbox

theorem rewritten_refl (db : SagaDb Context Payload) : Rewritten db db where
  ids := rfl
  rows := fun saga member => ⟨saga, member, rfl, rfl⟩
  outbox := prefix_refl _

theorem rewritten_trans (first : Rewritten db middle) (second : Rewritten middle next) :
    Rewritten db next where
  ids := second.ids.trans first.ids
  rows := by
    intro saga member
    obtain ⟨between, stored, id, correlation⟩ := second.rows saga member
    obtain ⟨old, oldStored, oldId, oldCorrelation⟩ := first.rows between stored
    exact ⟨old, oldStored, oldId.trans id, oldCorrelation.trans correlation⟩
  outbox := first.outbox.trans second.outbox

theorem store_work_rewritten (db : SagaDb Context Payload) (work : SagaWork Context Payload) :
    Rewritten db (storeWork db work) where
  ids := replace_keys fun _ _ _ => rfl
  rows := by
    intro saga member
    rcases mem_replace.mp member with ⟨stored, _⟩ | ⟨old, stored, _, rfl⟩
    · exact ⟨saga, stored, rfl, rfl⟩
    · exact ⟨old, stored, rfl, rfl⟩
  outbox := prefix_append _ _

theorem changed_rewritten {call : Call Context Result} (changed : Changed registry db call next)
    (noStart : ∀ now sagaType context correlationId generatedId,
      call ≠ .startSaga now sagaType context correlationId generatedId) : Rewritten db next := by
  cases changed with
  | unchanged => exact rewritten_refl db
  | inserted => exact absurd rfl (noStart _ _ _ _ _)
  | advanced advanced =>
    cases advanced with
    | advanced => exact store_work_rewritten db _
  | unwound chain =>
    induction chain with
    | refl => exact rewritten_refl db
    | tail _ unwound ih =>
      cases unwound with
      | unwound => exact rewritten_trans ih (store_work_rewritten _ _)

end Rewritten

structure SagaRows (db : BankSyncDb) : Prop where
  history : HistoryInvariant sagaRegistry db
  named : ∀ saga ∈ db.sagas, saga.correlationId = saga.id
  commanded : ∀ saga ∈ db.sagas, 0 ∈ commandSteps .execution db.outbox saga.id

def HasSaga (db : BankSyncDb) (sagaId : String) : Prop := ∃ saga ∈ db.sagas, saga.id = sagaId

section Rows

variable {db next : BankSyncDb}

theorem rewritten_rows (rows : SagaRows db) (rewritten : Rewritten db next)
    (history : HistoryInvariant sagaRegistry next) : SagaRows next where
  history := history
  named := by
    intro saga member
    obtain ⟨old, stored, id, correlation⟩ := rewritten.rows saga member
    rw [← correlation, ← id]
    exact rows.named old stored
  commanded := by
    intro saga member
    obtain ⟨old, stored, id, _⟩ := rewritten.rows saga member
    obtain ⟨_, same⟩ := rewritten.outbox
    rw [← id, ← same, command_steps_append]
    exact mem_append_left _ (rows.commanded old stored)

variable {sagaId : String}

theorem has_saga_iff_ids :
    HasSaga db sagaId ↔ sagaId ∈ db.sagas.map SagaInstance.id :=
  mem_map.symm

theorem rewritten_has_saga (rewritten : Rewritten db next) (sagaId : String) :
    HasSaga next sagaId ↔ HasSaga db sagaId := by
  rw [has_saga_iff_ids, has_saga_iff_ids, rewritten.ids]

theorem orchestrate_rewritten (rows : SagaRows db) (call : Call BankSyncContext ResultData) :
    Rewritten db (orchestrate db call) ∧ SagaRows (orchestrate db call) := by
  have whole (noStart : ∀ now sagaType context correlationId generatedId,
      call ≠ .startSaga now sagaType context correlationId generatedId) :
      Rewritten db (runCall sagaRegistry db call) ∧ SagaRows (runCall sagaRegistry db call) := by
    have changed := run_call_changes rows.history.valid call
    have rewritten := changed_rewritten changed noStart
    exact ⟨rewritten, rewritten_rows rows rewritten (changed_history rows.history changed)⟩
  cases call with
  | startSaga => exact ⟨rewritten_refl db, rows⟩
  | handleReply | handleCompensationReply =>
    exact whole fun _ _ _ _ _ same => by cases same
  | checkTimeouts => exact whole fun _ _ _ _ _ same => by cases same

theorem has_saga_of_correlation (rows : SagaRows db) :
    (getByCorrelationId db sagaId).isSome = true ↔ HasSaga db sagaId := by
  unfold getByCorrelationId
  rw [List.find?_isSome]
  constructor
  · rintro ⟨saga, member, named⟩
    exact ⟨saga, member, (rows.named saga member).symm.trans (of_decide_eq_true named)⟩
  · rintro ⟨saga, member, id⟩
    exact ⟨saga, member, decide_eq_true ((rows.named saga member).trans id)⟩

theorem one_saga (rows : SagaRows db) (stored : HasSaga db sagaId) :
    OneSaga db sagaId where
  one := by
    obtain ⟨saga, member, id⟩ := stored
    apply Nat.le_antisymm
    · apply (filter_at_most_one_iff rows.history.valid.ids _).mpr
      intro first firstIn second secondIn firstNamed secondNamed
      rw [← rows.named first firstIn, ← rows.named second secondIn]
      exact (of_decide_eq_true firstNamed).trans (of_decide_eq_true secondNamed).symm
    · apply length_pos_of_mem
      apply mem_filter.mpr
      exact ⟨member, decide_eq_true ((rows.named saga member).trans id)⟩
  command := by
    intro saga member _
    obtain ⟨_, sent⟩ := (rows.history.commands saga member).sent
    have first := rows.commanded saga member
    rw [sent] at first ⊢
    exact count_eq_one_of_mem nodup_range first

variable {now : Instant} {sagaType : String} {context : BankSyncContext}
  {definition : SagaDefinition BankSyncContext CommandFields ResultData}

/-- A start that commits is the whole call on the database it commits to. -/
theorem committed_is_start (rows : SagaRows db) {command : OutboxEntry CommandFields}
    (registered : getDefinition sagaRegistry sagaType = .ok definition) (new : ¬ HasSaga db sagaId)
    (published : publishStepCommand (newSaga definition now sagaType context sagaId) definition 0 =
      .ok command) :
    startSaga sagaRegistry db now sagaType context none sagaId =
      .ok (committed db now (newSaga definition now sagaType context sagaId) command,
        (newSaga definition now sagaType context sagaId).modifyStep 0 (markExecuting now)) := by
  have unknown : (getByCorrelationId db sagaId).isSome = false := by
    apply Bool.eq_false_iff.mpr
    exact fun found => new ((has_saga_of_correlation rows).mp found)
  have unused : (db.sagas.any fun stored => stored.id = sagaId) = false := by
    apply any_eq_false.mpr
    intro stored member same
    exact new ⟨stored, member, of_decide_eq_true same⟩
  unfold startSaga
  rw [registered, ok_bind]
  dsimp only [sagaIdFor]
  have noDuplicate : (getByCorrelationId db
      (newSaga definition now sagaType context sagaId).correlationId).isSome = false := unknown
  have saved : save db (newSaga definition now sagaType context sagaId) =
      .ok { db with sagas := db.sagas ++ [newSaga definition now sagaType context sagaId] } :=
    if_neg (Bool.eq_false_iff.mp unused)
  rw [noDuplicate, saved, published]
  rfl

theorem committed_rows (rows : SagaRows db) {command : OutboxEntry CommandFields}
    (registered : getDefinition sagaRegistry sagaType = .ok definition) (new : ¬ HasSaga db sagaId)
    (published : publishStepCommand (newSaga definition now sagaType context sagaId) definition 0 =
      .ok command) :
    SagaRows (committed db now (newSaga definition now sagaType context sagaId) command) ∧
      ∀ other, HasSaga (committed db now (newSaga definition now sagaType context sagaId) command)
        other ↔ HasSaga db other ∨ other = sagaId := by
  have started := committed_is_start rows registered new published
  have stored : (committed db now (newSaga definition now sagaType context sagaId) command).sagas =
      db.sagas ++ [(newSaga definition now sagaType context sagaId).modifyStep 0
        (markExecuting now)] := by
    change replace SagaInstance.id
      (db.sagas ++ [newSaga definition now sagaType context sagaId])
      (newSaga definition now sagaType context sagaId).id _ = _
    exact replace_appended fun saga member same => new ⟨saga, member, same⟩
  obtain ⟨_, role, first, aggregate, _, _⟩ := publish_step_command_ok published
  refine ⟨⟨inserted_history rows.history (start_saga_inserts started), ?_, ?_⟩, ?_⟩
  · intro saga member
    rw [stored] at member
    rcases mem_snoc.mp member with old | rfl
    · exact rows.named saga old
    · rfl
  · intro saga member
    rw [stored] at member
    change 0 ∈ commandSteps .execution (db.outbox ++ [command]) saga.id
    rw [command_steps_append]
    rcases mem_snoc.mp member with old | rfl
    · exact mem_append_left _ (rows.commanded saga old)
    · apply mem_append_right
      rw [command_steps_singleton, if_pos ⟨aggregate, role⟩, first]
      exact mem_singleton_self 0
  · intro _
    rw [has_saga_iff_ids, has_saga_iff_ids, stored, map_append, mem_append]
    exact or_congr Iff.rfl mem_singleton

end Rows

def Built (session : Session) (saga : SagaInstance BankSyncContext) : Prop :=
  ∃ sagaType context correlationId generatedId definition,
    parseStartEvent session.copy.body = .ok (sagaType, context, correlationId) ∧
      getDefinition sagaRegistry sagaType = .ok definition ∧
      saga = newSaga definition session.now sagaType context (sagaIdFor correlationId generatedId)

/-- A valid start event is not past the attempts that its transient errors explain. -/
def Budget (copy : Copy) : Prop :=
  ∀ correlationId, ValidStart copy.body correlationId →
    copy.transients < maxRetries ∧ copy.retryCount ≤ copy.transients

/-- One attempt more may have gone to a lost race; then the saga is there. -/
def Ready (db : BankSyncDb) (copy : Copy) : Prop :=
  ∀ correlationId, ValidStart copy.body correlationId → copy.transients < maxRetries ∧
    (copy.retryCount ≤ copy.transients ∨
      (copy.retryCount = copy.transients + 1 ∧ HasSaga db correlationId))

def Started (db : BankSyncDb) (copy : Copy) : Prop :=
  ∀ correlationId, ValidStart copy.body correlationId → HasSaga db correlationId

def Invalid (copy : Copy) : Prop :=
  ∀ correlationId, ¬ ValidStart copy.body correlationId

def Fits (db : BankSyncDb) (session : Session) : Prop :=
  match session.phase with
  | .received => Ready db session.copy
  | .absent saga => Budget session.copy ∧ Built session saga
  | .inserted saga => Budget session.copy ∧ Built session saga ∧ ¬ HasSaga db saga.id
  | .prepared saga command => Budget session.copy ∧ Built session saga ∧ ¬ HasSaga db saga.id ∧
      prepare saga = .prepared saga command
  | .handled (.ok _) => Ready db session.copy ∧ Started db session.copy
  | .handled (.error .poison) => Invalid session.copy
  | .handled (.error .other) => Budget session.copy ∧ Ready db session.copy.next
  | .settled => True

structure Inv (state : State) : Prop where
  rows : SagaRows state.db
  queued : ∀ copy ∈ state.queue, Ready state.db copy
  fits : ∀ session ∈ state.sessions, Fits state.db session
  exclusive : Exclusive pendingId state.sessions
  acknowledged : ∀ copy ∈ state.acknowledged, Started state.db copy
  deadLettered : ∀ copy ∈ state.deadLettered, Invalid copy

section Sessions

variable {db next : BankSyncDb} {session : Session} {copy : Copy}

theorem budget_ready (budget : Budget copy) : Ready db copy :=
  fun correlationId valid =>
    ⟨(budget correlationId valid).1, Or.inl (budget correlationId valid).2⟩

theorem invalid_ready (invalid : Invalid copy) : Ready db copy :=
  fun correlationId valid => absurd valid (invalid correlationId)

theorem invalid_budget (invalid : Invalid copy) : Budget copy :=
  fun correlationId valid => absurd valid (invalid correlationId)

theorem ready_grows (keeps : ∀ sagaId, HasSaga db sagaId → HasSaga next sagaId)
    (ready : Ready db copy) : Ready next copy := by
  intro correlationId valid
  obtain ⟨few, spent | ⟨lost, stored⟩⟩ := ready correlationId valid
  · exact ⟨few, Or.inl spent⟩
  · exact ⟨few, Or.inr ⟨lost, keeps correlationId stored⟩⟩

/-- A phase is kept while sagas are only added, none of them with the session's id. -/
theorem fits_grows (keeps : ∀ sagaId, HasSaga db sagaId → HasSaga next sagaId)
    (own : ∀ sagaId, pendingId session = some sagaId → HasSaga next sagaId → HasSaga db sagaId)
    (fits : Fits db session) : Fits next session := by
  unfold Fits at fits ⊢
  split at fits
  · exact ready_grows keeps fits
  · exact fits
  · next saga inserted =>
    refine ⟨fits.1, fits.2.1, ?_⟩
    exact fun stored => fits.2.2 (own saga.id (by simp [pendingId, inserted]) stored)
  · next saga command prepared =>
    refine ⟨fits.1, fits.2.1, ?_, fits.2.2.2⟩
    exact fun stored => fits.2.2.1 (own saga.id (by simp [pendingId, prepared]) stored)
  · refine ⟨ready_grows keeps fits.1, ?_⟩
    exact fun correlationId valid => keeps correlationId (fits.2 correlationId valid)
  · exact fits
  · exact ⟨fits.1, ready_grows keeps fits.2⟩
  · trivial

/-- Whatever a live session is doing, its delivery may come again. -/
theorem fits_ready (fits : Fits db session)
    (live : ∀ result, session.phase ≠ .handled result) (unsettled : session.phase ≠ .settled) :
    Ready db session.copy := by
  unfold Fits at fits
  split at fits
  · exact fits
  · exact budget_ready fits.1
  · exact budget_ready fits.1
  · exact budget_ready fits.1
  · next handled => exact absurd handled (live _)
  · next handled => exact absurd handled (live _)
  · next handled => exact absurd handled (live _)
  · next settled => exact absurd settled unsettled

theorem built_id {saga : SagaInstance BankSyncContext} (built : Built session saga)
    {correlationId : String} (valid : ValidStart session.copy.body correlationId) :
    saga.id = correlationId := by
  obtain ⟨_, _, _, _, _, parsed, _, rfl⟩ := built
  obtain ⟨_, _, _, again, _⟩ := valid.parsed
  rw [parsed] at again
  cases again
  have nonempty : correlationId ≠ "" := by
    rintro rfl
    exact absurd valid.uuid (by decide)
  exact if_neg nonempty

theorem registered_type {sagaType : String}
    {definition : SagaDefinition BankSyncContext CommandFields ResultData}
    (registered : getDefinition sagaRegistry sagaType = .ok definition) :
    sagaType = "bank_sync" ∧ definition = bankSyncDefinition := by
  unfold getDefinition at registered
  split at registered
  · next found isFound =>
    cases registered
    have member := mem_of_find?_eq_some isFound
    have same : definition.sagaType = sagaType := by simpa using List.find?_some isFound
    rw [sagaRegistry, SagaRegistry.register, mem_singleton] at member
    rw [member] at same ⊢
    exact ⟨same.symm, rfl⟩
  · cases registered

theorem parsed_context {body : StartBody} {context : BankSyncContext}
    {correlationId : Option String}
    (parsed : parseStartEvent body = .ok ("bank_sync", context, correlationId)) :
    ∃ event, context = startContext event := by
  unfold parseStartEvent at parsed
  split at parsed
  · obtain ⟨_, parsed⟩ := rest_ok parsed
    obtain ⟨_, parsed⟩ := rest_ok parsed
    obtain ⟨_, parsed⟩ := rest_ok parsed
    obtain ⟨_, parsed⟩ := rest_ok parsed
    obtain ⟨_, parsed⟩ := rest_ok parsed
    cases parsed
    exact ⟨_, rfl⟩
  · next other =>
    dsimp only at parsed
    split at parsed
    · cases parsed
    · exfalso
      apply other
      right
      cases named : body.sagaType with
      | none =>
        rw [named] at parsed
        injection parsed with same
        injection same with isEmpty
        exact absurd isEmpty (by decide)
      | some =>
        rw [named] at parsed
        injection parsed with same
        injection same with isName
        exact congrArg some isName

theorem built_prepares {saga : SagaInstance BankSyncContext} (built : Built session saga) :
    ∃ command, prepare saga = .prepared saga command := by
  obtain ⟨_, _, _, _, _, parsed, registered, rfl⟩ := built
  obtain ⟨rfl, rfl⟩ := registered_type registered
  obtain ⟨_, rfl⟩ := parsed_context parsed
  exact ⟨_, rfl⟩

end Sessions

section Steps

variable {state : State} {index : Nat} {session : Session} {queue : List Copy}
  {saga : SagaInstance BankSyncContext} {command : OutboxEntry CommandFields}

/-- A session moves, and what its transaction and its delivery leave behind fits. -/
theorem move_inv (invariant : Inv state) (next : Session) {db : BankSyncDb} (rows : SagaRows db)
    (keeps : ∀ sagaId, HasSaga state.db sagaId → HasSaga db sagaId)
    (others : ∀ other found sagaId, other ≠ index → state.sessions[other]? = some found →
      pendingId found = some sagaId → HasSaga db sagaId → HasSaga state.db sagaId)
    (fits : Fits db next)
    (pending : ∀ sagaId, pendingId next = some sagaId →
      Claims pendingId state.sessions index sagaId ∨
        ∀ other, ¬ Claims pendingId state.sessions other sagaId)
    {acknowledged deadLettered : List Copy}
    (queued : ∀ copy ∈ queue, copy ∈ state.queue ∨ Ready db copy)
    (acks : ∀ copy ∈ acknowledged, copy ∈ state.acknowledged ∨ Started db copy)
    (deads : ∀ copy ∈ deadLettered, copy ∈ state.deadLettered ∨ Invalid copy) :
    Inv { db := db
          queue := queue
          sessions := state.sessions.set index next
          acknowledged := acknowledged
          deadLettered := deadLettered } where
  rows := rows
  queued := by
    intro copy member
    rcases queued copy member with old | ready
    · exact ready_grows keeps (invariant.queued copy old)
    · exact ready
  fits := by
    intro found member
    obtain ⟨other, got⟩ := mem_iff_getElem?.mp member
    rcases get_set_cases got with ⟨_, rfl⟩ | ⟨elsewhere, before⟩
    · exact fits
    · apply fits_grows keeps (others other found · elsewhere before)
      exact invariant.fits found (mem_of_getElem? before)
  exclusive := exclusive_set invariant.exclusive pending
  acknowledged := by
    intro copy member
    rcases acks copy member with old | started
    · exact fun correlationId valid =>
        keeps correlationId (invariant.acknowledged copy old correlationId valid)
    · exact started
  deadLettered := by
    intro copy member
    rcases deads copy member with old | invalid
    · exact invariant.deadLettered copy old
    · exact invalid

/-- A session moves and nothing else changes. -/
theorem quiet_inv (invariant : Inv state) (next : Session) (fits : Fits state.db next)
    (pending : ∀ sagaId, pendingId next = some sagaId →
      Claims pendingId state.sessions index sagaId ∨
        ∀ other, ¬ Claims pendingId state.sessions other sagaId) :
    Inv (state.setSession index next) :=
  move_inv invariant next invariant.rows (fun _ stored => stored)
    (fun _ _ _ _ _ _ stored => stored) fits pending (fun _ member => Or.inl member)
    (fun _ member => Or.inl member) (fun _ member => Or.inl member)

/-- The delivery is settled or comes again. -/
theorem settles_inv (invariant : Inv state) {acknowledged deadLettered : List Copy}
    (queued : ∀ copy ∈ queue, copy ∈ state.queue ∨ Ready state.db copy)
    (acks : ∀ copy ∈ acknowledged, copy ∈ state.acknowledged ∨ Started state.db copy)
    (deads : ∀ copy ∈ deadLettered, copy ∈ state.deadLettered ∨ Invalid copy) :
    Inv { db := state.db
          queue := queue
          sessions := state.sessions.set index (session.at .settled)
          acknowledged := acknowledged
          deadLettered := deadLettered } :=
  move_inv invariant (session.at .settled) invariant.rows (fun _ stored => stored)
    (fun _ _ _ _ _ _ stored => stored) trivial (fun _ none => by cases none) queued acks deads

theorem snoc_cases {copy new : Copy} {copies : List Copy} (member : copy ∈ copies ++ [new]) :
    copy ∈ copies ∨ copy = new := by
  rcases mem_snoc.mp member with old | added
  · exact Or.inl old
  · exact Or.inr added

theorem settle_inv (invariant : Inv state) (here : state.sessions[index]? = some session)
    {result : Except Failure Unit} (handled : session.phase = .handled result)
    (published : Bool) : Inv (settle state index session result published) := by
  have fits := invariant.fits session (mem_of_getElem? here)
  unfold Fits at fits
  rw [handled] at fits
  unfold settle
  dsimp only
  split
  · apply settles_inv invariant (fun _ member => Or.inl member) _ (fun _ member => Or.inl member)
    intro _ member
    rcases snoc_cases member with old | rfl
    · exact Or.inl old
    · exact Or.inr fits.2
  · apply settles_inv invariant (fun _ member => Or.inl member) (fun _ member => Or.inl member)
    intro _ member
    rcases snoc_cases member with old | rfl
    · exact Or.inl old
    · exact Or.inr fits
  · split
    · split
      · apply settles_inv invariant _ (fun _ member => Or.inl member)
          (fun _ member => Or.inl member)
        intro _ member
        rcases snoc_cases member with old | rfl
        · exact Or.inl old
        · exact Or.inr fits.2
      · apply settles_inv invariant _ (fun _ member => Or.inl member)
          (fun _ member => Or.inl member)
        intro _ member
        rcases snoc_cases member with old | rfl
        · exact Or.inl old
        · exact Or.inr (budget_ready fits.1)
    · next exhausted =>
      apply settles_inv invariant (fun _ member => Or.inl member) (fun _ member => Or.inl member)
      intro _ member
      rcases snoc_cases member with old | rfl
      · exact Or.inl old
      · right
        intro correlationId valid
        obtain ⟨few, spent⟩ := fits.1 correlationId valid
        exact exhausted (Nat.lt_of_le_of_lt spent few)

theorem select_inv (invariant : Inv state) (here : state.sessions[index]? = some session)
    (received : session.phase = .received) (choice : Choice) :
    Inv (state.setSession index
      { session with now := choice.now, phase := select state.db choice session.copy.body }) := by
  have ready := invariant.fits session (mem_of_getElem? here)
  unfold Fits at ready
  rw [received] at ready
  have failed (failure : Failure) (invalid : Invalid session.copy) : Inv (state.setSession index
        { session with now := choice.now, phase := .handled (.error failure) }) := by
    apply quiet_inv invariant _ _ (fun _ none => by cases none)
    cases failure with
    | poison => exact invalid
    | other =>
      have again : Invalid session.copy.next := invalid
      exact ⟨invalid_budget invalid, invalid_ready again⟩
  unfold select
  split
  · next error notParsed =>
    apply failed
    intro _ valid
    obtain ⟨_, _, _, parsed, _⟩ := valid.parsed
    rw [notParsed] at parsed
    cases parsed
  · next sagaType context given parsed =>
    split
    · next failure unknown =>
      apply failed
      intro _ valid
      obtain ⟨_, _, _, again, registered⟩ := valid.parsed
      rw [parsed] at again
      cases again
      rw [unknown] at registered
      cases registered
    · next definition registered =>
      have built : Built { session with now := choice.now }
          (newSaga definition choice.now sagaType context
            (sagaIdFor given choice.generatedId)) :=
        ⟨sagaType, context, given, choice.generatedId, definition, parsed, registered, rfl⟩
      dsimp only
      split
      · next found =>
        apply quiet_inv invariant _ _ (fun _ none => by cases none)
        refine ⟨ready, ?_⟩
        intro _ valid
        rw [← built_id built valid]
        exact (has_saga_of_correlation invariant.rows).mp found
      · next absent =>
        apply quiet_inv invariant _ _ (fun _ none => by cases none)
        refine ⟨?_, built⟩
        intro correlationId valid
        obtain ⟨few, spent | ⟨_, stored⟩⟩ := ready correlationId valid
        · exact ⟨few, spent⟩
        · exfalso
          apply absent
          rw [← built_id built valid] at stored
          exact (has_saga_of_correlation invariant.rows).mpr stored

theorem insert_inv (invariant : Inv state) (here : state.sessions[index]? = some session)
    (absent : session.phase = .absent saga) (free : heldByOther state index saga.id = false) :
    Inv (state.setSession index (session.at (insertSaga state.db saga))) := by
  have fits := invariant.fits session (mem_of_getElem? here)
  unfold Fits at fits
  rw [absent] at fits
  obtain ⟨budget, built⟩ := fits
  have builtAt (phase : Phase) : Built (session.at phase) saga := built
  unfold insertSaga
  split
  · unfold save
    split
    · next failure refused =>
      split at refused
      · next taken =>
        cases refused
        apply quiet_inv invariant _ _ (fun _ none => by cases none)
        refine ⟨budget, ?_⟩
        intro correlationId valid
        obtain ⟨few, spent⟩ := budget correlationId valid
        refine ⟨few, ?_⟩
        obtain ⟨stored, member, same⟩ := any_eq_true.mp taken
        have present : HasSaga state.db correlationId := by
          rw [← built_id built valid]
          exact ⟨stored, member, of_decide_eq_true same⟩
        rcases Nat.lt_or_eq_of_le spent with below | equal
        · exact Or.inl below
        · exact Or.inr ⟨congrArg (· + 1) equal, present⟩
      · cases refused
    · next saved accepted =>
      split at accepted
      · cases accepted
      · next unused =>
        apply quiet_inv invariant
        · refine ⟨budget, builtAt _, ?_⟩
          rintro ⟨stored, member, same⟩
          exact unused (any_eq_true.mpr ⟨stored, member, decide_eq_true same⟩)
        · intro _ claimed
          cases claimed
          right
          apply no_other_claims free
          rintro ⟨found, got, claimed⟩
          rw [here] at got
          cases got
          simp [pendingId, absent] at claimed
  · next noUuid =>
    apply quiet_inv invariant _ _ (fun _ none => by cases none)
    refine ⟨budget, ?_⟩
    intro _ valid
    exfalso
    apply noUuid
    rw [built_id built valid]
    exact valid.uuid

theorem prepare_inv (invariant : Inv state) (here : state.sessions[index]? = some session)
    (inserted : session.phase = .inserted saga) :
    Inv (state.setSession index (session.at (prepare saga))) := by
  have fits := invariant.fits session (mem_of_getElem? here)
  unfold Fits at fits
  rw [inserted] at fits
  obtain ⟨budget, built, new⟩ := fits
  have builtAt (phase : Phase) : Built (session.at phase) saga := built
  obtain ⟨_, prepared⟩ := built_prepares built
  rw [prepared]
  apply quiet_inv invariant
  · exact ⟨budget, builtAt _, new, prepared⟩
  · intro _ claimed
    refine Or.inl ⟨session, here, ?_⟩
    cases claimed
    simp [pendingId, inserted]

theorem commit_rows (invariant : Inv state) (here : state.sessions[index]? = some session)
    (phase : session.phase = .prepared saga command) :
    SagaRows (committed state.db session.now saga command) ∧
      ∀ sagaId, HasSaga (committed state.db session.now saga command) sagaId ↔
        HasSaga state.db sagaId ∨ sagaId = saga.id := by
  have fits := invariant.fits session (mem_of_getElem? here)
  unfold Fits at fits
  rw [phase] at fits
  obtain ⟨_, ⟨sagaType, context, given, generatedId, definition, _, registered, rfl⟩, new,
    prepared⟩ := fits
  apply committed_rows invariant.rows registered new
  unfold prepare at prepared
  dsimp only [newSaga] at prepared
  rw [registered, ok_bind] at prepared
  split at prepared
  · cases prepared
  · next published =>
    cases prepared
    exact published

theorem commit_others (invariant : Inv state) (here : state.sessions[index]? = some session)
    (phase : session.phase = .prepared saga command) (other : Nat) (found : Session)
    (sagaId : String) (elsewhere : other ≠ index) (got : state.sessions[other]? = some found)
    (claimed : pendingId found = some sagaId)
    (stored : HasSaga (committed state.db session.now saga command) sagaId) :
    HasSaga state.db sagaId := by
  rcases ((commit_rows invariant here phase).2 sagaId).mp stored with before | rfl
  · exact before
  · exfalso
    apply elsewhere
    apply invariant.exclusive other index saga.id ⟨found, got, claimed⟩
    exact ⟨session, here, by simp [pendingId, phase]⟩

theorem commit_inv (invariant : Inv state) (here : state.sessions[index]? = some session)
    (phase : session.phase = .prepared saga command) :
    Inv ({ state with db := committed state.db session.now saga command }.setSession index
      (session.at (.handled (.ok ())))) := by
  have fits := invariant.fits session (mem_of_getElem? here)
  unfold Fits at fits
  rw [phase] at fits
  obtain ⟨budget, built, _, _⟩ := fits
  obtain ⟨rows, stored⟩ := commit_rows invariant here phase
  apply move_inv invariant _ rows (fun sagaId before => (stored sagaId).mpr (Or.inl before))
    (commit_others invariant here phase) _ (fun _ none => by cases none)
    (fun _ member => Or.inl member) (fun _ member => Or.inl member)
    (fun _ member => Or.inl member)
  refine ⟨budget_ready budget, ?_⟩
  intro correlationId valid
  exact (stored correlationId).mpr (Or.inr (built_id built valid).symm)

theorem advance_inv (invariant : Inv state) (here : state.sessions[index]? = some session)
    (choice : Choice) : Inv (advance state index choice session) := by
  unfold advance
  split
  · next received => exact select_inv invariant here received choice
  · next saga absent =>
    split
    · exact invariant
    · next free => exact insert_inv invariant here absent (eq_false_of_ne_true free)
  · next saga inserted => exact prepare_inv invariant here inserted
  · next saga command prepared => exact commit_inv invariant here prepared
  · next result handled => exact settle_inv invariant here handled _
  · exact invariant

/-- A transaction that ends without an answer, committed or not. -/
theorem db_after_inv (invariant : Inv state) (here : state.sessions[index]? = some session)
    (commits : Bool) (next : Session) (noPending : pendingId next = none)
    (fits : (∀ sagaId, HasSaga state.db sagaId → HasSaga (dbAfter state session commits) sagaId) →
      Fits (dbAfter state session commits) next)
    (queued : ∀ copy ∈ queue, copy ∈ state.queue ∨ Ready state.db copy) :
    Inv { db := dbAfter state session commits
          queue := queue
          sessions := state.sessions.set index next
          acknowledged := state.acknowledged
          deadLettered := state.deadLettered } := by
  have noClaim : ∀ sagaId, pendingId next = some sagaId →
      Claims pendingId state.sessions index sagaId ∨
        ∀ other, ¬ Claims pendingId state.sessions other sagaId := by
    intro _ claimed
    rw [noPending] at claimed
    cases claimed
  have unchanged (same : dbAfter state session commits = state.db) :
      Inv { db := dbAfter state session commits
            queue := queue
            sessions := state.sessions.set index next
            acknowledged := state.acknowledged
            deadLettered := state.deadLettered } := by
    rw [same] at fits ⊢
    exact move_inv invariant next invariant.rows (fun _ stored => stored)
      (fun _ _ _ _ _ _ stored => stored) (fits fun _ stored => stored) noClaim queued
      (fun _ member => Or.inl member) (fun _ member => Or.inl member)
  cases phase : session.phase with
  | prepared saga command =>
    cases commits with
    | false => exact unchanged (by simp [dbAfter, phase])
    | true =>
      have after : dbAfter state session true =
          committed state.db session.now saga command := by simp [dbAfter, phase]
      rw [after] at fits ⊢
      obtain ⟨rows, stored⟩ := commit_rows invariant here phase
      have keeps : ∀ sagaId, HasSaga state.db sagaId →
          HasSaga (committed state.db session.now saga command) sagaId :=
        fun sagaId before => (stored sagaId).mpr (Or.inl before)
      apply move_inv invariant next rows keeps (commit_others invariant here phase)
        (fits keeps) noClaim _ (fun _ member => Or.inl member)
        (fun _ member => Or.inl member)
      intro copy member
      exact (queued copy member).imp id (ready_grows keeps)
  | _ => exact unchanged (by simp [dbAfter, phase])

theorem fail_inv (invariant : Inv state) (here : state.sessions[index]? = some session)
    (few : session.copy.transients + 1 < maxRetries) (commits : Bool) :
    Inv (fail state index commits session) := by
  have fits := invariant.fits session (mem_of_getElem? here)
  unfold fail
  split
  · exact invariant
  · exact invariant
  · next live unsettled =>
    have ready := fits_ready fits live unsettled
    apply db_after_inv invariant here commits _ rfl _ (fun _ member => Or.inl member)
    intro keeps
    refine ⟨?_, ?_⟩
    · intro correlationId valid
      refine ⟨few, ?_⟩
      obtain ⟨_, spent | ⟨lost, _⟩⟩ := ready correlationId valid
      · exact Nat.le_succ_of_le spent
      · exact Nat.le_of_eq lost
    · intro correlationId valid
      refine ⟨few, ?_⟩
      obtain ⟨_, spent | ⟨lost, stored⟩⟩ := ready correlationId valid
      · exact Or.inl (Nat.succ_le_succ spent)
      · exact Or.inr ⟨congrArg (· + 1) lost, keeps correlationId stored⟩

theorem crash_inv (invariant : Inv state) (here : state.sessions[index]? = some session)
    (done : Bool) : Inv (crash state index done session) := by
  have fits := invariant.fits session (mem_of_getElem? here)
  have again {copy : Copy} (ready : Ready state.db session.copy)
      (member : copy ∈ session.copy :: state.queue) :
      copy ∈ state.queue ∨ Ready state.db copy := by
    rcases mem_cons.mp member with rfl | old
    · exact Or.inr ready
    · exact Or.inl old
  unfold crash
  dsimp only
  split
  · exact invariant
  · next handled =>
    unfold Fits at fits
    rw [handled] at fits
    apply settles_inv invariant _ (fun _ member => Or.inl member) (fun _ member => Or.inl member)
    intro _ member
    split at member
    · rcases snoc_cases member with old | rfl
      · exact again (budget_ready fits.1) old
      · exact Or.inr fits.2
    · exact again (budget_ready fits.1) member
  · next unsettled notFailed =>
    have ready : Ready state.db session.copy := by
      cases phase : session.phase with
      | handled result =>
        unfold Fits at fits
        rw [phase] at fits
        cases result with
        | ok => exact fits.1
        | error failure =>
          cases failure with
          | poison => exact invalid_ready fits
          | other => exact absurd phase notFailed
      | settled => exact absurd phase unsettled
      | _ =>
        apply fits_ready fits
        · intro _ same
          rw [phase] at same
          cases same
        · exact unsettled
    exact db_after_inv invariant here done (session.at .settled) rfl (fun _ => trivial)
      (fun _ => again ready)

end Steps

theorem step_inv (state : State) (label : Label) (few : FewTransients state label)
    (invariant : Inv state) : Inv (step state label) := by
  cases label with
  | publish =>
    refine ⟨invariant.rows, ?_, invariant.fits, invariant.exclusive, invariant.acknowledged,
      invariant.deadLettered⟩
    intro copy member
    rcases snoc_cases member with old | rfl
    · exact invariant.queued copy old
    · exact fun _ _ => ⟨Nat.succ_pos 2, Or.inl (Nat.le_refl 0)⟩
  | take =>
    unfold step
    dsimp only
    split
    · exact invariant
    · next copy here =>
      have ready := invariant.queued copy (mem_of_getElem? here)
      refine ⟨invariant.rows, ?_, ?_, exclusive_append invariant.exclusive rfl,
        invariant.acknowledged, invariant.deadLettered⟩
      · exact fun other member => invariant.queued other (mem_of_mem_eraseIdx member)
      · refine forall_snoc invariant.fits ?_
        exact ready
  | advance index choice =>
    unfold step
    dsimp only
    split
    · exact invariant
    · next session here => exact advance_inv invariant here choice
  | fail index commits =>
    unfold step
    dsimp only
    split
    · exact invariant
    · next session here => exact fail_inv invariant here (few session here) commits
  | crash index done =>
    unfold step
    dsimp only
    split
    · exact invariant
    · next session here => exact crash_inv invariant here done
  | orchestrate call =>
    obtain ⟨rewritten, rows⟩ := orchestrate_rewritten invariant.rows call
    have same := rewritten_has_saga rewritten
    have keeps : ∀ sagaId, HasSaga state.db sagaId → HasSaga (orchestrate state.db call) sagaId :=
      fun sagaId => (same sagaId).mpr
    refine ⟨rows, ?_, ?_, invariant.exclusive, ?_, invariant.deadLettered⟩
    · exact fun copy member => ready_grows keeps (invariant.queued copy member)
    · exact fun session member => fits_grows keeps (fun sagaId _ => (same sagaId).mp)
        (invariant.fits session member)
    · exact fun copy member correlationId valid =>
        keeps correlationId (invariant.acknowledged copy member correlationId valid)

theorem start_inv : Inv {} where
  rows :=
    { history := run_calls_history sagaRegistry []
      named := fun _ member => absurd member not_mem_nil
      commanded := fun _ member => absurd member not_mem_nil }
  queued := fun _ member => absurd member not_mem_nil
  fits := fun _ member => absurd member not_mem_nil
  exclusive := exclusive_nil
  acknowledged := fun _ member => absurd member not_mem_nil
  deadLettered := fun _ member => absurd member not_mem_nil

/-- In every run an acknowledged start event has one saga with its first command once, and no
valid start event is dead-lettered. -/
theorem each_start_starts_one (labels : List Label)
    (few : AllSteps step FewTransients {} labels) : EachStartsOne (startRun labels) := by
  have invariant : Inv (startRun labels) := allowed_run_keeps step step_inv start_inv labels few
  constructor
  · intro copy acknowledged correlationId valid
    exact one_saga invariant.rows (invariant.acknowledged copy acknowledged correlationId valid)
  · exact invariant.deadLettered

def exampleStart : StartBody where
  correlationId := some "0f8fad5b-d9cb-469f-a165-70867728950e"
  eventType := "saga.bank_sync.start"
  connectionId := some "7c9e6679-7425-40de-944b-e07fc1f90ae7"
  userId := some 7
  accountId := some 1
  accountName := some "Savings"
  bankAccountUid := some "uid"

/-- Two copies race, one of them after a transient error; the loser is retried. -/
theorem race_starts_one : EachStartsOne (startRun
      [.publish exampleStart, .publish exampleStart, .take 0, .take 0, .fail 0 false,
        .advance 0 {}, .take 0, .advance 1 {}, .advance 2 {}, .advance 1 {}, .advance 1 {},
        .advance 2 {}, .advance 1 {}, .advance 2 {}, .advance 2 {}, .advance 1 {}, .take 0,
        .advance 3 {}, .advance 3 {}]) :=
  each_start_starts_one _ (by decide +kernel)

end FinanceTracker.Saga.StartedOnce
