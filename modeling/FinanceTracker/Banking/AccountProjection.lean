import FinanceTracker.Accounts.Service
import FinanceTracker.Library.LastWrite

/-!
# The account projection of banking-service

Calls of account-service, the publication of their events and the account
projection consumer on its own queue. The consumer deduplicates on a correlation
id, which the payloads of account-service do not carry, and upserts whatever it
handles; a failed attempt sends the message to the back of the queue. A row of
the projection is the owner and the name of the event that was handled last.
-/

namespace FinanceTracker.Banking.AccountProjection

open Library KeyedRows LastWrite Runs Accounts.Service List

structure Message where
  index : Nat
  event : AccountEvent
  retryCount : Nat := 0
  deriving DecidableEq

/-- How an attempt at the message in front ends: `ackLost` commits and is redelivered, and
`republishFailed` is put back. -/
inductive Attempt where
  | acked
  | ackLost
  | failed
  | republishFailed
  deriving DecidableEq

/-- `sent` are the published places of the outbox; the ghost `handled` lists the messages
whose upsert was committed. -/
structure ProjectionState where
  service : AccountDb := {}
  sent : List Nat := []
  queue : List Message := []
  projection : Nat → Option (Int × String) := fun _ => none
  processed : List String := []
  handled : List Message := []
  deadLettered : List Message := []

inductive Label where
  | createAccount (userId : Int) (data : AccountBase) (answer : UserAnswer) (now : Int)
  | updateAccount (accountId : Nat) (data : AccountBase) (now : Int)
  | publish (index : Nat)
  | deliver (attempt : Attempt)

/-- `payload.get("account_name") or payload.get("name", "Unknown")`. -/
def eventName (event : AccountEvent) : String :=
  let accountName := event.accountName.getD ""
  if accountName = "" then event.name.getD "Unknown" else accountName

def projected (message : Message) : Option (Int × String) :=
  some (message.event.userId, eventName message.event)

def messageAccount (message : Message) : Nat := message.event.accountId

/-- `handle` up to its commit. -/
def handle (state : ProjectionState) (message : Message) : ProjectionState :=
  let correlationId := message.event.correlationId.getD ""
  if correlationId ≠ "" ∧ correlationId ∈ state.processed then state
  else
    { state with
      projection := write messageAccount projected state.projection message
      processed := if correlationId = "" then state.processed
                   else state.processed ++ [correlationId]
      handled := state.handled ++ [message] }

/-- The ladder of the shared consumer. -/
def retry (maxRetries : Nat) (state : ProjectionState) (message : Message)
    (rest : List Message) : ProjectionState :=
  if message.retryCount < maxRetries then
    { state with queue := rest ++ [{ message with retryCount := message.retryCount + 1 }] }
  else { state with queue := rest, deadLettered := state.deadLettered ++ [message] }

def deliver (maxRetries : Nat) (state : ProjectionState) (attempt : Attempt) : ProjectionState :=
  match state.queue with
  | [] => state
  | message :: rest =>
    match attempt with
    | .acked => { handle state message with queue := rest }
    | .ackLost => handle state message
    | .failed => retry maxRetries state message rest
    | .republishFailed => state

def step (maxRetries : Nat) (state : ProjectionState) : Label → ProjectionState
  | .createAccount userId data answer now =>
    { state with
      service := stateAfter state.service (createAccount state.service userId data answer now) }
  | .updateAccount accountId data now =>
    { state with
      service := stateAfter state.service (updateAccount state.service accountId data now) }
  | .publish index =>
    match state.service.outbox[index]? with
    | none => state
    | some event =>
      { state with
        sent := state.sent ++ [index]
        queue := state.queue ++ [{ index := index, event := event }] }
  | .deliver attempt => deliver maxRetries state attempt

def projectionRun (maxRetries : Nat) (labels : List Label) : ProjectionState :=
  runFrom (step maxRetries) {} labels

/-- Every event was published, every message settled and none dead-lettered. -/
structure Drained (state : ProjectionState) : Prop where
  queue : state.queue = []
  sent : ∀ index < state.service.outbox.length, index ∈ state.sent
  settled : state.deadLettered = []

def Converged (state : ProjectionState) : Prop :=
  Drained state → ∀ account ∈ state.service.accounts,
    state.projection account.idAccount = some (account.userId, account.name)

def LatestHandledLast (state : ProjectionState) : Prop :=
  Drained state → ∀ account ∈ state.service.accounts, ∀ message,
    lastOf messageAccount state.handled account.idAccount = some message →
      eventName message.event = account.name

structure ServiceInv (db : AccountDb) : Prop where
  distinct : DistinctKeys Account.idAccount db.accounts
  fresh : ∀ account ∈ db.accounts, account.idAccount < db.nextId
  older : ∀ event ∈ db.outbox, event.accountId < db.nextId
  anonymous : ∀ event ∈ db.outbox, event.correlationId = none
  owner : ∀ account ∈ db.accounts, ∀ event ∈ db.outbox,
    event.accountId = account.idAccount → event.userId = account.userId
  announced : ∀ account ∈ db.accounts, ∃ event,
    lastOf AccountEvent.accountId db.outbox account.idAccount = some event ∧
      eventName event = account.name

theorem created_name {idAccount : Nat} {userId : Int} (data : AccountBase) (now : Int) :
    eventName (createdEvent (newAccount idAccount userId data) now) = data.name := by
  unfold eventName
  exact if_neg data.named

theorem create_account_inv {db : AccountDb} (invariant : ServiceInv db) (userId : Int)
    (data : AccountBase) (now : Int) :
    ServiceInv
      { accounts := db.accounts ++ [newAccount db.nextId userId data]
        outbox := db.outbox ++ [createdEvent (newAccount db.nextId userId data) now]
        nextId := db.nextId + 1 } := by
  refine ⟨?_, ?_, ?_, ?_, ?_, ?_⟩
  · apply append_distinct invariant.distinct
    intro stored member
    exact Nat.ne_of_lt (invariant.fresh stored member)
  · refine forall_snoc (fun account old => Nat.lt_succ_of_lt (invariant.fresh account old)) ?_
    exact Nat.lt_succ_self _
  · refine forall_snoc (fun event old => Nat.lt_succ_of_lt (invariant.older event old)) ?_
    exact Nat.lt_succ_self _
  · refine forall_snoc invariant.anonymous ?_
    rfl
  · intro account member event published same
    rcases mem_snoc.mp member with old | new
    · rcases mem_snoc.mp published with before | rfl
      · exact invariant.owner account old event before same
      · exact absurd same.symm (Nat.ne_of_lt (invariant.fresh account old))
    · rcases mem_append.mp published with before | now'
      · rw [new] at same
        exact absurd same (Nat.ne_of_lt (invariant.older event before))
      · rw [new, mem_singleton.mp now']
        rfl
  · intro account member
    dsimp only
    rw [last_of_snoc]
    rcases mem_snoc.mp member with old | rfl
    · have different : db.nextId ≠ account.idAccount :=
        Nat.ne_of_gt (invariant.fresh account old)
      obtain ⟨event, last, name⟩ := invariant.announced account old
      exact ⟨event, (if_neg different).trans last, name⟩
    · exact ⟨_, if_pos rfl, created_name data now⟩

theorem update_account_inv {db : AccountDb} (invariant : ServiceInv db) {accountId : Nat}
    {existing : Account} (found : lookup Account.idAccount db.accounts accountId = some existing)
    (data : AccountBase) (now : Int) :
    ServiceInv
      { db with
        accounts := replace Account.idAccount db.accounts accountId fun _ =>
          changedAccount data existing
        outbox := db.outbox ++ [updatedEvent (changedAccount data existing) now] } := by
  obtain ⟨stored, sameId⟩ := lookup_mem found
  have rows (account : Account)
      (member : account ∈ replace Account.idAccount db.accounts accountId fun _ =>
        changedAccount data existing) :
      (account ∈ db.accounts ∧ account.idAccount ≠ accountId) ∨
        account = changedAccount data existing := by
    rcases mem_replace.mp member with other | ⟨_, _, _, same⟩
    · exact Or.inl other
    · exact Or.inr same
  refine ⟨?_, ?_, ?_, ?_, ?_, ?_⟩
  · apply replace_distinct invariant.distinct
    intro _ _ here
    exact sameId.trans here.symm
  · intro account member
    rcases rows account member with ⟨old, _⟩ | rfl
    · exact invariant.fresh account old
    · exact invariant.fresh existing stored
  · refine forall_snoc invariant.older ?_
    exact invariant.fresh existing stored
  · refine forall_snoc invariant.anonymous ?_
    rfl
  · intro account member event published same
    rcases rows account member with ⟨old, other⟩ | rfl
    · rcases mem_snoc.mp published with before | rfl
      · exact invariant.owner account old event before same
      · exact absurd (same.symm.trans sameId) other
    · rcases mem_snoc.mp published with before | rfl
      · exact invariant.owner existing stored event before same
      · rfl
  · intro account member
    dsimp only
    rw [last_of_snoc]
    rcases rows account member with ⟨old, other⟩ | rfl
    · have different : existing.idAccount ≠ account.idAccount :=
        fun same => other (same.symm.trans sameId)
      obtain ⟨event, last, name⟩ := invariant.announced account old
      exact ⟨event, (if_neg different).trans last, name⟩
    · exact ⟨_, if_pos rfl, rfl⟩

/-- A published message is queued, handled or dead-lettered, and the projection shows the
handled messages. -/
structure ProjectionInv (state : ProjectionState) : Prop where
  service : ServiceInv state.service
  queued : ∀ message ∈ state.queue, state.service.outbox[message.index]? = some message.event
  origin : ∀ message ∈ state.handled, state.service.outbox[message.index]? = some message.event
  accounted : ∀ index ∈ state.sent, (∃ message ∈ state.queue, message.index = index) ∨
    (∃ message ∈ state.handled, message.index = index) ∨
      ∃ message ∈ state.deadLettered, message.index = index
  view : state.projection =
    runFrom (write messageAccount projected) (fun _ => none) state.handled

variable {state : ProjectionState} {message : Message}

theorem handle_anonymous (anonymous : message.event.correlationId = none) : handle state message =
      { state with
        projection := write messageAccount projected state.projection message
        handled := state.handled ++ [message] } := by
  unfold handle
  simp [anonymous]

theorem queued_anonymous (invariant : ProjectionInv state) (member : message ∈ state.queue) :
    message.event.correlationId = none :=
  invariant.service.anonymous _ (mem_of_getElem? (invariant.queued message member))

theorem handle_inv (invariant : ProjectionInv state) (member : message ∈ state.queue) :
    ProjectionInv (handle state message) := by
  rw [handle_anonymous (queued_anonymous invariant member)]
  refine ⟨invariant.service, invariant.queued, ?_, ?_, ?_⟩
  · intro other handled
    rcases mem_snoc.mp handled with old | new
    · exact invariant.origin other old
    · rw [new]
      exact invariant.queued message member
  · intro index sent
    rcases invariant.accounted index sent with queued | ⟨other, handled, same⟩ | dead
    · exact Or.inl queued
    · exact Or.inr (Or.inl ⟨other, mem_append_left _ handled, same⟩)
    · exact Or.inr (Or.inr dead)
  · dsimp only
    rw [run_from_snoc, ← invariant.view]

/-- The front of the queue leaves it, and is kept somewhere else. -/
theorem dequeue_inv (next : ProjectionState) (invariant : ProjectionInv state) {rest : List Message}
    (front : state.queue = message :: rest) (service : next.service = state.service)
    (sent : next.sent = state.sent) (projection : next.projection = state.projection)
    (handled : next.handled = state.handled)
    (queued : ∀ other ∈ next.queue, other ∈ rest ∨
      (other.index = message.index ∧ other.event = message.event))
    (stays : ∀ other ∈ rest, other ∈ next.queue)
    (dead : ∀ other ∈ state.deadLettered, other ∈ next.deadLettered)
    (kept : (∃ other ∈ next.queue, other.index = message.index) ∨
      (∃ other ∈ next.handled, other.index = message.index) ∨
        ∃ other ∈ next.deadLettered, other.index = message.index) : ProjectionInv next := by
  have inQueue (other : Message) (member : other ∈ rest) : other ∈ state.queue := by
    rw [front]
    exact mem_cons_of_mem _ member
  refine ⟨?_, ?_, ?_, ?_, ?_⟩
  · rw [service]
    exact invariant.service
  · intro other member
    rw [service]
    rcases queued other member with old | ⟨index, event⟩
    · exact invariant.queued other (inQueue other old)
    · rw [index, event]
      exact invariant.queued message (front ▸ mem_cons_self)
  · rw [handled, service]
    exact invariant.origin
  · intro index published
    rw [sent] at published
    rcases invariant.accounted index published with
      ⟨other, member, same⟩ | found | ⟨other, member, same⟩
    · rw [front] at member
      rcases mem_cons.mp member with rfl | inRest
      · rw [← same]
        exact kept
      · exact Or.inl ⟨other, stays other inRest, same⟩
    · rw [handled]
      exact Or.inr (Or.inl found)
    · exact Or.inr (Or.inr ⟨other, dead other member, same⟩)
  · rw [projection, handled]
    exact invariant.view

theorem deliver_inv (invariant : ProjectionInv state) (maxRetries : Nat) (attempt : Attempt) :
    ProjectionInv (deliver maxRetries state attempt) := by
  unfold deliver
  cases front : state.queue with
  | nil => exact invariant
  | cons message rest =>
    have member : message ∈ state.queue := by
      rw [front]
      exact mem_cons_self
    cases attempt with
    | acked =>
      dsimp only
      have handledInv := handle_inv invariant member
      have anonymous := queued_anonymous invariant member
      have sameQueue : (handle state message).queue = message :: rest := by
        rw [handle_anonymous anonymous]
        exact front
      apply dequeue_inv _ handledInv sameQueue (by rfl) (by rfl) (by rfl) (by rfl)
      · exact fun other queued => Or.inl queued
      · exact fun other queued => queued
      · exact fun other dead => dead
      · refine Or.inr (Or.inl ⟨message, ?_, rfl⟩)
        rw [handle_anonymous anonymous]
        exact mem_append_right _ (mem_singleton.mpr rfl)
    | ackLost => exact handle_inv invariant member
    | failed =>
      dsimp only
      unfold retry
      split
      · apply dequeue_inv _ invariant front (by rfl) (by rfl) (by rfl) (by rfl)
        · refine forall_snoc (fun _ old => Or.inl old) ?_
          exact Or.inr ⟨rfl, rfl⟩
        · exact fun other queued => mem_append_left _ queued
        · exact fun other dead => dead
        · exact Or.inl ⟨_, mem_append_right _ (mem_singleton.mpr rfl), rfl⟩
      · apply dequeue_inv _ invariant front (by rfl) (by rfl) (by rfl) (by rfl)
        · exact fun other queued => Or.inl queued
        · exact fun other queued => queued
        · exact fun other dead => mem_append_left _ dead
        · exact Or.inr (Or.inr
            ⟨message, mem_append_right _ (mem_singleton.mpr rfl), rfl⟩)
    | republishFailed => exact invariant

theorem service_inv (invariant : ProjectionInv state) {next : AccountDb} (service : ServiceInv next)
    (grows : state.service.outbox <+: next.outbox) :
    ProjectionInv { state with service := next } := by
  have kept (index : Nat) (event : AccountEvent)
      (found : state.service.outbox[index]? = some event) : next.outbox[index]? = some event := by
    obtain ⟨_, same⟩ := grows
    rw [← same]
    exact List.getElem?_append_left (List.getElem?_eq_some_iff.mp found).1 ▸ found
  exact ⟨service, fun message member => kept _ _ (invariant.queued message member),
    fun message member => kept _ _ (invariant.origin message member), invariant.accounted,
    invariant.view⟩

theorem step_inv (maxRetries : Nat) (state : ProjectionState) (label : Label)
    (invariant : ProjectionInv state) : ProjectionInv (step maxRetries state label) := by
  cases label with
  | createAccount userId data answer now =>
    apply service_inv invariant
    · cases outcome : createAccount state.service userId data answer now with
      | error => exact invariant.service
      | ok result =>
        obtain ⟨_, _⟩ := result
        obtain ⟨rfl, rfl⟩ := create_account_ok outcome
        exact create_account_inv invariant.service userId data now
    · cases outcome : createAccount state.service userId data answer now with
      | error => exact prefix_refl _
      | ok result =>
        obtain ⟨_, _⟩ := result
        obtain ⟨rfl, rfl⟩ := create_account_ok outcome
        exact prefix_append _ _
  | updateAccount accountId data now =>
    apply service_inv invariant
    · cases outcome : updateAccount state.service accountId data now with
      | error => exact invariant.service
      | ok result =>
        obtain ⟨_, _⟩ := result
        rcases update_account_ok outcome with ⟨rfl, _⟩ | ⟨existing, found, _, rfl⟩
        · exact invariant.service
        · exact update_account_inv invariant.service found data now
    · cases outcome : updateAccount state.service accountId data now with
      | error => exact prefix_refl _
      | ok result =>
        obtain ⟨_, _⟩ := result
        rcases update_account_ok outcome with ⟨rfl, _⟩ | ⟨existing, found, _, rfl⟩
        · exact prefix_refl _
        · exact prefix_append _ _
  | publish =>
    simp only [step]
    split
    · exact invariant
    · next event found =>
      refine ⟨invariant.service, ?_, invariant.origin, ?_, invariant.view⟩
      · refine forall_snoc invariant.queued ?_
        exact found
      · intro sent member
        rcases mem_snoc.mp member with old | new
        · rcases invariant.accounted sent old with ⟨other, queued, same⟩ | others
          · exact Or.inl ⟨other, mem_append_left _ queued, same⟩
          · exact Or.inr others
        · refine Or.inl ⟨_, mem_append_right _ (mem_singleton.mpr rfl), ?_⟩
          exact new.symm
  | deliver attempt => exact deliver_inv invariant maxRetries attempt

theorem projection_inv (maxRetries : Nat) (labels : List Label) :
    ProjectionInv (projectionRun maxRetries labels) := by
  have initial : ProjectionInv {} := by
    refine ⟨⟨nodup_nil, ?_, ?_, ?_, ?_, ?_⟩, ?_, ?_, ?_, rfl⟩ <;>
      exact fun _ member => absurd member not_mem_nil
  exact run_keeps (step maxRetries) (step_inv maxRetries) initial labels

theorem handled_owner (invariant : ProjectionInv state) {account : Account}
    (stored : account ∈ state.service.accounts)
    (last : lastOf messageAccount state.handled account.idAccount = some message) :
    message.event.userId = account.userId := by
  obtain ⟨handled, same⟩ := last_of_mem messageAccount last
  have published := mem_of_getElem? (invariant.origin message handled)
  exact invariant.service.owner account stored message.event published same

theorem drained_handled (invariant : ProjectionInv state) (drained : Drained state)
    {account : Account} (stored : account ∈ state.service.accounts) :
    ∃ message, lastOf messageAccount state.handled account.idAccount = some message := by
  obtain ⟨_, last, _⟩ := invariant.service.announced account stored
  obtain ⟨published, same⟩ := last_of_mem AccountEvent.accountId last
  obtain ⟨index, bound, here⟩ := mem_iff_getElem.mp published
  cases found : lastOf messageAccount state.handled account.idAccount with
  | some message => exact ⟨message, rfl⟩
  | none =>
    exfalso
    have absent := (last_of_none_iff messageAccount).mp found
    rcases invariant.accounted index (drained.sent index bound) with
      ⟨message, queued, _⟩ | ⟨message, handled, place⟩ | ⟨message, dead, _⟩
    · rw [drained.queue] at queued
      exact not_mem_nil queued
    · have carried := invariant.origin message handled
      rw [place, List.getElem?_eq_getElem bound, here] at carried
      apply absent message handled
      unfold messageAccount
      rw [← Option.some.inj carried]
      exact same
    · rw [drained.settled] at dead
      exact not_mem_nil dead

theorem projection_shows (invariant : ProjectionInv state) {accountId : Nat}
    (last : lastOf messageAccount state.handled accountId = some message) :
    state.projection accountId = projected message := by
  rw [invariant.view, run_writes, last]
  rfl

/-- A stored account is never shown under another owner, nor under a name it never had. -/
def ShowsTruth (state : ProjectionState) : Prop :=
  ∀ account ∈ state.service.accounts, ∀ shown ∈ state.projection account.idAccount,
    shown.1 = account.userId ∧ ∃ event ∈ state.service.outbox,
      event.accountId = account.idAccount ∧ eventName event = shown.2

theorem projection_shows_truth (maxRetries : Nat) (labels : List Label) :
    ShowsTruth (projectionRun maxRetries labels) := by
  have invariant := projection_inv maxRetries labels
  intro account stored shown isShown
  cases last : lastOf messageAccount (projectionRun maxRetries labels).handled
      account.idAccount with
  | none =>
    rw [invariant.view, run_writes, last] at isShown
    cases isShown
  | some message =>
    rw [projection_shows invariant last] at isShown
    cases isShown
    obtain ⟨handled, same⟩ := last_of_mem messageAccount last
    exact ⟨handled_owner invariant stored last, message.event,
      mem_of_getElem? (invariant.origin message handled), same, rfl⟩

/-- A drained projection is in sync exactly when of every account the message handled last
carries the latest name. -/
theorem converged_iff (maxRetries : Nat) (labels : List Label) :
    Converged (projectionRun maxRetries labels) ↔
      LatestHandledLast (projectionRun maxRetries labels) := by
  have invariant := projection_inv maxRetries labels
  constructor
  · intro converged drained account stored _ last
    have shown := converged drained account stored
    rw [projection_shows invariant last] at shown
    exact congrArg Prod.snd (Option.some.inj shown)
  · intro latest drained account stored
    obtain ⟨message, last⟩ := drained_handled invariant drained stored
    have owner := handled_owner invariant stored last
    have name := latest drained account stored message last
    rw [projection_shows invariant last]
    unfold projected
    rw [owner, name]

/-- The creation of an account fails once and is handled after the rename. -/
theorem rename_overwritten :
    let created : AccountBase := ⟨"Savings", 0, 1, by decide⟩
    let renamed : AccountBase := ⟨"Holiday", 0, 1, by decide⟩
    ¬ ∀ labels, Converged (projectionRun 3
      (.createAccount 7 created .known 0 :: .updateAccount 1 renamed 1 :: labels)) := by
  intro _ _ converged
  have shown := converged
    [.publish 0, .publish 1, .deliver .failed, .deliver .acked, .deliver .acked]
    ⟨by decide, by decide, by decide⟩ ⟨1, "Holiday", 0, 7, 1⟩ (by decide)
  exact absurd shown (by decide)

end FinanceTracker.Banking.AccountProjection
