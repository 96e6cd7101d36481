import FinanceTracker.Library.Runs
import FinanceTracker.Banking.StartSync

/-!
# Runs of sync calls and completions

Any number of start_sync_saga calls and mark_sync_complete deliveries take their
statements in any order; each may be cut off between two of them. Every saga that
was ever read from a claim has its start event, and a call that has not returned
its own id has not started it.
-/

namespace FinanceTracker.Banking.SyncRuns

open Library KeyedRows Runs MarkSyncComplete StartSync List

/-- `ended` has the sagas that are terminal in saga-service. -/
structure SyncSystem where
  tables : SyncTables
  calls : List StartCall := []
  deliveries : List Delivery := []
  ended : List String := []

/-- What a request meets before its first claim: the columns it checks, the account
name, two readings of the clock and the drawn id. -/
structure Answers where
  details : ConnectionDetails
  checkedAt : Instant
  accountName : Except AccountError String
  sagaId : String
  now : Instant

inductive Label where
  | request (request : StartRequest) (answers : Answers)
  | advance (sagaId : String) (status : Option String)
  | abandon (sagaId : String)
  | command (body : MarkSyncCommand)
  | handle (index : Nat) (now : Instant)
  | drop (index : Nat)
  | sagaEnded (sagaId : String)

/-- Saga ids are random: a used one does not come again. -/
def freshId (calls : List StartCall) (sagaId : String) : Bool :=
  sagaId ≠ "" && calls.all fun call => call.sagaId ≠ sagaId

def findCall (system : SyncSystem) (sagaId : String) : Option StartCall :=
  lookup StartCall.sagaId system.calls sagaId

def setCall (system : SyncSystem) (tables : SyncTables) (call : StartCall) : SyncSystem :=
  { system with
    tables := tables
    calls := replace StartCall.sagaId system.calls call.sagaId fun _ => call }

def setDelivery (system : SyncSystem) (db : BankingDb) (index : Nat) (progress : Progress) :
    SyncSystem :=
  { system with
    tables := { system.tables with db := db }
    deliveries := system.deliveries.modify index fun delivery =>
      { delivery with progress := progress } }

def abandonCall (call : StartCall) : StartCall :=
  match call.progress with
  | .returned _ _ => call
  | _ => { call with progress := .aborted }

variable (parseUuid : String → Option String) (ttl : Instant)

def step (system : SyncSystem) : Label → SyncSystem
  | .request request answers =>
    if freshId system.calls answers.sagaId then
      match precheck request (getConnection system.tables.db request.connectionId)
          answers.details answers.checkedAt answers.accountName answers.sagaId answers.now with
      | .error _ => system
      | .ok call => { system with calls := system.calls ++ [call] }
    else system
  | .advance sagaId status =>
    match findCall system sagaId with
    | none => system
    | some call =>
      let outcome := runCall ttl status system.tables call
      setCall system outcome.1 outcome.2
  | .abandon sagaId =>
    match findCall system sagaId with
    | none => system
    | some call => setCall system system.tables (abandonCall call)
  | .command body =>
    { system with deliveries := system.deliveries ++ [{ body := body, progress := .started }] }
  | .handle index now =>
    match system.deliveries[index]? with
    | none => system
    | some delivery =>
      let outcome := runStatement parseUuid now system.tables.db delivery
      setDelivery system outcome.1 index outcome.2
  | .drop index => setDelivery system system.tables.db index .aborted
  | .sagaEnded sagaId => { system with ended := system.ended ++ [sagaId] }

/-- Connections of which none is claimed. -/
structure Unclaimed where
  connections : List BankConnection
  distinct : DistinctKeys BankConnection.id connections
  free : ∀ conn ∈ connections, conn.syncSagaId = none ∧ conn.syncStartedAt = none

def start (unclaimed : Unclaimed) : SyncSystem where
  tables :=
    { db :=
        { connections := unclaimed.connections
          outbox := []
          processedEvents := [] } }

def syncRun (unclaimed : Unclaimed) (labels : List Label) : SyncSystem :=
  runFrom (step parseUuid ttl) (start unclaimed) labels

def Started (events : List BankSyncSagaStartEvent) (sagaId : String) : Prop :=
  ∃ event ∈ events, event.correlationId = sagaId

def handed : CallProgress → Option String
  | .contested existingId | .stealing existingId | .stealLost existingId => some existingId
  | .deferring winnerId => some winnerId
  | .returned sagaId _ => some sagaId
  | _ => none

def Finished : CallProgress → Prop
  | .returned _ _ | .aborted => True
  | _ => False

inductive CallStep (status : Option String) (tables : SyncTables) (call : StartCall) :
    SyncTables × StartCall → Prop where
  | finished (done : Finished call.progress) : CallStep status tables call (tables, call)
  | claimed (active : ¬ Finished call.progress) (may : BankConnection → Prop)
      [DecidablePred may]
      (allowed : ∀ conn, may conn →
        (∀ startedAt, conn.syncStartedAt = some startedAt → startedAt < call.now - ttl) ∨
          ∃ existingId, call.progress = .stealing existingId ∧ conn.syncSagaId = some existingId)
      (before : ∀ winnerId, call.progress ≠ .deferring winnerId) :
      CallStep status tables call
        ({ db := updateConnection tables.db call.request.connectionId fun conn =>
            if may conn then claimFor call.sagaId call.now call.request.trigger conn else conn
           startEvents := tables.startEvents ++ [startEvent call] },
          { call with progress := .returned call.sagaId false })
  | read (progress : CallProgress) (sawWinner : Bool) (active : ¬ Finished call.progress)
      (going : ¬ Finished progress) (before : ∀ winnerId, call.progress ≠ .deferring winnerId)
      (ids : ∀ sagaId, handed progress = some sagaId → sawWinner = true →
        handed call.progress = some sagaId ∨
          currentClaim tables.db call.request.connectionId = some sagaId)
      (flag : sawWinner = call.sawWinner ∨ progress = .deferring call.sagaId ∧
        call.progress = .retryLost ∧
        givenClaim (currentClaim tables.db call.request.connectionId) = none)
      (steals : ∀ existingId, progress = .stealing existingId →
        call.progress = .contested existingId ∧ status.any isTerminal = true) :
      CallStep status tables call
        (tables, { call with progress := progress, sawWinner := sawWinner })
  | deferred (winnerId : String) (ready : call.progress = .deferring winnerId) :
      CallStep status tables call
        ({ tables with
            db := if call.request.trigger = .manual then
                escalateTriggerToManual tables.db call.request.connectionId winnerId
              else tables.db },
          { call with progress := .returned winnerId true })

variable {sagaId : String} {call : StartCall} {events : List BankSyncSagaStartEvent}

theorem given_claim_some {claim : Option String} (given : givenClaim claim = some sagaId) :
    claim = some sagaId :=
  (Option.filter_eq_some_iff.mp given).1

/-- The call has neither finished nor settled on a winner. -/
def Open (call : StartCall) : Prop :=
  ¬ Finished call.progress ∧ ∀ winnerId, call.progress ≠ .deferring winnerId

variable {status : Option String} {tables : SyncTables} {now : Instant} {conn : BankConnection}
  {body : MarkSyncCommand}

theorem read_step {progress : CallProgress} (openCall : Open call) (going : ¬ Finished progress)
    (ids : ∀ sagaId, handed progress = some sagaId → handed call.progress = some sagaId ∨
      currentClaim tables.db call.request.connectionId = some sagaId)
    (steals : ∀ existingId, progress = .stealing existingId →
      call.progress = .contested existingId ∧ status.any isTerminal = true) :
    CallStep ttl status tables call (tables, { call with progress := progress }) := by
  apply CallStep.read progress call.sawWinner openCall.1 going openCall.2
  · intro sagaId given _
    exact ids sagaId given
  · exact Or.inl rfl
  · exact steals

theorem try_claim_step {lost : CallProgress} (openCall : Open call) (going : ¬ Finished lost)
    (noId : handed lost = none) :
    CallStep ttl status tables call (tryClaim ttl lost tables call) := by
  unfold tryClaim claimOr
  cases won : claimIsFree tables.db call.request.connectionId call.now ttl with
  | true =>
    rw [if_pos rfl]
    refine CallStep.claimed openCall.1 _ ?_ openCall.2
    intro _ free
    apply Or.inl
    intro _ claimedAt
    rw [claimedAt] at free
    simpa using free
  | false =>
    rw [if_neg (by decide)]
    apply read_step ttl openCall going
    · intro _ given
      rw [noId] at given
      contradiction
    · rintro existingId rfl
      contradiction

theorem run_call_step (status : Option String) (tables : SyncTables) (call : StartCall) :
    CallStep ttl status tables call (runCall ttl status tables call) := by
  unfold runCall
  cases at_ : call.progress with
  | claiming | retrying =>
    apply try_claim_step
    · simp [Open, at_, Finished]
    · simp [Finished]
    · rfl
  | conflict =>
    have openCall : Open call := by simp [Open, at_, Finished]
    dsimp only
    cases claim : currentClaim tables.db call.request.connectionId with
    | none =>
      apply read_step ttl openCall
      · simp [Finished]
      · simp [handed]
      · simp
    | some =>
      apply read_step ttl openCall
      · simp [Finished]
      · intro _ given
        exact Or.inr (claim.trans given)
      · simp
  | retryLost =>
    have openCall : Open call := by simp [Open, at_, Finished]
    dsimp only
    cases claim : givenClaim (currentClaim tables.db call.request.connectionId) with
    | none =>
      apply CallStep.read (.deferring call.sagaId) false openCall.1 _ openCall.2
      · simp
      · exact Or.inr ⟨rfl, at_, claim⟩
      · simp
      · simp [Finished]
    | some =>
      apply read_step ttl openCall
      · simp [Finished]
      · intro _ given
        exact Or.inr ((given_claim_some claim).trans given)
      · simp
  | contested =>
    have openCall : Open call := by simp [Open, at_, Finished]
    dsimp only
    cases ended : status.any isTerminal with
    | true =>
      rw [if_pos rfl]
      apply read_step ttl openCall
      · simp [Finished]
      · intro _ given
        rw [at_]
        exact Or.inl given
      · intro _ same
        cases same
        exact ⟨at_, ended⟩
    | false =>
      rw [if_neg (by decide)]
      apply read_step ttl openCall
      · simp [Finished]
      · intro _ given
        rw [at_]
        exact Or.inl given
      · simp
  | stealing existingId =>
    have openCall : Open call := by simp [Open, at_, Finished]
    dsimp only
    unfold claimOr
    cases won : holdsClaim tables.db call.request.connectionId existingId with
    | true =>
      rw [if_pos rfl]
      apply CallStep.claimed openCall.1 _ _ openCall.2
      intro _ holds
      exact Or.inr ⟨existingId, at_, holds⟩
    | false =>
      rw [if_neg (by decide)]
      apply read_step ttl openCall
      · simp [Finished]
      · intro _ given
        rw [at_]
        exact Or.inl given
      · simp
  | stealLost =>
    have openCall : Open call := by simp [Open, at_, Finished]
    dsimp only
    apply read_step ttl openCall
    · simp [Finished]
    · intro _ given
      cases claim : givenClaim (currentClaim tables.db call.request.connectionId) with
      | none =>
        rw [claim] at given
        rw [at_]
        exact Or.inl given
      | some =>
        rw [claim] at given
        exact Or.inr ((given_claim_some claim).trans given)
    · simp
  | deferring winnerId => exact CallStep.deferred winnerId at_
  | returned | aborted =>
    apply CallStep.finished
    rw [at_]
    trivial

inductive DeliveryStep (db : BankingDb) (delivery : Delivery) : BankingDb × Progress → Prop where
  | quiet (progress : Progress)
      (unread : ∀ connectionId userId conn, progress ≠ .loaded connectionId userId conn) :
      DeliveryStep db delivery (db, progress)
  | loaded (connectionId id : String) (userId : Int) (conn : BankConnection)
      (found : getConnection db id = some conn) :
      DeliveryStep db delivery (db, .loaded connectionId userId conn)
  | completed (connectionId : String) (userId : Int) (conn : BankConnection) (now : Instant)
      (ready : delivery.progress = .loaded connectionId userId conn) :
      DeliveryStep db delivery
        (commitCompletion delivery.body connectionId userId now conn db, .committed)

theorem run_statement_step (now : Instant) (db : BankingDb) (delivery : Delivery) :
    DeliveryStep db delivery (runStatement parseUuid now db delivery) := by
  unfold runStatement
  cases at_ : delivery.progress with
  | started =>
    dsimp only
    cases delivery.body.connectionId with
    | none => exact DeliveryStep.quiet _ (by simp)
    | some =>
      cases delivery.body.userId with
      | none => exact DeliveryStep.quiet _ (by simp)
      | some =>
        dsimp only
        cases isDuplicate db (inboxKeyOrNone delivery.body) with
        | true => exact DeliveryStep.quiet _ (by simp)
        | false => exact DeliveryStep.quiet _ (by simp)
  | checked connectionId userId =>
    dsimp only
    cases parseUuid connectionId with
    | none => exact DeliveryStep.quiet _ (by simp)
    | some id =>
      dsimp only
      cases found : getConnection db id with
      | none => exact DeliveryStep.quiet _ (by simp)
      | some conn => exact DeliveryStep.loaded connectionId id userId conn found
  | loaded => exact DeliveryStep.completed _ _ _ _ at_
  | committed | returned | aborted => exact DeliveryStep.quiet _ (by simp)

theorem precheck_call {request : StartRequest} {stored : Option BankConnection}
    {details : ConnectionDetails} {checkedAt : Instant} {accountName : Except AccountError String}
    (checked : precheck request stored details checkedAt accountName sagaId now = .ok call) :
    call.sagaId = sagaId ∧ call.progress = .claiming ∧ call.sawWinner = true := by
  unfold precheck at checked
  cases stored with
  | none => cases checked
  | some =>
    dsimp only at checked
    by_cases inactive : details.status ≠ "active"
    · rw [if_pos inactive] at checked
      cases checked
    · rw [if_neg inactive] at checked
      by_cases foreign : details.userId ≠ request.userId
      · rw [if_pos foreign] at checked
        cases checked
      · rw [if_neg foreign] at checked
        by_cases expired : isExpiredAt details checkedAt = true
        · rw [if_pos expired] at checked
          cases checked
        · rw [if_neg expired] at checked
          cases accountName with
          | error failure =>
            cases failure with
            | notOwned => cases checked
            | unavailable => cases checked
          | ok =>
            cases checked
            exact ⟨rfl, rfl, rfl⟩

inductive SystemStep (system : SyncSystem) : Label → SyncSystem → Prop where
  | unchanged (label : Label) : SystemStep system label system
  | requested (request : StartRequest) (answers : Answers) (call : StartCall)
      (fresh : freshId system.calls call.sagaId = true) (ready : call.progress = .claiming)
      (saw : call.sawWinner = true) :
      SystemStep system (.request request answers)
        { system with calls := system.calls ++ [call] }
  | advanced (sagaId : String) (status : Option String) (call : StartCall)
      (outcome : SyncTables × StartCall) (found : findCall system sagaId = some call)
      (stepped : CallStep ttl status system.tables call outcome) :
      SystemStep system (.advance sagaId status) (setCall system outcome.1 outcome.2)
  | abandoned (sagaId : String) (call : StartCall) (found : findCall system sagaId = some call) :
      SystemStep system (.abandon sagaId) (setCall system system.tables (abandonCall call))
  | commanded (body : MarkSyncCommand) :
      SystemStep system (.command body)
        { system with
          deliveries := system.deliveries ++ [{ body := body, progress := .started }] }
  | handled (index : Nat) (now : Instant) (delivery : Delivery)
      (outcome : BankingDb × Progress) (member : delivery ∈ system.deliveries)
      (stepped : DeliveryStep system.tables.db delivery outcome) :
      SystemStep system (.handle index now) (setDelivery system outcome.1 index outcome.2)
  | dropped (index : Nat) :
      SystemStep system (.drop index) (setDelivery system system.tables.db index .aborted)
  | ended (sagaId : String) :
      SystemStep system (.sagaEnded sagaId) { system with ended := system.ended ++ [sagaId] }

theorem step_cases (system : SyncSystem) (label : Label) :
    SystemStep ttl system label (step parseUuid ttl system label) := by
  unfold step
  cases label with
  | request request answers =>
    dsimp only
    by_cases fresh : freshId system.calls answers.sagaId = true
    · rw [if_pos fresh]
      cases checked : precheck request (getConnection system.tables.db request.connectionId)
          answers.details answers.checkedAt answers.accountName answers.sagaId answers.now with
      | error => exact SystemStep.unchanged _
      | ok call =>
        obtain ⟨drawn, ready, saw⟩ := precheck_call checked
        rw [← drawn] at fresh
        exact SystemStep.requested request answers call fresh ready saw
    · rw [if_neg fresh]
      exact SystemStep.unchanged _
  | advance sagaId status =>
    dsimp only
    cases found : findCall system sagaId with
    | none => exact SystemStep.unchanged _
    | some call =>
      exact SystemStep.advanced sagaId status call _ found
        (run_call_step ttl status system.tables call)
  | abandon sagaId =>
    dsimp only
    cases found : findCall system sagaId with
    | none => exact SystemStep.unchanged _
    | some call => exact SystemStep.abandoned sagaId call found
  | command body => exact SystemStep.commanded body
  | handle index now =>
    dsimp only
    cases found : system.deliveries[index]? with
    | none => exact SystemStep.unchanged _
    | some delivery =>
      exact SystemStep.handled index now delivery _ (mem_of_getElem? found)
        (run_statement_step parseUuid now system.tables.db delivery)
  | drop index => exact SystemStep.dropped index
  | sagaEnded sagaId => exact SystemStep.ended sagaId

structure Sound (events : List BankSyncSagaStartEvent) (conn : BankConnection) : Prop where
  whole : conn.syncSagaId = none ↔ conn.syncStartedAt = none
  claimed : ∀ sagaId, conn.syncSagaId = some sagaId → Started events sagaId

/-- Of the ids of a call only those it has read from claims are started, unless it
has returned its own. -/
structure CallSound (events : List BankSyncSagaStartEvent) (call : StartCall) : Prop where
  named : call.sagaId ≠ ""
  handed : ∀ sagaId, handed call.progress = some sagaId → call.sawWinner = true →
    Started events sagaId
  fallback : call.sawWinner = false →
    call.progress = .deferring call.sagaId ∨ call.progress = .returned call.sagaId true ∨
      call.progress = .aborted
  unstarted : Started events call.sagaId → call.progress = .returned call.sagaId false

structure SyncInv (system : SyncSystem) : Prop where
  distinct : DistinctKeys BankConnection.id system.tables.db.connections
  rows : ∀ conn ∈ system.tables.db.connections, Sound system.tables.startEvents conn
  loaded : ∀ delivery ∈ system.deliveries, ∀ connectionId userId conn,
    delivery.progress = .loaded connectionId userId conn → Sound system.tables.startEvents conn
  once : (system.tables.startEvents.map BankSyncSagaStartEvent.correlationId).Nodup
  ids : DistinctKeys StartCall.sagaId system.calls
  called : ∀ event ∈ system.tables.startEvents, ∃ call ∈ system.calls,
    call.sagaId = event.correlationId
  calls : ∀ call ∈ system.calls, CallSound system.tables.startEvents call

theorem started_append (started : Started events sagaId) (event : BankSyncSagaStartEvent) :
    Started (events ++ [event]) sagaId := by
  obtain ⟨earlier, member, same⟩ := started
  exact ⟨earlier, mem_append_left _ member, same⟩

theorem sound_append (sound : Sound events conn) (event : BankSyncSagaStartEvent) :
    Sound (events ++ [event]) conn where
  whole := sound.whole
  claimed := fun sagaId claimed => started_append (sound.claimed sagaId claimed) event

theorem sound_claim_for (conn : BankConnection) : Sound (events ++ [startEvent call])
      (claimFor call.sagaId call.now call.request.trigger conn) where
  whole := by simp [claimFor]
  claimed := by
    intro _ claimed
    refine ⟨startEvent call, mem_append_right _ (mem_singleton_self _), ?_⟩
    exact Option.some.inj claimed

theorem own_claim_loaded (own : ownClaim body conn = true) :
    ∃ sagaId, body.sagaId = some sagaId ∧ conn.syncSagaId = some sagaId := by
  unfold ownClaim at own
  rw [Bool.and_eq_true, decide_eq_true_eq, decide_eq_true_eq] at own
  cases given : body.sagaId with
  | none =>
    rw [given] at own
    exact absurd rfl own.1
  | some sagaId => exact ⟨sagaId, rfl, own.2.trans given⟩

theorem sound_stamp {loaded row : BankConnection} (read : Sound events loaded)
    (sound : Sound events row) :
    Sound events (stampConnection body now loaded row) := by
  unfold stampConnection
  cases own : ownClaim body loaded with
  | true =>
    obtain ⟨_, _, claimed⟩ := own_claim_loaded own
    have started : loaded.syncStartedAt ≠ none := by
      intro absent
      rw [read.whole.mpr absent] at claimed
      contradiction
    have given : loaded.syncStartedAt.isSome = true := Option.isSome_iff_ne_none.mpr started
    constructor
    · simp [given]
    · simp
  | false =>
    constructor
    · simpa using sound.whole
    · simpa using sound.claimed

theorem commit_connections (body : MarkSyncCommand) (connectionId : String) (userId : Int)
    (now : Instant) (loaded : BankConnection) (db : BankingDb) :
    (commitCompletion body connectionId userId now loaded db).connections = db.connections ∨
      (commitCompletion body connectionId userId now loaded db).connections =
        replace BankConnection.id db.connections loaded.id (stampConnection body now loaded) := by
  unfold commitCompletion
  dsimp only
  cases isDuplicate db (inboxKeyOrNone body) with
  | true => exact Or.inl rfl
  | false => exact Or.inr rfl

section Steps

variable {ttl : Instant} {system : SyncSystem} {db : BankingDb} {sagaId : String} {call : StartCall}
  {events : List BankSyncSagaStartEvent} {index : Nat} {connectionId : String}
  {conn : BankConnection} {progress : Progress} {delivery : Delivery}

theorem get_connection_mem (found : getConnection db connectionId = some conn) :
    conn ∈ db.connections :=
  (lookup_mem found).1

theorem current_claim_started (inv : SyncInv system)
    (claim : currentClaim system.tables.db connectionId = some sagaId) :
    Started system.tables.startEvents sagaId := by
  obtain ⟨conn, found, claimed⟩ := Option.bind_eq_some_iff.mp claim
  exact (inv.rows conn (get_connection_mem found)).claimed sagaId claimed

/-- A property of all calls after one of them has moved. -/
theorem set_call_forall {tables : SyncTables} {Holds : StartCall → Prop}
    (others : ∀ row ∈ system.calls, row.sagaId ≠ call.sagaId → Holds row) (self : Holds call) :
    ∀ row ∈ (setCall system tables call).calls, Holds row := by
  intro row member
  rcases mem_replace.mp member with ⟨stored, other⟩ | ⟨_, _, _, rfl⟩
  · exact others row stored other
  · exact self

theorem set_call_ids (inv : SyncInv system) (tables : SyncTables) (call : StartCall) :
    DistinctKeys StartCall.sagaId (setCall system tables call).calls :=
  replace_distinct inv.ids fun _ _ here => here.symm

theorem set_call_called (tables : SyncTables) (moved : StartCall)
    (known : ∃ row ∈ system.calls, row.sagaId = sagaId) :
    ∃ row ∈ (setCall system tables moved).calls, row.sagaId = sagaId := by
  obtain ⟨row, stored, key⟩ := known
  by_cases here : row.sagaId = moved.sagaId
  · exact ⟨moved, mem_replace.mpr (Or.inr ⟨row, stored, here, rfl⟩), here.symm.trans key⟩
  · exact ⟨row, mem_replace.mpr (Or.inl ⟨stored, here⟩), key⟩

/-- A call that still reads claims has not fallen back to its own id. -/
theorem saw_winner_of_active (sound : CallSound events call) (active : ¬ Finished call.progress)
    (before : ∀ winnerId, call.progress ≠ .deferring winnerId) : call.sawWinner = true := by
  by_contra fell
  rcases sound.fallback (Bool.eq_false_iff.mpr fell) with deferring | returned | aborted
  · exact before call.sagaId deferring
  · rw [returned] at active
    exact active trivial
  · rw [aborted] at active
    exact active trivial

/-- Only the calls and their progress change. -/
theorem moved_keeps (inv : SyncInv system) (sound : CallSound system.tables.startEvents call) :
    SyncInv (setCall system system.tables call) where
  distinct := inv.distinct
  rows := inv.rows
  loaded := inv.loaded
  once := inv.once
  ids := set_call_ids inv _ _
  called := fun event member => set_call_called _ _ (inv.called event member)
  calls := set_call_forall (fun row member _ => inv.calls row member) sound

theorem read_sound (inv : SyncInv system) (member : call ∈ system.calls) {progress : CallProgress}
    {sawWinner : Bool} (active : ¬ Finished call.progress)
    (before : ∀ winnerId, call.progress ≠ .deferring winnerId)
    (ids : ∀ sagaId, handed progress = some sagaId → sawWinner = true →
      handed call.progress = some sagaId ∨
        currentClaim system.tables.db call.request.connectionId = some sagaId)
    (flag : sawWinner = call.sawWinner ∨ progress = .deferring call.sagaId ∧
      call.progress = .retryLost ∧
      givenClaim (currentClaim system.tables.db call.request.connectionId) = none) :
    CallSound system.tables.startEvents
      { call with progress := progress, sawWinner := sawWinner } := by
  have sound := inv.calls call member
  have saw := saw_winner_of_active sound active before
  constructor
  · exact sound.named
  · intro sagaId given known
    rcases ids sagaId given known with earlier | claim
    · exact sound.handed sagaId earlier saw
    · exact current_claim_started inv claim
  · intro fell
    dsimp only at fell
    rcases flag with same | deferring
    · rw [same, saw] at fell
      contradiction
    · exact Or.inl deferring.1
  · intro started
    rw [sound.unstarted started] at active
    exact absurd trivial active

theorem claimed_keeps (inv : SyncInv system) (member : call ∈ system.calls)
    (active : ¬ Finished call.progress) (may : BankConnection → Prop) [DecidablePred may]
    (before : ∀ winnerId, call.progress ≠ .deferring winnerId) :
    SyncInv (setCall system
      { db := updateConnection system.tables.db call.request.connectionId fun conn =>
          if may conn then claimFor call.sagaId call.now call.request.trigger conn else conn
        startEvents := system.tables.startEvents ++ [startEvent call] }
      { call with progress := .returned call.sagaId false }) := by
  have sound := inv.calls call member
  have saw := saw_winner_of_active sound active before
  have own : Started (system.tables.startEvents ++ [startEvent call]) call.sagaId :=
    ⟨startEvent call, mem_append_right _ (mem_singleton_self _), rfl⟩
  constructor
  · apply replace_distinct inv.distinct
    intro conn _ _
    by_cases allowed : may conn
    · rw [if_pos allowed]
      rfl
    · rw [if_neg allowed]
  · intro conn stored
    rcases mem_replace.mp stored with ⟨old, _⟩ | ⟨old, oldIn, _, rfl⟩
    · exact sound_append (inv.rows conn old) _
    · by_cases allowed : may old
      · rw [if_pos allowed]
        exact sound_claim_for old
      · rw [if_neg allowed]
        exact sound_append (inv.rows old oldIn) _
  · intro delivery stored connectionId userId conn read
    exact sound_append (inv.loaded delivery stored connectionId userId conn read) _
  · change ((system.tables.startEvents ++ [startEvent call]).map _).Nodup
    rw [map_append, map_singleton, nodup_append]
    refine ⟨inv.once, nodup_singleton _, ?_⟩
    intro _ usedIn _ addedIn
    obtain ⟨event, stored, rfl⟩ := mem_map.mp usedIn
    rw [mem_singleton.mp addedIn]
    intro same
    rw [sound.unstarted ⟨event, stored, same⟩] at active
    exact active trivial
  · exact set_call_ids inv _ _
  · intro event stored
    apply set_call_called
    rcases mem_snoc.mp stored with old | rfl
    · exact inv.called event old
    · exact ⟨call, member, rfl⟩
  · apply set_call_forall
    · intro row stored other
      have rowSound := inv.calls row stored
      constructor
      · exact rowSound.named
      · intro sagaId given known
        exact started_append (rowSound.handed sagaId given known) _
      · exact rowSound.fallback
      · rintro ⟨event, eventIn, same⟩
        rcases mem_snoc.mp eventIn with old | rfl
        · exact rowSound.unstarted ⟨event, old, same⟩
        · exact absurd same.symm other
    · constructor
      · exact sound.named
      · intro _ given _
        rw [← Option.some.inj given]
        exact own
      · intro fell
        dsimp only at fell
        rw [saw] at fell
        contradiction
      · exact fun _ => rfl

theorem escalated_row :
    (if conn.syncSagaId = some sagaId then
      { conn with syncTrigger := some SyncTrigger.manual.value } else conn).syncSagaId =
        conn.syncSagaId ∧
    (if conn.syncSagaId = some sagaId then
      { conn with syncTrigger := some SyncTrigger.manual.value } else conn).syncStartedAt =
        conn.syncStartedAt ∧
    (if conn.syncSagaId = some sagaId then
      { conn with syncTrigger := some SyncTrigger.manual.value } else conn).id = conn.id := by
  by_cases here : conn.syncSagaId = some sagaId
  · simp [here]
  · simp [here]

theorem escalated_keeps (inv : SyncInv system) (connectionId sagaId : String) :
    SyncInv { system with
      tables := { system.tables with
        db := escalateTriggerToManual system.tables.db connectionId sagaId } } := by
  refine { inv with distinct := ?_, rows := ?_ }
  · apply replace_distinct inv.distinct
    intro _ _ _
    exact escalated_row.2.2
  · intro conn stored
    rcases mem_replace.mp stored with ⟨old, _⟩ | ⟨old, oldIn, _, rfl⟩
    · exact inv.rows conn old
    · have sound := inv.rows old oldIn
      constructor
      · rw [escalated_row.1, escalated_row.2.1]
        exact sound.whole
      · rw [escalated_row.1]
        exact sound.claimed

theorem deferred_sound {winnerId : String} (sound : CallSound events call)
    (ready : call.progress = .deferring winnerId) :
    CallSound events { call with progress := .returned winnerId true } := by
  constructor
  · exact sound.named
  · intro sagaId given known
    apply sound.handed sagaId
    · rw [ready]
      exact given
    · exact known
  · intro fell
    rcases sound.fallback fell with deferring | returned | aborted
    · rw [ready] at deferring
      cases deferring
      exact Or.inr (Or.inl rfl)
    · rw [ready] at returned
      contradiction
    · rw [ready] at aborted
      contradiction
  · intro started
    have returned := sound.unstarted started
    rw [ready] at returned
    contradiction

theorem call_step_keeps (inv : SyncInv system) (member : call ∈ system.calls)
    {status : Option String} {outcome : SyncTables × StartCall}
    (stepped : CallStep ttl status system.tables call outcome) :
    SyncInv (setCall system outcome.1 outcome.2) := by
  have sound := inv.calls call member
  cases stepped with
  | finished => exact moved_keeps inv sound
  | claimed active may allowed before => exact claimed_keeps inv member active may before
  | read progress sawWinner active going before ids flag =>
    exact moved_keeps inv (read_sound inv member active before ids flag)
  | deferred winnerId ready =>
    by_cases manual : call.request.trigger = .manual
    · rw [if_pos manual]
      exact moved_keeps (escalated_keeps inv _ _) (deferred_sound sound ready)
    · rw [if_neg manual]
      exact moved_keeps inv (deferred_sound sound ready)

theorem abandoned_sound (sound : CallSound events call) : CallSound events (abandonCall call) := by
  unfold abandonCall
  cases at_ : call.progress with
  | returned => exact sound
  | claiming | conflict | retrying | retryLost | contested existingId | stealing existingId
  | stealLost existingId | deferring winnerId | aborted =>
    constructor
    · exact sound.named
    · intro _ _
      contradiction
    · exact fun _ => Or.inr (Or.inr rfl)
    · intro started
      have returned := sound.unstarted started
      rw [at_] at returned
      contradiction

theorem fresh_id_iff {calls : List StartCall} :
    freshId calls sagaId = true ↔ sagaId ≠ "" ∧ ∀ call ∈ calls, call.sagaId ≠ sagaId := by
  simp [freshId]

theorem requested_keeps (inv : SyncInv system) (fresh : freshId system.calls call.sagaId = true)
    (ready : call.progress = .claiming) (saw : call.sawWinner = true) :
    SyncInv { system with calls := system.calls ++ [call] } := by
  obtain ⟨named, unused⟩ := fresh_id_iff.mp fresh
  refine { inv with ids := ?_, called := ?_, calls := ?_ }
  · exact append_distinct inv.ids unused
  · intro event member
    obtain ⟨row, stored, same⟩ := inv.called event member
    exact ⟨row, mem_append_left _ stored, same⟩
  · refine forall_snoc inv.calls ?_
    constructor
    · exact named
    · intro _ given
      rw [ready] at given
      contradiction
    · intro fell
      rw [saw] at fell
      contradiction
    · rintro ⟨event, stored, same⟩
      obtain ⟨row, rowIn, key⟩ := inv.called event stored
      exact absurd (key.trans same) (unused row rowIn)

theorem mem_set_delivery (member : delivery ∈ (setDelivery system db index progress).deliveries) :
    delivery ∈ system.deliveries ∨ delivery.progress = progress := by
  obtain ⟨place, found⟩ := mem_iff_getElem?.mp member
  unfold setDelivery at found
  dsimp only at found
  rw [List.getElem?_modify] at found
  obtain ⟨_, stored, rfl⟩ := Option.map_eq_some_iff.mp found
  by_cases here : index = place
  · rw [if_pos here]
    exact Or.inr rfl
  · rw [if_neg here]
    exact Or.inl (mem_of_getElem? stored)

theorem delivery_keeps (inv : SyncInv system)
    (distinct : DistinctKeys BankConnection.id db.connections)
    (rows : ∀ conn ∈ db.connections, Sound system.tables.startEvents conn)
    (loaded : ∀ connectionId userId conn, progress = .loaded connectionId userId conn →
      Sound system.tables.startEvents conn) :
    SyncInv (setDelivery system db index progress) := by
  refine { inv with distinct := distinct, rows := rows, loaded := ?_ }
  intro delivery member connectionId userId conn read
  rcases mem_set_delivery member with old | new
  · exact inv.loaded delivery old connectionId userId conn read
  · exact loaded connectionId userId conn (new.symm.trans read)

theorem delivery_step_keeps (inv : SyncInv system) (member : delivery ∈ system.deliveries)
    {outcome : BankingDb × Progress} (stepped : DeliveryStep system.tables.db delivery outcome) :
    SyncInv (setDelivery system outcome.1 index outcome.2) := by
  cases stepped with
  | quiet progress unread =>
    apply delivery_keeps inv inv.distinct inv.rows
    intro connectionId userId conn read
    exact absurd read (unread connectionId userId conn)
  | loaded connectionId id userId conn found =>
    apply delivery_keeps inv inv.distinct inv.rows
    intro _ _ _ read
    cases read
    exact inv.rows conn (get_connection_mem found)
  | completed connectionId userId conn now ready =>
    have read := inv.loaded delivery member connectionId userId conn ready
    rcases commit_connections delivery.body connectionId userId now conn system.tables.db with
      same | stamped
    · apply delivery_keeps inv
      · rw [same]
        exact inv.distinct
      · rw [same]
        exact inv.rows
      · simp
    · apply delivery_keeps inv
      · rw [stamped]
        apply replace_distinct inv.distinct
        intro _ _ _
        rfl
      · rw [stamped]
        intro row stored
        rcases mem_replace.mp stored with ⟨old, _⟩ | ⟨old, oldIn, _, rfl⟩
        · exact inv.rows row old
        · exact sound_stamp read (inv.rows old oldIn)
      · simp

theorem step_keeps (parseUuid : String → Option String) (inv : SyncInv system) (label : Label) :
    SyncInv (step parseUuid ttl system label) := by
  have stepped := step_cases parseUuid ttl system label
  generalize step parseUuid ttl system label = next at stepped ⊢
  cases stepped with
  | unchanged => exact inv
  | requested request answers call fresh ready saw => exact requested_keeps inv fresh ready saw
  | advanced sagaId status call outcome found stepped =>
    exact call_step_keeps inv (lookup_mem found).1 stepped
  | abandoned sagaId call found =>
    exact moved_keeps inv (abandoned_sound (inv.calls call (lookup_mem found).1))
  | commanded =>
    refine { inv with loaded := ?_ }
    intro delivery member connectionId userId conn read
    rcases mem_snoc.mp member with old | rfl
    · exact inv.loaded delivery old connectionId userId conn read
    · contradiction
  | handled index now delivery outcome member stepped =>
    exact delivery_step_keeps inv member stepped
  | dropped =>
    apply delivery_keeps inv inv.distinct inv.rows
    intro _ _ _ _
    contradiction
  | ended => exact { inv with }

theorem start_inv (unclaimed : Unclaimed) : SyncInv (start unclaimed) where
  distinct := unclaimed.distinct
  rows := by
    intro conn member
    obtain ⟨noSaga, noStart⟩ := unclaimed.free conn member
    constructor
    · simp [noSaga, noStart]
    · simp [noSaga]
  loaded := by
    intro _ _
    contradiction
  once := nodup_nil
  ids := nodup_nil
  called := by
    intro _ _
    contradiction
  calls := by
    intro _ _
    contradiction

theorem sync_run_inv (parseUuid : String → Option String) (unclaimed : Unclaimed)
    (labels : List Label) : SyncInv (syncRun parseUuid ttl unclaimed labels) := by
  unfold syncRun
  apply run_keeps (step parseUuid ttl)
  · intro _ label inv
    exact step_keeps parseUuid inv label
  · exact start_inv unclaimed

end Steps

end FinanceTracker.Banking.SyncRuns
