import FinanceTracker.Library.Runs
import FinanceTracker.Banking.MarkSyncComplete

/-!
# mark_sync_complete takes effect once

Any number of deliveries of any commands run statement by statement, each may be
cut off between two statements, and the claim statements of the sync API fall in
between. The inbox row, the event and the connection update of a command appear
together or not at all. What the transaction does not protect is the claim: it
is released because of the row that was read, and a claim committed after that
read is cleared with it.
-/

namespace FinanceTracker.Banking.ExactlyOnce

open Library KeyedRows Runs MarkSyncComplete List

structure BankingSystem where
  db : BankingDb
  deliveries : List Delivery
  deriving DecidableEq

inductive Label where
  | deliver (body : MarkSyncCommand)
  | advance (index : Nat) (now : Instant)
  | abort (index : Nat)
  | tryClaim (connectionId sagaId : String) (now ttl : Instant) (trigger : SyncTrigger)
  | stealClaim (connectionId oldSagaId newSagaId : String) (now : Instant)
      (trigger : SyncTrigger)
  | escalate (connectionId sagaId : String)
  deriving DecidableEq

def setProgress (deliveries : List Delivery) (index : Nat) (progress : Progress) :
    List Delivery :=
  deliveries.modify index fun delivery => { delivery with progress := progress }

def advanceDelivery (parseUuid : String → Option String) (system : BankingSystem) (index : Nat)
    (now : Instant) : BankingSystem :=
  match system.deliveries[index]? with
  | none => system
  | some delivery =>
    let outcome := runStatement parseUuid now system.db delivery
    { db := outcome.1, deliveries := setProgress system.deliveries index outcome.2 }

def step (parseUuid : String → Option String) (system : BankingSystem) : Label → BankingSystem
  | .deliver body =>
    { system with deliveries := system.deliveries ++ [{ body := body, progress := .started }] }
  | .advance index now => advanceDelivery parseUuid system index now
  | .abort index =>
    { system with deliveries := setProgress system.deliveries index .aborted }
  | .tryClaim connectionId sagaId now ttl trigger =>
    { system with db := tryClaimSync system.db connectionId sagaId now ttl trigger }
  | .stealClaim connectionId oldSagaId newSagaId now trigger =>
    { system with
      db := stealSyncClaim system.db connectionId oldSagaId newSagaId now trigger }
  | .escalate connectionId sagaId =>
    { system with db := escalateTriggerToManual system.db connectionId sagaId }

/-- No delivery yet, an empty outbox and inbox, any connections. -/
def initial (connections : List BankConnection) : BankingSystem where
  db := { connections := connections, outbox := [], processedEvents := [] }
  deliveries := []

variable {parseUuid : String → Option String} {index : Nat} {now : Instant} {db : BankingDb}
  {body : MarkSyncCommand}

theorem advance_absent {system : BankingSystem} (absent : system.deliveries[index]? = none) :
    step parseUuid system (.advance index now) = system := by
  change advanceDelivery parseUuid system index now = system
  unfold advanceDelivery
  rw [absent]

theorem advance_found {system : BankingSystem} {delivery : Delivery}
    (found : system.deliveries[index]? = some delivery) :
    step parseUuid system (.advance index now) =
      { db := (runStatement parseUuid now system.db delivery).1
        deliveries := setProgress system.deliveries index
          (runStatement parseUuid now system.db delivery).2 } := by
  change advanceDelivery parseUuid system index now = _
  unfold advanceDelivery
  rw [found]

structure InboxInvariant (db : BankingDb) : Prop where
  matched : db.outbox.filterMap OutboxEvent.inboxKey =
    db.processedEvents.map ProcessedEvent.correlationId
  consumer : ∀ row ∈ db.processedEvents, row.consumerName = queueName
  distinct : (db.processedEvents.map ProcessedEvent.correlationId).Nodup

theorem not_duplicate_fresh (invariant : InboxInvariant db) {inboxKey : String}
    (fresh : isDuplicate db (some inboxKey) = false) :
    inboxKey ∉ db.processedEvents.map ProcessedEvent.correlationId := by
  intro member
  obtain ⟨row, stored, isKey⟩ := mem_map.mp member
  unfold isDuplicate at fresh
  rw [Option.any_some, any_eq_false] at fresh
  apply fresh row stored
  rw [decide_eq_true_eq]
  cases row
  simp only at isKey
  rw [isKey]
  unfold inboxRow
  congr 1
  exact invariant.consumer _ stored

theorem commit_keeps_inbox (invariant : InboxInvariant db) (body : MarkSyncCommand)
    (connectionId : String) (userId : Int) (now : Instant) (loaded : BankConnection) :
    InboxInvariant (commitCompletion body connectionId userId now loaded db) := by
  unfold commitCompletion
  dsimp only
  split
  · exact invariant
  · rename_i notDuplicate
    cases given : inboxKeyOrNone body with
    | none =>
      constructor
      · simpa using invariant.matched
      · simpa using invariant.consumer
      · simpa using invariant.distinct
    | some inboxKey =>
      rw [given] at notDuplicate
      have fresh := not_duplicate_fresh invariant (Bool.eq_false_iff.mpr notDuplicate)
      constructor
      · simpa [inboxRow] using invariant.matched
      · refine forall_mem_append.mpr ⟨invariant.consumer, ?_⟩
        intro row added
        have isRow : row = inboxRow inboxKey := by simpa using added
        rw [isRow]
        rfl
      · simpa [inboxRow] using nodup_append.mpr
          ⟨invariant.distinct, nodup_singleton inboxKey, by
            intro _ stored _ added same
            rw [same, mem_singleton.mp added] at stored
            exact fresh stored⟩

theorem inbox_of_same {db next : BankingDb} (outbox : next.outbox = db.outbox)
    (processed : next.processedEvents = db.processedEvents) (invariant : InboxInvariant db) :
    InboxInvariant next := by
  constructor
  · rw [outbox, processed]
    exact invariant.matched
  · rw [processed]
    exact invariant.consumer
  · rw [processed]
    exact invariant.distinct

theorem run_statement_cases (now : Instant) (db : BankingDb) (delivery : Delivery) :
    (runStatement parseUuid now db delivery).1 = db ∨
      ∃ connectionId userId conn, delivery.progress = .loaded connectionId userId conn ∧
        runStatement parseUuid now db delivery =
          (commitCompletion delivery.body connectionId userId now conn db, .committed) := by
  unfold runStatement
  cases progress : delivery.progress with
  | started =>
    dsimp only
    split
    · split
      · exact Or.inl rfl
      · exact Or.inl rfl
    · exact Or.inl rfl
  | checked =>
    dsimp only
    split
    · exact Or.inl rfl
    · split
      · exact Or.inl rfl
      · exact Or.inl rfl
  | loaded connectionId userId conn => exact Or.inr ⟨connectionId, userId, conn, rfl, rfl⟩
  | committed | returned | aborted => exact Or.inl rfl

theorem run_statement_returns {delivery : Delivery} {success : Bool}
    (returns : (runStatement parseUuid now db delivery).2 = .returned success) :
    success = true ∨ delivery.progress = .returned success := by
  unfold runStatement at returns
  cases progress : delivery.progress with
  | started =>
    rw [progress] at returns
    dsimp only at returns
    split at returns
    · split at returns
      · cases returns
        exact Or.inl rfl
      · contradiction
    · contradiction
  | checked =>
    rw [progress] at returns
    dsimp only at returns
    split at returns
    · contradiction
    · split at returns
      · cases returns
        exact Or.inl rfl
      · contradiction
  | loaded | aborted =>
    rw [progress] at returns
    contradiction
  | committed =>
    rw [progress] at returns
    cases returns
    exact Or.inl rfl
  | returned =>
    rw [progress] at returns
    exact Or.inr returns

/-- The invariant of every run: inbox and outbox agree, and whatever has
returned has replied success. -/
structure SystemInvariant (system : BankingSystem) : Prop where
  inbox : InboxInvariant system.db
  replies : ∀ delivery ∈ system.deliveries, ∀ success,
    delivery.progress = .returned success → success = true

theorem replies_of_modify {deliveries : List Delivery} {progress : Progress}
    (replies : ∀ delivery ∈ deliveries, ∀ success,
      delivery.progress = .returned success → success = true)
    (changed : ∀ delivery, deliveries[index]? = some delivery → ∀ success,
      progress = .returned success → success = true) :
    ∀ delivery ∈ setProgress deliveries index progress, ∀ success,
      delivery.progress = .returned success → success = true := by
  intro _ member success returned
  obtain ⟨position, found⟩ := mem_iff_getElem?.mp member
  unfold setProgress at found
  rw [List.getElem?_modify] at found
  cases stored : deliveries[position]? with
  | none =>
    rw [stored] at found
    contradiction
  | some old =>
    rw [stored] at found
    by_cases here : index = position
    · subst here
      simp only [if_true, Option.map_eq_map, Option.map_some, Option.some.injEq] at found
      subst found
      exact changed old stored success returned
    · simp only [here, if_false, Option.map_eq_map, Option.map_some, Option.some.injEq] at found
      subst found
      exact replies old (mem_of_getElem? stored) success returned

theorem step_keeps_system (system : BankingSystem) (label : Label)
    (invariant : SystemInvariant system) : SystemInvariant (step parseUuid system label) := by
  cases label with
  | deliver =>
    constructor
    · exact invariant.inbox
    · intro delivery member success returned
      rcases mem_snoc.mp member with earlier | rfl
      · exact invariant.replies delivery earlier success returned
      · contradiction
  | advance index now =>
    cases found : system.deliveries[index]? with
    | none =>
      rw [advance_absent found]
      exact invariant
    | some delivery =>
      rw [advance_found found]
      constructor
      · rcases @run_statement_cases parseUuid now system.db delivery with
          unchanged | ⟨connectionId, userId, conn, _, committed⟩
        · rw [unchanged]
          exact invariant.inbox
        · rw [committed]
          exact commit_keeps_inbox invariant.inbox _ _ _ _ _
      · apply replies_of_modify invariant.replies
        intro _ _ success returned
        rcases run_statement_returns returned with isTrue | earlier
        · exact isTrue
        · exact invariant.replies delivery (mem_of_getElem? found) success earlier
  | abort =>
    constructor
    · exact invariant.inbox
    · apply replies_of_modify invariant.replies
      intro _ _ _ _
      contradiction
  | tryClaim | stealClaim | escalate =>
    exact ⟨@inbox_of_same system.db _ rfl rfl invariant.inbox, invariant.replies⟩

theorem initial_system (connections : List BankConnection) :
    SystemInvariant (initial connections) := by
  refine ⟨⟨rfl, ?_, ?_⟩, ?_⟩
  · intro _ _
    contradiction
  · exact nodup_nil
  · intro _ _
    contradiction

theorem run_system (connections : List BankConnection) (labels : List Label) :
    SystemInvariant (runFrom (step parseUuid) (initial connections) labels) :=
  run_keeps (step parseUuid) step_keeps_system (initial_system connections) labels

structure SagaStepId where
  sagaId : String
  stepName : String
  sagaGiven : sagaId ≠ ""
  stepGiven : stepName ≠ ""

def SagaStepId.inboxKey (id : SagaStepId) : String := stepKey id.sagaId id.stepName

def SagaStepId.Names (id : SagaStepId) (body : MarkSyncCommand) : Prop :=
  body.sagaId = some id.sagaId ∧ body.stepName = some id.stepName

variable {id : SagaStepId}

theorem inbox_key_of_names (names : id.Names body) : inboxKeyOrNone body = some id.inboxKey := by
  unfold inboxKeyOrNone
  rw [names.1, names.2]
  simp [id.sagaGiven, id.stepGiven, SagaStepId.inboxKey]

theorem own_claim_iff (names : id.Names body) (conn : BankConnection) :
    ownClaim body conn = true ↔ conn.syncSagaId = some id.sagaId := by
  unfold ownClaim
  rw [names.1]
  simp [id.sagaGiven]

def inboxRows (db : BankingDb) (inboxKey : String) : Nat :=
  db.processedEvents.countP fun row => row = inboxRow inboxKey

def completionEvents (db : BankingDb) (inboxKey : String) : Nat :=
  db.outbox.countP fun row => row.inboxKey = some inboxKey

theorem inbox_rows_eq (invariant : InboxInvariant db) (inboxKey : String) : inboxRows db inboxKey =
      (db.processedEvents.map ProcessedEvent.correlationId).count inboxKey := by
  unfold inboxRows
  rw [List.count, countP_map]
  apply countP_congr
  intro row member
  have consumer := invariant.consumer row member
  cases row
  simp only at consumer
  simp [inboxRow, consumer]

theorem completion_events_eq (invariant : InboxInvariant db) (inboxKey : String) :
    completionEvents db inboxKey = inboxRows db inboxKey := by
  rw [inbox_rows_eq invariant, ← invariant.matched]
  unfold completionEvents
  rw [List.count, countP_filterMap]
  apply countP_congr
  intro row _
  cases row.inboxKey with
  | none | some => simp

theorem inbox_rows_le_one (invariant : InboxInvariant db) (inboxKey : String) :
    inboxRows db inboxKey ≤ 1 := by
  rw [inbox_rows_eq invariant]
  exact nodup_iff_count_le_one.mp invariant.distinct inboxKey

def SameClaim (first second : BankConnection) : Prop :=
  first.syncSagaId = second.syncSagaId ∧ first.syncStartedAt = second.syncStartedAt ∧
    first.syncTrigger = second.syncTrigger

/-- The effects of the command, all in one commit: the inbox row, the event, and
the stamp of the connection with the release of the claim where it was read as
the saga's own. -/
structure Committed (id : SagaStepId) (body : MarkSyncCommand) (now : Instant)
    (loaded : BankConnection) (before after : BankingDb) : Prop where
  inbox : after.processedEvents = before.processedEvents ++ [inboxRow id.inboxKey]
  event : ∃ connectionId userId, after.outbox = before.outbox ++
    [{ event := completedEvent body connectionId userId loaded
       aggregateType := "bank_connection"
       aggregateId := connectionId
       inboxKey := some id.inboxKey }]
  connection : ∀ stored, getConnection before loaded.id = some stored →
    ∃ row, getConnection after loaded.id = some row ∧ row.lastSyncedAt = some now ∧
      (loaded.syncSagaId = some id.sagaId → row.syncSagaId = none) ∧
      (loaded.syncSagaId ≠ some id.sagaId → SameClaim stored row)
  others : ∀ connectionId, connectionId ≠ loaded.id →
    getConnection after connectionId = getConnection before connectionId

def OnCommand (id : SagaStepId) (property : Instant → Delivery → Prop)
    (system : BankingSystem) (label : Label) : Prop :=
  ∀ index now delivery, label = .advance index now →
    system.deliveries[index]? = some delivery → id.Names delivery.body → property now delivery

/-- A statement of the command writes nothing or commits all its effects. -/
def CommitsTogether (parseUuid : String → Option String) (id : SagaStepId)
    (system : BankingSystem) (label : Label) : Prop :=
  OnCommand id (fun now delivery =>
    (step parseUuid system label).db = system.db ∨
      ∃ connectionId userId loaded, delivery.progress = .loaded connectionId userId loaded ∧
        Committed id delivery.body now loaded system.db (step parseUuid system label).db)
    system label

def ForeignClaimsKept (parseUuid : String → Option String) (id : SagaStepId)
    (system : BankingSystem) (label : Label) : Prop :=
  OnCommand id (fun _ _ =>
    ∀ connectionId conn other, getConnection system.db connectionId = some conn →
      conn.syncSagaId = some other → other ≠ id.sagaId →
      ∃ row, getConnection (step parseUuid system label).db connectionId = some row ∧
        SameClaim conn row)
    system label

/-- No claim of another saga stands in the row when a delivery that read the
claim as its own commits: none was committed between its read and its commit. -/
def ClaimStillHeld (id : SagaStepId) (system : BankingSystem) (label : Label) : Prop :=
  OnCommand id (fun _ delivery =>
    ∀ connectionId userId loaded stored other,
      delivery.progress = .loaded connectionId userId loaded →
      loaded.syncSagaId = some id.sagaId → isDuplicate system.db (some id.inboxKey) = false →
      getConnection system.db loaded.id = some stored → stored.syncSagaId = some other →
      other = id.sagaId)
    system label

theorem stamp_keeps_id (body : MarkSyncCommand) (now : Instant) (loaded row : BankConnection) :
    (stampConnection body now loaded row).id = row.id := rfl

theorem commit_duplicate (names : id.Names body) (connectionId : String) (userId : Int)
    (now : Instant) (loaded : BankConnection) (duplicate : isDuplicate db (some id.inboxKey) = true) :
    commitCompletion body connectionId userId now loaded db = db := by
  unfold commitCompletion
  rw [inbox_key_of_names names]
  dsimp only
  rw [if_pos duplicate]

theorem commit_fresh (names : id.Names body) (connectionId : String) (userId : Int) (now : Instant)
    (loaded : BankConnection) (fresh : isDuplicate db (some id.inboxKey) = false) :
    commitCompletion body connectionId userId now loaded db =
      { connections :=
          replace BankConnection.id db.connections loaded.id (stampConnection body now loaded)
        outbox := db.outbox ++
          [{ event := completedEvent body connectionId userId loaded
             aggregateType := "bank_connection"
             aggregateId := connectionId
             inboxKey := some id.inboxKey }]
        processedEvents := db.processedEvents ++ [inboxRow id.inboxKey] } := by
  unfold commitCompletion
  rw [inbox_key_of_names names]
  dsimp only
  rw [if_neg (Bool.eq_false_iff.mp fresh)]
  rfl

theorem get_after_commit (names : id.Names body) (userId : Int) (now : Instant)
    (loaded : BankConnection) (fresh : isDuplicate db (some id.inboxKey) = false)
    (connectionId wanted : String) :
    getConnection (commitCompletion body connectionId userId now loaded db) wanted =
      if wanted = loaded.id then
        (getConnection db wanted).map (stampConnection body now loaded)
      else getConnection db wanted := by
  rw [commit_fresh names connectionId userId now loaded fresh]
  exact lookup_replace fun row _ _ => stamp_keeps_id body now loaded row

theorem stamp_claim (names : id.Names body) (now : Instant) (loaded row : BankConnection) :
    (loaded.syncSagaId = some id.sagaId → (stampConnection body now loaded row).syncSagaId = none) ∧
    (loaded.syncSagaId ≠ some id.sagaId → SameClaim row (stampConnection body now loaded row)) := by
  constructor
  · intro own
    unfold stampConnection
    rw [(own_claim_iff names loaded).mpr own]
    rfl
  · intro foreign
    have notOwn : ownClaim body loaded = false := by
      rw [Bool.eq_false_iff]
      exact fun own => foreign ((own_claim_iff names loaded).mp own)
    unfold stampConnection SameClaim
    rw [notOwn]
    simp

theorem commit_completes (names : id.Names body) (connectionId : String) (userId : Int)
    (now : Instant) (loaded : BankConnection) (fresh : isDuplicate db (some id.inboxKey) = false) :
    Committed id body now loaded db
      (commitCompletion body connectionId userId now loaded db) := by
  have get := get_after_commit names userId now loaded fresh connectionId
  have after := commit_fresh names connectionId userId now loaded fresh
  constructor
  · rw [after]
  · refine ⟨connectionId, userId, ?_⟩
    rw [after]
  · intro stored found
    refine ⟨stampConnection body now loaded stored, ?_, rfl, stamp_claim names now loaded stored⟩
    rw [get, if_pos rfl, found]
    rfl
  · intro _ different
    rw [get, if_neg different]

theorem commits_together (id : SagaStepId) (system : BankingSystem) (label : Label) :
    CommitsTogether parseUuid id system label := by
  rintro index now delivery rfl found names
  rw [advance_found found]
  rcases @run_statement_cases parseUuid now system.db delivery with
    unchanged | ⟨connectionId, userId, loaded, progress, committed⟩
  · exact Or.inl unchanged
  · rw [committed]
    cases duplicate : isDuplicate system.db (some id.inboxKey) with
    | true =>
      apply Or.inl
      exact commit_duplicate names connectionId userId now loaded duplicate
    | false =>
      exact Or.inr ⟨connectionId, userId, loaded, progress,
        commit_completes names connectionId userId now loaded duplicate⟩

theorem foreign_claims_kept_iff (id : SagaStepId) (system : BankingSystem) (label : Label) :
    ForeignClaimsKept parseUuid id system label ↔ ClaimStillHeld id system label := by
  constructor
  · rintro kept index now delivery rfl found names connectionId userId loaded stored other
      progress own fresh storedFound claim
    by_contra foreign
    obtain ⟨_, rowFound, same⟩ := kept index now delivery rfl found names loaded.id stored
      other storedFound claim foreign
    have committed : (runStatement parseUuid now system.db delivery).1 =
        commitCompletion delivery.body connectionId userId now loaded system.db := by
      unfold runStatement
      rw [progress]
    rw [advance_found found] at rowFound
    dsimp only at rowFound
    rw [committed, get_after_commit names userId now loaded fresh, if_pos rfl, storedFound] at rowFound
    cases rowFound
    have cleared := same.1
    rw [claim, (stamp_claim names now loaded stored).1 own] at cleared
    contradiction
  · rintro held index now delivery rfl found names wanted conn other connFound claim foreign
    rw [advance_found found]
    rcases @run_statement_cases parseUuid now system.db delivery with
      unchanged | ⟨connectionId, userId, loaded, progress, committed⟩
    · dsimp only
      rw [unchanged]
      exact ⟨conn, connFound, rfl, rfl, rfl⟩
    · dsimp only
      rw [committed]
      cases duplicate : isDuplicate system.db (some id.inboxKey) with
      | true =>
        rw [commit_duplicate names connectionId userId now loaded duplicate]
        exact ⟨conn, connFound, rfl, rfl, rfl⟩
      | false =>
        rw [get_after_commit names userId now loaded duplicate]
        by_cases here : wanted = loaded.id
        · rw [if_pos here, connFound]
          refine ⟨_, rfl, (stamp_claim names now loaded conn).2 ?_⟩
          intro own
          rw [here] at connFound
          exact foreign (held index now delivery rfl found names connectionId userId loaded
            conn other progress own duplicate connFound claim)
        · rw [if_neg here]
          exact ⟨conn, connFound, rfl, rfl, rfl⟩

structure TakesEffectOnce (parseUuid : String → Option String)
    (connections : List BankConnection) (id : SagaStepId) (labels : List Label) : Prop where
  inboxOnce : inboxRows (runFrom (step parseUuid) (initial connections) labels).db id.inboxKey ≤ 1
  eventWithInbox :
    completionEvents (runFrom (step parseUuid) (initial connections) labels).db id.inboxKey =
      inboxRows (runFrom (step parseUuid) (initial connections) labels).db id.inboxKey
  replies : ∀ delivery ∈ (runFrom (step parseUuid) (initial connections) labels).deliveries,
    id.Names delivery.body → ∀ success, delivery.progress = .returned success → success = true
  together : AllSteps (step parseUuid) (CommitsTogether parseUuid id) (initial connections) labels
  foreignClaims :
    AllSteps (step parseUuid) (ForeignClaimsKept parseUuid id) (initial connections) labels

/-- Everything but the last part holds in every run; the last part holds exactly
when each delivery that read the claim as its own still holds it at its commit. -/
theorem takes_effect_once_iff_claim_held (parseUuid : String → Option String)
    (connections : List BankConnection) (id : SagaStepId) (labels : List Label) :
    TakesEffectOnce parseUuid connections id labels ↔
      AllSteps (step parseUuid) (ClaimStillHeld id) (initial connections) labels := by
  have same := all_steps_congr (step parseUuid) (@foreign_claims_kept_iff parseUuid id)
    (initial connections) labels
  have invariant := @run_system parseUuid connections labels
  constructor
  · intro once
    exact same.mp once.foreignClaims
  · intro held
    constructor
    · exact inbox_rows_le_one invariant.inbox id.inboxKey
    · exact completion_events_eq invariant.inbox id.inboxKey
    · exact fun delivery member _ => invariant.replies delivery member
    · exact all_steps_of_forall (step parseUuid) (commits_together id) _ _
    · exact same.mpr held

def slowStep : SagaStepId where
  sagaId := "old"
  stepName := "mark_sync_complete"
  sagaGiven := by decide
  stepGiven := by decide

def slowConnection : BankConnection where
  id := "c"
  accountId := 1
  syncSagaId := some "old"
  syncStartedAt := some 0
  syncTrigger := some "manual"

def slowCommand : MarkSyncCommand where
  connectionId := some "c"
  userId := some 1
  sagaId := some "old"
  stepName := some "mark_sync_complete"

/-- The delivery reads the claim, a newer saga takes the expired claim over, and
the delivery commits. -/
def overtaken : List Label :=
  [.deliver slowCommand, .advance 0 1000, .advance 0 1000,
    .tryClaim "c" "new" 1001 1000 .manual, .advance 0 1002]

theorem overtaken_clears_newer_claim :
    ¬ TakesEffectOnce some [slowConnection] slowStep overtaken := by
  intro once
  obtain ⟨_, _, _, _, commit, _⟩ := once.foreignClaims
  obtain ⟨row, found, same, _⟩ := commit 0 1002
    { body := slowCommand, progress := .loaded "c" 1 slowConnection } rfl (by decide)
    ⟨rfl, rfl⟩ "c" (claimFor "new" 1001 .manual slowConnection) "new" (by decide) rfl (by decide)
  have cleared : row.syncSagaId = none := by
    have stored : getConnection (runFrom (step some) (initial [slowConnection]) overtaken).db "c" =
        some { slowConnection with
          lastSyncedAt := some 1002, syncSagaId := none, syncStartedAt := none,
          syncTrigger := none } := by decide
    cases found.symm.trans stored
    rfl
  rw [cleared] at same
  contradiction

end FinanceTracker.Banking.ExactlyOnce
