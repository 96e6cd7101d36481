import FinanceTracker.Library.Sessions
import FinanceTracker.Messaging.OutboxWorker

/-!
# The outbox loses nothing

Every row that was added is still in the table or was purged after its message had
been published. A published row has been published, a failed one is due again within
the longest backoff, and a dead one has failed as often as it may. What carries the
proof is the lock: an open transaction holds the rows that it will update as it has
read them, and no other worker touches them before its commit.
-/

namespace FinanceTracker.Messaging.NothingLost

open Library KeyedRows Runs
open Library.Sessions (get_set_cases)
open Outbox hiding State Label step purgePublished
open OutboxWorker

/-- The same event at a later time. -/
structure Continues (before after : OutboxEvent) : Prop where
  id : after.id = before.id
  aggregate : after.aggregate = before.aggregate
  eventType : after.eventType = before.eventType
  payloadJson : after.payloadJson = before.payloadJson
  createdAt : after.createdAt = before.createdAt
  attempts : before.attempts ≤ after.attempts

def failureCount (failures : List RecordedFailure) (id : ℕ) : ℕ :=
  (failures.map RecordedFailure.id).count id

def BackedOff (failures : List RecordedFailure) (id : ℕ) (nextAttemptAt : Int) : Prop :=
  ∃ failure ∈ failures, failure.id = id ∧ failure.recordedAt < nextAttemptAt ∧
    nextAttemptAt ≤ failure.recordedAt + microseconds maxBackoffS

/-- The row has got its status rightly. -/
def Justified (config : WorkerConfig) (state : State) (row : OutboxEvent) : Prop :=
  match row.status with
  | .pending => row.attempts = 0 ∧ row.nextAttemptAt = row.createdAt
  | .failed => BackedOff state.failures row.id row.nextAttemptAt
  | .published => (row.id, messageOf row) ∈ state.confirmed
  | .dead => ∃ bound, config.maxAttempts = some bound ∧ bound ≤ failureCount state.failures row.id

def Kept (state : State) (row : OutboxEvent) : Prop :=
  (∃ after ∈ state.rows, Continues row after) ∨
    ∃ gone ∈ state.purged, Continues row gone ∧ gone.status = .published ∧
      (gone.id, messageOf gone) ∈ state.confirmed

theorem continues_refl (row : OutboxEvent) : Continues row row :=
  ⟨rfl, rfl, rfl, rfl, rfl, le_refl _⟩

theorem continues_trans {first second third : OutboxEvent} (early : Continues first second)
    (late : Continues second third) : Continues first third where
  id := late.id.trans early.id
  aggregate := late.aggregate.trans early.aggregate
  eventType := late.eventType.trans early.eventType
  payloadJson := late.payloadJson.trans early.payloadJson
  createdAt := late.createdAt.trans early.createdAt
  attempts := le_trans early.attempts late.attempts

theorem update_continues (mark : Mark) (row : OutboxEvent) : Continues row (row.update mark) := by
  cases mark with
  | published => exact ⟨rfl, rfl, rfl, rfl, rfl, le_refl _⟩
  | failed | dead => exact ⟨rfl, rfl, rfl, rfl, rfl, Nat.le_succ _⟩

def marked (marks : List Mark) (row : OutboxEvent) : OutboxEvent :=
  match lookup Mark.id marks row.id with
  | some mark => row.update mark
  | none => row

theorem marked_continues (marks : List Mark) (row : OutboxEvent) :
    Continues row (marked marks row) := by
  unfold marked
  split
  · exact update_continues _ row
  · exact continues_refl row

theorem marked_cons {mark : Mark} {marks : List Mark} (fresh : mark.id ∉ marks.map Mark.id)
    (row : OutboxEvent) :
    marked (mark :: marks) row =
      marked marks (if OutboxEvent.key row = mark.id then row.update mark else row) := by
  by_cases here : mark.id = row.id
  · have sameId : (row.update mark).id = mark.id := by
      rw [(update_continues mark row).id, here]
    have untouched : lookup Mark.id marks (row.update mark).id = none := by
      rw [lookup_none_iff, sameId]
      intro _ member same
      exact fresh (same ▸ List.mem_map_of_mem member)
    have found : lookup Mark.id (mark :: marks) row.id = some mark := by
      simp [lookup, here]
    have isKey : OutboxEvent.key row = mark.id := here.symm
    rw [if_pos isKey]
    simp only [marked, found, untouched]
  · have notKey : ¬ OutboxEvent.key row = mark.id := fun same => here same.symm
    have skipped : lookup Mark.id (mark :: marks) row.id = lookup Mark.id marks row.id := by
      simp [lookup, here]
    rw [if_neg notKey]
    simp only [marked, skipped]

theorem update_rows_eq {marks : List Mark} (distinct : DistinctKeys Mark.id marks)
    (rows : List OutboxEvent) : marks.foldl updateRow rows = rows.map (marked marks) := by
  induction marks generalizing rows with
  | nil =>
    have unmarked : marked [] = id := by
      funext row
      rfl
    rw [unmarked, List.map_id]
    rfl
  | cons mark marks ih =>
    obtain ⟨fresh, rest⟩ := List.nodup_cons.mp distinct
    rw [List.foldl_cons, ih rest]
    unfold updateRow replace
    rw [List.map_map]
    apply List.map_congr_left
    intro row _
    exact (marked_cons fresh row).symm

def isFailure : Mark → Bool
  | .published _ _ => false
  | .failed _ _ => true
  | .dead _ => true

theorem failure_marks_count {marks : List Mark} (distinct : DistinctKeys Mark.id marks) (id : ℕ) :
    ((marks.filter isFailure).map Mark.id).count id =
      if (lookup Mark.id marks id).any isFailure then 1 else 0 := by
  induction marks with
  | nil => rfl
  | cons mark marks ih =>
    obtain ⟨fresh, rest⟩ := List.nodup_cons.mp distinct
    have before := ih rest
    by_cases here : mark.id = id
    · have found : lookup Mark.id (mark :: marks) id = some mark := by
        simp [lookup, here]
      have none : ((marks.filter isFailure).map Mark.id).count id = 0 := by
        rw [List.count_eq_zero]
        intro member
        obtain ⟨_, kept, same⟩ := List.mem_map.mp member
        rw [here, ← same] at fresh
        exact fresh (List.mem_map_of_mem (List.mem_filter.mp kept).1)
      rw [found]
      by_cases fails : isFailure mark
      · simp [fails, here, none]
      · simp [fails, none]
    · have skipped : lookup Mark.id (mark :: marks) id = lookup Mark.id marks id := by
        simp [lookup, here]
      rw [skipped, ← before]
      by_cases fails : isFailure mark
      · simp [fails, here]
      · simp [fails]

theorem failure_count_append (failures later : List RecordedFailure) (id : ℕ) :
    failureCount (failures ++ later) id = failureCount failures id + failureCount later id := by
  unfold failureCount
  rw [List.map_append, List.count_append]


def IsWaiting (row : OutboxEvent) : Prop := row.status = .pending ∨ row.status = .failed

/-- A locked row is still in the table as it was read, and it is not settled. -/
def Holds (state : State) (session : Session) (row : OutboxEvent) : Prop :=
  row ∈ state.rows ∧ IsWaiting row ∧ row.id ∈ session.locked

def MarkFits (config : WorkerConfig) (state : State) (session : Session) (row : OutboxEvent) :
    Mark → Prop
  | .published _ _ => (row.id, messageOf row) ∈ state.confirmed
  | .failed id nextAttemptAt => BackedOff session.failures id nextAttemptAt
  | .dead _ => ∃ bound, config.maxAttempts = some bound ∧ bound ≤ row.attempts + 1

structure SessionInv (config : WorkerConfig) (state : State) (session : Session) : Prop where
  entries : ∀ entry ∈ session.entries, Holds state session entry
  distinct : (session.marks.map Mark.id ++ session.entries.map OutboxEvent.key).Nodup
  marks : ∀ mark ∈ session.marks, ∃ row, Holds state session row ∧ row.id = mark.id ∧
    MarkFits config state session row mark
  failures : session.failures.map RecordedFailure.id = (session.marks.filter isFailure).map Mark.id
  marking : session.attempt = .marking → ∀ entry ∈ session.entries.head?,
    (entry.id, messageOf entry) ∈ state.confirmed

/-- The invariant of a run, with rows that have been stored before in it. -/
structure WorkerInv (config : WorkerConfig) (tracked : List OutboxEvent) (state : State) :
    Prop where
  distinct : DistinctKeys OutboxEvent.key state.rows
  idBound : ∀ row ∈ state.rows, row.id < state.nextId
  failureBound : ∀ failure ∈ state.failures, failure.id < state.nextId
  attempts : ∀ row ∈ state.rows, row.attempts = failureCount state.failures row.id
  justified : ∀ row ∈ state.rows, Justified config state row
  sessions : ∀ (worker : ℕ) (position : Position) session, state.workers[worker]? = some position →
    position.session = some session → session.isOpen = true → SessionInv config state session
  exclusive : ∀ (first second : ℕ) (left right : Position), state.workers[first]? = some left →
    state.workers[second]? = some right → ∀ id ∈ left.locked, id ∈ right.locked → first = second
  kept : ∀ row ∈ tracked, Kept state row

theorem start_inv (config : WorkerConfig) (workers : ℕ) : WorkerInv config [] (start workers) where
  distinct := List.nodup_nil
  idBound := nofun
  failureBound := nofun
  attempts := nofun
  justified := nofun
  sessions := by
    intro _ _ _ found
    rw [List.eq_of_mem_replicate (List.mem_of_getElem? found)]
    nofun
  exclusive := by
    intro _ _ _ _ found
    rw [List.eq_of_mem_replicate (List.mem_of_getElem? found)]
    nofun
  kept := nofun

section Frames

variable {config : WorkerConfig} {tracked : List OutboxEvent} {state after : State}

theorem session_inv_grows {session : Session} (holds : SessionInv config state session)
    (rows : ∀ row ∈ state.rows, IsWaiting row → row.id ∈ session.locked → row ∈ after.rows)
    (confirmed : ∀ message ∈ state.confirmed, message ∈ after.confirmed) :
    SessionInv config after session := by
  have stays : ∀ row, Holds state session row → Holds after session row :=
    fun row held => ⟨rows row held.1 held.2.1 held.2.2, held.2⟩
  constructor
  · exact fun entry member => stays entry (holds.entries entry member)
  · exact holds.distinct
  · intro mark member
    obtain ⟨row, held, same, fits⟩ := holds.marks mark member
    refine ⟨row, stays row held, same, ?_⟩
    cases mark with
    | published => exact confirmed _ fits
    | failed | dead => exact fits
  · exact holds.failures
  · intro isMarking entry first
    exact confirmed _ (holds.marking isMarking entry first)

theorem justified_grows {row : OutboxEvent} (justified : Justified config state row)
    (failures : state.failures <+: after.failures)
    (confirmed : ∀ message ∈ state.confirmed, message ∈ after.confirmed) :
    Justified config after row := by
  obtain ⟨later, isAppend⟩ := failures
  unfold Justified at justified ⊢
  split at justified
  · exact justified
  · obtain ⟨failure, recorded, bounds⟩ := justified
    exact ⟨failure, isAppend ▸ List.mem_append_left later recorded, bounds⟩
  · exact confirmed _ justified
  · obtain ⟨bound, isBound, enough⟩ := justified
    refine ⟨bound, isBound, le_trans enough ?_⟩
    rw [← isAppend, failure_count_append]
    exact Nat.le_add_right _ _

theorem kept_grows {row : OutboxEvent} (kept : Kept state row)
    (rows : ∀ stored ∈ state.rows, Kept after stored)
    (purged : ∀ gone ∈ state.purged, gone ∈ after.purged)
    (confirmed : ∀ message ∈ state.confirmed, message ∈ after.confirmed) : Kept after row := by
  rcases kept with ⟨current, stored, continues⟩ | ⟨gone, left, continues, published, sent⟩
  · rcases rows current stored with ⟨next, present, further⟩ | ⟨gone, left, further, rest⟩
    · exact Or.inl ⟨next, present, continues_trans continues further⟩
    · exact Or.inr ⟨gone, left, continues_trans continues further, rest⟩
  · exact Or.inr ⟨gone, purged gone left, continues, published, confirmed _ sent⟩

theorem kept_of_stored {row : OutboxEvent} (stored : row ∈ state.rows) : Kept state row :=
  Or.inl ⟨row, stored, continues_refl row⟩

theorem set_worker_inv (inv : WorkerInv config tracked state) {worker : ℕ} {position : Position}
    (fits : ∀ session, position.session = some session → session.isOpen = true →
      SessionInv config state session)
    (free : ∀ id ∈ position.locked, ∀ (other : ℕ) found, other ≠ worker →
      state.workers[other]? = some found → id ∉ found.locked) :
    WorkerInv config tracked (setWorker state worker position) where
  distinct := inv.distinct
  idBound := inv.idBound
  failureBound := inv.failureBound
  attempts := inv.attempts
  justified := inv.justified
  sessions := by
    intro other found session present isSession isOpen
    have before : SessionInv config state session := by
      rcases get_set_cases present with ⟨_, rfl⟩ | ⟨_, old⟩
      · exact fits session isSession isOpen
      · exact inv.sessions other found session old isSession isOpen
    exact session_inv_grows before (fun row stored _ _ => stored) (fun message sent => sent)
  exclusive := by
    intro first second left right leftPresent rightPresent id leftLocked rightLocked
    rcases get_set_cases leftPresent with ⟨isFirst, rfl⟩ | ⟨notFirst, oldLeft⟩
    · rcases get_set_cases rightPresent with ⟨isSecond, _⟩ | ⟨notSecond, oldRight⟩
      · rw [isFirst, isSecond]
      · exact absurd rightLocked (free id leftLocked second right notSecond oldRight)
    · rcases get_set_cases rightPresent with ⟨_, rfl⟩ | ⟨_, oldRight⟩
      · exact absurd leftLocked (free id rightLocked first left notFirst oldLeft)
      · exact inv.exclusive first second left right oldLeft oldRight id leftLocked rightLocked
  kept := inv.kept

theorem idle_worker_inv (inv : WorkerInv config tracked state) (worker : ℕ) {position : Position}
    (idle : position.session = none) :
    WorkerInv config tracked (setWorker state worker position) := by
  apply set_worker_inv inv
  · intro _ isSession
    rw [idle] at isSession
    contradiction
  · intro _ locked
    unfold Position.locked at locked
    rw [idle] at locked
    contradiction

theorem session_worker_inv (inv : WorkerInv config tracked state) {worker left : ℕ}
    {session next : Session} (found : state.workers[worker]? = some (.inSession left session))
    (locks : next.locked = session.locked)
    (opens : next.isOpen = true → session.isOpen = true)
    (fits : next.isOpen = true → SessionInv config state next) :
    WorkerInv config tracked (setWorker state worker (.inSession left next)) := by
  apply set_worker_inv inv
  · intro _ same isOpen
    cases same
    exact fits isOpen
  · intro id locked other position differs present taken
    have held : id ∈ (Position.inSession left session).locked := by
      by_cases isOpen : next.isOpen = true
      · simpa [Position.locked, Position.session, isOpen, opens isOpen, locks] using locked
      · simp [Position.locked, Position.session, isOpen] at locked
    exact differs (inv.exclusive worker other _ position found present id held taken).symm

end Frames

section Steps

variable {config : WorkerConfig} {tracked : List OutboxEvent} {state : State}

theorem confirm_inv (inv : WorkerInv config tracked state) (message : ℕ × BrokerMessage) :
    WorkerInv config tracked { state with confirmed := state.confirmed ++ [message] } where
  distinct := inv.distinct
  idBound := inv.idBound
  failureBound := inv.failureBound
  attempts := inv.attempts
  justified := fun row stored =>
    justified_grows (inv.justified row stored) (List.prefix_refl _)
      (fun _ sent => List.mem_append_left _ sent)
  sessions := fun worker position session found isSession isOpen =>
    session_inv_grows (inv.sessions worker position session found isSession isOpen)
      (fun _ stored _ _ => stored) (fun _ sent => List.mem_append_left _ sent)
  exclusive := inv.exclusive
  kept := fun row member =>
    kept_grows (inv.kept row member) (fun _ stored => kept_of_stored stored)
      (fun _ left => left) (fun _ sent => List.mem_append_left _ sent)

variable {worker left : ℕ} {session : Session} {entry row : OutboxEvent}

theorem publish_entry_inv (inv : WorkerInv config tracked state)
    (found : state.workers[worker]? = some (.inSession left session)) (returns : Bool) :
    WorkerInv config tracked (publishEntry state worker left session returns) := by
  unfold publishEntry
  split
  · next entry entries remaining isPublishing =>
    split
    · apply session_worker_inv (confirm_inv inv (entry.id, messageOf entry)) found
      · rfl
      · exact id
      · intro isOpen
        have grown : SessionInv config
            { state with confirmed := state.confirmed ++ [(entry.id, messageOf entry)] }
            session :=
          session_inv_grows (inv.sessions worker _ session found rfl isOpen)
            (fun _ stored _ _ => stored) (fun _ sent => List.mem_append_left _ sent)
        refine { grown with marking := ?_ }
        intro _ _ isFirst
        rw [remaining, List.head?_cons, Option.mem_some_iff] at isFirst
        rw [← isFirst]
        exact List.mem_append_right _ (List.mem_singleton.mpr rfl)
    · apply session_worker_inv inv found
      · rfl
      · exact id
      · intro isOpen
        exact { inv.sessions worker _ session found rfl isOpen with marking := nofun }
  · exact inv

theorem settle_entry_inv {entries : List OutboxEvent} (holds : SessionInv config state session)
    (remaining : session.entries = entry :: entries) {mark : Mark} {failures : List RecordedFailure}
    (sameId : mark.id = entry.id)
    (counted : failures.map RecordedFailure.id = ([mark].filter isFailure).map Mark.id)
    (fits : MarkFits config state
      { session with failures := session.failures ++ failures } entry mark) :
    SessionInv config state
      { session with
        entries := entries
        attempt := .publishing
        marks := session.marks ++ [mark]
        failures := session.failures ++ failures } := by
  have moved : (session.marks ++ [mark]).map Mark.id ++ entries.map OutboxEvent.key =
      session.marks.map Mark.id ++ session.entries.map OutboxEvent.key := by
    have sameKey : mark.id = OutboxEvent.key entry := sameId
    rw [remaining, List.map_append, List.map_cons, List.append_assoc, List.map_cons, sameKey]
    rfl
  constructor
  · intro other member
    exact holds.entries other (remaining ▸ List.mem_cons_of_mem entry member)
  · have distinct := holds.distinct
    rw [← moved] at distinct
    exact distinct
  · intro other member
    rcases mem_snoc.mp member with earlier | rfl
    · obtain ⟨row, held, same, otherFits⟩ := holds.marks other earlier
      refine ⟨row, held, same, ?_⟩
      cases other with
      | published | dead => exact otherFits
      | failed =>
        obtain ⟨failure, recorded, bounds⟩ := otherFits
        exact ⟨failure, List.mem_append_left _ recorded, bounds⟩
    · exact ⟨entry, holds.entries entry (remaining ▸ List.mem_cons_self), sameId.symm, fits⟩
  · rw [List.map_append, holds.failures, counted, List.filter_append, List.map_append]
  · nofun

theorem mark_entry_inv (inv : WorkerInv config tracked state)
    (found : state.workers[worker]? = some (.inSession left session)) (now : Int) (succeeds : Bool) :
    WorkerInv config tracked (markEntry state worker left session now succeeds) := by
  unfold markEntry
  split
  · next entry entries remaining isMarking =>
    split
    · next settles =>
      apply session_worker_inv inv found
      · rfl
      · exact id
      · intro isOpen
        have holds := inv.sessions worker _ session found rfl isOpen
        have sent : MarkFits config state
            { session with failures := session.failures ++ [] } entry
            (.published entry.id now) :=
          holds.marking isMarking entry (by rw [remaining]; rfl)
        have settled := settle_entry_inv holds remaining rfl rfl sent
        rw [List.append_nil] at settled
        exact settled
    · apply session_worker_inv inv found
      · rfl
      · exact id
      · intro isOpen
        exact { inv.sessions worker _ session found rfl isOpen with marking := nofun }
  · exact inv

theorem recorded_failure_fits (now : Int) : MarkFits config state
      { session with failures := session.failures ++ [⟨entry.id, now⟩] } entry
      (recordFailure config.maxAttempts now entry.toOutboxRow) := by
  unfold recordFailure
  split
  · next exhausted =>
    cases isBound : config.maxAttempts with
    | none => simp [isBound] at exhausted
    | some bound =>
      rw [isBound] at exhausted
      exact ⟨bound, isBound, of_decide_eq_true exhausted⟩
  · refine ⟨⟨entry.id, now⟩, List.mem_append_right _ (List.mem_singleton.mpr rfl), rfl, ?_, ?_⟩
    · have positive : 0 < computeBackoff entry.attempts := by
        unfold computeBackoff backoffBaseS maxBackoffS
        have power := Nat.two_pow_pos entry.attempts
        omega
      unfold microseconds
      dsimp only
      omega
    · have capped : computeBackoff entry.attempts ≤ maxBackoffS := Nat.min_le_right _ _
      unfold microseconds
      dsimp only
      omega

theorem record_failure_mark (maxAttempts : Option ℕ) (now : Int) (entry : OutboxRow) :
    (recordFailure maxAttempts now entry).id = entry.id ∧
      isFailure (recordFailure maxAttempts now entry) = true := by
  unfold recordFailure
  split
  · exact ⟨rfl, rfl⟩
  · exact ⟨rfl, rfl⟩

theorem record_entry_inv (inv : WorkerInv config tracked state)
    (found : state.workers[worker]? = some (.inSession left session)) (now : Int) (succeeds : Bool) :
    WorkerInv config tracked (recordEntry config state worker left session now succeeds) := by
  unfold recordEntry
  split
  · next entry entries remaining isRecording =>
    split
    · next settles =>
      apply session_worker_inv inv found
      · rfl
      · exact id
      · intro isOpen
        obtain ⟨sameId, fails⟩ :=
          record_failure_mark config.maxAttempts now entry.toOutboxRow
        apply settle_entry_inv (inv.sessions worker _ session found rfl isOpen) remaining sameId
        · simp [fails, sameId]
        · exact recorded_failure_fits now
    · exact idle_worker_inv inv worker rfl
  · exact inv

theorem can_fetch_waiting {now : Int} {picked : List OutboxEvent}
    (fetches : CanFetch config state now picked) (member : entry ∈ picked) :
    IsWaiting entry ∧ entry.id ∉ lockedIds state.workers := by
  have due := (fetches.2.due entry.toOutboxRow (List.mem_map_of_mem member)).2
  simp only [isDue, Bool.and_eq_true, Bool.or_eq_true, decide_eq_true_eq] at due
  exact ⟨due.1.1, due.2⟩

theorem fetch_entries_inv (inv : WorkerInv config tracked state) (worker left : ℕ) (now : Int)
    (answer : Option (List OutboxEvent)) :
    WorkerInv config tracked (fetchEntries config state worker left now answer) := by
  cases answer with
  | none => exact idle_worker_inv inv worker rfl
  | some picked =>
    unfold fetchEntries
    dsimp only
    split
    · next fetches =>
      split
      · exact idle_worker_inv inv worker rfl
      · next entry entries =>
        apply set_worker_inv inv
        · intro _ isSession _
          cases isSession
          constructor
          · intro other member
            exact ⟨fetches.1 other member, (can_fetch_waiting fetches member).1,
              List.mem_map_of_mem member⟩
          · have distinct := fetches.2.distinct
            have rows : ((entry :: entries).map OutboxEvent.toOutboxRow).Nodup := distinct
            exact (List.Nodup.of_map _ rows).map_on fun first firstMember second
              secondMember same => List.inj_on_of_nodup_map inv.distinct
                (fetches.1 first firstMember) (fetches.1 second secondMember) same
          · nofun
          · rfl
          · nofun
        · intro _ locked _ position _ present taken
          obtain ⟨_, member, rfl⟩ := List.mem_map.mp locked
          apply (can_fetch_waiting fetches member).2
          exact List.mem_flatMap.mpr ⟨position, List.mem_of_getElem? present, taken⟩
    · exact inv

theorem lose_transaction_inv (inv : WorkerInv config tracked state)
    (found : state.workers[worker]? = some (.inSession left session)) :
    WorkerInv config tracked
      (setWorker state worker (.inSession left { session with isOpen := false })) := by
  apply session_worker_inv inv found
  · rfl
  · nofun
  · nofun

theorem new_events_rows {nextId : ℕ} {createdAt : Int} {events : List NewEvent}
    (member : row ∈ newEvents nextId createdAt events) :
    nextId ≤ row.id ∧ row.id < nextId + events.length ∧ row.status = .pending ∧
      row.attempts = 0 ∧ row.nextAttemptAt = row.createdAt := by
  induction events generalizing nextId with
  | nil => contradiction
  | cons event events ih =>
    rw [List.length_cons]
    rcases List.mem_cons.mp member with rfl | later
    · exact ⟨le_refl _, by simp, rfl, rfl, rfl⟩
    · obtain ⟨_, _, rest⟩ := ih later
      exact ⟨by omega, by omega, rest⟩

theorem new_events_distinct (nextId : ℕ) (createdAt : Int) (events : List NewEvent) :
    DistinctKeys OutboxEvent.key (newEvents nextId createdAt events) := by
  induction events generalizing nextId with
  | nil => exact List.nodup_nil
  | cons event events ih =>
    apply List.nodup_cons.mpr
    refine ⟨?_, ih (nextId + 1)⟩
    intro member
    obtain ⟨row, later, same⟩ := List.mem_map.mp member
    have bound := (new_events_rows later).1
    have isFirst : row.id = nextId := same
    omega

theorem failure_count_fresh {failures : List RecordedFailure} {nextId id : ℕ}
    (bound : ∀ failure ∈ failures, failure.id < nextId) (fresh : nextId ≤ id) :
    failureCount failures id = 0 := by
  unfold failureCount
  rw [List.count_eq_zero]
  intro member
  obtain ⟨failure, recorded, _⟩ := List.mem_map.mp member
  have below := bound failure recorded
  omega

theorem add_events_inv (inv : WorkerInv config tracked state) (createdAt : Int)
    (events : List NewEvent) :
    WorkerInv config tracked (addEvents state createdAt events) where
  distinct := by
    change ((state.rows ++ newEvents state.nextId createdAt events).map OutboxEvent.key).Nodup
    rw [List.map_append, List.nodup_append]
    refine ⟨inv.distinct, new_events_distinct _ _ _, ?_⟩
    intro _ firstMember _ secondMember same
    obtain ⟨old, stored, isFirst⟩ := List.mem_map.mp firstMember
    obtain ⟨new, added, isSecond⟩ := List.mem_map.mp secondMember
    have below : old.id < state.nextId := inv.idBound old stored
    have above := (new_events_rows added).1
    have sameId : old.id = new.id := isFirst.trans (same.trans isSecond.symm)
    omega
  idBound := by
    intro row member
    change row.id < state.nextId + events.length
    rcases List.mem_append.mp member with stored | added
    · exact Nat.lt_add_right _ (inv.idBound row stored)
    · exact (new_events_rows added).2.1
  failureBound := fun failure recorded => Nat.lt_add_right _ (inv.failureBound failure recorded)
  attempts := by
    refine List.forall_mem_append.mpr ⟨inv.attempts, ?_⟩
    intro row added
    obtain ⟨fresh, _, _, untried, _⟩ := new_events_rows added
    rw [untried]
    exact (failure_count_fresh inv.failureBound fresh).symm
  justified := by
    intro row member
    rcases List.mem_append.mp member with stored | added
    · exact justified_grows (inv.justified row stored) (List.prefix_refl _) (fun _ sent => sent)
    · obtain ⟨_, _, isPending, untried, due⟩ := new_events_rows added
      unfold Justified
      rw [isPending]
      exact ⟨untried, due⟩
  sessions := fun worker position session found isSession isOpen =>
    session_inv_grows (inv.sessions worker position session found isSession isOpen)
      (fun _ stored _ _ => List.mem_append_left _ stored) (fun _ sent => sent)
  exclusive := inv.exclusive
  kept := fun row member =>
    kept_grows (inv.kept row member)
      (fun _ stored => kept_of_stored (List.mem_append_left _ stored)) (fun _ left => left)
      (fun _ sent => sent)

theorem mark_of_row (inv : WorkerInv config tracked state) (holds : SessionInv config state session)
    (stored : row ∈ state.rows) {mark : Mark}
    (found : lookup Mark.id session.marks row.id = some mark) :
    MarkFits config state session row mark ∧ row.id ∈ session.locked ∧ mark.id = row.id := by
  obtain ⟨member, sameId⟩ := lookup_mem found
  obtain ⟨held, ⟨heldStored, _, locked⟩, isHeld, fits⟩ := holds.marks mark member
  have same : held = row :=
    List.inj_on_of_nodup_map inv.distinct heldStored stored (isHeld.trans sameId)
  exact ⟨same ▸ fits, same ▸ locked, sameId⟩

theorem session_failure_count (holds : SessionInv config state session) (id : ℕ) :
    failureCount session.failures id =
      if (lookup Mark.id session.marks id).any isFailure then 1 else 0 := by
  unfold failureCount
  rw [holds.failures]
  exact failure_marks_count (List.nodup_append.mp holds.distinct).1 id

theorem marked_attempts (marks : List Mark) (row : OutboxEvent) :
    (marked marks row).attempts = row.attempts +
      if (lookup Mark.id marks row.id).any isFailure then 1 else 0 := by
  unfold marked
  split
  · next mark found =>
    rw [found]
    cases mark <;> rfl
  · next absent =>
    rw [absent]
    rfl

theorem marked_justified (inv : WorkerInv config tracked state)
    (holds : SessionInv config state session) (stored : row ∈ state.rows) :
    Justified config (saveMarks state session) (marked session.marks row) := by
  have counted := marked_attempts session.marks row
  have attempts := inv.attempts row stored
  have added := session_failure_count holds row.id
  unfold marked at counted ⊢
  split
  · next mark found =>
    obtain ⟨fits, _, sameId⟩ := mark_of_row inv holds stored found
    cases mark with
    | published => exact fits
    | failed =>
      obtain ⟨failure, recorded, isFailed, bounds⟩ := fits
      exact ⟨failure, List.mem_append_right _ recorded, isFailed.trans sameId, bounds⟩
    | dead id =>
      obtain ⟨bound, isBound, enough⟩ := fits
      refine ⟨bound, isBound, le_trans enough ?_⟩
      change row.attempts + 1 ≤ failureCount (state.failures ++ session.failures) row.id
      rw [failure_count_append, added, found, ← attempts]
      exact le_refl _
  · exact justified_grows (inv.justified row stored) (List.prefix_append _ _)
      (fun _ sent => sent)

theorem saved_rows (holds : SessionInv config state session) :
    (saveMarks state session).rows = state.rows.map (marked session.marks) :=
  update_rows_eq (List.nodup_append.mp holds.distinct).1 state.rows

theorem save_marks_inv (inv : WorkerInv config tracked state)
    (holds : SessionInv config state session)
    (free : ∀ (other : ℕ) position, state.workers[other]? = some position →
      ∀ id ∈ session.locked, id ∉ position.locked) :
    WorkerInv config tracked (saveMarks state session) := by
  have rows := saved_rows holds
  constructor
  · have sameKeys : (state.rows.map (marked session.marks)).map OutboxEvent.key =
        state.rows.map OutboxEvent.key := by
      rw [List.map_map]
      apply List.map_congr_left
      intro row _
      exact (marked_continues session.marks row).id
    unfold DistinctKeys
    rw [rows, sameKeys]
    exact inv.distinct
  · intro _ member
    rw [rows] at member
    obtain ⟨old, stored, rfl⟩ := List.mem_map.mp member
    rw [(marked_continues session.marks old).id]
    exact inv.idBound old stored
  · refine List.forall_mem_append.mpr ⟨inv.failureBound, ?_⟩
    intro failure isNew
    have counted : failure.id ∈ session.failures.map RecordedFailure.id :=
      List.mem_map_of_mem isNew
    rw [holds.failures] at counted
    obtain ⟨mark, marks, sameId⟩ := List.mem_map.mp counted
    obtain ⟨row, ⟨stored, _⟩, isRow, _⟩ := holds.marks mark (List.mem_filter.mp marks).1
    rw [← sameId, ← isRow]
    exact inv.idBound row stored
  · intro _ member
    rw [rows] at member
    obtain ⟨old, stored, rfl⟩ := List.mem_map.mp member
    change _ = failureCount (state.failures ++ session.failures) _
    rw [(marked_continues session.marks old).id, marked_attempts, failure_count_append,
      session_failure_count holds, inv.attempts old stored]
  · intro _ member
    rw [rows] at member
    obtain ⟨_, stored, rfl⟩ := List.mem_map.mp member
    exact marked_justified inv holds stored
  · intro worker position other found isSession isOpen
    apply session_inv_grows (inv.sessions worker position other found isSession isOpen)
    · intro row stored _ locked
      have unmarked : marked session.marks row = row := by
        unfold marked
        split
        · next mark isMarked =>
          have taken := (mark_of_row inv holds stored isMarked).2.1
          have alsoHeld : row.id ∈ position.locked := by
            simpa [Position.locked, isSession, isOpen] using locked
          exact absurd alsoHeld (free worker position found row.id taken)
        · rfl
      rw [rows, ← unmarked]
      exact List.mem_map_of_mem stored
    · exact fun _ sent => sent
  · exact inv.exclusive
  · intro row member
    apply kept_grows (inv.kept row member)
    · intro stored isStored
      refine Or.inl ⟨marked session.marks stored, ?_, marked_continues session.marks stored⟩
      rw [rows]
      exact List.mem_map_of_mem isStored
    · exact fun _ left => left
    · exact fun _ sent => sent

theorem committed_session_inv (inv : WorkerInv config tracked state)
    (found : state.workers[worker]? = some (.inSession left session))
    (isOpen : session.isOpen = true) {position : Position} (idle : position.session = none) :
    WorkerInv config tracked (setWorker (saveMarks state session) worker position) := by
  have holds := inv.sessions worker _ session found rfl isOpen
  have after := idle_worker_inv inv worker idle
  change WorkerInv config tracked (saveMarks (setWorker state worker position) session)
  apply save_marks_inv after
  · exact session_inv_grows holds (fun _ stored _ _ => stored) (fun _ sent => sent)
  · intro other present isPresent id locked taken
    rcases get_set_cases isPresent with ⟨_, rfl⟩ | ⟨differs, old⟩
    · simp [Position.locked, idle] at taken
    · have held : id ∈ (Position.inSession left session).locked := by
        simpa [Position.locked, Position.session, isOpen] using locked
      exact differs (inv.exclusive worker other _ present found old id held taken).symm

theorem end_session_inv (inv : WorkerInv config tracked state)
    (found : state.workers[worker]? = some (.inSession left session)) (outcome : CommitOutcome) :
    WorkerInv config tracked (endSession state worker left session outcome) := by
  unfold endSession
  split
  · split
    · next isOpen =>
      cases outcome with
      | returned | raisedCommitted => exact committed_session_inv inv found isOpen rfl
      | raisedRolledBack => exact idle_worker_inv inv worker rfl
    · exact idle_worker_inv inv worker rfl
  · exact inv

theorem purgeable_published {cutoff : Int} (purgeable : isPurgeable cutoff row = true) :
    row.status = .published := by
  simp only [isPurgeable, Bool.and_eq_true, decide_eq_true_eq] at purgeable
  exact purgeable.1

theorem purge_keeps_stored (inv : WorkerInv config tracked state) (cutoff : Int)
    (stored : row ∈ state.rows) : Kept (purgePublished state cutoff) row := by
  by_cases purgeable : isPurgeable cutoff row = true
  · have published := purgeable_published purgeable
    have justified := inv.justified row stored
    unfold Justified at justified
    rw [published] at justified
    have gone : row ∈ state.purged ++ state.rows.filter (isPurgeable cutoff) :=
      List.mem_append_right _ (List.mem_filter.mpr ⟨stored, purgeable⟩)
    exact Or.inr ⟨row, gone, continues_refl row, published, justified⟩
  · exact kept_of_stored (List.mem_filter.mpr ⟨stored, by simp [purgeable]⟩)

theorem purge_inv (inv : WorkerInv config tracked state) (cutoff : Int) :
    WorkerInv config tracked (purgePublished state cutoff) where
  distinct := List.Nodup.sublist (List.Sublist.map _ List.filter_sublist) inv.distinct
  idBound := fun row member => inv.idBound row (List.mem_filter.mp member).1
  failureBound := inv.failureBound
  attempts := fun row member => inv.attempts row (List.mem_filter.mp member).1
  justified := fun row member =>
    justified_grows (inv.justified row (List.mem_filter.mp member).1) (List.prefix_refl _)
      (fun _ sent => sent)
  sessions := by
    intro worker position session found isSession isOpen
    apply session_inv_grows (inv.sessions worker position session found isSession isOpen)
    · intro _ stored waits _
      apply List.mem_filter.mpr
      refine ⟨stored, ?_⟩
      rw [Bool.not_eq_true', Bool.eq_false_iff]
      intro purgeable
      rcases waits with isPending | isFailed
      · exact absurd (isPending.symm.trans (purgeable_published purgeable)) nofun
      · exact absurd (isFailed.symm.trans (purgeable_published purgeable)) nofun
    · exact fun _ sent => sent
  exclusive := inv.exclusive
  kept := fun row member =>
    kept_grows (inv.kept row member) (fun _ stored => purge_keeps_stored inv cutoff stored)
      (fun _ left => List.mem_append_left _ left) (fun _ sent => sent)

theorem maybe_purge_inv (inv : WorkerInv config tracked state) (now : Int) (due : Bool)
    (outcome : CommitOutcome) :
    WorkerInv config tracked (maybePurge config state now due outcome) := by
  unfold maybePurge
  split
  · exact inv
  · split
    · exact purge_inv inv _
    · exact inv

theorem act_inv (inv : WorkerInv config tracked state) (worker : ℕ) (action : Action) :
    WorkerInv config tracked (act config state worker action) := by
  unfold act
  split
  · next position found =>
    unfold actAt
    split
    · exact idle_worker_inv inv worker rfl
    · exact idle_worker_inv inv worker rfl
    · exact idle_worker_inv inv worker rfl
    · exact fetch_entries_inv inv worker _ _ _
    · exact publish_entry_inv inv found _
    · exact mark_entry_inv inv found _ _
    · exact record_entry_inv inv found _ _
    · exact end_session_inv inv found _
    · exact lose_transaction_inv inv found
    · exact idle_worker_inv (maybe_purge_inv inv _ _ _) worker rfl
    · exact inv
  · exact inv

theorem step_inv (config : WorkerConfig) (tracked : List OutboxEvent) (state : State)
    (label : Label) (inv : WorkerInv config tracked state) :
    WorkerInv config tracked (step config state label) := by
  cases label with
  | addEvents createdAt events => exact add_events_inv inv createdAt events
  | act worker action => exact act_inv inv worker action

end Steps

theorem run_inv (config : WorkerConfig) (workers : ℕ) (labels : List Label) :
    WorkerInv config [] (runFrom (step config) (start workers) labels) :=
  run_keeps (step config) (step_inv config []) (start_inv config workers) labels

/-- An entry that an open transaction has yet to publish is stored as it was read, is not
settled, and no other worker has it. -/
def EntriesInHand (state : State) : Prop :=
  ∀ (worker : ℕ) (position : Position) session, state.workers[worker]? = some position →
    position.session = some session → session.isOpen = true → ∀ entry ∈ session.entries,
      (entry ∈ state.rows ∧ IsWaiting entry) ∧ ∀ (other : ℕ) (elsewhere : Position),
        state.workers[other]? = some elsewhere → entry.id ∈ elsewhere.locked → other = worker

theorem entries_stay_in_hand (config : WorkerConfig) (workers : ℕ) (labels : List Label) :
    EntriesInHand (runFrom (step config) (start workers) labels) := by
  intro worker position session found isSession isOpen entry member
  have inv := run_inv config workers labels
  have sessionInv := inv.sessions worker position session found isSession isOpen
  obtain ⟨stored, waiting, locked⟩ := sessionInv.entries entry member
  refine ⟨⟨stored, waiting⟩, fun other elsewhere foundThere lockedThere => ?_⟩
  have lockedHere : entry.id ∈ position.locked := by
    simp only [Position.locked, isSession, isOpen, if_true]
    exact locked
  exact inv.exclusive other worker elsewhere position foundThere found _ lockedThere lockedHere

/-- A stored row stays with its content and no fewer attempts, or was purged after its
message had been published. -/
theorem stored_rows_kept {config : WorkerConfig} {state : State}
    (inv : WorkerInv config [] state) (later : List Label) {row : OutboxEvent}
    (stored : row ∈ state.rows) : Kept (runFrom (step config) state later) row := by
  have tracked : WorkerInv config state.rows state :=
    { inv with kept := fun _ present => kept_of_stored present }
  exact (run_keeps (step config) (step_inv config state.rows) tracked later).kept row stored

/-- What holds of every row of an outbox. -/
structure RowsJustified (config : WorkerConfig) (state : State) : Prop where
  justified : ∀ row ∈ state.rows, Justified config state row
  attempts : ∀ row ∈ state.rows, row.attempts = failureCount state.failures row.id

/-- In every run, whatever the broker and the database refuse and wherever the workers
stop, each row has its status rightly, its attempts are its recorded failures, and each
row that was ever stored is still in the table or was purged as a published one. -/
theorem outbox_loses_nothing (config : WorkerConfig) (workers : ℕ) (labels later : List Label) :
    let state := runFrom (step config) (start workers) labels
    RowsJustified config state ∧
      ∀ row ∈ state.rows, Kept (runFrom (step config) state later) row := by
  have inv := run_inv config workers labels
  exact ⟨⟨inv.justified, inv.attempts⟩, fun row stored => stored_rows_kept inv later stored⟩

end FinanceTracker.Messaging.NothingLost
