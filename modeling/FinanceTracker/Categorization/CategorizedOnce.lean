import Mathlib.Data.List.Perm.Subperm
import FinanceTracker.Categorization.TransactionConsumer

/-!
# Transactions are categorized once

The audit row, the outbox row and the inbox row of a message are committed together, and
the unique key of the inbox lets one session with the message through. What the sweep
removes is older than the age at which a message may still come.
-/

namespace FinanceTracker.Categorization.CategorizedOnce

open Library Binary64 KeyedRows Runs Sessions TransactionConsumer List

def sweptRows (state : State) : List InboxRow := state.deletions.flatMap Deletion.removed

def inboxRowsOf (state : State) (messageId : String) : List InboxRow :=
  (state.inbox ++ sweptRows state).filter fun row => isOwn row && row.messageId = messageId

def resultsOf (state : State) (messageId : String) : List ResultRow :=
  state.results.filter fun row => row.messageId = messageId

def outboxOf (state : State) (messageId : String) : List CategorizedEvent :=
  state.outbox.filter fun event => event.messageId = messageId

/-- A sweep removes only rows over the age and at most nine tenths of what it counted. -/
structure SweptSafely (deletion : Deletion) : Prop where
  old : ∀ row ∈ deletion.removed, row.processedAt < deletion.startedAt - cleanupAge
  share : 10 * deletion.removed.length ≤ 9 * deletion.total.length

structure OncePerMessage (state : State) : Prop where
  results : ∀ messageId, (resultsOf state messageId).length ≤ 1
  outbox : ∀ messageId, (outboxOf state messageId).map CategorizedEvent.row =
    resultsOf state messageId
  inbox : ∀ messageId, (inboxRowsOf state messageId).length = (resultsOf state messageId).length
  skipped : ∀ session ∈ state.sessions, session.phase = .skipped →
    (resultsOf state session.message.correlationId).length = 1
  sweeps : ∀ deletion ∈ state.deletions, SweptSafely deletion

/-- A session with a message goes on while its transaction, and what was committed for the
message, are within the age. -/
def Timely (state : State) (session : Session) : Prop :=
  (session.phase = .received ∨ state.now ≤ session.startedAt + cleanupAge) ∧
    ∀ row ∈ inboxRowsOf state session.message.correlationId,
      state.now ≤ row.processedAt + cleanupAge

def NothingAfterCleanup (state : State) : Label → Prop
  | .advance index _ => ∀ session ∈ state.sessions[index]?, Timely state session
  | .fail index _ => ∀ session ∈ state.sessions[index]?, Timely state session
  | _ => True

instance (state : State) (session : Session) : Decidable (Timely state session) :=
  inferInstanceAs (Decidable (_ ∧ _))

instance (state : State) (label : Label) : Decidable (NothingAfterCleanup state label) :=
  match label with
  | .advance index _ => inferInstanceAs (Decidable
      (∀ session ∈ state.sessions[index]?, Timely state session))
  | .fail index _ => inferInstanceAs (Decidable
      (∀ session ∈ state.sessions[index]?, Timely state session))
  | .wait _ => isTrue trivial
  | .deliver _ => isTrue trivial
  | .correct _ _ => isTrue trivial
  | .start => isTrue trivial
  | .sweep _ => isTrue trivial
  | .failSweep _ => isTrue trivial

/-- The double of the quotient decides like the quotient: the counts are too small for the
rounding to matter. -/
theorem safe_share {total old : Nat} (bounded : total ≤ 2 ^ 31) (fewer : old ≤ total)
    (safe : isUnsafe total old = false) : 10 * old ≤ 9 * total := by
  by_contra exceeds
  have more : 9 * total < 10 * old := Nat.lt_of_not_le exceeds
  have positive : 0 < total := by omega
  have some : old ≠ 0 := by omega
  have rounded : nearestDouble (old / total) ≤ cleanupSafetyThreshold := by
    simpa [isUnsafe, positive.ne', some] using safe
  have totalPositive : (0 : ℚ) < total := by exact_mod_cast positive
  have apart : (9 / 10 : ℚ) + 1 / (10 * 2 ^ 31) ≤ old / total := by
    have step : (9 * total + 1 : ℚ) ≤ 10 * old := by exact_mod_cast more
    have small : (total : ℚ) ≤ 2 ^ 31 := by exact_mod_cast bounded
    rw [le_div_iff₀ totalPositive]
    have spread : (9 / 10 + 1 / (10 * 2 ^ 31)) * (total : ℚ) =
        9 / 10 * total + 1 / 10 * (total / 2 ^ 31) := by ring
    have part : (total : ℚ) / 2 ^ 31 ≤ 1 := (div_le_one (by norm_num)).mpr small
    linarith
  have atMostOne : (old / total : ℚ) ≤ 1 := by
    rw [div_le_one totalPositive]
    exact_mod_cast fewer
  have below : nearestDouble (9 / 10) < nearestDouble (old / total) := by
    apply nearest_double_lt 1 (by norm_num)
    · exact lt_of_le_of_lt atMostOne (by norm_num)
    · refine lt_of_lt_of_le ?_ apart
      norm_num
  exact absurd rounded (not_le.mpr below)

def ownMessages (rows : List InboxRow) : List String :=
  (rows.filter isOwn).map InboxRow.messageId

def drawnId (session : Session) : Option Nat :=
  match session.phase with
  | .inboxed _ _ row => some row.id
  | _ => none

structure FitsInbox (inbox : List InboxRow) (nextId : Nat) (session : Session)
    (result : ResultRow) (event : CategorizedEvent) (row : InboxRow) : Prop where
  audited : result.messageId = session.message.correlationId
  announced : event.row = result
  own : isOwn row = true
  message : row.messageId = session.message.correlationId
  time : row.processedAt = session.startedAt
  new : isDuplicate inbox session.message.correlationId = false
  below : row.id < nextId
  fresh : ∀ stored ∈ inbox, stored.id ≠ row.id

def Fits (inbox : List InboxRow) (results : List ResultRow) (nextId : Nat) (session : Session) :
    Prop :=
  match session.phase with
  | .written result event =>
    result.messageId = session.message.correlationId ∧ event.row = result
  | .inboxed result event row => FitsInbox inbox nextId session result event row
  | .skipped => session.message.correlationId ∈ results.map ResultRow.messageId
  | _ => True

/-- The rows over the age are among those that the sweep counted. -/
def FitsSweep (now : Instant) (inbox : List InboxRow) (sweep : Sweep) : Prop :=
  sweep.startedAt ≤ now ∧
    match sweep.phase with
    | .counted total =>
      (inbox.filter (isOld sweep.startedAt)).Sublist total ∧ total.length ≤ 2 ^ 31
    | .approved total old => (inbox.filter (isOld sweep.startedAt)).Sublist old ∧
        10 * old.length ≤ 9 * total.length
    | _ => True

structure Inv (state : State) : Prop where
  paired : state.outbox.map CategorizedEvent.row = state.results
  distinct : (state.results.map ResultRow.messageId).Nodup
  processed : (ownMessages (state.inbox ++ sweptRows state)).Perm
    (state.results.map ResultRow.messageId)
  swept : ∀ row ∈ sweptRows state, row.processedAt < state.now - cleanupAge
  ids : DistinctKeys InboxRow.id state.inbox
  below : ∀ row ∈ state.inbox, row.id < state.nextInboxId
  fits : ∀ session ∈ state.sessions, Fits state.inbox state.results state.nextInboxId session
  drawn : Exclusive drawnId state.sessions
  pending : Exclusive pendingMessage state.sessions
  sweeps : ∀ sweep ∈ state.sweeps, FitsSweep state.now state.inbox sweep
  deletions : ∀ deletion ∈ state.deletions, SweptSafely deletion

section Rows

variable {inbox : List InboxRow} {messageId : String} {now : Instant} {row : InboxRow}
  {results : List ResultRow} {nextId number : Nat} {session : Session} {sweep : Sweep}

theorem mem_own_messages {rows : List InboxRow} : messageId ∈ ownMessages rows ↔
      ∃ row ∈ rows, isOwn row = true ∧ row.messageId = messageId := by
  simp [ownMessages, and_assoc]

theorem own_messages_append (rows more : List InboxRow) :
    ownMessages (rows ++ more) = ownMessages rows ++ ownMessages more := by
  simp [ownMessages]

theorem is_duplicate_iff : isDuplicate inbox messageId = true ↔ messageId ∈ ownMessages inbox := by
  rw [mem_own_messages]
  simp [isDuplicate, isOwn, and_comm]

theorem is_duplicate_append (other : ¬ (isOwn row = true ∧ row.messageId = messageId)) :
    isDuplicate (inbox ++ [row]) messageId = isDuplicate inbox messageId := by
  apply Bool.eq_iff_iff.mpr
  rw [is_duplicate_iff, is_duplicate_iff, own_messages_append, mem_append]
  constructor
  · rintro (before | new)
    · exact before
    · obtain ⟨_, isAdded, own, named⟩ := mem_own_messages.mp new
      rw [mem_singleton.mp isAdded] at own named
      exact absurd ⟨own, named⟩ other
  · exact Or.inl

/-- The table grows by a row that no other session waits to insert. -/
theorem fits_append (others : ∀ key, pendingMessage session = some key →
      ¬ (isOwn row = true ∧ row.messageId = key))
    (fresh : ∀ drawn, drawnId session = some drawn → row.id ≠ drawn)
    {grown : List ResultRow} (keeps : ∀ result ∈ results, result ∈ grown)
    (later : nextId ≤ number) (fits : Fits inbox results nextId session) :
    Fits (inbox ++ [row]) grown number session := by
  unfold Fits at fits ⊢
  split at fits
  · exact fits
  · next result event pending phase =>
    refine { fits with
      new := ?_
      below := Nat.lt_of_lt_of_le fits.below later
      fresh := ?_ }
    · rw [is_duplicate_append]
      · exact fits.new
      · exact others _ (by simp [pendingMessage, phase])
    · refine forall_snoc fits.fresh ?_
      exact fresh pending.id (by simp [drawnId, phase])
  · obtain ⟨result, stored, named⟩ := mem_map.mp fits
    exact mem_map.mpr ⟨result, keeps result stored, named⟩
  · trivial

theorem fits_sweep_append (young : now - cleanupAge ≤ row.processedAt)
    (fits : FitsSweep now inbox sweep) : FitsSweep now (inbox ++ [row]) sweep := by
  have notOld : isOld sweep.startedAt row = false := by
    have early : sweep.startedAt - cleanupAge ≤ now - cleanupAge :=
      Int.sub_le_sub_right fits.1 cleanupAge
    exact decide_eq_false (not_lt.mpr (le_trans early young))
  have same : (inbox ++ [row]).filter (isOld sweep.startedAt) =
      inbox.filter (isOld sweep.startedAt) := by
    rw [filter_append]
    simp [notOld]
  unfold FitsSweep at fits ⊢
  rw [same]
  exact fits

theorem fits_sweep_filter (keep : InboxRow → Bool) (fits : FitsSweep now inbox sweep) :
    FitsSweep now (inbox.filter keep) sweep := by
  have fewer : ((inbox.filter keep).filter (isOld sweep.startedAt)).Sublist
      (inbox.filter (isOld sweep.startedAt)) := filter_sublist.filter _
  refine ⟨fits.1, ?_⟩
  have counted := fits.2
  split at counted
  · exact ⟨fewer.trans counted.1, counted.2⟩
  · exact ⟨fewer.trans counted.1, counted.2⟩
  · trivial

theorem fits_filter (keep : InboxRow → Bool) (fits : Fits inbox results nextId session) :
    Fits (inbox.filter keep) results nextId session := by
  unfold Fits at fits ⊢
  split at fits
  · exact fits
  · next result event pending phase =>
    refine { fits with
      new := ?_
      fresh := fun stored member => fits.fresh stored (mem_of_mem_filter member) }
    have before := fits.new
    rw [← Bool.not_eq_true, is_duplicate_iff, mem_own_messages] at before ⊢
    rintro ⟨stored, member, named⟩
    exact before ⟨stored, mem_of_mem_filter member, named⟩
  · exact fits
  · trivial

theorem fits_drawn (later : nextId ≤ number) (fits : Fits inbox results nextId session) :
    Fits inbox results number session := by
  unfold Fits at fits ⊢
  split at fits
  · exact fits
  · exact { fits with below := Nat.lt_of_lt_of_le fits.below later }
  · exact fits
  · trivial

/-- The ids of a table are distinct integers of the column. -/
theorem inbox_bounded (distinct : DistinctKeys InboxRow.id inbox) : inbox.length ≤ 2 ^ 31 := by
  have inRange : inbox.map InboxRow.id ⊆ List.range (2 ^ 31) := by
    intro _ member
    obtain ⟨row, _, rfl⟩ := mem_map.mp member
    exact mem_range.mpr row.inRange
  have counted := (List.Nodup.subperm distinct inRange).length_le
  rw [length_map, length_range] at counted
  exact counted

end Rows

section Sessions

variable {state : State} {index : Nat} {session : Session}

/-- A session moves and nothing is committed. -/
theorem quiet_inv (invariant : Inv state) (next : Session) {number : Nat}
    (later : state.nextInboxId ≤ number) (fits : Fits state.inbox state.results number next)
    (drawn : ∀ key, drawnId next = some key →
      Claims drawnId state.sessions index key ∨ ∀ other, ¬ Claims drawnId state.sessions other key)
    (pending : ∀ key, pendingMessage next = some key →
      Claims pendingMessage state.sessions index key ∨
        ∀ other, ¬ Claims pendingMessage state.sessions other key) :
    Inv ({ state with nextInboxId := number }.setSession index next) where
  paired := invariant.paired
  distinct := invariant.distinct
  processed := invariant.processed
  swept := invariant.swept
  ids := invariant.ids
  below := fun row member => Nat.lt_of_lt_of_le (invariant.below row member) later
  fits := by
    intro found member
    rcases mem_set_cases member with rfl | before
    · exact fits
    · exact fits_drawn later (invariant.fits found before)
  drawn := exclusive_set invariant.drawn drawn
  pending := exclusive_set invariant.pending pending
  sweeps := invariant.sweeps
  deletions := invariant.deletions

/-- A session moves to a phase without a pending row. -/
theorem idle_inv (invariant : Inv state) (next : Session)
    (fits : Fits state.inbox state.results state.nextInboxId next)
    (idle : ∀ result event row, next.phase ≠ .inboxed result event row) :
    Inv (state.setSession index next) := by
  apply quiet_inv invariant next (Nat.le_refl _) fits
  · intro _ drawn
    unfold drawnId at drawn
    split at drawn
    · next phase => exact absurd phase (idle _ _ _)
    · cases drawn
  · intro _ pending
    unfold pendingMessage at pending
    split at pending
    · next phase => exact absurd phase (idle _ _ _)
    · cases pending

theorem duplicate_in_results (invariant : Inv state) {messageId : String}
    (duplicate : isDuplicate state.inbox messageId = true) :
    messageId ∈ state.results.map ResultRow.messageId := by
  apply invariant.processed.mem_iff.mp
  rw [own_messages_append]
  exact mem_append_left _ (is_duplicate_iff.mp duplicate)

theorem check_inv (invariant : Inv state) : Inv (state.setSession index (check state session)) := by
  unfold check
  apply idle_inv invariant
  · unfold Fits
    dsimp only
    split
    · next result event phase => split at phase <;> cases phase
    · next result event row phase => split at phase <;> cases phase
    · next phase =>
      split at phase
      · next duplicate => exact duplicate_in_results invariant duplicate
      · cases phase
    · trivial
  · intro _ _ _ phase
    dsimp only at phase
    split at phase <;> cases phase

theorem duplicate_is_benign :
    afterCommitError (.uniqueViolation "processed_events" "uq_processed_events") = .skipped := by
  decide +kernel

theorem lost_is_failed : afterCommitError .connectionLost = .failed := by
  decide +kernel

theorem drawn_below (invariant : Inv state) {other key : Nat}
    (claims : Claims drawnId state.sessions other key) : key < state.nextInboxId := by
  obtain ⟨found, got, claimed⟩ := claims
  have fits := invariant.fits found (mem_of_getElem? got)
  unfold drawnId at claimed
  split at claimed
  · next result event row phase =>
    cases claimed
    unfold Fits at fits
    rw [phase] at fits
    exact fits.below
  · cases claimed

theorem insert_inbox_inv (invariant : Inv state) (here : state.sessions[index]? = some session)
    {result : ResultRow} {event : CategorizedEvent}
    (written : session.phase = .written result event) :
    Inv (insertInbox state index session result event) := by
  have fits := invariant.fits session (mem_of_getElem? here)
  unfold Fits at fits
  rw [written] at fits
  unfold insertInbox
  split
  · exact invariant
  · next free =>
    split
    · next duplicate =>
      rw [duplicate_is_benign]
      apply idle_inv invariant
      · exact duplicate_in_results invariant duplicate
      · intro _ _ _ phase
        cases phase
    · next new =>
      split
      · next inRange =>
        apply quiet_inv invariant _ (Nat.le_succ _)
        · exact {
            audited := fits.1
            announced := fits.2
            own := decide_eq_true rfl
            message := rfl
            time := rfl
            new := eq_false_of_ne_true new
            below := Nat.lt_succ_self _
            fresh := fun stored member => Nat.ne_of_lt (invariant.below stored member) }
        · intro _ drawn
          cases drawn
          right
          intro _ claims
          exact absurd (drawn_below invariant claims) (Nat.lt_irrefl _)
        · intro _ pending
          cases pending
          right
          apply no_other_claims (eq_false_of_ne_true free)
          rintro ⟨found, got, claimed⟩
          rw [here] at got
          cases got
          simp [pendingMessage, written] at claimed
      · apply idle_inv invariant
        · trivial
        · intro _ _ _ phase
          cases phase

theorem commit_inv (invariant : Inv state) (here : state.sessions[index]? = some session)
    (timely : Timely state session) {result : ResultRow} {event : CategorizedEvent}
    {row : InboxRow} (inboxed : session.phase = .inboxed result event row) (next : Session)
    (fitsNext : ∀ results, Fits (state.inbox ++ [row]) results state.nextInboxId next)
    (idle : drawnId next = none ∧ pendingMessage next = none) :
    Inv ((commit state result event row).setSession index next) := by
  have fits := invariant.fits session (mem_of_getElem? here)
  unfold Fits at fits
  rw [inboxed] at fits
  have inTime : state.now ≤ session.startedAt + cleanupAge := by
    rcases timely.1 with received | soon
    · rw [received] at inboxed
      cases inboxed
    · exact soon
  have notSwept : result.messageId ∉ ownMessages (sweptRows state) := by
    intro member
    obtain ⟨gone, removed, own, named⟩ := mem_own_messages.mp member
    have late := invariant.swept gone removed
    have soon := timely.2 gone (mem_filter.mpr ⟨mem_append_right _ removed, by
      rw [own, named, fits.audited]
      simp⟩)
    exact absurd (sub_le_iff_le_add.mpr soon) (not_le.mpr late)
  have notThere : result.messageId ∉ ownMessages state.inbox := by
    rw [← is_duplicate_iff, fits.audited, fits.new]
    exact Bool.false_ne_true
  have new : result.messageId ∉ state.results.map ResultRow.messageId := by
    intro member
    have processed := invariant.processed.mem_iff.mpr member
    rw [own_messages_append, mem_append] at processed
    exact processed.elim notThere notSwept
  have rowMessages : ownMessages [row] = [result.messageId] := by
    simp [ownMessages, fits.own, fits.message, fits.audited]
  have others (other : Nat) (found : Session) (elsewhere : other ≠ index)
      (got : state.sessions[other]? = some found) :
      Fits (state.inbox ++ [row]) (state.results ++ [result]) state.nextInboxId found := by
    have fitted := invariant.fits found (mem_of_getElem? got)
    refine fits_append ?_ ?_ (fun stored member => mem_append_left _ member)
      (Nat.le_refl _) fitted
    · rintro key claimed ⟨_, named⟩
      apply elsewhere
      apply invariant.pending other index key ⟨found, got, claimed⟩
      exact ⟨session, here, by simp [pendingMessage, inboxed, ← named, fits.message]⟩
    · rintro drawn claimed rfl
      apply elsewhere
      apply invariant.drawn other index row.id ⟨found, got, claimed⟩
      exact ⟨session, here, by simp [drawnId, inboxed]⟩
  exact {
    paired := by
      change (state.outbox ++ [event]).map CategorizedEvent.row = state.results ++ [result]
      rw [map_append, invariant.paired]
      exact congrArg (fun row => state.results ++ [row]) fits.announced
    distinct := append_distinct invariant.distinct fun stored member same =>
      new (mem_map.mpr ⟨stored, member, same⟩)
    processed := by
      change (ownMessages (state.inbox ++ [row] ++ sweptRows state)).Perm
        ((state.results ++ [result]).map ResultRow.messageId)
      rw [own_messages_append, own_messages_append, rowMessages, map_append, append_assoc]
      have before := invariant.processed
      rw [own_messages_append] at before
      have moved : (ownMessages state.inbox ++
          ([result.messageId] ++ ownMessages (sweptRows state))).Perm
            (ownMessages state.inbox ++ (ownMessages (sweptRows state) ++ [result.messageId])) :=
        perm_append_comm.append_left _
      rw [← append_assoc (ownMessages state.inbox) (ownMessages (sweptRows state))] at moved
      exact moved.trans (before.append_right _)
    swept := invariant.swept
    ids := append_distinct invariant.ids fits.fresh
    below := by
      refine forall_snoc invariant.below ?_
      exact fits.below
    fits := by
      intro found member
      obtain ⟨other, got⟩ := mem_iff_getElem?.mp member
      rcases get_set_cases got with ⟨_, rfl⟩ | ⟨elsewhere, before⟩
      · exact fitsNext _
      · exact others other found elsewhere before
    drawn := exclusive_set invariant.drawn fun key claimed => by
      rw [idle.1] at claimed
      cases claimed
    pending := exclusive_set invariant.pending fun key claimed => by
      rw [idle.2] at claimed
      cases claimed
    sweeps := by
      intro sweep member
      apply fits_sweep_append _ (invariant.sweeps sweep member)
      rw [fits.time]
      exact sub_le_iff_le_add.mpr inTime
    deletions := invariant.deletions }

theorem written_inv (invariant : Inv state) (result : Categorized) :
    Inv (state.setSession index (session.at (.written (resultRow session.message result)
      (categorizedEvent session.message result)))) := by
  apply idle_inv invariant
  · exact ⟨rfl, rfl⟩
  · intro _ _ _ phase
    cases phase

theorem failed_inv (invariant : Inv state) : Inv (state.setSession index (session.at .failed)) := by
  apply idle_inv invariant
  · trivial
  · intro _ _ _ phase
    cases phase

theorem advance_inv (invariant : Inv state) (here : state.sessions[index]? = some session)
    (timely : Timely state session) (result : Categorized) :
    Inv (advance state index result session) := by
  unfold advance
  split
  · exact check_inv invariant
  · exact written_inv invariant result
  · next written => exact insert_inbox_inv invariant here written
  · next inboxed =>
    exact commit_inv invariant here timely inboxed (session.at .committed) (fun _ => trivial)
      ⟨rfl, rfl⟩
  · exact invariant
  · exact invariant
  · exact invariant

theorem fail_inv (invariant : Inv state) (here : state.sessions[index]? = some session)
    (timely : Timely state session) (commits : Bool) : Inv (fail state index commits session) := by
  unfold fail
  split
  · exact invariant
  · exact invariant
  · exact invariant
  · next inboxed =>
    split
    · exact commit_inv invariant here timely inboxed (session.at .failed) (fun _ => trivial)
        ⟨rfl, rfl⟩
    · rw [lost_is_failed]
      exact failed_inv invariant
  · exact failed_inv invariant

end Sessions

section Sweeps

variable {state : State} {index : Nat} {sweep : Sweep}

theorem insert_other_inv (invariant : Inv state) (messageId eventType : String) :
    Inv (insertOther state messageId eventType) := by
  unfold insertOther
  split
  · next inRange =>
    split
    · exact invariant
    · let row : InboxRow :=
        { id := state.nextInboxId
          messageId := messageId
          consumerName := correctedQueueName
          eventType := eventType
          processedAt := state.now
          inRange := inRange }
      have foreign : isOwn row = false := by
        change decide (correctedQueueName = queueName) = false
        decide
      have notOwn : ownMessages [row] = [] := by simp [ownMessages, foreign]
      refine { invariant with
        processed := ?_
        ids := ?_
        below := ?_
        fits := ?_
        sweeps := ?_ }
      · change (ownMessages (state.inbox ++ [row] ++ sweptRows state)).Perm _
        rw [own_messages_append, own_messages_append, notOwn, append_nil, ← own_messages_append]
        exact invariant.processed
      · exact append_distinct invariant.ids fun stored member =>
          Nat.ne_of_lt (invariant.below stored member)
      · refine forall_snoc (fun stored old => Nat.lt_succ_of_lt (invariant.below stored old)) ?_
        exact Nat.lt_succ_self _
      · intro session member
        have fits := invariant.fits session member
        apply fits_append _ _ (fun _ stored => stored) (Nat.le_succ _) fits
        · rintro key _ ⟨own, _⟩
          rw [foreign] at own
          cases own
        · rintro drawn claimed rfl
          obtain ⟨_, got⟩ := mem_iff_getElem?.mp member
          exact absurd (drawn_below invariant ⟨session, got, claimed⟩) (Nat.lt_irrefl _)
      · intro sweep member
        apply fits_sweep_append _ (invariant.sweeps sweep member)
        exact Int.sub_le_self _ (by decide)
  · exact invariant

theorem set_sweep_inv (invariant : Inv state) (next : Sweep)
    (fits : FitsSweep state.now state.inbox next) : Inv (state.setSweep index next) :=
  { invariant with
    sweeps := by
      intro found member
      rcases mem_set_cases member with rfl | before
      · exact fits
      · exact invariant.sweeps found before }

theorem delete_inv (invariant : Inv state) (here : state.sweeps[index]? = some sweep)
    {total old : List InboxRow} (approved : sweep.phase = .approved total old) :
    Inv (sweepOn state index sweep) := by
  obtain ⟨early, counted⟩ := invariant.sweeps sweep (mem_of_getElem? here)
  rw [approved] at counted
  obtain ⟨fewer, share⟩ := counted
  have safely : SweptSafely
      { startedAt := sweep.startedAt
        total := total
        removed := state.inbox.filter (isOld sweep.startedAt) } :=
    { old := fun row member => of_decide_eq_true (mem_filter.mp member).2
      share := le_trans (Nat.mul_le_mul_left 10 fewer.length_le) share }
  have isOn : sweepOn state index sweep =
      { state with
        inbox := state.inbox.filter fun row => !isOld sweep.startedAt row
        sweeps := state.sweeps.set index { sweep with phase := .ended }
        deletions := state.deletions ++
          [{ startedAt := sweep.startedAt
             total := total
             removed := state.inbox.filter (isOld sweep.startedAt) }] } := by
    simp only [sweepOn, approved]
  have gone : sweptRows (sweepOn state index sweep) =
      sweptRows state ++ state.inbox.filter (isOld sweep.startedAt) := by
    rw [isOn]
    simp [sweptRows]
  refine
    { paired := ?_, distinct := ?_, processed := ?_, swept := ?_, ids := ?_, below := ?_,
      fits := ?_, drawn := ?_, pending := ?_, sweeps := ?_, deletions := ?_ }
  · rw [isOn]
    exact invariant.paired
  · rw [isOn]
    exact invariant.distinct
  · rw [gone, isOn]
    apply List.Perm.trans _ invariant.processed
    apply List.Perm.map
    apply List.Perm.filter
    have split := filter_append_perm (isOld sweep.startedAt) state.inbox
    calc
      (state.inbox.filter fun row => !isOld sweep.startedAt row) ++
          (sweptRows state ++ state.inbox.filter (isOld sweep.startedAt)) =
        ((state.inbox.filter fun row => !isOld sweep.startedAt row) ++ sweptRows state) ++
          state.inbox.filter (isOld sweep.startedAt) := (append_assoc _ _ _).symm
      List.Perm _ (state.inbox.filter (isOld sweep.startedAt) ++
          ((state.inbox.filter fun row => !isOld sweep.startedAt row) ++ sweptRows state)) :=
        perm_append_comm
      _ = (state.inbox.filter (isOld sweep.startedAt) ++
          state.inbox.filter fun row => !isOld sweep.startedAt row) ++ sweptRows state :=
        (append_assoc _ _ _).symm
      List.Perm _ (state.inbox ++ sweptRows state) := split.append_right _
  · rw [gone, isOn]
    refine forall_mem_append.mpr ⟨invariant.swept, ?_⟩
    intro row removed
    exact lt_of_lt_of_le (safely.old row removed) (Int.sub_le_sub_right early cleanupAge)
  · rw [isOn]
    exact invariant.ids.sublist (filter_sublist.map _)
  · rw [isOn]
    exact fun row member => invariant.below row (mem_of_mem_filter member)
  · rw [isOn]
    exact fun session member => fits_filter _ (invariant.fits session member)
  · rw [isOn]
    exact invariant.drawn
  · rw [isOn]
    exact invariant.pending
  · rw [isOn]
    intro found member
    rcases mem_set_cases member with rfl | before
    · exact ⟨early, trivial⟩
    · exact fits_sweep_filter _ (invariant.sweeps found before)
  · rw [isOn]
    refine forall_snoc invariant.deletions ?_
    exact safely

theorem sweep_inv (invariant : Inv state) (here : state.sweeps[index]? = some sweep) :
    Inv (sweepOn state index sweep) := by
  have fits := invariant.sweeps sweep (mem_of_getElem? here)
  cases phase : sweep.phase with
  | started =>
    simp only [sweepOn, phase]
    apply set_sweep_inv invariant
    exact ⟨fits.1, filter_sublist, inbox_bounded invariant.ids⟩
  | counted =>
    have counted := fits.2
    rw [phase] at counted
    simp only [sweepOn, phase]
    apply set_sweep_inv invariant
    refine ⟨fits.1, ?_⟩
    dsimp only
    split
    · next isCounted => split at isCounted <;> cases isCounted
    · next isApproved =>
      split at isApproved
      · cases isApproved
      · next safe =>
        cases isApproved
        refine ⟨List.Sublist.refl _, ?_⟩
        exact safe_share counted.2 counted.1.length_le (eq_false_of_ne_true safe)
    · trivial
  | approved => exact delete_inv invariant here phase
  | ended =>
    simp only [sweepOn, phase]
    exact invariant

end Sweeps

theorem step_inv (state : State) (label : Label) (timely : NothingAfterCleanup state label)
    (invariant : Inv state) : Inv (step state label) := by
  cases label with
  | wait duration =>
    have later : state.now ≤ state.now + (duration : Int) :=
      Int.le_add_of_nonneg_right (Int.natCast_nonneg duration)
    exact { invariant with
      swept := fun row member => lt_of_lt_of_le (invariant.swept row member)
        (Int.sub_le_sub_right later cleanupAge)
      sweeps := fun sweep member =>
        ⟨le_trans (invariant.sweeps sweep member).1 later, (invariant.sweeps sweep member).2⟩ }
  | deliver =>
    exact { invariant with
      fits := by
        refine forall_snoc invariant.fits ?_
        trivial
      drawn := exclusive_append invariant.drawn rfl
      pending := exclusive_append invariant.pending rfl }
  | advance index result =>
    unfold step
    dsimp only
    split
    · exact invariant
    · next session here => exact advance_inv invariant here (timely session here) result
  | fail index commits =>
    unfold step
    dsimp only
    split
    · exact invariant
    · next session here => exact fail_inv invariant here (timely session here) commits
  | correct messageId eventType => exact insert_other_inv invariant messageId eventType
  | start =>
    exact { invariant with
      sweeps := by
        refine forall_snoc invariant.sweeps ?_
        exact ⟨le_refl _, trivial⟩ }
  | sweep =>
    unfold step
    dsimp only
    split
    · exact invariant
    · next sweep here => exact sweep_inv invariant here
  | failSweep =>
    unfold step
    dsimp only
    split
    · exact invariant
    · next sweep here =>
      apply set_sweep_inv invariant
      exact ⟨(invariant.sweeps sweep (mem_of_getElem? here)).1, trivial⟩

theorem start_inv : Inv {} where
  paired := rfl
  distinct := nodup_nil
  processed := List.Perm.refl _
  swept := fun _ member => absurd member not_mem_nil
  ids := nodup_nil
  below := fun _ member => absurd member not_mem_nil
  fits := fun _ member => absurd member not_mem_nil
  drawn := exclusive_nil
  pending := exclusive_nil
  sweeps := fun _ member => absurd member not_mem_nil
  deletions := fun _ member => absurd member not_mem_nil

theorem results_count (state : State) (messageId : String) : (resultsOf state messageId).length =
      (state.results.map ResultRow.messageId).count messageId := by
  unfold resultsOf
  rw [count_eq_countP, countP_map, countP_eq_length_filter]
  rfl

theorem inbox_count (state : State) (messageId : String) : (inboxRowsOf state messageId).length =
      (ownMessages (state.inbox ++ sweptRows state)).count messageId := by
  unfold inboxRowsOf ownMessages
  rw [count_eq_countP, countP_map, countP_filter, countP_eq_length_filter]
  congr 2
  funext row
  rw [Bool.and_comm]
  rfl

theorem inv_once {state : State} (invariant : Inv state) : OncePerMessage state where
  results := by
    intro messageId
    rw [results_count]
    exact nodup_iff_count_le_one.mp invariant.distinct messageId
  outbox := by
    intro _
    unfold outboxOf resultsOf
    rw [← invariant.paired, filter_map]
    rfl
  inbox := by
    intro messageId
    rw [results_count, inbox_count]
    exact invariant.processed.count_eq messageId
  skipped := by
    intro session member skipped
    have fits := invariant.fits session member
    unfold Fits at fits
    rw [skipped] at fits
    rw [results_count]
    exact count_eq_one_of_mem invariant.distinct fits
  sweeps := invariant.deletions

/-- In every run each message has at most one audit row, with one outbox row and one
committed inbox row, and a delivery is skipped only when it has them. -/
theorem categorized_once (labels : List Label)
    (timely : AllSteps step NothingAfterCleanup {} labels) : OncePerMessage (consumerRun labels) := by
  apply inv_once
  exact allowed_run_keeps step step_inv start_inv labels timely

def exampleMessage (correlationId : String) (identified : correlationId ≠ "") :
    TransactionCreated where
  correlationId := correlationId
  transactionId := 42
  userId := some 7
  description := "Netto Nordhavn"
  amount := "150.00"
  transactionType := "expense"
  identified := identified

def groceries : Categorized where
  categoryId := 1
  subcategoryId := 1
  tier := "rule"
  confidence := "high"

/-- Two deliveries of a message race; a month later another is handled and the inbox swept. -/
theorem race_categorized_once : OncePerMessage (consumerRun
      [.deliver (exampleMessage "m" (by decide)), .deliver (exampleMessage "m" (by decide)),
        .advance 0 groceries, .advance 1 groceries, .advance 0 groceries, .advance 1 groceries,
        .advance 0 groceries, .advance 1 groceries, .advance 0 groceries, .advance 1 groceries,
        .wait 2678400000000, .deliver (exampleMessage "n" (by decide)), .advance 2 groceries,
        .advance 2 groceries, .advance 2 groceries, .advance 2 groceries, .start, .sweep 0,
        .sweep 0, .sweep 0]) :=
  categorized_once _ (by decide +kernel)

end FinanceTracker.Categorization.CategorizedOnce
