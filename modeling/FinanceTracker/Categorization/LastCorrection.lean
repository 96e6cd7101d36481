import FinanceTracker.Categorization.LearnedRules

/-!
# The last correction

Whether the learned rule of a user and a pattern targets the subcategory of the newest
correction once the queue is drained. The upsert carries no time of its own, so it
does in runs in which the newest correction is not overtaken: no older one writes the
rule after it, it is not dead-lettered, and no column that it leaves as it is has been
changed since it was read.
-/

namespace FinanceTracker.Categorization.LastCorrection

open Library Columns KeyedRows Runs LearnedRules List

/-- The corrections of one user whose descriptions have one pattern that is not empty,
with subcategories that exist. -/
structure Concerns (tables : CharTables) (userId : ℤ) (pattern : String)
    (subcategories : List ℤ) (event : CategoryCorrected) : Prop where
  identified : event.correlationId ≠ ""
  owned : event.userId = some userId
  user : userId ≠ 0
  described : normalizeMerchantPattern tables (event.description.getD "") = pattern
  learnable : pattern ≠ ""
  taught : ∃ subcategoryId, event.subcategoryId = some subcategoryId ∧ subcategoryId ≠ 0 ∧
    subcategoryId ∈ subcategories

def learnedKey (userId : ℤ) (pattern : String) : RuleKey where
  userId := some userId
  patternType := .merchant
  patternValue := pattern

def Drained (state : State) : Prop :=
  state.queue = [] ∧ ∀ phase ∈ state.workers, phase = .idle

instance (state : State) : Decidable (Drained state) := inferInstanceAs (Decidable (_ ∧ _))

/-- The only rule for the pattern is active and targets the newest correction. -/
def LastWins (userId : ℤ) (pattern : String) (state : State) : Prop :=
  ∀ newest, state.published.getLast? = some newest →
    ∃ rule, state.rules.rows.filter (fun rule => rule.key = learnedKey userId pattern) = [rule] ∧
      rule.active = true ∧ newest.subcategoryId = some rule.matchesSubcategoryId

def Handled (state : State) (event : CategoryCorrected) : Prop :=
  event.correlationId ∈ state.inbox

instance (state : State) (event : CategoryCorrected) : Decidable (Handled state event) :=
  inferInstanceAs (Decidable (_ ∈ _))

/-- The upsert of an older correction changes no column of the rule. -/
def LeavesRule : Option Upsert → Prop
  | some { lesson := lesson, existing := some loaded } =>
    loaded.matchesSubcategoryId = lesson.subcategoryId ∧ loaded.active = true
  | _ => True

def LeavesRight (rules : RuleTable) : Option Upsert → Prop
  | some { lesson := lesson, existing := some loaded } =>
    ∀ stored ∈ rules.rows, stored.id = loaded.id →
      (loaded.matchesSubcategoryId = lesson.subcategoryId →
        stored.matchesSubcategoryId = lesson.subcategoryId) ∧
      (loaded.active = true → stored.active = true)
  | _ => True

/-- A failure of the delivery does not dead-letter the newest correction. -/
def FailInOrder (state : State) (message : Message) : Prop :=
  state.published.getLast? = some message.event → Handled state message.event ∨
    message.retryCount < maxRetries

/-- The newest correction is written as a whole or published again, and an older one does
not write after it. -/
def CommitInOrder (state : State) (message : Message) (upsert : Option Upsert) : Prop :=
  match state.published.getLast? with
  | none => True
  | some newest =>
    (message.event = newest → Handled state newest ∨
      ((flush state.rules upsert).isSome ∨ message.retryCount < maxRetries) ∧
        LeavesRight state.rules upsert) ∧
    (message.event ≠ newest → Handled state newest → LeavesRule upsert)

def PhaseInOrder (state : State) : Phase → Prop
  | .decided message upsert => CommitInOrder state message upsert
  | _ => True

def InOrder (state : State) : Label → Prop
  | .advance worker => ∀ phase ∈ state.workers[worker]?, PhaseInOrder state phase
  | .fail worker _ =>
    ∀ message ∈ (state.workers[worker]?).bind Phase.message, FailInOrder state message
  | _ => True

instance decidableLeavesRule : ∀ upsert, Decidable (LeavesRule upsert)
  | none => isTrue trivial
  | some { lesson := _, existing := none } => isTrue trivial
  | some { lesson := _, existing := some _ } => inferInstanceAs (Decidable (_ ∧ _))

instance decidableLeavesRight (rules : RuleTable) : ∀ upsert, Decidable (LeavesRight rules upsert)
  | none => isTrue trivial
  | some { lesson := _, existing := none } => isTrue trivial
  | some { lesson := _, existing := some _ } => inferInstanceAs (Decidable (∀ _ ∈ rules.rows, _))

instance (state : State) (message : Message) : Decidable (FailInOrder state message) :=
  inferInstanceAs (Decidable (_ → _))

instance (state : State) (message : Message) (upsert : Option Upsert) :
    Decidable (CommitInOrder state message upsert) :=
  match last : state.published.getLast? with
  | none => isTrue (by unfold CommitInOrder; rw [last]; trivial)
  | some newest =>
    decidable_of_iff ((message.event = newest → Handled state newest ∨
      ((flush state.rules upsert).isSome ∨ message.retryCount < maxRetries) ∧
        LeavesRight state.rules upsert) ∧
    (message.event ≠ newest → Handled state newest → LeavesRule upsert))
      (by unfold CommitInOrder; rw [last])

instance decidablePhaseInOrder (state : State) : ∀ phase, Decidable (PhaseInOrder state phase)
  | .decided message upsert => inferInstanceAs (Decidable (CommitInOrder state message upsert))
  | .idle => isTrue trivial
  | .received _ => isTrue trivial
  | .unprocessed _ => isTrue trivial
  | .targeted _ _ => isTrue trivial
  | .returned _ => isTrue trivial

instance decidableInOrder (state : State) : ∀ label, Decidable (InOrder state label)
  | .advance _ => inferInstanceAs (Decidable (∀ phase ∈ _, PhaseInOrder state phase))
  | .fail _ _ => inferInstanceAs (Decidable (∀ message ∈ _, FailInOrder state message))
  | .publish _ => isTrue trivial
  | .publishAgain _ => isTrue trivial
  | .take _ => isTrue trivial
  | .crash _ _ => isTrue trivial

/-- What an instance still has to settle. -/
def pendingMessage : Phase → Option Message
  | .returned _ => none
  | phase => phase.message

def Pending (state : State) (event : CategoryCorrected) : Prop :=
  (∃ message ∈ state.queue, message.event = event) ∨
    ∃ phase ∈ state.workers, ∃ message, pendingMessage phase = some message ∧ message.event = event

/-- The rule has what the correction says. -/
def Targets (key : RuleKey) (rules : RuleTable) (event : CategoryCorrected) : Prop :=
  ∃ rule ∈ rules.rows, rule.key = key ∧ rule.active = true ∧
    event.subcategoryId = some rule.matchesSubcategoryId

/-- What an instance knows is so. -/
def PhaseSound (tables : CharTables) (key : RuleKey) (state : State) : Phase → Prop
  | .targeted message lesson => lessonOf tables message.event = some lesson
  | .decided message upsert =>
    ∃ lesson existing, upsert = some { lesson := lesson, existing := existing } ∧
      lessonOf tables message.event = some lesson ∧
      ∀ loaded, existing = some loaded →
        ∃ stored ∈ state.rules.rows, stored.id = loaded.id ∧ stored.key = key
  | .returned message => Handled state message.event
  | _ => True

structure Inv (tables : CharTables) (userId : ℤ) (pattern : String) (state : State) : Prop where
  concerns : ∀ event ∈ state.published, Concerns tables userId pattern state.subcategories event
  identities : ∀ first ∈ state.published, ∀ second ∈ state.published,
    first.correlationId = second.correlationId → first = second
  processed : ∀ correlationId ∈ state.inbox, ∃ event ∈ state.published,
    event.correlationId = correlationId
  queued : ∀ message ∈ state.queue, message.event ∈ state.published
  held : ∀ phase ∈ state.workers, ∀ message, phase.message = some message →
    message.event ∈ state.published
  sound : ∀ phase ∈ state.workers, PhaseSound tables (learnedKey userId pattern) state phase
  pending : ∀ newest, state.published.getLast? = some newest → ¬ Handled state newest →
    Pending state newest
  targets : ∀ newest, state.published.getLast? = some newest → Handled state newest →
    Targets (learnedKey userId pattern) state.rules newest

section Rules

variable {rules written : RuleTable} {lesson : Lesson} {loaded : CategorizationRule}

theorem create_rows (created : rules.create lesson = some written) :
    written.rows = rules.rows ++ [lesson.rule rules.nextId] ∧
      ∀ rule ∈ rules.rows, rule.key ≠ lesson.key := by
  unfold RuleTable.create at created
  split at created
  · contradiction
  · next free =>
    rw [← Option.some.inj created]
    exact ⟨rfl, fun rule member same => free ⟨rule, member, same⟩⟩

theorem update_rows (updated : rules.update loaded lesson = some written) :
    written.rows = replace CategorizationRule.id rules.rows loaded.id
      (retargeted loaded lesson) := by
  unfold RuleTable.update at updated
  split at updated
  · rw [← Option.some.inj updated]
  · contradiction

theorem flush_keeps_row {upsert : Option Upsert} (flushed : flush rules upsert = some written)
    {stored : CategorizationRule} (member : stored ∈ rules.rows) :
    ∃ kept ∈ written.rows, kept.id = stored.id ∧ kept.key = stored.key := by
  unfold flush at flushed
  split at flushed
  · rw [← Option.some.inj flushed]
    exact ⟨stored, member, rfl, rfl⟩
  · next upsert =>
    split at flushed
    · rw [(create_rows flushed).1]
      exact ⟨stored, mem_append_left _ member, rfl, rfl⟩
    · next loaded _ =>
      rw [update_rows flushed]
      by_cases same : stored.id = loaded.id
      · exact ⟨retargeted loaded upsert.lesson stored,
          mem_replace.mpr (Or.inr ⟨stored, member, same, rfl⟩), rfl, rfl⟩
      · exact ⟨stored, mem_replace.mpr (Or.inl ⟨member, same⟩), rfl, rfl⟩

theorem targets_of_leaves {key : RuleKey} {upsert : Option Upsert} {event : CategoryCorrected}
    (targets : Targets key rules event) (leaves : LeavesRule upsert)
    (flushed : flush rules upsert = some written) : Targets key written event := by
  obtain ⟨rule, member, isKey, active, targeted⟩ := targets
  unfold flush at flushed
  split at flushed
  · rw [← Option.some.inj flushed]
    exact ⟨rule, member, isKey, active, targeted⟩
  · next upsert =>
    split at flushed
    · refine ⟨rule, ?_, isKey, active, targeted⟩
      rw [(create_rows flushed).1]
      exact mem_append_left _ member
    · next loaded isLoaded =>
      have unchanged : retargeted loaded upsert.lesson rule = rule := by
        obtain ⟨_, _⟩ := upsert
        cases isLoaded
        obtain ⟨sameTarget, isActive⟩ := leaves
        unfold retargeted
        dsimp only
        rw [← sameTarget, ← isActive, write_column_unchanged, write_column_unchanged]
      have kept : rule ∈ written.rows := by
        rw [update_rows flushed]
        by_cases same : rule.id = loaded.id
        · exact mem_replace.mpr (Or.inr ⟨rule, member, same, unchanged.symm⟩)
        · exact mem_replace.mpr (Or.inl ⟨member, same⟩)
      exact ⟨rule, kept, isKey, active, targeted⟩

theorem targets_of_upsert {key : RuleKey} {upsert : Upsert} {event : CategoryCorrected}
    (isKey : upsert.lesson.key = key)
    (taught : event.subcategoryId = some upsert.lesson.subcategoryId)
    (found : ∀ loaded, upsert.existing = some loaded →
      ∃ stored ∈ rules.rows, stored.id = loaded.id ∧ stored.key = key)
    (right : LeavesRight rules (some upsert))
    (flushed : flush rules (some upsert) = some written) : Targets key written event := by
  obtain ⟨lesson, existing⟩ := upsert
  cases existing with
  | none =>
    have rows := (create_rows flushed).1
    refine ⟨lesson.rule rules.nextId, ?_, isKey, rfl, taught⟩
    rw [rows]
    exact mem_append_right _ (mem_singleton_self _)
  | some loaded =>
    obtain ⟨stored, member, sameId, storedKey⟩ := found loaded rfl
    obtain ⟨rightTarget, rightActive⟩ := right stored member sameId
    refine ⟨retargeted loaded lesson stored, ?_, storedKey, ?_, ?_⟩
    · rw [update_rows flushed]
      exact mem_replace.mpr (Or.inr ⟨stored, member, sameId, rfl⟩)
    · unfold retargeted writeColumn
      dsimp only
      split
      · next unchanged => exact rightActive unchanged.symm
      · rfl
    · rw [taught]
      unfold retargeted writeColumn
      dsimp only
      split
      · next unchanged => rw [rightTarget unchanged.symm]
      · rfl

end Rules

theorem lesson_of_concerns {tables : CharTables} {userId : ℤ} {pattern : String}
    {subcategories : List ℤ} {event : CategoryCorrected}
    (concerns : Concerns tables userId pattern subcategories event) :
    ∃ lesson, lessonOf tables event = some lesson ∧ lesson.key = learnedKey userId pattern ∧
      event.subcategoryId = some lesson.subcategoryId ∧
      lesson.subcategoryId ∈ subcategories := by
  obtain ⟨subcategoryId, isSubcategory, nonzero, known⟩ := concerns.taught
  refine ⟨{ userId := userId, pattern := pattern, subcategoryId := subcategoryId }, ?_, rfl,
    isSubcategory, known⟩
  unfold lessonOf
  rw [concerns.owned, isSubcategory, concerns.described]
  dsimp only
  rw [if_neg]
  rintro (isZero | isEmpty | isZero)
  · exact concerns.user isZero
  · exact concerns.learnable isEmpty
  · exact nonzero isZero

section Steps

variable {tables : CharTables} {userId : ℤ} {pattern : String} {state next : State}
  {worker : ℕ} {old phase : Phase}

/-- Every row is still there, with its id and key. -/
def RowsKept (rules later : RuleTable) : Prop :=
  ∀ stored ∈ rules.rows, ∃ kept ∈ later.rows, kept.id = stored.id ∧ kept.key = stored.key

theorem rows_kept_self (rules : RuleTable) : RowsKept rules rules :=
  fun stored member => ⟨stored, member, rfl, rfl⟩

theorem sound_later {key : RuleKey} (kept : RowsKept state.rules next.rules)
    (grown : ∀ correlationId ∈ state.inbox, correlationId ∈ next.inbox)
    (sound : PhaseSound tables key state phase) : PhaseSound tables key next phase := by
  cases phase with
  | decided =>
    obtain ⟨lesson, existing, isUpsert, isLesson, found⟩ := sound
    refine ⟨lesson, existing, isUpsert, isLesson, fun loaded isLoaded => ?_⟩
    obtain ⟨stored, member, sameId, isKey⟩ := found loaded isLoaded
    obtain ⟨later, laterMember, laterId, laterKey⟩ := kept stored member
    exact ⟨later, laterMember, laterId.trans sameId, laterKey.trans isKey⟩
  | returned => exact grown _ sound
  | _ => exact sound

theorem mem_of_set {phases : List Phase} {other : Phase}
    (member : other ∈ phases.set worker phase) : other = phase ∨ other ∈ phases := by
  rcases mem_or_eq_of_mem_set member with kept | new
  · exact Or.inr kept
  · exact Or.inl new

/-- What one instance does keeps the invariant if it keeps these facts about itself. -/
theorem worker_inv (inv : Inv tables userId pattern state)
    (samePublished : next.published = state.published)
    (sameSubcategories : next.subcategories = state.subcategories)
    (moved : next.workers = state.workers.set worker phase)
    (kept : RowsKept state.rules next.rules)
    (grown : ∀ correlationId ∈ state.inbox, correlationId ∈ next.inbox)
    (processed : ∀ correlationId ∈ next.inbox, ∃ event ∈ state.published,
      event.correlationId = correlationId)
    (queued : ∀ message ∈ next.queue, message.event ∈ state.published)
    (held : ∀ message, phase.message = some message → message.event ∈ state.published)
    (sound : PhaseSound tables (learnedKey userId pattern) next phase)
    (pending : ∀ newest, state.published.getLast? = some newest → ¬ Handled next newest →
      Pending next newest)
    (targets : ∀ newest, state.published.getLast? = some newest → Handled next newest →
      Targets (learnedKey userId pattern) next.rules newest) :
    Inv tables userId pattern next where
  concerns := by
    rw [samePublished, sameSubcategories]
    exact inv.concerns
  identities := by
    rw [samePublished]
    exact inv.identities
  processed := by
    rw [samePublished]
    exact processed
  queued := by
    rw [samePublished]
    exact queued
  held := by
    rw [samePublished, moved]
    intro other member message isMessage
    rcases mem_of_set member with rfl | before
    · exact held message isMessage
    · exact inv.held other before message isMessage
  sound := by
    rw [moved]
    intro other member
    rcases mem_of_set member with rfl | before
    · exact sound
    · exact sound_later kept grown (inv.sound other before)
  pending := by
    rw [samePublished]
    exact pending
  targets := by
    rw [samePublished]
    exact targets

variable {event : CategoryCorrected} {message : Message} {queue : List Message}

/-- What another instance holds stays pending; what this one held must be seen to. -/
theorem held_moved (isOld : state.workers[worker]? = some old)
    (moved : next.workers = state.workers.set worker phase)
    (own : ∀ message, pendingMessage old = some message → message.event = event →
      Pending next event) {other : Phase} (member : other ∈ state.workers)
    (isPending : pendingMessage other = some message) (isEvent : message.event = event) :
    Pending next event := by
  obtain ⟨index, isOther⟩ := mem_iff_getElem?.mp member
  by_cases here : index = worker
  · rw [here, isOld] at isOther
    rw [← Option.some.inj isOther] at isPending
    exact own message isPending isEvent
  · refine Or.inr ⟨other, ?_, message, isPending, isEvent⟩
    rw [moved, mem_iff_getElem?]
    exact ⟨index, by rw [List.getElem?_set_ne (Ne.symm here), isOther]⟩

theorem pending_moved (isOld : state.workers[worker]? = some old)
    (moved : next.workers = state.workers.set worker phase)
    (kept : ∀ message ∈ state.queue, message ∈ next.queue)
    (own : ∀ message, pendingMessage old = some message → message.event = event →
      Pending next event) (pending : Pending state event) : Pending next event := by
  rcases pending with ⟨message, member, isEvent⟩ | ⟨other, member, message, isPending, isEvent⟩
  · exact Or.inl ⟨message, kept message member, isEvent⟩
  · exact held_moved isOld moved own member isPending isEvent

theorem pending_here (isOld : state.workers[worker]? = some old)
    (moved : next.workers = state.workers.set worker phase)
    (isPending : pendingMessage phase = some message) (isEvent : message.event = event) :
    Pending next event := by
  have inRange : worker < state.workers.length := (List.getElem?_eq_some_iff.mp isOld).1
  refine Or.inr ⟨phase, ?_, message, isPending, isEvent⟩
  rw [moved]
  exact mem_set inRange phase

theorem old_member (isOld : state.workers[worker]? = some old) : old ∈ state.workers :=
  mem_of_getElem? isOld

theorem pending_is_message (isPending : pendingMessage phase = some message) :
    phase.message = some message := by
  cases phase with
  | returned => cases isPending
  | _ => exact isPending

/-- A statement that only reads moves the instance on with its message. -/
theorem set_worker_inv (inv : Inv tables userId pattern state)
    (isOld : state.workers[worker]? = some old) (isMessage : old.message = some message)
    (keeps : phase.message = some message)
    (sound : PhaseSound tables (learnedKey userId pattern) state phase) :
    Inv tables userId pattern (state.setWorker worker phase) := by
  have member := inv.held old (old_member isOld) message isMessage
  refine worker_inv inv rfl rfl rfl (rows_kept_self _) (fun _ known => known)
    inv.processed inv.queued ?_ (sound_later (rows_kept_self _) (fun _ known => known) sound) ?_
    inv.targets
  · intro _ isOther
    cases keeps.symm.trans isOther
    exact member
  · intro newest isNewest unhandled
    refine pending_moved isOld rfl (fun _ queued => queued) ?_ (inv.pending newest isNewest unhandled)
    intro _ isPending isEvent
    cases isMessage.symm.trans (pending_is_message isPending)
    cases phase with
    | returned =>
      cases keeps
      rw [← isEvent] at unhandled
      exact absurd sound unhandled
    | idle => cases keeps
    | _ => exact pending_here isOld rfl keeps isEvent

theorem mem_put_back {other : Message} {returnedTo : Option ℕ}
    (member : other ∈ putBack queue message returnedTo) : other = message ∨ other ∈ queue := by
  cases returnedTo with
  | some => exact eq_or_mem_of_mem_insertIdx member
  | none => exact Or.inr member

theorem put_back_keeps (message : Message) (returnedTo : Option ℕ) :
    ∀ other ∈ queue, other ∈ putBack queue message returnedTo := by
  intro _ member
  cases returnedTo with
  | some => exact (mem_insertIdx (Nat.min_le_right _ _)).mpr (Or.inr member)
  | none => exact member

theorem mem_requeued {other : Message} {returnedTo : Option ℕ}
    (member : other ∈ requeued queue message returnedTo) :
    other.event = message.event ∨ other ∈ queue := by
  have returned (isReturned : other ∈ putBack queue message returnedTo) :
      other.event = message.event ∨ other ∈ queue :=
    (mem_put_back isReturned).imp_left fun same => by rw [same]
  unfold requeued at member
  split at member
  · rcases mem_snoc.mp member with before | rfl
    · exact returned before
    · exact Or.inl rfl
  · exact returned member

theorem requeued_keeps (message : Message) (returnedTo : Option ℕ) :
    ∀ other ∈ queue, other ∈ requeued queue message returnedTo := by
  intro other member
  have returned := put_back_keeps message returnedTo other member
  unfold requeued
  split
  · exact mem_append_left _ returned
  · exact returned

/-- An instance that gives its message up, to a queue that holds what it held and nothing
new, keeps the invariant if the newest correction is not lost with it. -/
theorem release_inv (inv : Inv tables userId pattern state)
    (isOld : state.workers[worker]? = some old) (isMessage : old.message = some message)
    {queue : List Message} (keeps : ∀ other ∈ state.queue, other ∈ queue)
    (nothingNew : ∀ other ∈ queue, other.event = message.event ∨ other ∈ state.queue)
    (returned : state.published.getLast? = some message.event → ¬ Handled state message.event →
      ∃ other ∈ queue, other.event = message.event) :
    Inv tables userId pattern
      { state with queue := queue, workers := state.workers.set worker .idle } := by
  have queued : ∀ other ∈ queue, other.event ∈ state.published := by
    intro other isQueued
    rcases nothingNew other isQueued with same | before
    · rw [same]
      exact inv.held old (old_member isOld) message isMessage
    · exact inv.queued other before
  refine worker_inv inv rfl rfl rfl (rows_kept_self _) (fun _ known => known) inv.processed queued
    (fun _ isOther => (by cases isOther)) trivial ?_ inv.targets
  intro newest isNewest unhandled
  refine pending_moved isOld rfl keeps ?_ (inv.pending newest isNewest unhandled)
  intro _ isPending isEvent
  cases isMessage.symm.trans (pending_is_message isPending)
  rw [← isEvent] at isNewest unhandled ⊢
  exact Or.inl (returned isNewest unhandled)

theorem fail_inv (inv : Inv tables userId pattern state) (isOld : state.workers[worker]? = some old)
    (isMessage : old.message = some message) (returnedTo : Option ℕ)
    (inOrder : FailInOrder state message) :
    Inv tables userId pattern (state.fail worker message returnedTo) := by
  refine release_inv inv isOld isMessage (requeued_keeps message returnedTo)
    (fun _ isRequeued => mem_requeued isRequeued) ?_
  intro isNewest unhandled
  rcases inOrder isNewest with handled | below
  · exact absurd handled unhandled
  · refine ⟨{ message with retryCount := message.retryCount + 1 }, ?_, rfl⟩
    unfold requeued
    rw [if_pos below]
    exact mem_append_right _ (mem_singleton_self _)

theorem crash_inv (inv : Inv tables userId pattern state)
    (isOld : state.workers[worker]? = some old) (isMessage : old.message = some message)
    (returnedTo : ℕ) :
    Inv tables userId pattern { state with
      queue := putBack state.queue message (some returnedTo)
      workers := state.workers.set worker .idle } := by
  refine release_inv inv isOld isMessage (put_back_keeps message (some returnedTo)) ?_ ?_
  · intro _ isReturned
    exact (mem_put_back isReturned).imp_left (congrArg Message.event)
  · intro _ _
    exact ⟨message, (mem_insertIdx (Nat.min_le_right _ _)).mpr (Or.inl rfl), rfl⟩

theorem take_inv (inv : Inv tables userId pattern state)
    (isIdle : state.workers[worker]? = some .idle) {rest : List Message}
    (isQueue : state.queue = message :: rest) :
    Inv tables userId pattern { state with
      queue := rest
      workers := state.workers.set worker (.received message) } := by
  have head : message ∈ state.queue := by
    rw [isQueue]
    exact mem_cons_self
  have tail : ∀ other ∈ rest, other ∈ state.queue := by
    intro _ member
    rw [isQueue]
    exact mem_cons_of_mem _ member
  refine worker_inv inv rfl rfl rfl (rows_kept_self _) (fun _ known => known) inv.processed
    (fun other member => inv.queued other (tail other member)) ?_ trivial ?_ inv.targets
  · intro _ isOther
    cases isOther
    exact inv.queued message head
  · intro newest isNewest unhandled
    rcases inv.pending newest isNewest unhandled with
      ⟨other, member, isEvent⟩ | ⟨other, member, held, isPending, isEvent⟩
    · rw [isQueue] at member
      rcases mem_cons.mp member with rfl | queued
      · exact pending_here isIdle rfl rfl isEvent
      · exact Or.inl ⟨other, queued, isEvent⟩
    · exact held_moved isIdle rfl (fun _ isOwn => (by cases isOwn)) member isPending isEvent

theorem duplicate_iff (identified : event.correlationId ≠ "") :
    isDuplicate state event = true ↔ Handled state event := by
  unfold isDuplicate Handled
  simp [identified]

theorem commit_inv (inv : Inv tables userId pattern state) {upsert : Option Upsert}
    (isOld : state.workers[worker]? = some (.decided message upsert))
    (inOrder : CommitInOrder state message upsert) :
    Inv tables userId pattern (commit state worker message upsert) := by
  have member := inv.held _ (old_member isOld) message rfl
  have identified := (inv.concerns message.event member).identified
  have sound := inv.sound _ (old_member isOld)
  unfold commit
  cases flushed : flush state.rules upsert with
  | none =>
    refine fail_inv inv isOld rfl none fun isNewest => ?_
    unfold CommitInOrder at inOrder
    rw [isNewest, flushed] at inOrder
    rcases inOrder.1 rfl with handled | ⟨written | below, _⟩
    · exact Or.inl handled
    · cases written
    · exact Or.inr below
  | some =>
    dsimp only
    by_cases duplicate : isDuplicate state message.event = true
    · rw [if_pos duplicate]
      exact set_worker_inv inv isOld rfl rfl ((duplicate_iff identified).mp duplicate)
    · rw [if_neg duplicate, if_neg identified]
      have fresh : ¬ Handled state message.event := fun handled =>
        duplicate ((duplicate_iff identified).mpr handled)
      have now : message.event.correlationId ∈
          state.inbox ++ [message.event.correlationId] :=
        mem_append_right _ (mem_singleton_self _)
      refine worker_inv inv rfl rfl rfl (fun _ stored => flush_keeps_row flushed stored)
        (fun _ known => mem_append_left _ known) ?_ inv.queued ?_ now ?_ ?_
      · intro correlationId isProcessed
        rcases mem_snoc.mp isProcessed with before | new
        · exact inv.processed correlationId before
        · exact ⟨message.event, member, new.symm⟩
      · intro _ isOther
        cases isOther
        exact member
      · intro newest isNewest unhandled
        have before : ¬ Handled state newest := fun handled =>
          unhandled (mem_append_left _ handled)
        refine pending_moved isOld rfl (fun _ queued => queued) ?_
          (inv.pending newest isNewest before)
        intro _ isPending isEvent
        cases isPending
        rw [← isEvent] at unhandled
        exact absurd now unhandled
      · intro newest isNewest handled
        unfold CommitInOrder at inOrder
        rw [isNewest] at inOrder
        obtain ⟨_, _, rfl, isLesson, found⟩ := sound
        obtain ⟨_, isTaught, isKey, taught, _⟩ :=
          lesson_of_concerns (inv.concerns message.event member)
        cases isLesson.symm.trans isTaught
        by_cases same : message.event = newest
        · rw [same] at fresh taught
          rcases inOrder.1 same with earlier | ⟨_, right⟩
          · exact absurd earlier fresh
          · exact targets_of_upsert isKey taught found right flushed
        · have before : Handled state newest := by
            rcases mem_snoc.mp handled with before | new
            · exact before
            · exact absurd (inv.identities message.event member newest
                (mem_of_getLast? isNewest) new.symm) same
          exact targets_of_leaves (inv.targets newest isNewest before) (inOrder.2 same before) flushed

theorem advance_inv (inv : Inv tables userId pattern state)
    (isOld : state.workers[worker]? = some old)
    (inOrder : PhaseInOrder state old) :
    Inv tables userId pattern (advance tables state worker old) := by
  cases old with
  | idle => exact inv
  | received message =>
    have member := inv.held _ (old_member isOld) message rfl
    have identified := (inv.concerns message.event member).identified
    unfold advance
    dsimp only
    split
    · next duplicate =>
      exact set_worker_inv inv isOld rfl rfl ((duplicate_iff identified).mp duplicate)
    · exact set_worker_inv inv isOld rfl rfl trivial
  | unprocessed message =>
    have member := inv.held _ (old_member isOld) message rfl
    obtain ⟨_, isLesson, _, _, known⟩ :=
      lesson_of_concerns (inv.concerns message.event member)
    unfold advance
    dsimp only
    rw [isLesson]
    dsimp only
    rw [if_pos known]
    exact set_worker_inv inv isOld rfl rfl isLesson
  | targeted message lesson =>
    have isLesson := inv.sound _ (old_member isOld)
    have member := inv.held _ (old_member isOld) message rfl
    obtain ⟨_, isTaught, isKey, _⟩ := lesson_of_concerns (inv.concerns message.event member)
    cases isTaught.symm.trans isLesson
    refine set_worker_inv inv isOld rfl rfl ⟨lesson, _, rfl, isLesson, fun loaded found => ?_⟩
    refine ⟨loaded, mem_of_find?_eq_some found, rfl, ?_⟩
    rw [← isKey]
    simpa using List.find?_some found
  | decided => exact commit_inv inv isOld inOrder
  | returned =>
    refine worker_inv inv rfl rfl rfl (rows_kept_self _) (fun _ known => known) inv.processed
      inv.queued (fun _ isOther => (by cases isOther)) trivial ?_ inv.targets
    intro newest isNewest unhandled
    exact pending_moved isOld rfl (fun _ queued => queued) (fun _ isPending => (by cases isPending))
      (inv.pending newest isNewest unhandled)

theorem publish_inv (inv : Inv tables userId pattern state)
    (concerns : Concerns tables userId pattern state.subcategories event) :
    Inv tables userId pattern (publish state event) := by
  unfold publish
  split
  · exact inv
  · next fresh =>
    have unknown : ∀ earlier ∈ state.published, earlier.correlationId ≠ event.correlationId := by
      simpa using fresh
    have last : (state.published ++ [event]).getLast? = some event := List.getLast?_concat
    refine ⟨?_, ?_, ?_, ?_, ?_, inv.sound, ?_, ?_⟩
    · refine forall_snoc inv.concerns ?_
      exact concerns
    · intro first firstMember second secondMember same
      rcases mem_append.mp firstMember with before | new <;>
        rcases mem_append.mp secondMember with alsoBefore | alsoNew
      · exact inv.identities first before second alsoBefore same
      · rw [mem_singleton.mp alsoNew] at same
        exact absurd same (unknown first before)
      · rw [mem_singleton.mp new] at same
        exact absurd same.symm (unknown second alsoBefore)
      · rw [mem_singleton.mp new, mem_singleton.mp alsoNew]
    · intro correlationId isProcessed
      obtain ⟨other, member, isOther⟩ := inv.processed correlationId isProcessed
      exact ⟨other, mem_append_left _ member, isOther⟩
    · refine forall_snoc (fun message before => mem_append_left _ (inv.queued message before)) ?_
      exact mem_append_right _ (mem_singleton_self _)
    · intro phase member message isMessage
      exact mem_append_left _ (inv.held phase member message isMessage)
    · intro _ isNewest _
      cases last.symm.trans isNewest
      exact Or.inl ⟨{ event := event }, mem_append_right _ (mem_singleton_self _), rfl⟩
    · intro _ isNewest handled
      cases last.symm.trans isNewest
      obtain ⟨other, member, isOther⟩ := inv.processed event.correlationId handled
      exact absurd isOther (unknown other member)

theorem publish_again_inv (inv : Inv tables userId pattern state) (member : event ∈ state.published) :
    Inv tables userId pattern { state with queue := state.queue ++ [{ event := event }] } := by
  refine ⟨inv.concerns, inv.identities, inv.processed, ?_, inv.held, inv.sound, ?_, inv.targets⟩
  · refine forall_snoc inv.queued ?_
    exact member
  · intro newest isNewest unhandled
    rcases inv.pending newest isNewest unhandled with ⟨message, queued, isEvent⟩ | elsewhere
    · exact Or.inl ⟨message, mem_append_left _ queued, isEvent⟩
    · exact Or.inr elsewhere

end Steps

def start (rules : RuleTable) (subcategories : List ℤ) (instances : ℕ) : State where
  rules := rules
  subcategories := subcategories
  workers := List.replicate instances .idle

def PublishesAbout (tables : CharTables) (userId : ℤ) (pattern : String)
    (subcategories : List ℤ) : Label → Prop
  | .publish event => Concerns tables userId pattern subcategories event
  | _ => True

theorem step_inv {tables : CharTables} {userId : ℤ} {pattern : String} {state : State}
    {label : Label} (inv : Inv tables userId pattern state)
    (about : PublishesAbout tables userId pattern state.subcategories label)
    (inOrder : InOrder state label) : Inv tables userId pattern (step tables state label) := by
  cases label with
  | publish => exact publish_inv inv about
  | publishAgain =>
    unfold step
    dsimp only
    split
    · next event isEvent => exact publish_again_inv inv (mem_of_getElem? isEvent)
    · exact inv
  | take =>
    unfold step
    dsimp only
    split
    · next message rest isIdle isQueue => exact take_inv inv isIdle isQueue
    · exact inv
  | advance =>
    unfold step
    dsimp only
    split
    · next phase isOld => exact advance_inv inv isOld (inOrder phase isOld)
    · exact inv
  | fail worker returnedTo =>
    unfold step
    dsimp only
    split
    · next message isHeld =>
      obtain ⟨_, isOld, isMessage⟩ := Option.bind_eq_some_iff.mp isHeld
      exact fail_inv inv isOld isMessage returnedTo (inOrder message isHeld)
    · exact inv
  | crash worker returnedTo =>
    unfold step
    dsimp only
    split
    · next message isHeld =>
      obtain ⟨_, isOld, isMessage⟩ := Option.bind_eq_some_iff.mp isHeld
      exact crash_inv inv isOld isMessage returnedTo
    · exact inv

theorem advance_subcategories (tables : CharTables) (state : State) (worker : ℕ) (phase : Phase) :
    (advance tables state worker phase).subcategories = state.subcategories := by
  cases phase with
  | decided =>
    unfold advance commit
    dsimp only
    split
    · rfl
    · split <;> rfl
  | _ => rfl

theorem step_subcategories (tables : CharTables) (state : State) (label : Label) :
    (step tables state label).subcategories = state.subcategories := by
  cases label with
  | publish =>
    unfold step publish
    dsimp only
    split <;> rfl
  | advance worker =>
    unfold step
    dsimp only
    split
    · exact advance_subcategories tables state worker _
    · rfl
  | _ =>
    unfold step
    dsimp only
    split <;> rfl

theorem start_inv (tables : CharTables) (userId : ℤ) (pattern : String) (rules : RuleTable)
    (subcategories : List ℤ) (instances : ℕ) :
    Inv tables userId pattern (start rules subcategories instances) := by
  have idle {phase : Phase} (member : phase ∈ List.replicate instances Phase.idle) :
      phase = .idle := eq_of_mem_replicate member
  refine ⟨by simp [start], by simp [start], by simp [start], by simp [start], ?_, ?_,
    by simp [start], by simp [start]⟩
  · intro _ member _ isMessage
    rw [idle member] at isMessage
    cases isMessage
  · intro _ member
    rw [idle member]
    trivial

theorem run_inv {tables : CharTables} {userId : ℤ} {pattern : String} {rules : RuleTable}
    {subcategories : List ℤ} {instances : ℕ} {labels : List Label}
    (about : ∀ label ∈ labels, PublishesAbout tables userId pattern subcategories label)
    (inOrder : AllSteps (step tables) InOrder (start rules subcategories instances) labels) :
    Inv tables userId pattern
        (runFrom (step tables) (start rules subcategories instances) labels) ∧
      (runFrom (step tables) (start rules subcategories instances) labels).subcategories =
        subcategories := by
  have initial : Inv tables userId pattern (start rules subcategories instances) ∧
      (start rules subcategories instances).subcategories = subcategories :=
    ⟨start_inv tables userId pattern rules subcategories instances, rfl⟩
  have keeps (state : State) (label : Label) (allowed : InOrder state label ∧
      PublishesAbout tables userId pattern subcategories label)
      (inv : Inv tables userId pattern state ∧ state.subcategories = subcategories) :
      Inv tables userId pattern (step tables state label) ∧
        (step tables state label).subcategories = subcategories := by
    have about := allowed.2
    rw [← inv.2] at about
    exact ⟨step_inv inv.1 about allowed.1, (step_subcategories tables state label).trans inv.2⟩
  exact allowed_run_keeps (step tables) keeps initial labels
    (all_steps_and (step tables) inOrder about)

theorem only_rule {rules : RuleTable} {key : RuleKey} {rule : CategorizationRule}
    (member : rule ∈ rules.rows) (isKey : rule.key = key) (owned : key.userId ≠ none) :
    rules.rows.filter (fun row => row.key = key) = [rule] := by
  have nodup : (rules.rows.filter fun row => row.key = key).Nodup :=
    (List.Nodup.of_map _ rules.distinct).filter _
  have here : rule ∈ rules.rows.filter fun row => row.key = key := by
    exact mem_filter.mpr ⟨member, decide_eq_true isKey⟩
  have same : ∀ other ∈ rules.rows.filter fun row => row.key = key, other = rule := by
    intro other isOther
    obtain ⟨stored, otherKey⟩ := mem_filter.mp isOther
    rw [decide_eq_true_eq] at otherKey
    refine rules.unique other stored rule member ?_ (otherKey.trans isKey.symm)
    rw [← otherKey] at owned
    exact owned
  have all := eq_replicate_of_mem same
  rw [all] at nodup here
  rw [all]
  have atMost := nodup_replicate.mp nodup
  have atLeast := ne_nil_of_mem here
  generalize (rules.rows.filter fun row => row.key = key).length = count at atMost atLeast ⊢
  have one : count = 1 := by
    rcases Nat.eq_zero_or_pos count with zero | positive
    · rw [zero] at atLeast
      exact absurd rfl atLeast
    · omega
  rw [one]
  rfl

def plainTables : CharTables where
  lower := fun text => text
  isAlpha := Char.isAlpha

def noRules : RuleTable where
  rows := []
  nextId := 1
  fresh := by simp
  distinct := List.nodup_nil
  unique := by simp

def correction (correlationId : String) (subcategoryId : ℤ) : CategoryCorrected where
  correlationId := correlationId
  userId := some 7
  subcategoryId := some subcategoryId
  description := some "netto"

/-- A delivery from its start to its acknowledgement. -/
def handled (worker : ℕ) : List Label :=
  .take worker :: List.replicate 5 (.advance worker)

theorem netto_pattern : normalizeMerchantPattern plainTables "netto" = "netto" := by
  decide +kernel

theorem correction_concerns {correlationId : String} (identified : correlationId ≠ "")
    {subcategoryId : ℤ} (nonzero : subcategoryId ≠ 0) {subcategories : List ℤ}
    (known : subcategoryId ∈ subcategories) :
    Concerns plainTables 7 "netto" subcategories (correction correlationId subcategoryId) where
  identified := identified
  owned := rfl
  user := by decide
  described := netto_pattern
  learnable := by decide
  taught := ⟨subcategoryId, rfl, nonzero, known⟩

def firstPublished : Label := .publish (correction "first" 3)

def secondPublished : Label := .publish (correction "second" 4)

theorem two_corrections {labels : List Label}
    (only : labels.all fun label =>
      match label with
      | .publish event => event = correction "first" 3 || event = correction "second" 4
      | _ => true) :
    ∀ label ∈ labels, PublishesAbout plainTables 7 "netto" [3, 4] label := by
  intro label member
  have isOne := all_eq_true.mp only label member
  cases label with
  | publish =>
    simp only [Bool.or_eq_true, decide_eq_true_eq] at isOne
    rcases isOne with rfl | rfl
    · exact correction_concerns (by decide) (by decide) (by decide)
    · exact correction_concerns (by decide) (by decide) (by decide)
  | _ => trivial

def inOrderLabels : List Label :=
  [firstPublished] ++ handled 0 ++ [secondPublished] ++ handled 1

/-- The first correction fails once and is handled behind the second. -/
def overtakenLabels : List Label :=
  [firstPublished, secondPublished, .take 0, .fail 0 none] ++ handled 0 ++ handled 0

end FinanceTracker.Categorization.LastCorrection
