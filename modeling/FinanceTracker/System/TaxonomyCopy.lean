import FinanceTracker.Library.LastWrite
import FinanceTracker.Transaction.TaxonomySync

/-!
# The taxonomy and its read copy

Use cases of the owner, publications of their events at least once and in any
order, and attempts of the consumer on the message at the head of its queue. A
failed attempt puts the message at the back, behind newer events of the same row,
and the consumer writes whatever it handles: a row of the copy is what the event
handled last says.
-/

namespace FinanceTracker.System.TaxonomyCopy

open Library Runs SerialRows LastWrite Shared.TaxonomyEvents Categorization.CategoryService
  Transaction.TaxonomySync List

inductive RowKey where
  | category (categoryId : Int)
  | subcategory (subcategoryId : Int)
  deriving DecidableEq

/-- The name with the type, and the name with the parent. -/
inductive RowState where
  | category (name type : String)
  | subcategory (name : String) (categoryId : Int)
  deriving DecidableEq

def messageKey : TaxonomyMessage → RowKey
  | .category event => .category event.payload.categoryId
  | .subcategory event => .subcategory event.payload.subcategoryId

def messageState : TaxonomyMessage → Option RowState
  | .category event =>
    keptRow event.kind (.category event.payload.name event.payload.categoryType)
  | .subcategory event =>
    keptRow event.kind (.subcategory event.payload.name event.payload.categoryId)

def ownedCategory (category : Category) : RowState :=
  .category category.name category.type.value

def ownedSubcategory (sub : SubCategory) : RowState := .subcategory sub.name sub.categoryId

def copiedCategory (model : CategoryModel) : RowState := .category model.name model.type

def copiedSubcategory (model : SubCategoryModel) : RowState :=
  .subcategory model.name model.categoryId

def ownerView (tables : OwnerTables) : RowKey → Option RowState
  | .category categoryId => (tables.categories.find categoryId).map ownedCategory
  | .subcategory subcategoryId => (tables.subcategories.find subcategoryId).map ownedSubcategory

def copyView (copy : ReadCopy) : RowKey → Option RowState
  | .category categoryId => (copy.categories categoryId).map copiedCategory
  | .subcategory subcategoryId => (copy.subcategories subcategoryId).map copiedSubcategory

/-- A message sets the state of its row. -/
abbrev writeRow : (RowKey → Option RowState) → TaxonomyMessage → RowKey → Option RowState :=
  write messageKey messageState

structure QueuedMessage where
  message : TaxonomyMessage
  retryCount : Nat := 0

/-- `published` has the messages that the outbox worker has sent, `handled` those
whose effects the consumer has committed, in that order. -/
structure TaxonomyRun where
  owner : OwnerTables
  copy : ReadCopy
  published : List TaxonomyMessage := []
  queue : List QueuedMessage := []
  deadLetters : List QueuedMessage := []
  handled : List TaxonomyMessage := []

/-- What happens to the message at the head: `handle` returns or raises, after its
commit or before, and the broker gets the republished message and the ack or not. -/
inductive Attempt where
  | returned (acked : Bool)
  | raised (committed republished acked : Bool)

inductive Label where
  | operate (stamp : EventStamp) (operation : Operation)
  | publish (index : Nat)
  | consume (attempt : Attempt)

def maxRetries : Nat := 5

def TaxonomyRun.deliver (run : TaxonomyRun) (message : TaxonomyMessage) : TaxonomyRun :=
  { run with
    copy := handle run.copy (toJson message)
    handled :=
      if isDuplicate run.copy (messageId message) then run.handled
      else run.handled ++ [message] }

def consume (run : TaxonomyRun) (attempt : Attempt) : TaxonomyRun :=
  match run.queue with
  | [] => run
  | head :: rest =>
    match attempt with
    | .returned acked =>
      { run.deliver head.message with queue := (if acked then [] else [head]) ++ rest }
    | .raised committed republished acked =>
      let after := if committed then run.deliver head.message else run
      if head.retryCount < maxRetries then
        { after with
          queue := (if republished && acked then [] else [head]) ++ rest ++
            (if republished then
              [{ head with retryCount := head.retryCount + 1 }] else []) }
      else { after with queue := rest, deadLetters := run.deadLetters ++ [head] }

/-- Event ids are random: a used one does not come again. -/
def freshStamp (run : TaxonomyRun) (stamp : EventStamp) : Bool :=
  stamp.correlationId ≠ "" &&
    run.owner.outbox.all fun message => messageId message ≠ stamp.correlationId

def step (run : TaxonomyRun) : Label → TaxonomyRun
  | .operate stamp operation =>
    if freshStamp run stamp then
      match call stamp operation run.owner with
      | .ok owner => { run with owner := owner }
      | .error _ => run
    else run
  | .publish index =>
    match run.owner.outbox[index]? with
    | none => run
    | some message =>
      { run with
        published := run.published ++ [message]
        queue := run.queue ++ [{ message := message }] }
  | .consume attempt => consume run attempt

/-- Tables of the owner and a copy that agrees with them, before the first event. -/
structure Seed where
  owner : OwnerTables := {}
  copy : ReadCopy := {}
  quiet : owner.outbox = []
  unprocessed : copy.processedEvents = []
  inSync : copyView copy = ownerView owner

def start (seed : Seed) : TaxonomyRun where
  owner := seed.owner
  copy := seed.copy

def taxonomyRun (seed : Seed) (labels : List Label) : TaxonomyRun :=
  runFrom step (start seed) labels

/-- Every event is published, the queue is empty and no message was given up. -/
def Drained (run : TaxonomyRun) : Prop :=
  run.queue = [] ∧ run.deadLetters = [] ∧ ∀ message ∈ run.owner.outbox, message ∈ run.published

/-- The copy has exactly the rows of the owner, with their name, type and parent. -/
def Converged (run : TaxonomyRun) : Prop :=
  (∀ categoryId,
    (run.copy.categories categoryId).map (fun model => (model.name, model.type)) =
      (run.owner.categories.find categoryId).map fun category =>
        (category.name, category.type.value)) ∧
  ∀ subcategoryId,
    (run.copy.subcategories subcategoryId).map (fun model => (model.name, model.categoryId)) =
      (run.owner.subcategories.find subcategoryId).map fun sub => (sub.name, sub.categoryId)

/-- Of no row an older event with another content was handled after the newest one. -/
def NewestLast (run : TaxonomyRun) : Prop :=
  ∀ row last newest, lastOf messageKey run.handled row = some last →
    lastOf messageKey run.owner.outbox row = some newest → messageState last = messageState newest

theorem map_kept {Row State : Type} (kind : EventKind) (row : Row) (state : Row → State) :
    (keptRow kind row).map state = keptRow kind (state row) := by
  unfold keptRow
  by_cases gone : kind = .deleted
  · simp [gone]
  · simp [gone]

variable {tables : OwnerTables} {stamp : EventStamp}

theorem owner_category_written {categories : SerialTable Category.id} {kind : EventKind}
    {category : Category}
    (found : categories.find =
      Function.update tables.categories.find category.id (keptRow kind category)) :
    ownerView (publishCategory kind stamp category categories tables) =
      writeRow (ownerView tables) (.category (categoryEvent kind stamp category)) := by
  funext row
  cases row with
  | category categoryId =>
    unfold ownerView publishCategory writeRow write
    dsimp only
    rw [found, Function.update_apply, Function.update_apply]
    by_cases here : categoryId = category.id
    · simp [here, messageKey, messageState, categoryEvent, map_kept, ownedCategory]
    · simp [here, messageKey, categoryEvent]
  | subcategory => rfl

theorem owner_subcategory_written {subcategories : SerialTable SubCategory.id} {kind : EventKind}
    {sub : SubCategory}
    (found : subcategories.find =
      Function.update tables.subcategories.find sub.id (keptRow kind sub)) :
    ownerView (publishSubcategory kind stamp sub subcategories tables) =
      writeRow (ownerView tables) (.subcategory (subcategoryEvent kind stamp sub)) := by
  funext row
  cases row with
  | category => rfl
  | subcategory subcategoryId =>
    unfold ownerView publishSubcategory writeRow write
    dsimp only
    rw [found, Function.update_apply, Function.update_apply]
    by_cases here : subcategoryId = sub.id
    · simp [here, messageKey, messageState, subcategoryEvent, map_kept, ownedSubcategory]
    · simp [here, messageKey, subcategoryEvent]

/-- A call of the owner that returns sets one row to what its event says. -/
theorem owner_written {next : OwnerTables} (written : Written stamp tables next) :
    next = tables ∨ ∃ message, messageId message = stamp.correlationId ∧
      next.outbox = tables.outbox ++ [message] ∧
      ownerView next = writeRow (ownerView tables) message := by
  cases written with
  | unchanged => exact Or.inl rfl
  | category kind category categories found =>
    exact Or.inr ⟨_, rfl, rfl, owner_category_written found⟩
  | subcategory kind sub subcategories found =>
    exact Or.inr ⟨_, rfl, rfl, owner_subcategory_written found⟩

theorem copy_row_written (copy : ReadCopy) (message : TaxonomyMessage) :
    copyView (withRow copy message) = writeRow (copyView copy) message := by
  funext row
  unfold writeRow write
  rw [Function.update_apply]
  cases message with
  | category event =>
    cases row with
    | category categoryId =>
      unfold copyView withRow
      dsimp only
      rw [Function.update_apply]
      by_cases here : categoryId = event.payload.categoryId
      · simp [here, messageKey, messageState, map_kept, copiedCategory, categoryModelOf]
      · simp [here, messageKey]
    | subcategory => simp [messageKey, copyView, withRow]
  | subcategory event =>
    cases row with
    | category => simp [messageKey, copyView, withRow]
    | subcategory subcategoryId =>
      unfold copyView withRow
      dsimp only
      rw [Function.update_apply]
      by_cases here : subcategoryId = event.payload.subcategoryId
      · simp [here, messageKey, messageState, map_kept, copiedSubcategory,
          subcategoryModelOf]
      · simp [here, messageKey]

/-- The consumer sets the row of a message it has not seen to what the message says. -/
theorem copy_handled {copy : ReadCopy} {message : TaxonomyMessage}
    (new : isDuplicate copy (messageId message) = false) :
    copyView (handle copy (toJson message)) = writeRow (copyView copy) message := by
  rw [← copy_row_written]
  funext row
  cases row with
  | category =>
    unfold copyView
    dsimp only
    rw [(handle_new new).1]
  | subcategory =>
    unfold copyView
    dsimp only
    rw [(handle_new new).2]

/-- The message waits, was handled, or was given up. -/
def Accounted (run : TaxonomyRun) (message : TaxonomyMessage) : Prop :=
  message ∈ run.handled ∨ (∃ entry ∈ run.queue, entry.message = message) ∨
    ∃ entry ∈ run.deadLetters, entry.message = message

structure CopyInv (seed : Seed) (run : TaxonomyRun) : Prop where
  owned : ownerView run.owner = runFrom writeRow (ownerView seed.owner) run.owner.outbox
  copied : copyView run.copy = runFrom writeRow (ownerView seed.owner) run.handled
  inbox : run.copy.processedEvents = run.handled.map messageId
  handledKnown : ∀ message ∈ run.handled, message ∈ run.owner.outbox
  queuedKnown : ∀ entry ∈ run.queue, entry.message ∈ run.owner.outbox
  named : ∀ message ∈ run.owner.outbox, messageId message ≠ ""
  distinct : (run.owner.outbox.map messageId).Nodup
  accounted : ∀ message ∈ run.published, Accounted run message

section Steps

variable {seed : Seed} {run : TaxonomyRun}

theorem inv_start : CopyInv seed (start seed) where
  owned := by
    unfold start
    rw [seed.quiet]
    rfl
  copied := seed.inSync
  inbox := seed.unprocessed
  handledKnown := by
    intro _ _
    contradiction
  queuedKnown := by
    intro _ _
    contradiction
  named := by
    intro _ member
    unfold start at member
    rw [seed.quiet] at member
    contradiction
  distinct := by
    unfold start
    rw [seed.quiet]
    exact nodup_nil
  accounted := by
    intro _ _
    contradiction

theorem fresh_stamp_iff {stamp : EventStamp} :
    freshStamp run stamp = true ↔ stamp.correlationId ≠ "" ∧
      ∀ message ∈ run.owner.outbox, messageId message ≠ stamp.correlationId := by
  simp [freshStamp]

theorem operate_keeps {stamp : EventStamp} {owner : OwnerTables} (inv : CopyInv seed run)
    (fresh : freshStamp run stamp = true) (written : Written stamp run.owner owner) :
    CopyInv seed { run with owner := owner } := by
  rcases owner_written written with rfl | ⟨message, identified, outbox, view⟩
  · exact inv
  · obtain ⟨named, unused⟩ := fresh_stamp_iff.mp fresh
    have known : ∀ other ∈ run.owner.outbox, other ∈ owner.outbox := by
      intro _ member
      rw [outbox]
      exact mem_append_left _ member
    constructor
    · rw [view, inv.owned, outbox, run_from_snoc]
    · exact inv.copied
    · exact inv.inbox
    · intro other member
      exact known other (inv.handledKnown other member)
    · intro entry member
      exact known entry.message (inv.queuedKnown entry member)
    · intro other member
      dsimp only at member
      rw [outbox] at member
      rcases mem_snoc.mp member with old | rfl
      · exact inv.named other old
      · rw [identified]
        exact named
    · dsimp only
      rw [outbox, map_append, map_singleton, nodup_append]
      refine ⟨inv.distinct, nodup_singleton _, ?_⟩
      intro _ usedIn _ addedIn
      obtain ⟨other, member, rfl⟩ := mem_map.mp usedIn
      rw [mem_singleton.mp addedIn, identified]
      exact unused other member
    · exact inv.accounted

variable {message : TaxonomyMessage} {head : QueuedMessage} {rest : List QueuedMessage}

theorem publish_keeps (inv : CopyInv seed run) (known : message ∈ run.owner.outbox) :
    CopyInv seed { run with
      published := run.published ++ [message]
      queue := run.queue ++ [{ message := message }] } := by
  refine { inv with queuedKnown := ?_, accounted := ?_ }
  · refine forall_snoc inv.queuedKnown ?_
    exact known
  · intro other member
    rcases mem_snoc.mp member with old | rfl
    · rcases inv.accounted other old with done | ⟨entry, waits, same⟩ | dead
      · exact Or.inl done
      · exact Or.inr (Or.inl ⟨entry, mem_append_left _ waits, same⟩)
      · exact Or.inr (Or.inr dead)
    · exact Or.inr (Or.inl ⟨_, mem_append_right _ (mem_singleton_self _), rfl⟩)

theorem duplicate_iff (inv : CopyInv seed run) (known : message ∈ run.owner.outbox) :
    isDuplicate run.copy (messageId message) = true ↔ message ∈ run.handled := by
  unfold isDuplicate
  rw [inv.inbox, Bool.and_eq_true, contains_iff_mem, mem_map]
  constructor
  · rintro ⟨_, other, member, same⟩
    have equal := inj_on_of_nodup_map inv.distinct (inv.handledKnown other member) known same
    rw [← equal]
    exact member
  · intro member
    exact ⟨decide_eq_true (inv.named message known), message, member, rfl⟩

theorem deliver_keeps (inv : CopyInv seed run) (known : message ∈ run.owner.outbox) :
    CopyInv seed (run.deliver message) ∧ message ∈ (run.deliver message).handled := by
  unfold TaxonomyRun.deliver
  cases seen : isDuplicate run.copy (messageId message) with
  | true =>
    rw [handle_duplicate seen]
    exact ⟨inv, (duplicate_iff inv known).mp seen⟩
  | false =>
    refine ⟨?_, mem_append_right _ (mem_singleton_self _)⟩
    refine { inv with copied := ?_, inbox := ?_, handledKnown := ?_, accounted := ?_ }
    · dsimp only
      rw [copy_handled seen, inv.copied, if_neg (by decide), run_from_snoc]
    · dsimp only
      rw [handle_inbox seen (inv.named message known), inv.inbox]
      simp
    · refine forall_snoc inv.handledKnown ?_
      exact known
    · intro other member
      rcases inv.accounted other member with done | waits | dead
      · exact Or.inl (mem_append_left _ done)
      · exact Or.inr (Or.inl waits)
      · exact Or.inr (Or.inr dead)

theorem queue_changed (inv : CopyInv seed run) {queue deadLetters : List QueuedMessage}
    (known : ∀ entry ∈ queue, entry.message ∈ run.owner.outbox)
    (kept : ∀ entry ∈ run.queue,
      Accounted { run with queue := queue, deadLetters := deadLetters } entry.message)
    (dead : ∀ entry ∈ run.deadLetters, entry ∈ deadLetters) :
    CopyInv seed { run with queue := queue, deadLetters := deadLetters } := by
  refine { inv with queuedKnown := known, accounted := ?_ }
  intro message member
  rcases inv.accounted message member with done | ⟨entry, waits, rfl⟩ | ⟨entry, given, same⟩
  · exact Or.inl done
  · exact kept entry waits
  · exact Or.inr (Or.inr ⟨entry, dead entry given, same⟩)

theorem acked_keeps (inv : CopyInv seed run) (queued : run.queue = head :: rest)
    (done : head.message ∈ run.handled) (acked : Bool) :
    CopyInv seed { run with queue := (if acked then [] else [head]) ++ rest } := by
  have known := inv.queuedKnown
  rw [queued] at known
  apply queue_changed inv
  · intro _ member
    apply known
    rcases mem_append.mp member with again | later
    · cases acked with
      | true => contradiction
      | false =>
        rw [mem_singleton.mp again]
        exact mem_cons_self
    · exact mem_cons_of_mem _ later
  · intro entry member
    rw [queued] at member
    rcases mem_cons.mp member with rfl | later
    · exact Or.inl done
    · exact Or.inr (Or.inl ⟨entry, mem_append_right _ later, rfl⟩)
  · exact fun _ member => member

/-- The message at the head stays there, comes back at the end, or both. -/
theorem retry_keeps (inv : CopyInv seed run) (queued : run.queue = head :: rest)
    (republished acked : Bool) :
    CopyInv seed { run with
      queue := (if republished && acked then [] else [head]) ++ rest ++
        (if republished then [{ head with retryCount := head.retryCount + 1 }] else []) } := by
  have known := inv.queuedKnown
  rw [queued] at known
  apply queue_changed inv
  · intro _ member
    rcases mem_append.mp member with first | back
    · apply known
      rcases mem_append.mp first with stays | later
      · cases both : republished && acked with
        | true =>
          rw [both] at stays
          contradiction
        | false =>
          rw [both] at stays
          rw [mem_singleton.mp stays]
          exact mem_cons_self
      · exact mem_cons_of_mem _ later
    · cases republished with
      | true =>
        rw [mem_singleton.mp back]
        exact known head mem_cons_self
      | false => contradiction
  · intro entry member
    rw [queued] at member
    apply Or.inr
    apply Or.inl
    rcases mem_cons.mp member with rfl | later
    · cases republished with
      | true => exact ⟨_, mem_append_right _ (mem_singleton_self _), rfl⟩
      | false => exact ⟨entry, by simp, rfl⟩
    · exact ⟨entry, mem_append_left _ (mem_append_right _ later), rfl⟩
  · exact fun _ member => member

theorem give_up_keeps (inv : CopyInv seed run) (queued : run.queue = head :: rest) :
    CopyInv seed { run with queue := rest, deadLetters := run.deadLetters ++ [head] } := by
  have known := inv.queuedKnown
  rw [queued] at known
  apply queue_changed inv
  · intro entry member
    exact known entry (mem_cons_of_mem _ member)
  · intro entry member
    rw [queued] at member
    apply Or.inr
    rcases mem_cons.mp member with rfl | later
    · exact Or.inr ⟨entry, mem_append_right _ (mem_singleton_self _), rfl⟩
    · exact Or.inl ⟨entry, later, rfl⟩
  · exact fun _ member => mem_append_left _ member

theorem raised_keeps {after : TaxonomyRun} (inv : CopyInv seed after)
    (queued : after.queue = head :: rest) (republished acked : Bool) :
    CopyInv seed
      (if head.retryCount < maxRetries then
        { after with
          queue := (if republished && acked then [] else [head]) ++ rest ++
            (if republished then [{ head with retryCount := head.retryCount + 1 }] else []) }
      else { after with queue := rest, deadLetters := after.deadLetters ++ [head] }) := by
  by_cases again : head.retryCount < maxRetries
  · rw [if_pos again]
    exact retry_keeps inv queued republished acked
  · rw [if_neg again]
    exact give_up_keeps inv queued

theorem consume_keeps (inv : CopyInv seed run) (attempt : Attempt) :
    CopyInv seed (consume run attempt) := by
  unfold consume
  cases queued : run.queue with
  | nil => exact inv
  | cons head =>
    have known : head.message ∈ run.owner.outbox := by
      apply inv.queuedKnown
      rw [queued]
      exact mem_cons_self
    have delivered := deliver_keeps inv known
    cases attempt with
    | returned acked => exact acked_keeps delivered.1 queued delivered.2 acked
    | raised committed republished acked =>
      cases committed with
      | true => exact raised_keeps delivered.1 queued republished acked
      | false => exact raised_keeps inv queued republished acked

theorem step_keeps (inv : CopyInv seed run) (label : Label) : CopyInv seed (step run label) := by
  unfold step
  cases label with
  | operate stamp operation =>
    dsimp only
    by_cases fresh : freshStamp run stamp = true
    · rw [if_pos fresh]
      cases done : call stamp operation run.owner with
      | error => exact inv
      | ok => exact operate_keeps inv fresh (call_written done)
    · rw [if_neg fresh]
      exact inv
  | publish index =>
    dsimp only
    cases found : run.owner.outbox[index]? with
    | none => exact inv
    | some => exact publish_keeps inv (mem_of_getElem? found)
  | consume attempt => exact consume_keeps inv attempt

end Steps

theorem taxonomy_run_inv (seed : Seed) (labels : List Label) :
    CopyInv seed (taxonomyRun seed labels) := by
  unfold taxonomyRun
  apply run_keeps step
  · intro _ label inv
    exact step_keeps inv label
  · exact inv_start

theorem category_states_eq_iff {model : Option CategoryModel} {category : Option Category} :
    model.map copiedCategory = category.map ownedCategory ↔
      model.map (fun model => (model.name, model.type)) =
        category.map fun category => (category.name, category.type.value) := by
  cases model with
  | none =>
    cases category with
    | none => simp
    | some => simp
  | some =>
    cases category with
    | none => simp
    | some => simp [copiedCategory, ownedCategory]

theorem subcategory_states_eq_iff {model : Option SubCategoryModel} {sub : Option SubCategory} :
    model.map copiedSubcategory = sub.map ownedSubcategory ↔
      model.map (fun model => (model.name, model.categoryId)) =
        sub.map fun sub => (sub.name, sub.categoryId) := by
  cases model with
  | none =>
    cases sub with
    | none => simp
    | some => simp
  | some =>
    cases sub with
    | none => simp
    | some => simp [copiedSubcategory, ownedSubcategory]

theorem converged_iff_views (run : TaxonomyRun) :
    Converged run ↔ copyView run.copy = ownerView run.owner := by
  constructor
  · intro converged
    funext row
    cases row with
    | category categoryId => exact category_states_eq_iff.mpr (converged.1 categoryId)
    | subcategory subcategoryId => exact subcategory_states_eq_iff.mpr (converged.2 subcategoryId)
  · intro views
    constructor
    · intro categoryId
      exact category_states_eq_iff.mp (congrFun views (.category categoryId))
    · intro subcategoryId
      exact subcategory_states_eq_iff.mp (congrFun views (.subcategory subcategoryId))

theorem drained_handles_all {seed : Seed} {run : TaxonomyRun} (inv : CopyInv seed run)
    (drained : Drained run) (message : TaxonomyMessage) :
    message ∈ run.handled ↔ message ∈ run.owner.outbox := by
  obtain ⟨empty, alive, published⟩ := drained
  constructor
  · exact inv.handledKnown message
  · intro member
    rcases inv.accounted message (published message member) with
      done | ⟨entry, waits, _⟩ | ⟨entry, given, _⟩
    · exact done
    · rw [empty] at waits
      contradiction
    · rw [alive] at given
      contradiction

theorem copy_converges_iff (seed : Seed) (labels : List Label)
    (drained : Drained (taxonomyRun seed labels)) :
    Converged (taxonomyRun seed labels) ↔ NewestLast (taxonomyRun seed labels) := by
  have inv := taxonomy_run_inv seed labels
  rw [converged_iff_views, inv.copied, inv.owned]
  exact views_agree_iff messageKey messageState (ownerView seed.owner)
    (drained_handles_all inv drained)

def emptySeed : Seed where
  quiet := rfl
  unprocessed := rfl
  inSync := by
    funext row
    cases row with
    | category | subcategory => rfl

def renamedTwice : List Label :=
  [.operate ⟨"created", 1000⟩ (.createCategory { name := "Mad", type := "expense" }),
    .operate ⟨"first", 2000⟩ (.updateCategory 1 { name := some "Dagligvarer" }),
    .operate ⟨"second", 3000⟩ (.updateCategory 1 { name := some "Mad & drikke" }),
    .publish 0, .publish 1, .publish 2, .consume (.returned true)]

/-- The second rename is handled twice: the first time its ack is lost. -/
def handledInOrder : List Label :=
  renamedTwice ++ [.consume (.returned true), .consume (.returned false), .consume (.returned true)]

def firstRenameRetried : List Label :=
  renamedTwice ++ [.consume (.raised false true true), .consume (.returned true),
    .consume (.returned true)]

theorem drained_iff (run : TaxonomyRun) : Drained run ↔
    run.queue.isEmpty = true ∧ run.deadLetters.isEmpty = true ∧
      ∀ message ∈ run.owner.outbox, message ∈ run.published := by
  unfold Drained
  rw [List.isEmpty_iff, List.isEmpty_iff]

theorem handled_in_order_converges : Converged (taxonomyRun emptySeed handledInOrder) ↔
      NewestLast (taxonomyRun emptySeed handledInOrder) := by
  apply copy_converges_iff
  rw [drained_iff]
  decide +kernel

/-- The retry brings the first rename back after the second. -/
theorem retried_rename_is_stale :
    ¬ ∀ seed labels, Drained (taxonomyRun seed labels) → Converged (taxonomyRun seed labels) := by
  intro always
  have drained : Drained (taxonomyRun emptySeed firstRenameRetried) := by
    rw [drained_iff]
    decide +kernel
  have converged := (always emptySeed firstRenameRetried drained).1 1
  have copied : ((taxonomyRun emptySeed firstRenameRetried).copy.categories 1).map
      (fun model => (model.name, model.type)) = some ("Dagligvarer", "expense") := by
    decide +kernel
  have owned : ((taxonomyRun emptySeed firstRenameRetried).owner.categories.find 1).map
      (fun category => (category.name, category.type.value)) =
        some ("Mad & drikke", "expense") := by
    decide +kernel
  rw [copied, owned] at converged
  revert converged
  decide

end FinanceTracker.System.TaxonomyCopy
