import FinanceTracker.Analytics.TaxonomyStore

/-!
# Category renames and the transaction documents

A transaction document carries the name of its category. The taxonomy queue
writes it to the existing documents when a rename is applied, and the transaction
queue writes the name each event was published with. The queues are processed in
order, each at its own pace. An event published before a rename and processed
after it brings the old name back; while no such event is processed, every live
document carries the latest name as soon as the renames are processed.
-/

namespace FinanceTracker.Analytics.CategoryRenames

open Library.Runs Shared.TaxonomyEvents Shared.TransactionEvents TransactionStore
  GuardedUpsert TaxonomyStore List

def categoryOf (doc : TransactionDoc) : Option Int :=
  doc.categorization.bind CategorizationFields.categoryId

def categoryNameOf (doc : TransactionDoc) : Option String :=
  doc.categorization.bind CategorizationFields.categoryName

/-- `_RENAME_CATEGORY_SCRIPT` on the documents the query finds. -/
def renameCategory (categoryId : Int) (name : String) (doc : TransactionDoc) : TransactionDoc :=
  if categoryOf doc = some categoryId then
    { doc with
      categorization := doc.categorization.map fun fields =>
        { fields with categoryName := some name } }
  else doc

def propagateCategoryRename (categoryId : Int) (name : String)
    (documents : Int → Option TransactionDoc) : Int → Option TransactionDoc :=
  fun transactionId => (documents transactionId).map (renameCategory categoryId name)

inductive TransactionMessage where
  | changed (transactionId : Int) (event : TransactionEvent)
  | deleted (transactionId : Int) (timestamp : Int)
  deriving DecidableEq

def eventCategoryId : TransactionEvent → Option Int
  | .created event => event.categoryId
  | .updated event => event.categoryId
  | .categorized event => some event.categoryId

def TransactionMessage.categoryId : TransactionMessage → Option Int
  | .changed _ event => eventCategoryId event
  | .deleted _ _ => none

/-- `known` are the category ids that a published event refers to, and `latest`
is the last created or updated event published for a category. -/
structure RenameState where
  documents : Int → Option TransactionDoc := fun _ => none
  categories : Int → Option CategoryDoc := fun _ => none
  taxonomyQueue : List CategoryEvent := []
  transactionQueue : List TransactionMessage := []
  known : List Int := []
  latest : Int → Option CategoryEvent := fun _ => none

/-- `processTransaction` carries the reads of the projector at that moment. -/
inductive Label where
  | publishCategory (event : CategoryEvent)
  | publishTransaction (message : TransactionMessage)
  | processCategory
  | processTransaction (reads : ProjectorReads)

def processMessage (reads : ProjectorReads) (documents : Int → Option TransactionDoc) :
    TransactionMessage → Int → Option TransactionDoc
  | .changed transactionId event =>
    Function.update documents transactionId
      (projectEvent reads transactionId (documents transactionId) event)
  | .deleted transactionId timestamp =>
    Function.update documents transactionId
      (handleDeleted transactionId timestamp (documents transactionId))

def processCategoryEvent (state : RenameState) (event : CategoryEvent) : RenameState :=
  let categoryId := event.payload.categoryId
  let handled := handleCategory event (state.categories categoryId)
  { state with
    categories := Function.update state.categories categoryId handled.1
    documents :=
      match handled.2 with
      | some name => propagateCategoryRename categoryId name state.documents
      | none => state.documents }

/-- A created category has a new id; a message is processed only from the front. -/
def step (state : RenameState) : Label → RenameState
  | .publishCategory event =>
    if event.kind = .created ∧ event.payload.categoryId ∈ state.known then state
    else
      { state with
        taxonomyQueue := state.taxonomyQueue ++ [event]
        known := event.payload.categoryId :: state.known
        latest :=
          if event.kind = .deleted then state.latest
          else Function.update state.latest event.payload.categoryId (some event) }
  | .publishTransaction message =>
    { state with
      transactionQueue := state.transactionQueue ++ [message]
      known := message.categoryId.toList ++ state.known }
  | .processCategory =>
    match state.taxonomyQueue with
    | [] => state
    | event :: rest => processCategoryEvent { state with taxonomyQueue := rest } event
  | .processTransaction reads =>
    match state.transactionQueue with
    | [] => state
    | message :: rest =>
      { state with
        transactionQueue := rest
        documents := processMessage reads state.documents message }

def renameRun (labels : List Label) : RenameState := runFrom step {} labels

def Drained (state : RenameState) : Prop :=
  state.taxonomyQueue = [] ∧ state.transactionQueue = []

instance (state : RenameState) : Decidable (Drained state) := by
  unfold Drained
  infer_instance

/-- Every live document of the category carries the name. -/
def Named (documents : Int → Option TransactionDoc) (categoryId : Int) (name : String) : Prop :=
  ∀ transactionId doc, documents transactionId = some doc → doc.isDeleted = false →
    categoryOf doc = some categoryId → categoryNameOf doc = some name

def isRename (categoryId : Int) (event : CategoryEvent) : Bool :=
  event.kind = .updated && event.payload.categoryId = categoryId

def lastRename (categoryId : Int) : List CategoryEvent → Option CategoryEvent
  | [] => none
  | event :: rest =>
    (lastRename categoryId rest).or (if isRename categoryId event then some event else none)

/-- The shared fields an event writes to the stored document, if the guards let it. -/
def writtenCategorization (reads : ProjectorReads) (stored : Option TransactionDoc)
    (transactionId : Int) (event : TransactionEvent) : Option CategorizationFields :=
  let doc := stored.getD (upsertBody transactionId)
  if doc.isDeleted = false ∧ admits (ownGuard doc event) (eventTs event) = true ∧
      admits doc.categorizationEventTs (eventTs event) = true then
    some (categorizationFields reads event)
  else none

def CarriesLatest (state : RenameState) (fields : CategorizationFields) : Prop :=
  match fields.categoryId with
  | none => True
  | some categoryId =>
    match state.latest categoryId with
    | none => True
    | some event =>
      fields.categoryName = some event.payload.name ∨
        (lastRename categoryId state.taxonomyQueue).isSome = true

instance (state : RenameState) (fields : CategorizationFields) :
    Decidable (CarriesLatest state fields) := by
  unfold CarriesLatest
  split
  · infer_instance
  · split <;> infer_instance

/-- The last queued rename of a category is not older than its document, and a
transaction event that writes a category writes its latest name unless a rename
of the category is queued. -/
def KeepsNames (state : RenameState) : Label → Prop
  | .processCategory =>
    match state.taxonomyQueue with
    | [] => True
    | event :: rest =>
      event.kind = .updated → lastRename event.payload.categoryId rest = none →
        accepts (state.categories event.payload.categoryId)
          (eventTsMillis event.timestamp) = true
  | .processTransaction reads =>
    match state.transactionQueue with
    | .changed transactionId event :: _ =>
      match writtenCategorization reads (state.documents transactionId) transactionId event with
      | some fields => CarriesLatest state fields
      | none => True
    | _ => True
  | _ => True

instance (state : RenameState) (label : Label) : Decidable (KeepsNames state label) := by
  cases label with
  | publishCategory | publishTransaction => exact isTrue trivial
  | processCategory =>
    unfold KeepsNames
    dsimp only
    split <;> infer_instance
  | processTransaction =>
    unfold KeepsNames
    dsimp only
    split
    · split <;> infer_instance
    · infer_instance

@[simp] theorem category_of_renamed (categoryId : Int) (name : String) (doc : TransactionDoc) :
    categoryOf (renameCategory categoryId name doc) = categoryOf doc := by
  unfold renameCategory
  split
  · unfold categoryOf
    cases doc.categorization with
    | none | some => rfl
  · rfl

@[simp] theorem renamed_is_deleted (categoryId : Int) (name : String) (doc : TransactionDoc) :
    (renameCategory categoryId name doc).isDeleted = doc.isDeleted := by
  unfold renameCategory
  split <;> rfl

variable {doc : TransactionDoc} {event : CategoryEvent} {state : RenameState}
  {reads : ProjectorReads}

theorem name_of_renamed {categoryId : Int} (name : String)
    (category : categoryOf doc = some categoryId) :
    categoryNameOf (renameCategory categoryId name doc) = some name := by
  unfold renameCategory
  rw [if_pos category]
  unfold categoryOf at category
  unfold categoryNameOf
  cases fields : doc.categorization with
  | none =>
    rw [fields] at category
    contradiction
  | some => rfl

theorem name_of_other {categoryId : Int} (name : String)
    (category : categoryOf doc ≠ some categoryId) :
    categoryNameOf (renameCategory categoryId name doc) = categoryNameOf doc := by
  unfold renameCategory
  rw [if_neg category]

theorem propagated_named (categoryId : Int) (name : String)
    (documents : Int → Option TransactionDoc) :
    Named (propagateCategoryRename categoryId name documents) categoryId name := by
  intro _ _ stored _ category
  unfold propagateCategoryRename at stored
  obtain ⟨_, _, rfl⟩ := Option.map_eq_some_iff.mp stored
  rw [category_of_renamed] at category
  exact name_of_renamed name category

variable {documents : Int → Option TransactionDoc} {stored : Option TransactionDoc}
  {rest : List CategoryEvent} {message : TransactionMessage}

theorem propagated_other {categoryId other : Int} (different : other ≠ categoryId) (name : String)
    {otherName : String} (named : Named documents other otherName) :
    Named (propagateCategoryRename categoryId name documents) other otherName := by
  intro transactionId _ stored live category
  unfold propagateCategoryRename at stored
  obtain ⟨earlier, found, rfl⟩ := Option.map_eq_some_iff.mp stored
  rw [category_of_renamed] at category
  rw [renamed_is_deleted] at live
  have unchanged : categoryOf earlier ≠ some categoryId := by
    rw [category]
    intro same
    exact different (Option.some.inj same)
  rw [name_of_other name unchanged]
  exact named transactionId earlier found live category

theorem project_deleted (reads : ProjectorReads) (transactionId : Int)
    (deleted : doc.isDeleted = true) (event : TransactionEvent) :
    projectEvent reads transactionId (some doc) event = some doc := by
  cases event <;>
    simp [projectEvent, handleCreatedOrUpdated, handleCategorized, upsertCore,
      applyCategorization, scriptedUpsert, coreScript, categorizationScript, deleted]

theorem project_event_categorization (reads : ProjectorReads) {transactionId : Int}
    {event : TransactionEvent}
    (projected : projectEvent reads transactionId stored event = some doc)
    (live : doc.isDeleted = false) :
    (stored.getD (upsertBody transactionId)).isDeleted = false ∧ doc.categorization =
        match writtenCategorization reads stored transactionId event with
        | some fields => some fields
        | none => (stored.getD (upsertBody transactionId)).categorization := by
  have either : projectEvent reads transactionId stored event =
      projectEvent reads transactionId (some (stored.getD (upsertBody transactionId))) event := by
    cases stored with
    | none => exact project_first reads transactionId event
    | some => rfl
  unfold writtenCategorization
  rw [either] at projected
  generalize stored.getD (upsertBody transactionId) = earlier at projected
  by_cases deleted : earlier.isDeleted = true
  · rw [project_deleted reads transactionId deleted] at projected
    cases projected
    rw [live] at deleted
    contradiction
  · have wasLive : earlier.isDeleted = false := Bool.eq_false_iff.mpr deleted
    rw [project_event_live reads transactionId wasLive] at projected
    cases projected
    refine ⟨wasLive, ?_⟩
    unfold deliver
    by_cases accepted : admits (ownGuard earlier event) (eventTs event) = true
    · by_cases shared : admits earlier.categorizationEventTs (eventTs event) = true
      · simp [wasLive, accepted, shared]
      · simp [wasLive, accepted, shared]
    · simp [wasLive, accepted]

theorem deleted_is_deleted (transactionId timestamp : Int) (stored : Option TransactionDoc)
    (deleted : handleDeleted transactionId timestamp stored = some doc) :
    doc.isDeleted = true := by
  unfold handleDeleted markDeleted at deleted
  cases deleted
  rfl

theorem category_of_written (reads : ProjectorReads) (event : TransactionEvent) :
    (categorizationFields reads event).categoryId = eventCategoryId event := by
  cases event <;> rfl

theorem last_rename_snoc (categoryId : Int) (queue : List CategoryEvent) (event : CategoryEvent) :
    lastRename categoryId (queue ++ [event]) =
      if isRename categoryId event then some event else lastRename categoryId queue := by
  induction queue with
  | nil =>
    change Option.or none _ = _
    rw [Option.none_or]
    rfl
  | cons first queue ih =>
    change (lastRename categoryId (queue ++ [event])).or _ = _
    rw [ih]
    split
    · rfl
    · rfl

theorem last_rename_mem {categoryId : Int} {queue : List CategoryEvent}
    (last : lastRename categoryId queue = some event) :
    event ∈ queue ∧ isRename categoryId event = true := by
  induction queue with
  | nil => contradiction
  | cons first queue ih =>
    change (lastRename categoryId queue).or _ = some event at last
    cases rest : lastRename categoryId queue with
    | some =>
      rw [rest] at last
      cases last
      exact ⟨mem_cons_of_mem _ (ih rest).1, (ih rest).2⟩
    | none =>
      rw [rest, Option.none_or] at last
      split at last
      · rename_i renames
        cases last
        exact ⟨mem_cons_self, renames⟩
      · contradiction

theorem is_rename_iff {categoryId : Int} : isRename categoryId event = true ↔
      event.kind = .updated ∧ event.payload.categoryId = categoryId := by
  simp [isRename]

structure NamesReach (state : RenameState) : Prop where
  queuedKnown : ∀ event ∈ state.taxonomyQueue, event.payload.categoryId ∈ state.known
  publishedKnown : ∀ message ∈ state.transactionQueue, ∀ categoryId,
    message.categoryId = some categoryId → categoryId ∈ state.known
  storedKnown : ∀ transactionId doc, state.documents transactionId = some doc → ∀ categoryId,
    categoryOf doc = some categoryId → doc.isDeleted = false → categoryId ∈ state.known
  lastQueued : ∀ categoryId event, lastRename categoryId state.taxonomyQueue = some event →
    state.latest categoryId = some event
  named : ∀ categoryId event, state.latest categoryId = some event →
    lastRename categoryId state.taxonomyQueue = none →
      Named state.documents categoryId event.payload.name

theorem names_reach_start : NamesReach {} := by
  refine ⟨?_, ?_, ?_, ?_, ?_⟩
  · intro _ _
    contradiction
  · intro _ _
    contradiction
  · intro _ _ _
    contradiction
  · intro _ _ _
    contradiction
  · intro _ _ _
    contradiction

theorem publish_category_reaches (reach : NamesReach state) (event : CategoryEvent) :
    NamesReach (step state (.publishCategory event)) := by
  unfold step
  dsimp only
  by_cases reused : event.kind = .created ∧ event.payload.categoryId ∈ state.known
  · rw [if_pos reused]
    exact reach
  · rw [if_neg reused]
    refine ⟨?_, ?_, ?_, ?_, ?_⟩
    · refine forall_snoc (fun queued old => mem_cons_of_mem _ (reach.queuedKnown queued old)) ?_
      exact mem_cons_self
    · intro message member categoryId category
      exact mem_cons_of_mem _ (reach.publishedKnown message member categoryId category)
    · intro transactionId doc stored categoryId category live
      exact mem_cons_of_mem _
        (reach.storedKnown transactionId doc stored categoryId category live)
    · intro categoryId last found
      dsimp only at found ⊢
      rw [last_rename_snoc] at found
      by_cases renames : isRename categoryId event = true
      · rw [if_pos renames] at found
        cases found
        obtain ⟨kind, same⟩ := is_rename_iff.mp renames
        rw [if_neg (by rw [kind]; decide), ← same, Function.update_self]
      · rw [if_neg renames] at found
        have latest := reach.lastQueued categoryId last found
        have known := reach.queuedKnown last (last_rename_mem found).1
        rw [(is_rename_iff.mp (last_rename_mem found).2).2] at known
        by_cases deletes : event.kind = .deleted
        · rw [if_pos deletes]
          exact latest
        · rw [if_neg deletes, Function.update_of_ne]
          · exact latest
          · -- a created event has a new id, and an update would be the last rename
            intro same
            cases kind : event.kind with
            | created => exact reused ⟨kind, same ▸ known⟩
            | updated => exact renames (is_rename_iff.mpr ⟨kind, same.symm⟩)
            | deleted => exact deletes kind
    · intro categoryId latestEvent latest none
      dsimp only at latest none ⊢
      rw [last_rename_snoc] at none
      by_cases renames : isRename categoryId event = true
      · rw [if_pos renames] at none
        contradiction
      · rw [if_neg renames] at none
        by_cases deletes : event.kind = .deleted
        · rw [if_pos deletes] at latest
          exact reach.named categoryId latestEvent latest none
        · rw [if_neg deletes] at latest
          by_cases same : categoryId = event.payload.categoryId
          · intro transactionId doc stored live category
            have known := reach.storedKnown transactionId doc stored categoryId category live
            cases kind : event.kind with
            | created => exact absurd ⟨kind, same ▸ known⟩ reused
            | updated => exact absurd (is_rename_iff.mpr ⟨kind, same.symm⟩) renames
            | deleted => exact absurd kind deletes
          · rw [Function.update_of_ne same] at latest
            exact reach.named categoryId latestEvent latest none

theorem publish_transaction_reaches (reach : NamesReach state) (message : TransactionMessage) :
    NamesReach (step state (.publishTransaction message)) := by
  unfold step
  dsimp only
  refine ⟨?_, ?_, ?_, reach.lastQueued, reach.named⟩
  · intro event member
    exact mem_append_right _ (reach.queuedKnown event member)
  · intro other member categoryId category
    rcases mem_snoc.mp member with old | rfl
    · exact mem_append_right _ (reach.publishedKnown other old categoryId category)
    · apply mem_append_left
      rw [category]
      exact mem_singleton_self categoryId
  · intro transactionId doc stored categoryId category live
    exact mem_append_right _
      (reach.storedKnown transactionId doc stored categoryId category live)

theorem last_rename_rest {categoryId : Int} {last : CategoryEvent}
    (found : lastRename categoryId rest = some last) :
    lastRename categoryId (event :: rest) = some last := by
  change (lastRename categoryId rest).or _ = some last
  rw [found]
  rfl

theorem last_rename_head {categoryId : Int} (none : lastRename categoryId rest = none) :
    lastRename categoryId (event :: rest) =
      if isRename categoryId event then some event else Option.none := by
  change (lastRename categoryId rest).or _ = _
  rw [none, Option.none_or]

theorem process_category_documents (state : RenameState) (event : CategoryEvent) :
    (processCategoryEvent state event).documents =
      if accepts (state.categories event.payload.categoryId) (eventTsMillis event.timestamp) ∧
          event.kind = .updated then
        propagateCategoryRename event.payload.categoryId event.payload.name state.documents
      else state.documents := by
  unfold processCategoryEvent handleCategory
  dsimp only
  rw [upsert_applied, show (categoryState event).eventTs = eventTsMillis event.timestamp from rfl]
  by_cases applied : accepts (state.categories event.payload.categoryId)
      (eventTsMillis event.timestamp) = true ∧ event.kind = .updated
  · simp only [if_pos applied]
  · simp only [if_neg applied]

theorem process_category_reaches (reach : NamesReach state)
    (kept : KeepsNames state .processCategory) : NamesReach (step state .processCategory) := by
  unfold step
  dsimp only
  cases queue : state.taxonomyQueue with
  | nil => exact reach
  | cons event rest =>
    have admitted : event.kind = .updated → lastRename event.payload.categoryId rest = none →
        accepts (state.categories event.payload.categoryId)
          (eventTsMillis event.timestamp) = true := by
      unfold KeepsNames at kept
      dsimp only at kept
      rw [queue] at kept
      exact kept
    have documents := process_category_documents { state with taxonomyQueue := rest } event
    dsimp only at documents
    refine ⟨?_, reach.publishedKnown, ?_, ?_, ?_⟩
    · intro queued member
      apply reach.queuedKnown queued
      rw [queue]
      exact mem_cons_of_mem _ member
    · intro transactionId doc stored categoryId category live
      rw [documents] at stored
      split at stored
      · obtain ⟨earlier, found, rfl⟩ := Option.map_eq_some_iff.mp stored
        rw [category_of_renamed] at category
        rw [renamed_is_deleted] at live
        exact reach.storedKnown transactionId earlier found categoryId category live
      · exact reach.storedKnown transactionId doc stored categoryId category live
    · intro _ _ found
      apply reach.lastQueued
      rw [queue]
      exact last_rename_rest found
    · intro categoryId latestEvent latest none
      change state.latest categoryId = some latestEvent at latest
      change lastRename categoryId rest = Option.none at none
      rw [documents]
      have head : lastRename categoryId (event :: rest) = _ := last_rename_head none
      rw [← queue] at head
      by_cases renames : isRename categoryId event = true
      · -- the last queued rename is the latest event and is applied
        rw [if_pos renames] at head
        have same := reach.lastQueued categoryId event head
        rw [latest] at same
        cases same
        obtain ⟨kind, rfl⟩ := is_rename_iff.mp renames
        rw [if_pos ⟨admitted kind none, kind⟩]
        exact propagated_named _ _ _
      · rw [if_neg renames] at head
        have named := reach.named categoryId latestEvent latest head
        split
        · rename_i applied
          apply propagated_other _ _ named
          rintro rfl
          exact renames (is_rename_iff.mpr ⟨applied.2, rfl⟩)
        · exact named

theorem process_message_reaches {rest : List TransactionMessage} (reach : NamesReach state)
    (queue : state.transactionQueue = message :: rest)
    (changed : ∀ transactionId doc,
      processMessage reads state.documents message transactionId = some doc →
        doc.isDeleted = false → ∀ categoryId, categoryOf doc = some categoryId →
          (message.categoryId = some categoryId ∧ ∀ event, state.latest categoryId = some event →
              lastRename categoryId state.taxonomyQueue = none →
                categoryNameOf doc = some event.payload.name) ∨
            ∃ earlier, state.documents transactionId = some earlier ∧
              earlier.isDeleted = false ∧ earlier.categorization = doc.categorization) :
    NamesReach
      { state with
        transactionQueue := rest
        documents := processMessage reads state.documents message } := by
  refine ⟨reach.queuedKnown, ?_, ?_, reach.lastQueued, ?_⟩
  · intro other member
    apply reach.publishedKnown other
    rw [queue]
    exact mem_cons_of_mem _ member
  · intro transactionId doc stored categoryId category live
    rcases changed transactionId doc stored live categoryId category with
      ⟨carried, _⟩ | ⟨earlier, found, wasLive, same⟩
    · apply reach.publishedKnown message _ categoryId carried
      rw [queue]
      exact mem_cons_self
    · apply reach.storedKnown transactionId earlier found categoryId _ wasLive
      unfold categoryOf at category ⊢
      rw [same]
      exact category
  · intro categoryId event latest none transactionId doc stored live category
    rcases changed transactionId doc stored live categoryId category with
      ⟨_, carried⟩ | ⟨earlier, found, wasLive, same⟩
    · exact carried event latest none
    · have named := reach.named categoryId event latest none transactionId earlier found wasLive
      unfold categoryOf categoryNameOf at *
      rw [← same] at category ⊢
      exact named category

def TransactionMessage.transactionId : TransactionMessage → Int
  | .changed transactionId _ => transactionId
  | .deleted transactionId _ => transactionId

theorem process_message_other {transactionId : Int} (other : transactionId ≠ message.transactionId) :
    processMessage reads documents message transactionId = documents transactionId := by
  cases message with
  | changed | deleted => exact Function.update_of_ne other _ _

theorem written_fields {transactionId : Int} {event : TransactionEvent}
    {fields : CategorizationFields}
    (written : writtenCategorization reads stored transactionId event = some fields) :
    fields = categorizationFields reads event := by
  unfold writtenCategorization at written
  dsimp only at written
  split at written
  · exact (Option.some.inj written).symm
  · contradiction

theorem process_transaction_reaches (reach : NamesReach state)
    (kept : KeepsNames state (.processTransaction reads)) :
    NamesReach (step state (.processTransaction reads)) := by
  unfold step
  dsimp only
  cases queue : state.transactionQueue with
  | nil => exact reach
  | cons message =>
    apply process_message_reaches reach queue
    intro transactionId doc stored live categoryId category
    by_cases same : transactionId = message.transactionId
    · cases message with
      | deleted target timestamp =>
        rw [same] at stored
        unfold processMessage TransactionMessage.transactionId at stored
        dsimp only at stored
        rw [Function.update_self] at stored
        rw [deleted_is_deleted target timestamp _ stored] at live
        contradiction
      | changed target event =>
        rw [same] at stored ⊢
        unfold processMessage TransactionMessage.transactionId at stored
        dsimp only at stored
        rw [Function.update_self] at stored
        obtain ⟨wasLive, written⟩ := project_event_categorization reads stored live
        unfold KeepsNames at kept
        dsimp only at kept
        rw [queue] at kept
        dsimp only at kept
        cases wrote : writtenCategorization reads (state.documents target) target event with
        | some fields =>
          rw [wrote] at written kept
          dsimp only at written kept
          have carried : fields.categoryId = some categoryId := by
            unfold categoryOf at category
            rw [written] at category
            exact category
          apply Or.inl
          constructor
          · rw [written_fields wrote, category_of_written] at carried
            exact carried
          · intro _ latest none
            unfold CarriesLatest at kept
            rw [carried] at kept
            dsimp only at kept
            rw [latest, none] at kept
            unfold categoryNameOf
            rw [written]
            rcases kept with name | pending
            · exact name
            · contradiction
        | none =>
          rw [wrote] at written
          dsimp only at written
          apply Or.inr
          cases before : state.documents target with
          | none =>
            rw [before] at written
            unfold categoryOf at category
            rw [written] at category
            contradiction
          | some earlier =>
            rw [before] at written wasLive
            exact ⟨earlier, before, wasLive, written.symm⟩
    · rw [process_message_other same] at stored
      exact Or.inr ⟨doc, stored, live, rfl⟩

theorem step_names_reach (state : RenameState) (label : Label) (kept : KeepsNames state label)
    (reach : NamesReach state) : NamesReach (step state label) := by
  cases label with
  | publishCategory event => exact publish_category_reaches reach event
  | publishTransaction message => exact publish_transaction_reaches reach message
  | processCategory => exact process_category_reaches reach kept
  | processTransaction => exact process_transaction_reaches reach kept

def createdCategory : CategoryEvent where
  kind := .created
  eventVersion := 2
  correlationId := "created"
  timestamp := 10000
  payload := { categoryId := 3, name := "Mad", categoryType := "expense" }

def renamedCategory : CategoryEvent where
  kind := .updated
  eventVersion := 2
  correlationId := "renamed"
  timestamp := 30000
  payload := { categoryId := 3, name := "Dagligvarer", categoryType := "expense" }

/-- A transaction of 20 ms with the name of before the rename. -/
def publishedCore : CoreEvent where
  accountId := 1
  userId := 1
  amount := "0"
  transactionType := "expense"
  txDate := Convergence.purchaseDate
  categoryId := some 3
  category := "Mad"
  timestamp := 20000

def publishedInOrder : List Label :=
  [.publishCategory createdCategory, .publishTransaction (.changed 1 (.created publishedCore)),
    .publishCategory renamedCategory, .processCategory]

def renameLast : List Label :=
  publishedInOrder ++ [.processTransaction Convergence.plainReads, .processCategory]

def renameFirst : List Label :=
  publishedInOrder ++ [.processCategory, .processTransaction Convergence.plainReads]

end FinanceTracker.Analytics.CategoryRenames
