import FinanceTracker.Analytics.Backfill
import FinanceTracker.Analytics.CategoryRenames
import FinanceTracker.Analytics.Embedding

/-!
# Which transaction documents are shown

All writers of one transaction document: the core, categorization and delete
scripts, the embedding, the renames that are fanned out from the taxonomy, and
the backfill, in any order. Queries show the documents that pass the base
filters. The core fields of a live document are those of some core write, and
the tombstone is never taken back.
-/

namespace FinanceTracker.Analytics.Visibility

open Library.Runs Shared.TransactionEvents TransactionStore Backfill CategoryRenames
  Analytics.Embedding List

variable {Vector : Type}

def subcategoryOf (doc : TransactionDoc) : Option Int :=
  doc.categorization.bind CategorizationFields.subcategoryId

/-- `_RENAME_SUBCATEGORY_SCRIPT` on the documents the query finds. -/
def renameSubcategory (subcategoryId : Int) (name : String) (doc : TransactionDoc) :
    TransactionDoc :=
  if subcategoryOf doc = some subcategoryId then
    { doc with
      categorization := doc.categorization.map fun fields =>
        { fields with subcategoryName := some name } }
  else doc

/-- The core script also serves the backfill. A rename with `conflict` meets a version
conflict on the document and proceeds without it. -/
inductive DocumentWrite (Vector : Type) where
  | core (reads : ProjectorReads) (event : CoreEvent)
  | categorized (event : CategorizedEvent)
  | deleted (timestamp : Int)
  | embedding (vector : Vector) (eventTs : Int)
  | renamedCategory (categoryId : Int) (name : String) (conflict : Bool)
  | renamedSubcategory (subcategoryId : Int) (name : String) (conflict : Bool)
  | backfill (reads : BackfillReads) (userId : Int) (row : BackfillRow)

/-- A write that leaves the vector fields alone. -/
def keepVector (change : Option TransactionDoc → Option TransactionDoc)
    (stored : Option (EmbeddedDoc Vector)) : Option (EmbeddedDoc Vector) :=
  (change (getProjection stored)).map fun doc =>
    { toTransactionDoc := doc
      descriptionVector := stored.bind EmbeddedDoc.descriptionVector
      embeddingEventTs := stored.bind EmbeddedDoc.embeddingEventTs }

def renamed (conflict : Bool) (rename : TransactionDoc → TransactionDoc)
    (stored : Option TransactionDoc) : Option TransactionDoc :=
  if conflict then stored else stored.map rename

def writeDocument (transactionId : Int) (stored : Option (EmbeddedDoc Vector)) :
    DocumentWrite Vector → Option (EmbeddedDoc Vector)
  | .core reads event => keepVector (handleCreatedOrUpdated reads transactionId event) stored
  | .categorized event => keepVector (handleCategorized transactionId event) stored
  | .deleted timestamp => keepVector (handleDeleted transactionId timestamp) stored
  | .embedding vector eventTs => updateEmbedding vector eventTs stored
  | .renamedCategory categoryId name conflict =>
    keepVector (renamed conflict (renameCategory categoryId name)) stored
  | .renamedSubcategory subcategoryId name conflict =>
    keepVector (renamed conflict (renameSubcategory subcategoryId name)) stored
  | .backfill reads userId row =>
    keepVector (fun doc => backfillRow reads userId transactionId doc row) stored

def writtenDocument (transactionId : Int) (writes : List (DocumentWrite Vector)) :
    Option (EmbeddedDoc Vector) :=
  runFrom (writeDocument transactionId) none writes

/-- `_base_filters` of a user, but for the account and the dates. -/
def passesBaseFilters (userId : Int) (stored : Option (EmbeddedDoc Vector)) : Bool :=
  stored.any fun doc => doc.core.any (fun core => core.userId = userId) && !doc.isDeleted

def coreUser : DocumentWrite Vector → Option Int
  | .core _ event => some event.userId
  | .backfill reads userId row =>
    (reads.parseDate row.date).map fun _ => userIdOr row.userId userId
  | _ => none

def isDelete : DocumentWrite Vector → Bool
  | .deleted _ => true
  | _ => false

/-- All core writes carry one user. -/
def OneOwner (owner : Int) (writes : List (DocumentWrite Vector)) : Prop :=
  ∀ write ∈ writes, ∀ userId, coreUser write = some userId → userId = owner

def hasCore (writes : List (DocumentWrite Vector)) : Bool :=
  writes.any fun write => (coreUser write).isSome

def hasDelete (writes : List (DocumentWrite Vector)) : Bool := writes.any isDelete

/-- What the document says of the writes before it. The core guard is set with the core
fields, so a live document without them accepts any core write. -/
structure Shows (owner : Int) (before : List (DocumentWrite Vector))
    (doc : Option TransactionDoc) : Prop where
  deleted : doc.any TransactionDoc.isDeleted = hasDelete before
  core : hasDelete before = false → (doc.bind TransactionDoc.core).map CoreFields.userId =
      if hasCore before then some owner else none
  guarded : (doc.bind TransactionDoc.coreEventTs).isSome → (doc.bind TransactionDoc.core).isSome

/-- A write that is no core write and no delete, and touches neither group. -/
structure Leaves (before after : Option TransactionDoc) : Prop where
  deleted : after.any TransactionDoc.isDeleted = before.any TransactionDoc.isDeleted
  core : after.bind TransactionDoc.core = before.bind TransactionDoc.core
  guard : after.bind TransactionDoc.coreEventTs = before.bind TransactionDoc.coreEventTs

theorem leaves_refl (doc : Option TransactionDoc) : Leaves doc doc := ⟨rfl, rfl, rfl⟩

theorem has_delete_snoc (before : List (DocumentWrite Vector)) (write : DocumentWrite Vector) :
    hasDelete (before ++ [write]) = (hasDelete before || isDelete write) := by
  simp [hasDelete]

theorem has_core_snoc (before : List (DocumentWrite Vector)) (write : DocumentWrite Vector) :
    hasCore (before ++ [write]) = (hasCore before || (coreUser write).isSome) := by
  simp [hasCore]

variable {owner : Int} {before : List (DocumentWrite Vector)} {doc : Option TransactionDoc}
  {write : DocumentWrite Vector} {stored : Option (EmbeddedDoc Vector)}
  {writes : List (DocumentWrite Vector)}

theorem leaves_shows {next : Option TransactionDoc} (shows' : Shows owner before doc)
    (leaves : Leaves doc next) (noDelete : isDelete write = false) (noCore : coreUser write = none) : Shows owner (before ++ [write]) next := by
  have sameDelete : hasDelete (before ++ [write]) = hasDelete before := by
    rw [has_delete_snoc, noDelete, Bool.or_false]
  have sameCore : hasCore (before ++ [write]) = hasCore before := by
    rw [has_core_snoc, noCore]
    exact Bool.or_false _
  refine ⟨?_, ?_, ?_⟩
  · rw [sameDelete, leaves.deleted]
    exact shows'.deleted
  · rw [sameDelete, sameCore, leaves.core]
    exact shows'.core
  · rw [leaves.guard, leaves.core]
    exact shows'.guarded

theorem categorized_leaves (transactionId : Int) (event : CategorizedEvent)
    (doc : Option TransactionDoc) : Leaves doc (handleCategorized transactionId event doc) := by
  have script (found : TransactionDoc) : Leaves (some found)
      (some ((categorizationScript (categorizationParams event) found).getD found)) := by
    unfold categorizationScript
    split
    · exact leaves_refl _
    · split
      · exact ⟨rfl, rfl, rfl⟩
      · exact leaves_refl _
  cases doc with
  | none => exact ⟨rfl, rfl, rfl⟩
  | some found => exact script found

theorem rename_category_leaves (categoryId : Int) (name : String) (conflict : Bool)
    (doc : Option TransactionDoc) :
    Leaves doc (renamed conflict (renameCategory categoryId name) doc) := by
  unfold renamed
  split
  · exact leaves_refl doc
  · cases doc with
    | none => exact leaves_refl none
    | some =>
      rw [Option.map_some]
      unfold renameCategory
      split
      · exact ⟨rfl, rfl, rfl⟩
      · exact leaves_refl _

theorem rename_subcategory_leaves (subcategoryId : Int) (name : String) (conflict : Bool)
    (doc : Option TransactionDoc) :
    Leaves doc (renamed conflict (renameSubcategory subcategoryId name) doc) := by
  unfold renamed
  split
  · exact leaves_refl doc
  · cases doc with
    | none => exact leaves_refl none
    | some =>
      rw [Option.map_some]
      unfold renameSubcategory
      split
      · exact ⟨rfl, rfl, rfl⟩
      · exact leaves_refl _

theorem embedding_leaves (vector : Vector) (eventTs : Int)
    (stored : Option (EmbeddedDoc Vector)) :
    getProjection (updateEmbedding vector eventTs stored) = getProjection stored := by
  cases stored with
  | none => rfl
  | some =>
    unfold updateEmbedding embeddingScript getProjection
    rw [Option.map_some, Option.map_some, Option.map_some]
    split
    · rfl
    · split
      · rfl
      · rfl

theorem deleted_shows (shows' : Shows owner before doc) (transactionId timestamp : Int) :
    Shows owner (before ++ [.deleted timestamp]) (handleDeleted transactionId timestamp doc) := by
  have deleted : hasDelete (before ++ [.deleted timestamp]) = true := by
    rw [has_delete_snoc]
    exact Bool.or_true _
  refine ⟨?_, ?_, ?_⟩
  · rw [deleted]
    rfl
  · rw [deleted]
    intro live
    cases live
  · cases doc with
    | none => exact fun guard => guard
    | some => exact shows'.guarded

theorem core_shows (shows' : Shows owner before doc) (transactionId : Int) {params : CoreParams}
    (user : coreUser write = some params.core.userId) (owned : params.core.userId = owner)
    (noDelete : isDelete write = false) :
    Shows owner (before ++ [write]) (upsertCore transactionId params doc) := by
  have sameDelete : hasDelete (before ++ [write]) = hasDelete before := by
    rw [has_delete_snoc, noDelete, Bool.or_false]
  have withCore : hasCore (before ++ [write]) = true := by
    rw [has_core_snoc, user]
    exact Bool.or_true _
  cases doc with
  | none =>
    have none := shows'.deleted
    refine ⟨?_, ?_, ?_⟩
    · rw [sameDelete]
      exact none
    · rw [withCore, if_pos rfl, ← owned]
      exact fun _ => rfl
    · exact fun _ => rfl
  | some found =>
    have status : found.isDeleted = hasDelete before := shows'.deleted
    change Shows owner _ (some ((coreScript params found).getD found))
    unfold coreScript
    by_cases deleted : found.isDeleted = true
    · rw [if_pos deleted]
      refine ⟨?_, ?_, shows'.guarded⟩
      · rw [sameDelete]
        exact status
      · rw [sameDelete, ← status, deleted]
        intro live
        cases live
    · rw [if_neg deleted]
      by_cases admitted : admits found.coreEventTs params.eventTs = true
      · rw [if_pos admitted]
        refine ⟨?_, ?_, ?_⟩
        · rw [sameDelete, ← status]
          dsimp only
          split
          · rfl
          · rfl
        · rw [withCore, if_pos rfl, ← owned]
          intro _
          dsimp only
          split
          · rfl
          · rfl
        · intro _
          dsimp only
          split
          · rfl
          · rfl
      · rw [if_neg admitted]
        have guarded : found.core.isSome = true := by
          apply shows'.guarded
          change found.coreEventTs.isSome = true
          cases guard : found.coreEventTs with
          | none =>
            rw [guard] at admitted
            exact absurd rfl admitted
          | some => rfl
        have core := shows'.core
        refine ⟨?_, ?_, shows'.guarded⟩
        · rw [sameDelete]
          exact status
        · rw [sameDelete, withCore, if_pos rfl]
          intro live
          have found' := core live
          change found.core.map CoreFields.userId = _ at found'
          change found.core.map CoreFields.userId = _
          obtain ⟨_, isCore⟩ := Option.isSome_iff_exists.mp guarded
          rw [isCore] at found' ⊢
          split at found'
          · exact found'
          · cases found'

theorem projection_keep_vector (change : Option TransactionDoc → Option TransactionDoc)
    (stored : Option (EmbeddedDoc Vector)) :
    getProjection (keepVector change stored) = change (getProjection stored) := by
  unfold keepVector
  cases change (getProjection stored) with
  | none | some => rfl

theorem write_shows (transactionId : Int) (write : DocumentWrite Vector)
    (owned : ∀ userId, coreUser write = some userId → userId = owner)
    (shows' : Shows owner before (getProjection stored)) :
    Shows owner (before ++ [write])
      (getProjection (writeDocument transactionId stored write)) := by
  cases write with
  | core reads event =>
    rw [writeDocument, projection_keep_vector]
    exact core_shows shows' transactionId rfl (owned event.userId rfl) rfl
  | categorized event =>
    rw [writeDocument, projection_keep_vector]
    exact leaves_shows shows' (categorized_leaves transactionId event _) rfl rfl
  | deleted timestamp =>
    rw [writeDocument, projection_keep_vector]
    exact deleted_shows shows' transactionId timestamp
  | embedding =>
    rw [writeDocument, embedding_leaves]
    exact leaves_shows shows' (leaves_refl _) rfl rfl
  | renamedCategory categoryId name conflict =>
    rw [writeDocument, projection_keep_vector]
    exact leaves_shows shows' (rename_category_leaves categoryId name conflict _) rfl rfl
  | renamedSubcategory subcategoryId name conflict =>
    rw [writeDocument, projection_keep_vector]
    exact leaves_shows shows' (rename_subcategory_leaves subcategoryId name conflict _) rfl rfl
  | backfill reads userId row =>
    rw [writeDocument, projection_keep_vector]
    unfold backfillRow
    cases parsed : reads.parseDate row.date with
    | none =>
      exact leaves_shows shows' (leaves_refl _) rfl (by simp [coreUser, parsed])
    | some txDate =>
      have user : coreUser (.backfill reads userId row : DocumentWrite Vector) =
          some (backfillParams reads userId row txDate).core.userId := by
        simp [coreUser, parsed, backfillParams]
      exact core_shows shows' transactionId user (owned _ user) rfl

theorem written_shows (transactionId : Int) (oneOwner : OneOwner owner writes) :
    Shows owner writes (getProjection (writtenDocument transactionId writes)) := by
  have initial : Shows owner ([] : List (DocumentWrite Vector)) none :=
    ⟨rfl, fun _ => rfl, fun guard => guard⟩
  exact @run_history_keeps _ _ (writeDocument transactionId)
    (fun before stored => Shows owner before (getProjection stored)) none initial writes
    fun _ _ write member shows' => write_shows transactionId write (oneOwner write member) shows'

theorem passes_base_filters_iff (userId : Int) (stored : Option (EmbeddedDoc Vector)) :
    passesBaseFilters userId stored = true ↔
      ((getProjection stored).bind TransactionDoc.core).map CoreFields.userId = some userId ∧
        (getProjection stored).any TransactionDoc.isDeleted = false := by
  cases stored with
  | none => simp [passesBaseFilters, getProjection]
  | some doc =>
    unfold passesBaseFilters getProjection
    rw [Option.any_some, Option.map_some, Option.bind_some, Option.any_some,
      Bool.and_eq_true, Bool.not_eq_true']
    cases doc.core with
    | none => simp
    | some => simp

theorem has_core_iff :
    hasCore writes = true ↔ ∃ write ∈ writes, ∃ userId, coreUser write = some userId := by
  unfold hasCore
  simp only [any_eq_true, Option.isSome_iff_exists]

theorem shown_iff (userId : Int) (oneOwner : OneOwner owner before)
    (shows' : Shows owner before (getProjection stored)) :
    passesBaseFilters userId stored = true ↔ (∃ write ∈ before, coreUser write = some userId) ∧
        ∀ write ∈ before, isDelete write = false := by
  have noDelete : (∀ write ∈ before, isDelete write = false) ↔ hasDelete before = false := by
    unfold hasDelete
    rw [any_eq_false]
    simp
  rw [passes_base_filters_iff, shows'.deleted, noDelete]
  refine and_congr_left fun live => ?_
  rw [shows'.core live]
  constructor
  · intro isOwner
    split at isOwner
    · next core =>
      cases isOwner
      obtain ⟨write, member, other, user⟩ := has_core_iff.mp core
      rw [oneOwner write member other user] at user
      exact ⟨write, member, user⟩
    · cases isOwner
  · rintro ⟨write, member, user⟩
    rw [if_pos (has_core_iff.mpr ⟨write, member, userId, user⟩), oneOwner write member userId user]

/-- After every prefix of the writes the document is shown to a user exactly when the
prefix has a core write for this user and no delete; a deleted document stays deleted,
and without a core write the document is shown to nobody. -/
theorem shown_exactly_while_live {owner : Int} (transactionId : Int)
    (writes : List (DocumentWrite Vector)) (oneOwner : OneOwner owner writes)
    {before : List (DocumentWrite Vector)} (isPrefix : before <+: writes) :
    (∀ userId, passesBaseFilters userId (writtenDocument transactionId before) = true ↔
      (∃ write ∈ before, coreUser write = some userId) ∧ ∀ write ∈ before, isDelete write = false) ∧
    ((∃ write ∈ before, isDelete write = true) →
      (getProjection (writtenDocument transactionId before)).any TransactionDoc.isDeleted = true) ∧
    ((∀ write ∈ before, coreUser write = none) →
      ∀ userId, passesBaseFilters userId (writtenDocument transactionId before) = false) := by
  have owned : OneOwner owner before := fun write member =>
    oneOwner write (isPrefix.subset member)
  have shows' := written_shows transactionId owned
  have shown (userId : Int) := shown_iff userId owned shows'
  refine ⟨shown, ?_, ?_⟩
  · rintro ⟨write, member, deletes⟩
    rw [shows'.deleted]
    exact any_eq_true.mpr ⟨write, member, deletes⟩
  · intro noCore userId
    rw [Bool.eq_false_iff]
    intro isShown
    obtain ⟨⟨write, member, user⟩, _⟩ := (shown userId).mp isShown
    rw [noCore write member] at user
    cases user

def lateCore : CoreEvent where
  accountId := 1
  userId := 7
  amount := "125.50"
  transactionType := "EXPENSE"
  txDate := Convergence.purchaseDate
  timestamp := 10

def deletedFirst : List (DocumentWrite Unit) :=
  [.categorized { categoryId := 3, subcategoryId := 12, timestamp := 30 },
   .deleted 20, .core Convergence.plainReads lateCore]

theorem deleted_first_one_owner : OneOwner 7 deletedFirst := by
  intro _ member _ user
  simp only [deletedFirst, mem_cons, not_mem_nil, or_false] at member
  rcases member with rfl | rfl | rfl
  · cases user
  · cases user
  · cases user
    rfl

theorem deleted_first_hidden : passesBaseFilters 7 (writtenDocument 1 deletedFirst) = true ↔
      (∃ write ∈ deletedFirst, coreUser write = some 7) ∧
        ∀ write ∈ deletedFirst, isDelete write = false :=
  (shown_exactly_while_live 1 deletedFirst deleted_first_one_owner (prefix_refl _)).1 7

end FinanceTracker.Analytics.Visibility
