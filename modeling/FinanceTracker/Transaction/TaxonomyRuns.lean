import FinanceTracker.Transaction.BulkService

/-!
# The four writers of categories on the whole table

`create_transaction`, `bulk_import`, `update_transaction` and the categorized
consumer, with read copies that do not change. An operation that raises leaves the
table as it was; any other leaves the old rows and those it wrote, so a property of
rows holds after it as soon as it holds of the written ones.
-/

namespace FinanceTracker.Transaction.TaxonomyRuns

open Library.Runs Shared.TransactionEvents Domain List
open BulkImport (TransactionDb NewTransaction createRow bulkCreate
  resolveNames slotTaken)
open BulkService (BulkCreateTransactionDTO)
open Transaction.Categorization Chunking Creation
open ImportedRows (bulk_create_inserts)

/-- The fields of a `transaction.categorized` payload that the handler reads. A missing
name, tier or confidence is the empty text. -/
structure CategorizedPayload where
  categoryId : Option Int := none
  categoryName : String := ""
  subcategoryId : Option Int := none
  subcategoryName : String := ""
  tier : String := ""
  confidence : String := ""
  deriving DecidableEq

def payloadParentName (copies : ReadCopies) (payload : CategorizedPayload) : Option String :=
  (orNone payload.categoryName).or (payload.categoryId.bind copies.categoryName)

def applyPayload (tx : Transaction) (payload : CategorizedPayload) (parentName : Option String) :
    Transaction :=
  if tx.categorizationTier = some "manual" then tx
  else
    let newSubcategoryName := orNone payload.subcategoryName
    let parentName := parentName.bind orNone
    let targetCategoryName := parentName.or tx.categoryName
    if tx.subcategoryId = payload.subcategoryId && tx.categorizationTier = some payload.tier &&
        tx.categorizationConfidence = some payload.confidence &&
        tx.categoryName = targetCategoryName &&
        (newSubcategoryName.isNone || tx.subcategoryName = newSubcategoryName) &&
        (payload.categoryId.isNone || tx.categoryId = payload.categoryId) then tx
    else
      { tx with
        subcategoryId := payload.subcategoryId
        categorizationTier := some payload.tier
        categorizationConfidence := some payload.confidence
        categoryId := payload.categoryId.or tx.categoryId
        categoryName := targetCategoryName
        subcategoryName := newSubcategoryName.or tx.subcategoryName }

variable {tx updated : Transaction} {transactionId : Nat} {dto : UpdateTransactionDTO}
  {next : TransactionDb} {property : Transaction → Prop} {fields : UpdateFields}

theorem apply_payload_pinned (payload : CategorizedPayload) (parentName : Option String)
    (pinned : tx.categorizationTier = some "manual") :
    applyPayload tx payload parentName = tx := by
  unfold applyPayload
  rw [if_pos pinned]

structure RowTaxonomy where
  categoryId : Option Int
  categoryName : Option String
  subcategoryId : Option Int
  subcategoryName : Option String
  deriving DecidableEq

def rowTaxonomy (row : Transaction) : RowTaxonomy where
  categoryId := row.categoryId
  categoryName := row.categoryName
  subcategoryId := row.subcategoryId
  subcategoryName := row.subcategoryName

/-- What the consumer makes of a row that is not pinned, also when it leaves the row
alone because nothing differs. -/
theorem apply_payload_taxonomy (payload : CategorizedPayload) (parentName : Option String)
    (unpinned : tx.categorizationTier ≠ some "manual") :
    rowTaxonomy (applyPayload tx payload parentName) =
      { categoryId := payload.categoryId.or tx.categoryId
        categoryName := (parentName.bind orNone).or tx.categoryName
        subcategoryId := payload.subcategoryId
        subcategoryName := (orNone payload.subcategoryName).or tx.subcategoryName } := by
  unfold applyPayload
  rw [if_neg unpinned]
  dsimp only
  split
  · next same =>
    simp only [Bool.and_eq_true, Bool.or_eq_true, decide_eq_true_eq,
      Option.isNone_iff_eq_none] at same
    obtain ⟨⟨⟨⟨⟨subcategory, _⟩, _⟩, name⟩, subcategoryName⟩, category⟩ := same
    unfold rowTaxonomy
    rw [← name, ← subcategory]
    congr 1
    · rcases category with none | same
      · rw [none, Option.none_or]
      · rw [← same, Option.or_self]
    · rcases subcategoryName with none | same
      · rw [none, Option.none_or]
      · rw [← same, Option.or_self]
  · rfl

/-- `consistent` is what is assumed of the events. -/
inductive Operation (consistent : CategorizedPayload → Prop) where
  | create (userId : Int) (dto : CreateTransactionDTO) (answer : Option CategorizationResult)
  | bulk (userId : Int) (dto : BulkCreateTransactionDTO)
      (answers : List (Option CategorizationResult))
  | update (transactionId : Nat) (userId : Int) (dto : UpdateTransactionDTO)
  | categorized (transactionId : Nat) (payload : CategorizedPayload) (holds : consistent payload)

variable {consistent : CategorizedPayload → Prop}

def replaceRow (db : TransactionDb) (row : Transaction) : TransactionDb :=
  { db with
    transactions := db.transactions.map fun stored => if stored.id = row.id then row else stored }

/-- The row that `find_by_id` of the repository reads. -/
def findById (db : TransactionDb) (transactionId : Nat) (userId : Int) : Option Transaction :=
  db.transactions.find? fun row =>
    row.id = transactionId && row.userId = userId && !row.deleted

/-- The row that the consumer reads, and goes on with when it is live. -/
def findForConsumer (db : TransactionDb) (transactionId : Nat) : Option Transaction :=
  (db.transactions.find? fun row => row.id = transactionId).filter fun row => !row.deleted

/-- The rows an operation inserts or writes back. -/
def written (copies : ReadCopies) (db : TransactionDb) : Operation consistent → List Transaction
  | .create userId dto answer =>
    match createTransaction copies db userId dto answer with
    | .ok (_, created) => [created]
    | .error _ => []
  | .bulk userId dto answers =>
    match bulkImportCategorized copies db userId dto.items dto.skipDuplicates answers with
    | .ok (_, created) => created
    | .error _ => []
  | .update transactionId userId dto =>
    match findById db transactionId userId with
    | none => []
    | some existing =>
      match updateTransaction copies existing userId dto with
      | .ok (some updated) => [updated]
      | _ => []
  | .categorized transactionId payload _ =>
    match findForConsumer db transactionId with
    | none => []
    | some existing =>
      let row := applyPayload existing payload (payloadParentName copies payload)
      if fitsColumns row then [row] else []

def step (copies : ReadCopies) (db : TransactionDb) (operation : Operation consistent) :
    TransactionDb :=
  match operation with
  | .create userId dto answer =>
    match createTransaction copies db userId dto answer with
    | .ok (next, _) => next
    | .error _ => db
  | .bulk userId dto answers =>
    match bulkImportCategorized copies db userId dto.items dto.skipDuplicates answers with
    | .ok (next, _) => next
    | .error _ => db
  | .update transactionId userId dto =>
    match findById db transactionId userId with
    | none => db
    | some existing =>
      match updateTransaction copies existing userId dto with
      | .ok (some updated) => replaceRow db updated
      | _ => db
  | .categorized transactionId payload _ =>
    match findForConsumer db transactionId with
    | none => db
    | some existing =>
      let row := applyPayload existing payload (payloadParentName copies payload)
      if fitsColumns row then replaceRow db row else db

variable {db : TransactionDb} {userId : Int} {row existing : Transaction} {copies : ReadCopies}

theorem find_by_id_some (found : findById db transactionId userId = some row) :
    row ∈ db.transactions :=
  mem_of_find?_eq_some found

theorem find_for_consumer_some (found : findForConsumer db transactionId = some row) :
    row ∈ db.transactions :=
  mem_of_find?_eq_some (Option.filter_eq_some_iff.mp found).1

theorem update_keeps_id
    (returned : updateTransaction copies existing userId dto = .ok (some updated)) :
    updated.id = existing.id := by
  obtain ⟨_, _, _, wrote⟩ := update_transaction_ok returned
  obtain ⟨_, _, _, _, _, rfl⟩ := write_fields_ok wrote
  rfl

theorem apply_payload_id (tx : Transaction) (payload : CategorizedPayload)
    (parentName : Option String) : (applyPayload tx payload parentName).id = tx.id := by
  unfold applyPayload
  split
  · rfl
  · dsimp only
    split
    · rfl
    · rfl

theorem mem_replace_row {old : Transaction} (member : old ∈ db.transactions)
    (sameId : row.id = old.id) :
    row ∈ (replaceRow db row).transactions ∧
      ∀ stored ∈ (replaceRow db row).transactions, stored ∈ db.transactions ∨ stored = row := by
  constructor
  · exact mem_map.mpr ⟨old, member, if_pos sameId.symm⟩
  · intro _ inNext
    obtain ⟨_, beforeIn, rfl⟩ := mem_map.mp inNext
    split
    · exact Or.inr rfl
    · exact Or.inl beforeIn

theorem create_transaction_ok {dto : CreateTransactionDTO} {answer : Option CategorizationResult}
    {created : Transaction}
    (returned : createTransaction copies db userId dto answer = .ok (next, created)) :
    created = (createdRow copies userId dto answer).toTransaction db.nextId ∧
      next.transactions = db.transactions ++ [created] := by
  unfold createTransaction at returned
  obtain ⟨⟨_, _⟩, isCreated, returned⟩ := bind_eq_ok.mp returned
  obtain ⟨_, returned⟩ := rest_ok returned
  cases returned
  unfold createRow at isCreated
  split at isCreated
  · cases isCreated
  · cases isCreated
    exact ⟨rfl, rfl⟩

def importedRows (copies : ReadCopies) (db : TransactionDb) (userId : Int)
    (dto : BulkCreateTransactionDTO) (answers : List (Option CategorizationResult)) :
    List NewTransaction :=
  BulkService.completedRows copies answers (rowsToCreate db userId dto.items dto.skipDuplicates)

theorem bulk_import_ok {dto : BulkCreateTransactionDTO}
    {answers : List (Option CategorizationResult)} {created : List Transaction}
    (returned : bulkImportCategorized copies db userId dto.items dto.skipDuplicates answers =
      .ok (next, created)) :
    created = numbered db.nextId (importedRows copies db userId dto answers) ∧
      next.transactions = db.transactions ++ created := by
  unfold bulkImportCategorized at returned
  obtain ⟨⟨_, _⟩, areCreated, returned⟩ := bind_eq_ok.mp returned
  obtain ⟨_, returned⟩ := rest_ok returned
  cases returned
  obtain ⟨inserted, isNumbered⟩ := bulk_create_inserts areCreated
  refine ⟨isNumbered, ?_⟩
  rw [inserted, isNumbered]
  rfl

/-- After an operation the table has the written rows, and besides them old ones only. -/
theorem step_rows (copies : ReadCopies) (db : TransactionDb) (operation : Operation consistent) :
    (∀ row ∈ written copies db operation, row ∈ (step copies db operation).transactions) ∧
      ∀ row ∈ (step copies db operation).transactions,
        row ∈ db.transactions ∨ row ∈ written copies db operation := by
  have unchanged : (∀ row ∈ ([] : List Transaction), row ∈ db.transactions) ∧
      ∀ row ∈ db.transactions, row ∈ db.transactions ∨ row ∈ ([] : List Transaction) :=
    ⟨fun row none => absurd none not_mem_nil, fun row member => Or.inl member⟩
  cases operation with
  | create userId dto answer =>
    simp only [written, step]
    cases returned : createTransaction copies db userId dto answer with
    | error => exact unchanged
    | ok =>
      dsimp only
      rw [(create_transaction_ok returned).2]
      exact ⟨fun row member => mem_append_right _ member,
        fun row member => mem_append.mp member⟩
  | bulk userId dto answers =>
    simp only [written, step]
    cases returned :
        bulkImportCategorized copies db userId dto.items dto.skipDuplicates answers with
    | error => exact unchanged
    | ok =>
      dsimp only
      rw [(bulk_import_ok returned).2]
      exact ⟨fun row member => mem_append_right _ member,
        fun row member => mem_append.mp member⟩
  | update =>
    simp only [written, step]
    split
    · exact unchanged
    · next existing found =>
      split
      · next updated returned =>
        obtain ⟨present, others⟩ :=
          mem_replace_row (find_by_id_some found) (update_keeps_id returned)
        exact ⟨by simpa using present, by simpa using others⟩
      · exact unchanged
  | categorized transactionId payload =>
    simp only [written, step]
    split
    · exact unchanged
    · next existing found =>
      split
      · obtain ⟨present, others⟩ :=
          mem_replace_row (find_for_consumer_some found) (apply_payload_id existing payload _)
        exact ⟨by simpa using present, by simpa using others⟩
      · exact unchanged

/-- The property holds of every row of the table. -/
def AllRows (property : Transaction → Prop) (db : TransactionDb) : Prop :=
  ∀ row ∈ db.transactions, property row

theorem step_all_rows_iff (copies : ReadCopies) (before : AllRows property db)
    (operation : Operation consistent) :
    AllRows property (step copies db operation) ↔
      ∀ row ∈ written copies db operation, property row := by
  obtain ⟨present, others⟩ := step_rows copies db operation
  constructor
  · intro after row member
    exact after row (present row member)
  · intro holds row member
    rcases others row member with old | new
    · exact before row old
    · exact holds row new

theorem run_all_rows_iff {condition : TransactionDb → Operation consistent → Prop}
    (copies : ReadCopies)
    (writes : ∀ db operation, AllRows property db →
      ((∀ row ∈ written copies db operation, property row) ↔ condition db operation))
    (initial : AllRows property db) (operations : List (Operation consistent)) :
    (∀ before, before <+: operations → AllRows property (runFrom (step copies) db before)) ↔
      AllSteps (step copies) condition db operations := by
  refine @run_kept_iff _ _ (step copies) condition (fun _ => True) (AllRows property)
    (fun _ _ _ => trivial) ?_ db trivial initial operations
  intro state operation _ kept
  rw [step_all_rows_iff copies kept]
  exact writes state operation kept

/-- The category of the request, or the row's own. -/
def effectiveCategory (existing : Transaction) (dto : UpdateTransactionDTO) : Option Int :=
  dto.categoryId.getD existing.categoryId

/-- The fields after the pinning: either the parent stays and the request's own fields
stand, or it changes and takes the subcategory with it. -/
theorem pin_category_cases (copies : ReadCopies) (existing : Transaction)
    (dto : UpdateTransactionDTO) :
    (pinCategory copies existing dto).categoryId = dto.categoryId ∧
      ((effectiveCategory existing dto = existing.categoryId ∧
          (pinCategory copies existing dto).categoryName = dto.categoryName ∧
          (pinCategory copies existing dto).subcategoryId = dto.subcategoryId ∧
          (pinCategory copies existing dto).subcategoryName = none) ∨
        (effectiveCategory existing dto ≠ existing.categoryId ∧
          (pinCategory copies existing dto).categoryName = some (resolveCategoryName copies
            (effectiveCategory existing dto) (dto.categoryName.getD none)) ∧
          (pinCategory copies existing dto).subcategoryId = some (dto.subcategoryId.getD none) ∧
          (pinCategory copies existing dto).subcategoryName = some none)) := by
  unfold pinCategory effectiveCategory
  cases sent : dto.categoryId with
  | none =>
    dsimp only
    split
    · exact ⟨sent, Or.inl ⟨rfl, rfl, rfl, rfl⟩⟩
    · exact ⟨sent, Or.inl ⟨rfl, rfl, rfl, rfl⟩⟩
  | some categoryId =>
    have correction : isCategoryCorrection dto = true := by simp [isCategoryCorrection, sent]
    dsimp only
    rw [if_pos correction]
    by_cases changed : categoryId ≠ existing.categoryId
    · rw [if_pos changed]
      exact ⟨sent, Or.inr ⟨changed, rfl, rfl, rfl⟩⟩
    · rw [if_neg changed]
      exact ⟨sent, Or.inl ⟨not_not.mp changed, rfl, rfl, rfl⟩⟩

theorem check_subcategory_ok {checked : UpdateFields}
    (passed : checkSubcategory copies existing fields = .ok checked) :
    checked.categoryId = fields.categoryId ∧ checked.categoryName = fields.categoryName ∧
      checked.subcategoryId = fields.subcategoryId ∧
      ((fields.subcategoryId = none ∧ checked.subcategoryName = fields.subcategoryName) ∨
        (fields.subcategoryId = some none ∧ checked.subcategoryName = some none) ∨
        ∃ subcategoryId subcategory, fields.subcategoryId = some (some subcategoryId) ∧
          copies.subcategory subcategoryId = some subcategory ∧
          some subcategory.categoryId = fields.categoryId.getD existing.categoryId ∧
          checked.subcategoryName = some (some subcategory.name)) := by
  unfold checkSubcategory at passed
  split at passed
  · next absent =>
    cases passed
    exact ⟨rfl, rfl, rfl, Or.inl ⟨absent, rfl⟩⟩
  · next cleared =>
    cases passed
    exact ⟨rfl, rfl, rfl, Or.inr (Or.inl ⟨cleared, rfl⟩)⟩
  · next subcategoryId chosen =>
    split at passed
    · contradiction
    · next subcategory known =>
      dsimp only at passed
      split at passed
      · contradiction
      · next belongs =>
        cases passed
        exact ⟨rfl, rfl, rfl,
          Or.inr (Or.inr ⟨subcategoryId, subcategory, chosen, known, not_not.mp belongs, rfl⟩)⟩

theorem write_fields_taxonomy (wrote : writeFields existing fields = .ok row) :
    rowTaxonomy row =
      { categoryId := fields.categoryId.getD existing.categoryId
        categoryName := fields.categoryName.getD existing.categoryName
        subcategoryId := fields.subcategoryId.getD existing.subcategoryId
        subcategoryName := fields.subcategoryName.getD existing.subcategoryName } := by
  obtain ⟨_, _, _, _, _, rfl⟩ := write_fields_ok wrote
  rfl

/-- The four values of an updated row. -/
theorem update_taxonomy
    (returned : updateTransaction copies existing userId dto = .ok (some updated)) :
    updated.categoryId = effectiveCategory existing dto ∧
      ((effectiveCategory existing dto = existing.categoryId ∧
          updated.categoryName = dto.categoryName.getD existing.categoryName) ∨
        (effectiveCategory existing dto ≠ existing.categoryId ∧
          updated.categoryName = resolveCategoryName copies (effectiveCategory existing dto)
            (dto.categoryName.getD none))) ∧
      ((updated.subcategoryId = none ∧ updated.subcategoryName = none) ∨
        (∃ subcategoryId subcategory, updated.subcategoryId = some subcategoryId ∧
          copies.subcategory subcategoryId = some subcategory ∧
          updated.categoryId = some subcategory.categoryId ∧
          updated.subcategoryName = some subcategory.name) ∨
        (updated.categoryId = existing.categoryId ∧ updated.subcategoryId = existing.subcategoryId ∧
          updated.subcategoryName = existing.subcategoryName)) := by
  obtain ⟨_, _, checked, wrote⟩ := update_transaction_ok returned
  obtain ⟨pinnedId, pinned⟩ := pin_category_cases copies existing dto
  obtain ⟨sameId, sameName, sameSub, sub⟩ := check_subcategory_ok checked
  obtain ⟨isId, isName, isSub, isSubName⟩ := RowTaxonomy.mk.inj (write_fields_taxonomy wrote)
  rw [sameId, pinnedId] at isId
  rw [sameName] at isName
  rw [sameSub] at isSub
  refine ⟨isId, ?_, ?_⟩
  · rw [isName]
    rcases pinned with ⟨same, name, _⟩ | ⟨changed, name, _⟩
    · exact Or.inl ⟨same, by rw [name]⟩
    · exact Or.inr ⟨changed, by rw [name]; rfl⟩
  · rcases sub with ⟨absent, subName⟩ | ⟨cleared, subName⟩ |
      ⟨subcategoryId, subcategory, chosen, known, belongs, subName⟩
    · rcases pinned with ⟨same, _, subId, noName⟩ | ⟨_, _, subId, _⟩
      · refine Or.inr (Or.inr ⟨isId.trans same, ?_, ?_⟩)
        · rw [isSub, absent]
          rfl
        · rw [isSubName, subName, noName]
          rfl
      · rw [absent] at subId
        contradiction
    · refine Or.inl ⟨?_, ?_⟩
      · rw [isSub, cleared]
        rfl
      · rw [isSubName, subName]
        rfl
    · refine Or.inr (Or.inl ⟨subcategoryId, subcategory, ?_, known, ?_, ?_⟩)
      · rw [isSub, chosen]
        rfl
      · rw [isId, belongs, pinnedId]
      · rw [isSubName, subName]
        rfl

end FinanceTracker.Transaction.TaxonomyRuns
