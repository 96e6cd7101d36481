import FinanceTracker.Library.Runs
import FinanceTracker.Shared.TransactionEvents
import FinanceTracker.Transaction.Domain

/-!
# Who writes the category of a row

`update_transaction` of the service and `_apply_categorization` of the
categorized consumer, on the row of one transaction. A manual edit pins the tier
to `manual`, and the consumer leaves a pinned row alone.
-/

namespace FinanceTracker.Transaction.Categorization

open Library Calendar Runs Shared.TransactionEvents Domain

/-- An optional field of a request: absent, an explicit null, or a value. -/
abbrev Field (α : Type) := Option (Option α)

structure UpdateTransactionDTO where
  accountId : Field Int := none
  accountName : Field String := none
  categoryId : Field Int := none
  categoryName : Field String := none
  subcategoryId : Field Int := none
  amount : Field Int := none
  transactionType : Field TransactionType := none
  description : Field String := none
  date : Field Date := none
  deriving DecidableEq

/-- The `fields` dictionary: the request plus the two keys the service adds. -/
structure UpdateFields extends UpdateTransactionDTO where
  subcategoryName : Field String := none
  categorizationTier : Field String := none
  deriving DecidableEq

def UpdateTransactionDTO.isEmpty (dto : UpdateTransactionDTO) : Bool := dto = {}

def resolveCategoryName (copies : ReadCopies) (categoryId : Option Int)
    (fallback : Option String) : Option String :=
  match categoryId with
  | none => fallback
  | some categoryId => (copies.categoryName categoryId).or fallback

def isCategoryCorrection (dto : UpdateTransactionDTO) : Bool :=
  dto.categoryId.isSome || dto.categoryName.isSome || dto.subcategoryId.isSome

/-- A category edit pins the tier; a changed parent clears the subcategory unless
one is chosen in the same request, and takes its name from the read copy. -/
def pinCategory (copies : ReadCopies) (existing : Transaction) (dto : UpdateTransactionDTO) :
    UpdateFields :=
  let fields : UpdateFields := { toUpdateTransactionDTO := dto }
  if isCategoryCorrection dto then
    let fields := { fields with categorizationTier := some (some "manual") }
    match dto.categoryId with
    | none => fields
    | some categoryId =>
      if categoryId ≠ existing.categoryId then
        { fields with
          subcategoryId := some (fields.subcategoryId.getD none)
          subcategoryName := some none
          categoryName :=
            some (resolveCategoryName copies categoryId (fields.categoryName.getD none)) }
      else fields
  else fields

/-- A chosen subcategory must belong to the effective category and gives its
name; an explicit null clears both. -/
def checkSubcategory (copies : ReadCopies) (existing : Transaction) (fields : UpdateFields) :
    Except TransactionError UpdateFields :=
  match fields.subcategoryId with
  | none => .ok fields
  | some none => .ok { fields with subcategoryName := some none }
  | some (some subcategoryId) =>
    match copies.subcategory subcategoryId with
    | none => .error (.subcategoryNotFound subcategoryId)
    | some subcategory =>
      let effectiveCategoryId := fields.categoryId.getD existing.categoryId
      if some subcategory.categoryId ≠ effectiveCategoryId then
        .error (.subcategoryMismatch subcategory.id effectiveCategoryId)
      else .ok { fields with subcategoryName := some (some subcategory.name) }

def setColumn {α : Type} (field : Field α) (current : α) : Except TransactionError α :=
  match field with
  | none => .ok current
  | some (some value) => .ok value
  | some none => .error (.database "null value in column violates not-null constraint")

/-- The repository's `update`: each key is written; the flush raises on a null in
a mandatory column and on a text that is too long. -/
def writeFields (existing : Transaction) (fields : UpdateFields) :
    Except TransactionError Transaction := do
  let accountId ← setColumn fields.accountId existing.accountId
  let accountName ← setColumn fields.accountName existing.accountName
  let amount ← setColumn fields.amount existing.amount
  let transactionType ← setColumn fields.transactionType existing.transactionType
  let date ← setColumn fields.date existing.date
  let updated := { existing with
    accountId := accountId
    accountName := accountName
    categoryId := fields.categoryId.getD existing.categoryId
    categoryName := fields.categoryName.getD existing.categoryName
    amount := amount
    transactionType := transactionType
    description := fields.description.getD existing.description
    date := date
    subcategoryId := fields.subcategoryId.getD existing.subcategoryId
    subcategoryName := fields.subcategoryName.getD existing.subcategoryName
    categorizationTier := fields.categorizationTier.getD existing.categorizationTier }
  if fitsColumns updated then return updated
  else throw (.database "value too long for type character varying")

/-- `update_transaction` on the row; `none` when the request has no fields and
nothing is written or published. -/
def updateTransaction (copies : ReadCopies) (existing : Transaction) (userId : Int)
    (dto : UpdateTransactionDTO) : Except TransactionError (Option Transaction) :=
  if existing.userId ≠ userId || existing.deleted then
    .error (.transactionNotFound existing.id)
  else if dto.isEmpty then .ok none
  else do
    let fields ← checkSubcategory copies existing (pinCategory copies existing dto)
    let updated ← writeFields existing fields
    return some updated

def coreEvent (row : Transaction) (timestamp : Int) : CoreEvent where
  accountId := row.accountId
  userId := row.userId
  amount := amountText row.amount
  transactionType := row.transactionType.value
  txDate := row.date
  description := row.description.getD ""
  categoryId := row.categoryId
  category := row.categoryName.getD ""
  subcategoryId := row.subcategoryId
  categorizationTier := row.categorizationTier
  categorizationConfidence := row.categorizationConfidence
  timestamp := timestamp

/-- `payload.get("category_name") or None`, else the local copy. -/
def parentName (copies : ReadCopies) (event : CategorizedEvent) : Option String :=
  (orNone event.categoryName).or (copies.categoryName event.categoryId)

def applyCategorization (tx : Transaction) (event : CategorizedEvent)
    (parentName : Option String) : Transaction :=
  if tx.categorizationTier = some "manual" then tx
  else
    let newSubcategoryName := orNone event.subcategoryName
    let parentName := parentName.bind orNone
    let targetCategoryName := parentName.or tx.categoryName
    if tx.subcategoryId = some event.subcategoryId && tx.categorizationTier = some event.tier &&
        tx.categorizationConfidence = some event.confidence &&
        tx.categoryName = targetCategoryName &&
        (newSubcategoryName.isNone || tx.subcategoryName = newSubcategoryName) &&
        tx.categoryId = some event.categoryId then tx
    else
      { tx with
        subcategoryId := some event.subcategoryId
        categorizationTier := some event.tier
        categorizationConfidence := some event.confidence
        categoryId := some event.categoryId
        categoryName := targetCategoryName
        subcategoryName := newSubcategoryName.or tx.subcategoryName }

/-- The consumer's handling of one event for an existing row; a soft-deleted row
is left alone. -/
def consumerHandle (copies : ReadCopies) (tx : Transaction) (event : CategorizedEvent) :
    Transaction :=
  if tx.deleted then tx else applyCategorization tx event (parentName copies event)

structure CategoryChoice where
  categoryId : Option Int
  subcategoryId : Option Int
  tier : Option String
  deriving DecidableEq

def rowChoice (row : Transaction) : CategoryChoice where
  categoryId := row.categoryId
  subcategoryId := row.subcategoryId
  tier := row.categorizationTier

variable {tx existing : Transaction} {copies : ReadCopies}

theorem apply_categorization_manual (event : CategorizedEvent) (parentName : Option String)
    (pinned : tx.categorizationTier = some "manual") :
    applyCategorization tx event parentName = tx := by
  unfold applyCategorization
  rw [if_pos pinned]

/-- A row that is not pinned takes the choice of the event, also when it is left
alone because it already holds it. -/
theorem apply_categorization_choice (event : CategorizedEvent) (parentName : Option String)
    (unpinned : tx.categorizationTier ≠ some "manual") :
    rowChoice (applyCategorization tx event parentName) =
      ⟨some event.categoryId, some event.subcategoryId, some event.tier⟩ := by
  unfold applyCategorization
  rw [if_neg unpinned]
  dsimp only
  split
  · next same =>
    simp only [Bool.and_eq_true, decide_eq_true_eq] at same
    simp [rowChoice, same]
  · rfl

theorem consumer_handle_live (live : tx.deleted = false) (event : CategorizedEvent) :
    (consumerHandle copies tx event).deleted = false := by
  unfold consumerHandle applyCategorization
  rw [if_neg (by simp [live])]
  dsimp only
  split
  · exact live
  · split
    · exact live
    · exact live

theorem write_fields_ok {written : Transaction} {fields : UpdateFields}
    (wrote : writeFields existing fields = .ok written) :
    ∃ accountId accountName amount transactionType date,
      written = { existing with
        accountId := accountId
        accountName := accountName
        categoryId := fields.categoryId.getD existing.categoryId
        categoryName := fields.categoryName.getD existing.categoryName
        amount := amount
        transactionType := transactionType
        description := fields.description.getD existing.description
        date := date
        subcategoryId := fields.subcategoryId.getD existing.subcategoryId
        subcategoryName := fields.subcategoryName.getD existing.subcategoryName
        categorizationTier := fields.categorizationTier.getD existing.categorizationTier } := by
  unfold writeFields at wrote
  obtain ⟨accountId, _, wrote⟩ := bind_eq_ok.mp wrote
  obtain ⟨accountName, _, wrote⟩ := bind_eq_ok.mp wrote
  obtain ⟨amount, _, wrote⟩ := bind_eq_ok.mp wrote
  obtain ⟨transactionType, _, wrote⟩ := bind_eq_ok.mp wrote
  obtain ⟨date, _, wrote⟩ := bind_eq_ok.mp wrote
  dsimp only at wrote
  split at wrote
  · cases wrote
    exact ⟨accountId, accountName, amount, transactionType, date, rfl⟩
  · contradiction

theorem update_transaction_ok {updated : Transaction} {userId : Int} {dto : UpdateTransactionDTO}
    (returned : updateTransaction copies existing userId dto = .ok (some updated)) :
    existing.deleted = false ∧ ∃ fields,
      checkSubcategory copies existing (pinCategory copies existing dto) = .ok fields ∧
        writeFields existing fields = .ok updated := by
  unfold updateTransaction at returned
  split at returned
  · contradiction
  · next present =>
    simp only [Bool.or_eq_true, not_or, Bool.not_eq_true] at present
    split at returned
    · cases returned
    · obtain ⟨fields, checked, returned⟩ := bind_eq_ok.mp returned
      obtain ⟨_, wrote, returned⟩ := bind_eq_ok.mp returned
      cases returned
      exact ⟨present.2, fields, checked, wrote⟩

theorem update_transaction_live {updated : Transaction} {userId : Int} {dto : UpdateTransactionDTO}
    (returned : updateTransaction copies existing userId dto = .ok (some updated)) :
    updated.deleted = false := by
  obtain ⟨live, _, _, wrote⟩ := update_transaction_ok returned
  obtain ⟨_, _, _, _, _, rfl⟩ := write_fields_ok wrote
  exact live

end FinanceTracker.Transaction.Categorization
