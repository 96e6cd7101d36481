import FinanceTracker.Transaction.Creation
import FinanceTracker.Transaction.ImportCounts

/-!
# The bulk import of the service

`bulk_import` on a whole request: the loop, the categorizer, the names, the insert
and the outbox rows of one unit of work. A call that returns has accounted for
every item, and the same call afterwards finds all of them.

The insert trips the unique index on `(account_id, external_id)` on two kinds of
kept items, because the loop asks for a truthy id of the same user where the index
asks for a non-null one of anybody.
-/

namespace FinanceTracker.Transaction.BulkService

open Library Calendar Runs Selection Domain List
open BulkImport (TransactionDb NewTransaction DedupKey ExternalIdKey
  BulkCreateTransactionItemDTO BulkCreateResultDTO ImportLoop itemDedupKey itemExternalIdKey
  rowDedupKey hasDedupKey hasExternalId lookupExisting importItem newRow resolveNames bulkCreate
  createRow slotTaken)
open Chunking
open Creation (CategorizationResult alignAnswers enrichRow checkColumns)
open ImportCounts ImportedRows

/-- The bounds of the request model on one item. -/
def validItem (item : BulkCreateTransactionItemDTO) : Bool :=
  0 < item.accountId && item.accountName.length ≤ 100 &&
    item.categoryId.all (fun categoryId => 0 < categoryId) &&
    item.categoryName.all (fun name => name.length ≤ 100) &&
    1 ≤ item.amount && item.amount ≤ 999999999999 &&
    item.description.all (fun text => text.length ≤ 500) &&
    item.subcategoryId.all (fun subcategoryId => 0 < subcategoryId) &&
    item.categorizationTier.all (fun tier => tier.length ≤ 20) &&
    item.categorizationConfidence.all (fun confidence => confidence.length ≤ 10) &&
    item.externalId.all (fun text => text.length ≤ 128) && item.currency.length = 3

structure BulkCreateTransactionDTO where
  items : List BulkCreateTransactionItemDTO
  skipDuplicates : Bool := true
  nonempty : 1 ≤ items.length
  bounded : items.length ≤ 500
  valid : items.all validItem = true

structure TransactionCreatedEvent where
  transactionId : Nat
  accountId : Int
  userId : Int
  amount : String
  transactionType : String
  txDate : Date
  categoryId : Option Int
  category : String
  description : String
  accountName : String
  subcategoryId : Option Int
  categorizationTier : Option String
  categorizationConfidence : Option String
  externalId : Option String
  currency : String
  deriving DecidableEq

structure OutboxEntry where
  event : TransactionCreatedEvent
  aggregateType : String
  aggregateId : String
  deriving DecidableEq

def createdEntry (userId : Int) (tx : Transaction) : OutboxEntry where
  event :=
    { transactionId := tx.id
      accountId := tx.accountId
      userId := userId
      amount := amountText tx.amount
      transactionType := tx.transactionType.value
      txDate := tx.date
      categoryId := tx.categoryId
      category := tx.categoryName.getD ""
      description := tx.description.getD ""
      accountName := tx.accountName
      subcategoryId := tx.subcategoryId
      categorizationTier := tx.categorizationTier
      categorizationConfidence := tx.categorizationConfidence
      externalId := tx.externalId
      currency := tx.currency }
  aggregateType := "transaction"
  aggregateId := toString tx.id

/-- The two tables that one unit of work commits together. -/
structure ServiceState where
  db : TransactionDb
  outbox : List OutboxEntry
  deriving DecidableEq

def importLoop (db : TransactionDb) (userId : Int) (dto : BulkCreateTransactionDTO) : ImportLoop :=
  if dto.skipDuplicates then
    dto.items.foldl (importItem userId (lookupExisting db userId dto.items)) {}
  else dto.items.foldl (fun loop item => loop.create (newRow userId item)) {}

def completedRows (copies : ReadCopies) (answers : List (Option CategorizationResult))
    (rows : List NewTransaction) : List NewTransaction :=
  (List.zipWith enrichRow rows (alignAnswers rows answers)).map (resolveNames copies)

def createRows (state : ServiceState) (userId : Int) (rows : List NewTransaction) :
    Except TransactionError (ServiceState × List Transaction) := do
  let (db, created) ← bulkCreate state.db rows
  checkColumns created
  return ({ db := db, outbox := state.outbox ++ created.map (createdEntry userId) }, created)

/-- `bulk_import`. Building a row from a validated item raises nothing, so no item
is counted as an error. -/
def bulkImport (copies : ReadCopies) (state : ServiceState) (userId : Int)
    (dto : BulkCreateTransactionDTO) (answers : List (Option CategorizationResult)) :
    Except TransactionError (ServiceState × BulkCreateResultDTO) :=
  let loop := importLoop state.db userId dto
  let rows := completedRows copies answers loop.rowsToCreate
  if rows = [] then
    .ok (state,
      { imported := 0
        duplicatesSkipped := loop.duplicatesSkipped
        errors := 0
        importedIds := [] })
  else do
    let (state, created) ← createRows state userId rows
    return (state,
      { imported := created.length
        duplicatesSkipped := loop.duplicatesSkipped
        errors := 0
        importedIds := created.map Transaction.id })

/-- What the duplicate checks and the unique index look at. -/
structure RowIdentity where
  userId : Int
  accountId : Int
  date : Date
  amount : Int
  description : Option String
  externalId : Option String

def rowIdentity (row : NewTransaction) : RowIdentity where
  userId := row.userId
  accountId := row.accountId
  date := row.txDate
  amount := row.amount
  description := row.description
  externalId := row.externalId

theorem align_answers_length (rows : List NewTransaction)
    (answers : List (Option CategorizationResult)) :
    (alignAnswers rows answers).length = rows.length := by
  induction rows generalizing answers with
  | nil => simp [alignAnswers]
  | cons row rows ih =>
    unfold alignAnswers
    split
    · cases answers with
      | nil => simp [ih]
      | cons => simp [ih]
    · simp [ih]

theorem completed_identity (copies : ReadCopies) (answers : List (Option CategorizationResult))
    (rows : List NewTransaction) :
    (completedRows copies answers rows).map rowIdentity = rows.map rowIdentity := by
  have zipped (aligned : List (Option CategorizationResult)) (enough : aligned.length = rows.length) :
      ((List.zipWith enrichRow rows aligned).map (resolveNames copies)).map rowIdentity =
        rows.map rowIdentity := by
    induction rows generalizing aligned with
    | nil => rfl
    | cons row rows ih =>
      cases aligned with
      | nil => contradiction
      | cons =>
        rw [zipWith_cons_cons, map_cons, map_cons, map_cons, ih _ (Nat.succ.inj enough)]
        rfl
  exact zipped _ (align_answers_length rows answers)

theorem completed_length (copies : ReadCopies) (answers : List (Option CategorizationResult))
    (rows : List NewTransaction) : (completedRows copies answers rows).length = rows.length := by
  have same := congrArg List.length (completed_identity copies answers rows)
  simpa using same

section SameIdentity

variable {rows others : List NewTransaction} (same : rows.map rowIdentity = others.map rowIdentity)
include same

theorem any_insert_congr (db : TransactionDb) (test : Transaction → Bool)
    (seen : RowIdentity → Bool)
    (sees : ∀ row id, test (NewTransaction.toTransaction row id) = seen (rowIdentity row)) :
    (insertAll db rows).transactions.any test = (insertAll db others).transactions.any test := by
  have identities (start : Nat) (rows : List NewTransaction) :
      (numbered start rows).any test = (rows.map rowIdentity).any seen := by
    rw [any_numbered start rows test fun row first second => by rw [sees, sees], any_map]
    congr 1
    funext row
    exact sees row 0
  unfold insertAll
  rw [any_append, any_append, identities, identities, same]

theorem has_dedup_key_congr (db : TransactionDb) (userId : Int) (onlyMissing : Bool)
    (key : DedupKey) :
    hasDedupKey (insertAll db rows) userId onlyMissing key =
      hasDedupKey (insertAll db others) userId onlyMissing key :=
  any_insert_congr same db _
    (fun identity => identity.userId = userId && true &&
      (!onlyMissing || identity.externalId.isNone) &&
      (⟨identity.accountId, identity.date, identity.amount, identity.description⟩ : DedupKey) = key)
    fun _ _ => rfl

theorem has_external_id_congr (db : TransactionDb) (userId : Int) (key : ExternalIdKey) :
    hasExternalId (insertAll db rows) userId key =
      hasExternalId (insertAll db others) userId key :=
  any_insert_congr same db _
    (fun identity => identity.userId = userId && true && identity.accountId = key.accountId &&
      identity.externalId = some key.externalId)
    fun _ _ => rfl

theorem blocked_congr (db : TransactionDb) (userId : Int)
    (kept : List BulkCreateTransactionItemDTO) (item : BulkCreateTransactionItemDTO) :
    blocked (insertAll db rows) userId kept item = blocked (insertAll db others) userId kept item := by
  unfold blocked
  cases itemExternalIdKey item with
  | some =>
    dsimp only
    rw [has_external_id_congr same, has_dedup_key_congr same]
  | none =>
    dsimp only
    rw [has_dedup_key_congr same]

end SameIdentity

theorem loop_rows {db : TransactionDb} {userId : Int} {dto : BulkCreateTransactionDTO}
    (skips : dto.skipDuplicates = true) :
    (importLoop db userId dto).rowsToCreate = (keptItems db userId dto.items).map (newRow userId) ∧
    (importLoop db userId dto).duplicatesSkipped + (keptItems db userId dto.items).length =
      dto.items.length := by
  have start : LoopKept {} [] := ⟨by simp, by simp⟩
  obtain ⟨rows, count⟩ := import_loop_selects db userId dto.items dto.items
    (fun _ member => member) start
  unfold importLoop
  rw [if_pos skips]
  refine ⟨rows, ?_⟩
  unfold keptItems
  simpa using count

theorem created_identity (copies : ReadCopies) {db : TransactionDb} {userId : Int}
    {dto : BulkCreateTransactionDTO} (answers : List (Option CategorizationResult))
    (skips : dto.skipDuplicates = true) :
    (completedRows copies answers (importLoop db userId dto).rowsToCreate).map rowIdentity =
      (itemRows copies userId (keptItems db userId dto.items)).map rowIdentity := by
  rw [completed_identity, (loop_rows skips).1]
  unfold itemRows
  rw [map_map, map_map]
  rfl

/-- What a call that creates rows leaves in the two tables. -/
structure Inserted (before after : ServiceState) (userId : Int) (created : List Transaction) :
    Prop where
  rows : after.db.transactions = before.db.transactions ++ created
  events : after.outbox = before.outbox ++ created.map (createdEntry userId)
  distinct : (created.map Transaction.id).Nodup
  fresh : ∀ row ∈ created, before.db.nextId ≤ row.id

variable {state after : ServiceState} {userId : Int} {dto : BulkCreateTransactionDTO}
  {db : TransactionDb} {item : BulkCreateTransactionItemDTO}

theorem create_rows_ok {rows : List NewTransaction} {created : List Transaction}
    (returned : createRows state userId rows = .ok (after, created)) :
    after.db = insertAll state.db rows ∧ created.length = rows.length ∧
      Inserted state after userId created := by
  unfold createRows at returned
  obtain ⟨⟨_, _⟩, isCreated, returned⟩ := bind_eq_ok.mp returned
  obtain ⟨_, returned⟩ := rest_ok returned
  cases returned
  obtain ⟨inserted, isNumbered⟩ := bulk_create_inserts isCreated
  subst inserted isNumbered
  refine ⟨rfl, numbered_length _ _, rfl, rfl, ?_, fun row member => (numbered_row member).1⟩
  rw [numbered_ids]
  exact nodup_range'

variable {copies : ReadCopies} {answers : List (Option CategorizationResult)}
  {result : BulkCreateResultDTO}

/-- Both ways a call returns: the database has the completed rows of the kept items. -/
theorem bulk_import_returns
    (returned : bulkImport copies state userId dto answers = .ok (after, result)) :
    after.db = insertAll state.db
        (completedRows copies answers (importLoop state.db userId dto).rowsToCreate) ∧
      result.duplicatesSkipped = (importLoop state.db userId dto).duplicatesSkipped ∧
      result.errors = 0 ∧
      result.imported = (importLoop state.db userId dto).rowsToCreate.length ∧
      ∃ created, result.imported = created.length ∧
        result.importedIds = created.map Transaction.id ∧ Inserted state after userId created := by
  unfold bulkImport at returned
  dsimp only at returned
  split at returned
  · next none =>
    cases returned
    have noRows : (importLoop state.db userId dto).rowsToCreate.length = 0 := by
      rw [← completed_length copies answers, none, length_nil]
    rw [none, insert_all_nil]
    exact ⟨rfl, rfl, rfl, noRows.symm, [], rfl, rfl, (append_nil _).symm,
      (append_nil _).symm, nodup_nil, fun _ member => absurd member not_mem_nil⟩
  · obtain ⟨⟨_, created⟩, isCreated, returned⟩ := bind_eq_ok.mp returned
    cases returned
    obtain ⟨inserted, length, isInserted⟩ := create_rows_ok isCreated
    rw [completed_length] at length
    exact ⟨inserted, rfl, rfl, length, created, rfl, rfl, isInserted⟩

theorem stored_items_blocked (copies : ReadCopies) {items : List BulkCreateTransactionItemDTO}
    (member : item ∈ items) (kept : List BulkCreateTransactionItemDTO) :
    blocked (withItems copies userId db (keptItems db userId items)) userId kept item = true := by
  unfold blocked
  cases isKey : itemExternalIdKey item with
  | some key =>
    dsimp only
    rw [has_external_id_with_items, has_dedup_key_with_items]
    by_cases newId : hasExternalId db userId key = false
    · by_cases noLegacy : hasDedupKey db userId true (itemDedupKey item) = false
      · -- Neither lookup blocked the item, so some kept item has its external id.
        obtain ⟨other, otherKept, sameKey⟩ := ext_kept_of_free member isKey newId noLegacy
        have stored : other.accountId = key.accountId ∧ other.externalId = some key.externalId := by
          unfold itemExternalIdKey at sameKey
          split at sameKey
          · next text isText =>
            split at sameKey
            · contradiction
            · cases sameKey
              exact ⟨rfl, isText⟩
          · contradiction
        simp only [Bool.or_eq_true]
        refine Or.inl (Or.inl (Or.inr (any_eq_true.mpr ⟨other, otherKept, ?_⟩)))
        simp [stored]
      · rw [Bool.not_eq_false] at noLegacy
        simp [noLegacy]
    · rw [Bool.not_eq_false] at newId
      simp [newId]
  | none =>
    dsimp only
    rw [has_dedup_key_with_items]
    by_cases newKey : hasDedupKey db userId false (itemDedupKey item) = false
    · obtain ⟨other, otherKept, _, sameKey⟩ := plain_kept_of_free member isKey newKey
      simp only [Bool.or_eq_true]
      refine Or.inl (Or.inr (any_eq_true.mpr ⟨other, otherKept, ?_⟩))
      simp [sameKey]
    · rw [Bool.not_eq_false] at newKey
      simp [newKey]

/-- An item and a live row of the user that is the same by one of the two keys. -/
structure StandsFor (userId : Int) (item : BulkCreateTransactionItemDTO) (row : Transaction) :
    Prop where
  user : row.userId = userId
  live : row.deleted = false
  agrees : (∃ externalId, item.externalId = some externalId ∧ row.externalId = some externalId ∧
      row.accountId = item.accountId) ∨ rowDedupKey row = itemDedupKey item

theorem row_of_dedup_key {onlyMissing : Bool}
    (held : hasDedupKey db userId onlyMissing (itemDedupKey item) = true) :
    ∃ row ∈ db.transactions, StandsFor userId item row := by
  unfold hasDedupKey at held
  obtain ⟨row, member, same⟩ := any_eq_true.mp held
  simp only [Bool.and_eq_true, decide_eq_true_eq, Bool.not_eq_true'] at same
  exact ⟨row, member, same.1.1.1, same.1.1.2, Or.inr same.2⟩

theorem row_of_blocked (isBlocked : blocked db userId [] item = true) :
    ∃ row ∈ db.transactions, StandsFor userId item row := by
  unfold blocked at isBlocked
  cases isKey : itemExternalIdKey item with
  | some =>
    rw [isKey] at isBlocked
    simp only [any_nil, Bool.or_false, Bool.or_eq_true] at isBlocked
    rcases isBlocked with byId | byKey
    · unfold hasExternalId at byId
      obtain ⟨row, member, same⟩ := any_eq_true.mp byId
      simp only [Bool.and_eq_true, decide_eq_true_eq, Bool.not_eq_true'] at same
      unfold itemExternalIdKey at isKey
      split at isKey
      · next text isText =>
        split at isKey
        · contradiction
        · cases isKey
          exact ⟨row, member, same.1.1.1, same.1.1.2, Or.inl ⟨text, isText, same.2, same.1.2⟩⟩
      · contradiction
    · exact row_of_dedup_key byKey
  | none =>
    rw [isKey] at isBlocked
    simp only [any_nil, Bool.or_false] at isBlocked
    exact row_of_dedup_key isBlocked

theorem imported_items_blocked (skips : dto.skipDuplicates = true)
    (returned : bulkImport copies state userId dto answers = .ok (after, result))
    (member : item ∈ dto.items) :
    blocked after.db userId [] item = true := by
  rw [(bulk_import_returns returned).1,
    blocked_congr (created_identity copies answers skips) state.db userId [] item]
  exact stored_items_blocked copies member []

/-- A call all of whose items are blocked writes nothing. -/
theorem bulk_import_of_blocked (copies : ReadCopies) (answers : List (Option CategorizationResult))
    (skips : dto.skipDuplicates = true)
    (allBlocked : ∀ item ∈ dto.items, blocked state.db userId [] item = true) :
    bulkImport copies state userId dto answers = .ok (state,
        { imported := 0
          duplicatesSkipped := dto.items.length
          errors := 0
          importedIds := [] }) := by
  have noneKept : keptItems state.db userId dto.items = [] := select_eq_nil _ allBlocked
  obtain ⟨rows, count⟩ := @loop_rows state.db userId dto skips
  rw [noneKept] at rows count
  have none : completedRows copies answers (importLoop state.db userId dto).rowsToCreate = [] := by
    rw [rows]
    rfl
  unfold bulkImport
  dsimp only
  rw [if_pos none]
  simp only [length_nil, Nat.add_zero] at count
  rw [count]

/-- What a returned call has done, with the call repeated in the state it left. -/
theorem bulk_import_complete {copies : ReadCopies} {state after : ServiceState} {userId : Int}
    {dto : BulkCreateTransactionDTO} {answers : List (Option CategorizationResult)}
    {result : BulkCreateResultDTO} (skips : dto.skipDuplicates = true)
    (returned : bulkImport copies state userId dto answers = .ok (after, result)) :
    result.imported + result.duplicatesSkipped + result.errors = dto.items.length ∧
      (∃ created, result.imported = created.length ∧
        result.importedIds = created.map Transaction.id ∧ Inserted state after userId created) ∧
      (∀ item ∈ dto.items, ∃ row ∈ after.db.transactions, StandsFor userId item row) ∧
      ∀ laterAnswers, bulkImport copies after userId dto laterAnswers = .ok (after,
          { imported := 0
            duplicatesSkipped := dto.items.length
            errors := 0
            importedIds := [] }) := by
  obtain ⟨_, _, _, imported, created⟩ := bulk_import_returns returned
  obtain ⟨rows, _⟩ := @loop_rows state.db userId dto skips
  refine ⟨?_, created, ?_, ?_⟩
  · rw [rows, length_map] at imported
    omega
  · intro _ member
    exact row_of_blocked (imported_items_blocked skips returned member)
  · intro laterAnswers
    exact bulk_import_of_blocked copies laterAnswers skips fun item member =>
      imported_items_blocked skips returned member

def emptyCopies : ReadCopies where
  categoryName := fun _ => none
  subcategory := fun _ => none

def coffeeItem (externalId : Option String) : BulkCreateTransactionItemDTO where
  accountId := 1
  accountName := "Daily"
  amount := 2500
  transactionType := .expense
  description := some "coffee"
  date := { year := 2026, month := 3, day := 17, valid := by decide }
  externalId := externalId

/-- A coffee under a bank id, the same entry again, and a coffee without an id. -/
def coffeeRequest : BulkCreateTransactionDTO where
  items := [coffeeItem (some "a"), coffeeItem (some "a"), coffeeItem none]
  nonempty := by decide
  bounded := by decide
  valid := by decide

def coffeeRows : List NewTransaction := [newRow 7 (coffeeItem (some "a")), newRow 7 (coffeeItem none)]

theorem coffee_returns : bulkImport emptyCopies ⟨⟨[], 1⟩, []⟩ 7 coffeeRequest [] =
    .ok (⟨insertAll ⟨[], 1⟩ coffeeRows, (numbered 1 coffeeRows).map (createdEntry 7)⟩,
      ⟨2, 1, 0, [1, 2]⟩) := by rfl

theorem coffee_request_complete : ∃ after, bulkImport emptyCopies ⟨⟨[], 1⟩, []⟩ 7 coffeeRequest [] =
        .ok (after, ⟨2, 1, 0, [1, 2]⟩) ∧
      bulkImport emptyCopies after 7 coffeeRequest [] = .ok (after, ⟨0, 3, 0, []⟩) :=
  ⟨_, coffee_returns, (bulk_import_complete rfl coffee_returns).2.2.2 []⟩

end FinanceTracker.Transaction.BulkService
