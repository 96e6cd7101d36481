import FinanceTracker.Library.Runs
import FinanceTracker.Shared.SagaMessages
import FinanceTracker.Transaction.Domain

/-!
# Bulk import

`bulk_import` of the service with the repository calls it makes, and the saga
command handler that splits a fetched list into chunks and commits each of them.
The outbox rows of the created transactions are left out, and so is the
categorization client, which the handler does not pass.
-/

namespace FinanceTracker.Transaction.BulkImport

open Library Calendar Runs Shared.SagaMessages Domain

/-- The table in insertion order; `nextId` is the next value of the sequence. -/
structure TransactionDb where
  transactions : List Transaction
  nextId : Nat
  deriving DecidableEq

structure DedupKey where
  accountId : Int
  date : Date
  amount : Int
  description : Option String
  deriving DecidableEq

structure ExternalIdKey where
  accountId : Int
  externalId : String
  deriving DecidableEq

def rowDedupKey (row : Transaction) : DedupKey where
  accountId := row.accountId
  date := row.date
  amount := row.amount
  description := row.description

/-- A live row of the user has the key; with `onlyMissingExternalId` only rows
without an external id count. -/
def hasDedupKey (db : TransactionDb) (userId : Int) (onlyMissingExternalId : Bool)
    (key : DedupKey) : Bool :=
  db.transactions.any fun row =>
    row.userId = userId && !row.deleted && (!onlyMissingExternalId || row.externalId.isNone) &&
      rowDedupKey row = key

def findExistingDedupKeys (db : TransactionDb) (userId : Int) (keys : List DedupKey)
    (onlyMissingExternalId : Bool) : List DedupKey :=
  keys.filter (hasDedupKey db userId onlyMissingExternalId)

def hasExternalId (db : TransactionDb) (userId : Int) (key : ExternalIdKey) : Bool :=
  db.transactions.any fun row =>
    row.userId = userId && !row.deleted && row.accountId = key.accountId &&
      row.externalId = some key.externalId

def findExistingExternalIds (db : TransactionDb) (userId : Int) (keys : List ExternalIdKey) :
    List ExternalIdKey :=
  keys.filter (hasExternalId db userId)

/-- A row to create, as the service builds it. -/
structure NewTransaction where
  userId : Int
  accountId : Int
  accountName : String
  categoryId : Option Int
  categoryName : Option String
  amount : Int
  transactionType : TransactionType
  description : Option String
  txDate : Date
  subcategoryId : Option Int
  subcategoryName : Option String
  categorizationTier : Option String
  categorizationConfidence : Option String
  externalId : Option String
  currency : String
  deriving DecidableEq

def NewTransaction.toTransaction (row : NewTransaction) (id : Nat) : Transaction where
  id := id
  userId := row.userId
  accountId := row.accountId
  accountName := row.accountName
  categoryId := row.categoryId
  categoryName := row.categoryName
  amount := row.amount
  transactionType := row.transactionType
  description := row.description
  date := row.txDate
  subcategoryId := row.subcategoryId
  subcategoryName := row.subcategoryName
  categorizationTier := row.categorizationTier
  categorizationConfidence := row.categorizationConfidence
  externalId := row.externalId
  currency := row.currency

/-- A live row of any user holds the slot of the unique index on
`(account_id, external_id)`. -/
def slotTaken (db : TransactionDb) (accountId : Int) (externalId : Option String) : Bool :=
  externalId.isSome && db.transactions.any fun stored =>
    !stored.deleted && stored.accountId = accountId && stored.externalId = externalId

def createRow (db : TransactionDb) (row : NewTransaction) :
    Except TransactionError (TransactionDb × Transaction) :=
  if slotTaken db row.accountId row.externalId then
    .error (.database "duplicate key value violates uq_transactions_account_external_id")
  else
    let created := row.toTransaction db.nextId
    .ok ({ transactions := db.transactions ++ [created], nextId := db.nextId + 1 }, created)

def bulkCreate (db : TransactionDb) :
    List NewTransaction → Except TransactionError (TransactionDb × List Transaction)
  | [] => .ok (db, [])
  | row :: rows => do
    let (db, created) ← createRow db row
    let (db, others) ← bulkCreate db rows
    return (db, created :: others)

structure BulkCreateTransactionItemDTO where
  accountId : Int
  accountName : String
  categoryId : Option Int := none
  categoryName : Option String := none
  amount : Int
  transactionType : TransactionType
  description : Option String := none
  date : Date
  subcategoryId : Option Int := none
  categorizationTier : Option String := none
  categorizationConfidence : Option String := none
  externalId : Option String := none
  currency : String := "DKK"
  deriving DecidableEq

structure BulkCreateResultDTO where
  imported : Nat
  duplicatesSkipped : Nat
  errors : Nat
  importedIds : List Nat
  deriving DecidableEq

def itemDedupKey (item : BulkCreateTransactionItemDTO) : DedupKey where
  accountId := item.accountId
  date := item.date
  amount := item.amount
  description := item.description

def itemExternalIdKey (item : BulkCreateTransactionItemDTO) : Option ExternalIdKey :=
  match item.externalId with
  | some externalId =>
    if externalId = "" then none
    else some { accountId := item.accountId, externalId := externalId }
  | none => none

/-- The three lookups made before the loop. -/
structure ExistingKeys where
  existingExt : List ExternalIdKey
  legacyKeys : List DedupKey
  existingKeys : List DedupKey

def lookupExisting (db : TransactionDb) (userId : Int)
    (items : List BulkCreateTransactionItemDTO) : ExistingKeys :=
  let extItems := items.filter fun item => (itemExternalIdKey item).isSome
  let plainItems := items.filter fun item => (itemExternalIdKey item).isNone
  { existingExt := findExistingExternalIds db userId (items.filterMap itemExternalIdKey)
    legacyKeys := findExistingDedupKeys db userId (extItems.map itemDedupKey) true
    existingKeys := findExistingDedupKeys db userId (plainItems.map itemDedupKey) false }

def newRow (userId : Int) (item : BulkCreateTransactionItemDTO) : NewTransaction where
  userId := userId
  accountId := item.accountId
  accountName := item.accountName
  categoryId := item.categoryId
  categoryName := item.categoryName
  amount := item.amount
  transactionType := item.transactionType
  description := item.description
  txDate := item.date
  subcategoryId := item.subcategoryId
  subcategoryName := none
  categorizationTier := item.categorizationTier
  categorizationConfidence := item.categorizationConfidence
  externalId := item.externalId
  currency := item.currency

structure ImportLoop where
  seenKeys : List DedupKey := []
  seenExt : List ExternalIdKey := []
  duplicatesSkipped : Nat := 0
  rowsToCreate : List NewTransaction := []

def ImportLoop.skip (loop : ImportLoop) : ImportLoop :=
  { loop with duplicatesSkipped := loop.duplicatesSkipped + 1 }

def ImportLoop.create (loop : ImportLoop) (row : NewTransaction) : ImportLoop :=
  { loop with rowsToCreate := loop.rowsToCreate ++ [row] }

/-- One pass of the loop with `skip_duplicates`: an item with an external id is
checked by id and by the legacy keys, one without by the fuzzy keys. -/
def importItem (userId : Int) (existing : ExistingKeys) (loop : ImportLoop)
    (item : BulkCreateTransactionItemDTO) : ImportLoop :=
  match itemExternalIdKey item with
  | some extKey =>
    if extKey ∈ existing.existingExt || extKey ∈ loop.seenExt ||
        itemDedupKey item ∈ existing.legacyKeys then loop.skip
    else
      ({ loop with seenExt := extKey :: loop.seenExt } : ImportLoop).create (newRow userId item)
  | none =>
    if itemDedupKey item ∈ existing.existingKeys || itemDedupKey item ∈ loop.seenKeys then
      loop.skip
    else
      ({ loop with seenKeys := itemDedupKey item :: loop.seenKeys } : ImportLoop).create
        (newRow userId item)

def resolveNames (copies : ReadCopies) (row : NewTransaction) : NewTransaction :=
  { row with
    categoryName := (row.categoryId.bind copies.categoryName).or row.categoryName
    subcategoryName :=
      ((row.subcategoryId.bind copies.subcategory).map SubCategory.name).or row.subcategoryName }

/-- `bulk_import` with `skip_duplicates`. -/
def bulkImport (copies : ReadCopies) (db : TransactionDb) (userId : Int)
    (items : List BulkCreateTransactionItemDTO) :
    Except TransactionError (TransactionDb × BulkCreateResultDTO) := do
  let existing := lookupExisting db userId items
  let loop := items.foldl (importItem userId existing) {}
  let (db, created) ← bulkCreate db (loop.rowsToCreate.map (resolveNames copies))
  return (db,
    { imported := created.length
      duplicatesSkipped := loop.duplicatesSkipped
      errors := 0
      importedIds := created.map Transaction.id })

/-- The text conversions of the language: `Decimal`, the date parser and
`strip`. -/
structure ItemReads where
  decimal : String → Option Rat
  date : String → Option Date
  strip : String → String

def invalid {α : Type} (message : String) : Except TransactionError α :=
  .error (.invalidInput message)

def require {α : Type} (key : String) (value : Option α) : Except TransactionError α :=
  match value with
  | some value => .ok value
  | none => invalid ("missing " ++ key)

def amountInCents (amount : Rat) : Except TransactionError Int :=
  let cents := amount * 100
  if cents.den = 1 ∧ 1 ≤ cents.num ∧ cents.num ≤ 999999999999 then .ok cents.num
  else invalid "amount"

def parseTransactionType (value : String) : Except TransactionError TransactionType :=
  if value = "income" then .ok .income
  else if value = "expense" then .ok .expense
  else invalid "transaction_type"

def parseExternalId (reads : ItemReads) (externalId : Option String) : Option String :=
  let stripped := reads.strip (externalId.getD "")
  if stripped = "" then none else some stripped

/-- `item.get("currency") or "DKK"`. -/
def parseCurrency (currency : Option String) : String :=
  match currency with
  | some currency => if currency = "" then "DKK" else currency
  | none => "DKK"

def checkLengths (item : BulkCreateTransactionItemDTO) :
    Except TransactionError BulkCreateTransactionItemDTO :=
  if 0 < item.accountId ∧ item.accountName.length ≤ 100 ∧
      item.description.all (fun text => text.length ≤ 500) ∧
      item.externalId.all (fun text => text.length ≤ 128) ∧ item.currency.length = 3 then
    .ok item
  else invalid "length"

def parseItem (reads : ItemReads) (accountId : Int) (accountName : String)
    (item : FetchedItem) : Except TransactionError BulkCreateTransactionItemDTO := do
  let amountText ← require "amount" item.amount
  let decimal ← require "decimal amount" (reads.decimal amountText)
  let amount ← amountInCents decimal
  let typeText ← require "transaction_type" item.transactionType
  let transactionType ← parseTransactionType typeText
  let dateText ← require "date" item.date
  let date ← require "valid date" (reads.date dateText)
  checkLengths
    { accountId := accountId
      accountName := accountName
      amount := amount
      transactionType := transactionType
      date := date
      description := item.description.getD (some "")
      externalId := parseExternalId reads item.externalId
      currency := parseCurrency item.currency }

def bulkImportChunkSize : Nat := 500

/-- `items[start : start + BULK_IMPORT_CHUNK_SIZE]` for the chunk of a number. -/
def chunk (items : List BulkCreateTransactionItemDTO) (number : Nat) :
    List BulkCreateTransactionItemDTO :=
  (items.drop (bulkImportChunkSize * number)).take bulkImportChunkSize

/-- How many starts `range(0, len(items), BULK_IMPORT_CHUNK_SIZE)` has. -/
def chunkCount (items : List BulkCreateTransactionItemDTO) : Nat :=
  (items.length + (bulkImportChunkSize - 1)) / bulkImportChunkSize

def BulkCreateResultDTO.empty : BulkCreateResultDTO where
  imported := 0
  duplicatesSkipped := 0
  errors := 0
  importedIds := []

def BulkCreateResultDTO.add (total result : BulkCreateResultDTO) : BulkCreateResultDTO where
  imported := total.imported + result.imported
  duplicatesSkipped := total.duplicatesSkipped + result.duplicatesSkipped
  errors := total.errors + result.errors
  importedIds := total.importedIds ++ result.importedIds

/-- The chunk loop. Each chunk is committed on its own, so a chunk that raises
leaves the earlier ones in the database. -/
def importChunks (copies : ReadCopies) (userId : Int) :
    TransactionDb → List (List BulkCreateTransactionItemDTO) → BulkCreateResultDTO →
      TransactionDb × Except TransactionError BulkCreateResultDTO
  | db, [], total => (db, .ok total)
  | db, items :: rest, total =>
    match bulkImport copies db userId items with
    | .error failure => (db, .error failure)
    | .ok (next, result) => importChunks copies userId next rest (total.add result)

structure BulkImportCommand where
  userId : Int
  accountId : Int
  accountName : String
  items : List FetchedItem
  deriving DecidableEq

def parseItems (reads : ItemReads) (command : BulkImportCommand) :
    Except TransactionError (List BulkCreateTransactionItemDTO) :=
  command.items.mapM (parseItem reads command.accountId command.accountName)

/-- `_handle_bulk_import`: the database afterwards and the reply data, or what
the handler raised. -/
def handleBulkImport (reads : ItemReads) (copies : ReadCopies) (db : TransactionDb)
    (command : BulkImportCommand) :
    TransactionDb × Except TransactionError BulkCreateResultDTO :=
  match parseItems reads command with
  | .error failure => (db, .error failure)
  | .ok items =>
    if items = [] then (db, .ok .empty)
    else
      importChunks copies command.userId db ((List.range (chunkCount items)).map (chunk items))
        .empty

theorem models_length {reads : ItemReads} {accountId : Int} {accountName : String}
    {items : List FetchedItem} {models : List BulkCreateTransactionItemDTO}
    (built : items.mapM (parseItem reads accountId accountName) = .ok models) :
    models.length = items.length := by
  induction items generalizing models with
  | nil =>
    rw [List.mapM_nil] at built
    cases built
    rfl
  | cons item rest ih =>
    rw [List.mapM_cons] at built
    obtain ⟨_, built⟩ := rest_ok built
    obtain ⟨_, isOthers, built⟩ := bind_eq_ok.mp built
    cases built
    rw [List.length_cons, List.length_cons, ih isOthers]

end FinanceTracker.Transaction.BulkImport
