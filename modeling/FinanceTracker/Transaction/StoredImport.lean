import FinanceTracker.Library.Columns
import FinanceTracker.Transaction.ChunkTransparency

/-!
# The bulk import on typed columns

`_handle_bulk_import` again, with what PostgreSQL refuses of the values that the
request model lets through: integers beyond `INTEGER` and texts with a NUL. The
lookups pass the user, the accounts and the external ids, the inserts the other
texts of the rows. The handler returns exactly when no chunk is refused, and it
has then stored every item of the list.
-/

namespace FinanceTracker.Transaction.StoredImport

open Library Columns Selection Domain BulkImport Chunking ChunkTransparency List

def lookupFits (userId : Int) (item : BulkCreateTransactionItemDTO) : Bool :=
  fitsInteger userId && fitsInteger item.accountId && item.externalId.all (fitsVarchar 128)

def rowFits (row : NewTransaction) : Bool :=
  fitsVarchar 100 row.accountName && row.description.all (fitsVarchar 500) &&
    fitsVarchar 3 row.currency

def rowsToCreate (db : TransactionDb) (userId : Int)
    (items : List BulkCreateTransactionItemDTO) : List NewTransaction :=
  (items.foldl (importItem userId (lookupExisting db userId items)) {}).rowsToCreate

def refused {Value : Type} : Except TransactionError Value :=
  .error (.database "invalid input for query argument")

/-- `bulk_import` on the typed columns. -/
def importStored (copies : ReadCopies) (db : TransactionDb) (userId : Int)
    (items : List BulkCreateTransactionItemDTO) :
    Except TransactionError (TransactionDb × BulkCreateResultDTO) :=
  if items.all (lookupFits userId) && (rowsToCreate db userId items).all rowFits then
    bulkImport copies db userId items
  else refused

def storeChunks (copies : ReadCopies) (userId : Int) :
    TransactionDb → List (List BulkCreateTransactionItemDTO) → BulkCreateResultDTO →
      TransactionDb × Except TransactionError BulkCreateResultDTO
  | db, [], total => (db, .ok total)
  | db, items :: rest, total =>
    match importStored copies db userId items with
    | .error failure => (db, .error failure)
    | .ok (next, result) => storeChunks copies userId next rest (total.add result)

def chunks (items : List BulkCreateTransactionItemDTO) :
    List (List BulkCreateTransactionItemDTO) :=
  (List.range (chunkCount items)).map (chunk items)

/-- `_handle_bulk_import` on the typed columns. -/
def handleStoredImport (reads : ItemReads) (copies : ReadCopies) (db : TransactionDb)
    (command : BulkImportCommand) :
    TransactionDb × Except TransactionError BulkCreateResultDTO :=
  match parseItems reads command with
  | .error failure => (db, .error failure)
  | .ok items =>
    if items = [] then (db, .ok .empty)
    else storeChunks copies command.userId db (chunks items) .empty

/-- No item of the chunk is refused: the lookups take their parameters, and what
the loop keeps fits its columns and no index slot of another user's row. -/
structure ChunkFits (db : TransactionDb) (userId : Int)
    (items : List BulkCreateTransactionItemDTO) : Prop where
  lookups : ∀ item ∈ items, lookupFits userId item = true
  rows : ∀ item ∈ keptItems db userId items, rowFits (newRow userId item) = true
  slots : ∀ item ∈ keptItems db userId items, clashes db item = false

theorem rows_to_create_kept (db : TransactionDb) (userId : Int)
    (items : List BulkCreateTransactionItemDTO) :
    rowsToCreate db userId items = (keptItems db userId items).map (newRow userId) := by
  have start : LoopKept {} [] := ⟨by simp, by simp⟩
  obtain ⟨rows, _⟩ := import_loop_selects db userId items items (fun _ member => member) start
  exact rows

variable {items : List BulkCreateTransactionItemDTO} {db : TransactionDb}

theorem import_stored_cases (copies : ReadCopies) (userId : Int) (db : TransactionDb)
    (proper : ProperIds items) :
    (¬ ChunkFits db userId items ∧
        ∃ failure, importStored copies db userId items = .error failure) ∨
      (ChunkFits db userId items ∧ importStored copies db userId items =
          .ok (withItems copies userId db (keptItems db userId items),
            importResult copies userId db items (keptItems db userId items))) := by
  unfold importStored
  split
  · next passes =>
    rw [rows_to_create_kept, Bool.and_eq_true, all_map, all_eq_true, all_eq_true] at passes
    rcases bulk_import_cases copies userId db proper with
      ⟨⟨item, member, clash⟩, failed⟩ | ⟨free, done⟩
    · refine Or.inl ⟨?_, failed⟩
      intro fits
      rw [fits.slots item member] at clash
      contradiction
    · exact Or.inr ⟨⟨passes.1, passes.2, free⟩, done⟩
  · next fails =>
    refine Or.inl ⟨?_, _, rfl⟩
    intro fits
    apply fails
    rw [rows_to_create_kept, Bool.and_eq_true, all_map, all_eq_true, all_eq_true]
    exact ⟨fits.lookups, fits.rows⟩

/-- A live row of the user stands for the item, by its external id or its fuzzy key. -/
def held (db : TransactionDb) (userId : Int) (item : BulkCreateTransactionItemDTO) : Bool :=
  (itemExternalIdKey item).any (hasExternalId db userId) ||
    hasDedupKey db userId false (itemDedupKey item)

theorem dedup_key_of_legacy {userId : Int} {key : DedupKey}
    (legacy : hasDedupKey db userId true key = true) : hasDedupKey db userId false key = true := by
  unfold hasDedupKey at legacy ⊢
  rw [any_eq_true] at legacy ⊢
  obtain ⟨row, member, same⟩ := legacy
  refine ⟨row, member, ?_⟩
  simp only [Bool.and_eq_true, Bool.or_eq_true, Bool.not_eq_true'] at same ⊢
  simp [same]

variable {item : BulkCreateTransactionItemDTO} {parts : List (List BulkCreateTransactionItemDTO)}

theorem held_with_items (copies : ReadCopies) {userId : Int}
    (committed : List BulkCreateTransactionItemDTO) (before : held db userId item = true) :
    held (withItems copies userId db committed) userId item = true := by
  unfold held at before ⊢
  rw [has_dedup_key_with_items]
  cases isKey : itemExternalIdKey item with
  | none =>
    rw [isKey] at before
    simp only [Option.any_none, Bool.false_or] at before
    simp [before]
  | some =>
    rw [isKey] at before
    simp only [Option.any_some, Bool.or_eq_true] at before
    rw [Option.any_some, has_external_id_with_items]
    rcases before with byId | byKey
    · simp [byId]
    · simp [byKey]

theorem chunk_held (copies : ReadCopies) {userId : Int} (proper : ProperIds items)
    (member : item ∈ items) :
    held (withItems copies userId db (keptItems db userId items)) userId item = true := by
  cases before : held db userId item with
  | true => exact held_with_items copies _ before
  | false =>
    unfold held at before ⊢
    rw [Bool.or_eq_false_iff] at before
    cases isKey : itemExternalIdKey item with
    | none =>
      obtain ⟨other, kept, _, sameKey⟩ := plain_kept_of_free member isKey before.2
      rw [has_dedup_key_with_items, Bool.or_eq_true, Bool.or_eq_true]
      refine Or.inr (Or.inr (any_eq_true.mpr ⟨other, kept, ?_⟩))
      simp [sameKey]
    | some key =>
      rw [isKey] at before
      have noLegacy : hasDedupKey db userId true (itemDedupKey item) = false := by
        rw [Bool.eq_false_iff]
        intro legacy
        rw [dedup_key_of_legacy legacy] at before
        exact absurd before.2 (by decide)
      obtain ⟨other, kept, sameId⟩ := ext_kept_of_free member isKey before.1 noLegacy
      have inItems := mem_of_select _ kept
      have stored := (external_key_iff (proper other inItems) key).mp sameId
      rw [Option.any_some, has_external_id_with_items, Bool.or_eq_true, Bool.or_eq_true]
      refine Or.inl (Or.inr (any_eq_true.mpr ⟨other, kept, ?_⟩))
      simp [stored]

variable {copies : ReadCopies} {userId : Int}

/-- No chunk is refused, each on the table that the earlier ones leave. -/
def ChunksFit (copies : ReadCopies) (userId : Int) :
    TransactionDb → List (List BulkCreateTransactionItemDTO) → Prop
  | _, [] => True
  | db, items :: rest =>
    ChunkFits db userId items ∧
      ChunksFit copies userId (withItems copies userId db (keptItems db userId items)) rest

/-- How many items a result accounts for. -/
def accounted (result : BulkCreateResultDTO) : Nat :=
  result.imported + result.duplicatesSkipped + result.errors

theorem store_chunks_fit (proper : ∀ part ∈ parts, ProperIds part)
    (fit : ChunksFit copies userId db parts) (total : BulkCreateResultDTO) :
    ∃ next result, storeChunks copies userId db parts total = (next, .ok result) ∧
      accounted result = accounted total + parts.flatten.length ∧
      (∀ item, held db userId item = true → held next userId item = true) ∧
      ∀ item ∈ parts.flatten, held next userId item = true := by
  induction parts generalizing db total with
  | nil => exact ⟨db, total, rfl, rfl, fun _ before => before, by simp⟩
  | cons items rest ih =>
    have itemsProper := proper items mem_cons_self
    rcases import_stored_cases copies userId db itemsProper with ⟨misfit, _⟩ | ⟨_, stored⟩
    · exact absurd fit.1 misfit
    unfold storeChunks
    rw [stored]
    dsimp only
    have bound : (keptItems db userId items).length ≤ items.length := select_length_le _ _ _
    obtain ⟨next, result, runs, count, keeps, holds⟩ :=
      ih (fun part member => proper part (mem_cons_of_mem _ member)) fit.2 (total.add _)
    refine ⟨next, result, runs, ?_, ?_, ?_⟩
    · rw [count, flatten_cons, length_append]
      unfold accounted BulkCreateResultDTO.add importResult
      dsimp only
      omega
    · exact fun item before => keeps item (held_with_items copies _ before)
    · intro item member
      rw [flatten_cons, mem_append] at member
      rcases member with now | later
      · exact keeps item (chunk_held copies itemsProper now)
      · exact holds item later

/-- A loop that returns met no chunk that is refused, and did what the import does
on a table that takes every value. -/
theorem fit_of_store_chunks (proper : ∀ part ∈ parts, ProperIds part)
    {total result : BulkCreateResultDTO}
    (returned : (storeChunks copies userId db parts total).2 = .ok result) :
    ChunksFit copies userId db parts ∧
      importChunks copies userId db parts total = storeChunks copies userId db parts total := by
  induction parts generalizing db total with
  | nil => exact ⟨trivial, rfl⟩
  | cons items rest ih =>
    rcases import_stored_cases copies userId db (proper items mem_cons_self) with
      ⟨_, failure, failed⟩ | ⟨fits, stored⟩
    · unfold storeChunks at returned
      rw [failed] at returned
      contradiction
    · have imported : bulkImport copies db userId items =
          importStored copies db userId items := by
        rw [stored]
        exact bulk_import_ok (proper items mem_cons_self) fits.slots
      unfold storeChunks at returned ⊢
      unfold importChunks
      rw [imported, stored] at *
      obtain ⟨fit, same⟩ :=
        ih (fun part member => proper part (mem_cons_of_mem _ member)) returned
      exact ⟨⟨fits, fit⟩, same⟩

theorem chunks_flatten (items : List BulkCreateTransactionItemDTO) :
    (chunks items).flatten = items := by
  have upto : ∀ count, ((List.range count).map (chunk items)).flatten =
      items.take (bulkImportChunkSize * count) := by
    intro count
    induction count with
    | zero => simp
    | succ count ih =>
      rw [range_succ, map_append, flatten_append, ih, take_next_chunk]
      simp
  unfold chunks
  rw [upto, take_chunks]

theorem proper_chunks (proper : ProperIds items) :
    ∀ part ∈ chunks items, ProperIds part := proper_rest proper _

theorem handle_stored_parsed {reads : ItemReads} {command : BulkImportCommand} (copies : ReadCopies)
    (db : TransactionDb) (parsed : parseItems reads command = .ok items) :
    handleStoredImport reads copies db command =
      storeChunks copies command.userId db (chunks items) .empty := by
  unfold handleStoredImport
  rw [parsed]
  dsimp only
  split
  · next empty =>
    rw [empty]
    rfl
  · rfl

/-- A handler that returns met no chunk that is refused. -/
theorem fit_of_handle_stored {reads : ItemReads} {command : BulkImportCommand}
    {copies : ReadCopies} {db : TransactionDb} {result : BulkCreateResultDTO}
    (returned : (handleStoredImport reads copies db command).2 = .ok result) :
    ∃ items, parseItems reads command = .ok items ∧
      ChunksFit copies command.userId db (chunks items) := by
  cases parsed : parseItems reads command with
  | error =>
    unfold handleStoredImport at returned
    rw [parsed] at returned
    cases returned
  | ok items =>
    rw [handle_stored_parsed copies db parsed] at returned
    exact ⟨items, rfl, (fit_of_store_chunks (proper_chunks (parse_items_proper parsed)) returned).1⟩

/-- Where no chunk is refused, every item is imported or skipped as a duplicate, and
a row of the user stands for it. -/
theorem handle_stored_fit {reads : ItemReads} {command : BulkImportCommand}
    {copies : ReadCopies} {db : TransactionDb} {items : List BulkCreateTransactionItemDTO}
    (parsed : parseItems reads command = .ok items)
    (fit : ChunksFit copies command.userId db (chunks items)) :
    ∃ next result, handleStoredImport reads copies db command = (next, .ok result) ∧
      accounted result = items.length ∧ ∀ item ∈ items, held next command.userId item = true := by
  obtain ⟨next, result, returned, count, _, holds⟩ :=
    store_chunks_fit (proper_chunks (parse_items_proper parsed)) fit .empty
  rw [chunks_flatten] at count holds
  rw [handle_stored_parsed copies db parsed]
  exact ⟨next, result, returned, by rw [count]; exact Nat.zero_add _, holds⟩

end FinanceTracker.Transaction.StoredImport
