import FinanceTracker.Transaction.CsvImport

/-!
# What an import drops as a duplicate

The keys have an account, a date, a magnitude and a description. A row of a file is
dropped exactly when a live row or an earlier row has its key; an item of a request
whose external id matches nothing, only then. The direction of a movement is in no
key.
-/

namespace FinanceTracker.Transaction.DroppedDuplicates

open Library.Selection List
open BulkImport (TransactionDb BulkCreateTransactionItemDTO itemDedupKey
  itemExternalIdKey hasDedupKey hasExternalId lookupExisting importItem newRow)
open BulkService
open Chunking (LoopKept keptItems Fresh import_item_cases free_iff_fresh)
open CsvImport CsvIsolation CsvParsers Domain

def rowsLoop (db : TransactionDb) (userId : Int) (rows : List ParsedRow) (position : Nat) :
    CsvImport.ImportLoop :=
  (rows.take position).foldl (importRow ((rows.map rowDedupKey).filter (hasKey db userId))) {}

def RowDropped (db : TransactionDb) (userId : Int) (rows : List ParsedRow) (position : Nat) : Prop :=
  (rowsLoop db userId rows (position + 1)).duplicatesSkipped =
    (rowsLoop db userId rows position).duplicatesSkipped + 1

/-- Counting passes that keep and passes that drop, each of which is one of the two. -/
theorem counted_once {dropped later kept keptLater count : Nat} {isBlocked : Bool}
    (here : dropped + kept = count) (there : later + keptLater = count + 1)
    (step : keptLater = kept + if isBlocked then 0 else 1) :
    later = dropped + 1 ↔ isBlocked = true := by
  cases isBlocked with
  | true =>
    rw [if_pos rfl] at step
    simp only [iff_true]
    omega
  | false =>
    rw [if_neg (by decide)] at step
    simp only [Bool.false_eq_true, iff_false]
    omega

variable {position : Nat} {db : TransactionDb} {userId : Int} {dto : BulkCreateTransactionDTO}

theorem take_length {Item : Type} {items : List Item} {item : Item}
    (found : items[position]? = some item) :
    (items.take position).length = position ∧ (items.take (position + 1)).length = position + 1 := by
  have inside := (List.getElem?_eq_some_iff.mp found).1
  rw [length_take, length_take]
  omega

theorem rows_loop_count (db : TransactionDb) (userId : Int) (rows : List ParsedRow)
    (position : Nat) :
    (rowsLoop db userId rows position).duplicatesSkipped +
      (keptRows db userId (rows.take position)).length = (rows.take position).length := by
  have selects := @import_loop_selects db userId (rows.map rowDedupKey) (rows.take position)
    (fun row member => mem_map_of_mem (mem_of_mem_take member)) {} []
    (by simp [SeenKept])
  unfold rowsLoop keptRows
  simpa using selects.2

theorem row_dropped_iff {rows : List ParsedRow} {row : ParsedRow}
    (found : rows[position]? = some row) :
    RowDropped db userId rows position ↔ hasKey db userId (rowDedupKey row) = true ∨
        ∃ other ∈ rows.take position, rowDedupKey other = rowDedupKey row := by
  obtain ⟨length, lengthLater⟩ := take_length found
  have here := rows_loop_count db userId rows position
  have there := rows_loop_count db userId rows (position + 1)
  rw [length] at here
  rw [lengthLater] at there
  have step := select_length_succ (CsvImport.blocked db userId) [] rows found
  unfold RowDropped
  rw [counted_once here there step, nil_append]
  unfold CsvImport.blocked
  rw [Bool.or_eq_true, any_eq_true]
  refine or_congr_right' fun notStored => ?_
  constructor
  · rintro ⟨other, isKept, same⟩
    exact ⟨other, mem_of_select _ isKept, of_decide_eq_true same⟩
  · rintro ⟨other, isEarlier, same⟩
    rcases key_kept db userId [] (rows.take position) other isEarlier with stored | kept
    · rw [same] at stored
      exact absurd stored notStored
    · obtain ⟨twin, isKept, sameKey⟩ := kept
      exact ⟨twin, isKept, decide_eq_true (sameKey.trans same)⟩

def itemsLoop (db : TransactionDb) (userId : Int) (dto : BulkCreateTransactionDTO)
    (position : Nat) : BulkImport.ImportLoop :=
  if dto.skipDuplicates then
    (dto.items.take position).foldl (importItem userId (lookupExisting db userId dto.items)) {}
  else (dto.items.take position).foldl (fun loop item => loop.create (newRow userId item)) {}

def ItemDropped (db : TransactionDb) (userId : Int) (dto : BulkCreateTransactionDTO)
    (position : Nat) : Prop :=
  (itemsLoop db userId dto (position + 1)).duplicatesSkipped =
    (itemsLoop db userId dto position).duplicatesSkipped + 1

/-- Neither a live row nor an earlier item has the item's external id. -/
def NoIdMatch (db : TransactionDb) (userId : Int) (before : List BulkCreateTransactionItemDTO)
    (item : BulkCreateTransactionItemDTO) : Prop :=
  ∀ key, itemExternalIdKey item = some key →
    hasExternalId db userId key = false ∧ ∀ other ∈ before, itemExternalIdKey other ≠ some key

/-- A live row or an earlier item that drops the item: with an external id only a row
without one, without an external id any row and an item of its kind. -/
def KeyTaken (db : TransactionDb) (userId : Int) (before : List BulkCreateTransactionItemDTO)
    (item : BulkCreateTransactionItemDTO) : Prop :=
  hasDedupKey db userId (itemExternalIdKey item).isSome (itemDedupKey item) = true ∨
    (itemExternalIdKey item = none ∧
      ∃ other ∈ before, itemExternalIdKey other = none ∧ itemDedupKey other = itemDedupKey item)

theorem items_loop_count (db : TransactionDb) (userId : Int) (skips : dto.skipDuplicates = true)
    (position : Nat) :
    (itemsLoop db userId dto position).duplicatesSkipped +
      (keptItems db userId (dto.items.take position)).length =
        (dto.items.take position).length := by
  have selects := Chunking.import_loop_selects db userId dto.items (dto.items.take position)
    (fun _ member => mem_of_mem_take member) (⟨by simp, by simp⟩ : LoopKept {} [])
  unfold itemsLoop
  rw [if_pos skips]
  simpa [keptItems] using selects.2

theorem no_item_dropped (keepsAll : dto.skipDuplicates = false) (position : Nat) :
    ¬ ItemDropped db userId dto position := by
  have created (items : List BulkCreateTransactionItemDTO) (loop : BulkImport.ImportLoop) :
      (items.foldl (fun loop item => loop.create (newRow userId item)) loop).duplicatesSkipped =
        loop.duplicatesSkipped := by
    induction items generalizing loop with
    | nil => rfl
    | cons item items ih => exact ih _
  unfold ItemDropped itemsLoop
  rw [if_neg (by simp [keepsAll]), if_neg (by simp [keepsAll]), created, created]
  simp

theorem item_dropped_iff (skips : dto.skipDuplicates = true) {item : BulkCreateTransactionItemDTO}
    (found : dto.items[position]? = some item)
    (noMatch : NoIdMatch db userId (dto.items.take position) item) :
    ItemDropped db userId dto position ↔ KeyTaken db userId (dto.items.take position) item := by
  obtain ⟨length, lengthLater⟩ := take_length found
  have here := items_loop_count db userId skips position
  have there := items_loop_count db userId skips (position + 1)
  rw [length] at here
  rw [lengthLater] at there
  have step := select_length_succ (Chunking.blocked db userId) [] dto.items found
  unfold ItemDropped
  rw [counted_once here there step, nil_append]
  change Chunking.blocked db userId (keptItems db userId (dto.items.take position)) item = true ↔ _
  rw [← Bool.not_eq_false, free_iff_fresh]
  unfold Fresh KeyTaken
  cases kind : itemExternalIdKey item with
  | some key =>
    obtain ⟨newId, unseen⟩ := noMatch key kind
    simp only [newId, true_and, Option.isSome_some, reduceCtorEq, false_and, or_false]
    rw [← Bool.not_eq_false]
    refine not_congr ⟨And.left, fun noLegacy => ⟨noLegacy, ?_⟩⟩
    exact fun other isEarlier same => absurd same (unseen other isEarlier)
  | none =>
    simp only [Option.isSome_none, true_and]
    rw [not_and_or, Bool.not_eq_false]
    refine or_congr_right ?_
    push Not
    rfl

/-- What is dropped has its account, date, magnitude and description on a live row or an
earlier row or item of the import, and nothing else is asked of these. -/
theorem dropped_iff_key_taken (db : TransactionDb) (userId : Int) (rows : List ParsedRow)
    (dto : BulkCreateTransactionDTO) :
    (∀ position row, rows[position]? = some row → (RowDropped db userId rows position ↔
        hasKey db userId (rowDedupKey row) = true ∨
          ∃ other ∈ rows.take position, rowDedupKey other = rowDedupKey row)) ∧
    ∀ position item, dto.items[position]? = some item →
      NoIdMatch db userId (dto.items.take position) item → (ItemDropped db userId dto position ↔
          dto.skipDuplicates = true ∧ KeyTaken db userId (dto.items.take position) item) := by
  refine ⟨fun position row found => row_dropped_iff found, ?_⟩
  intro _ _ found noMatch
  cases skips : dto.skipDuplicates with
  | false => simp [no_item_dropped skips]
  | true => simp [item_dropped_iff skips found noMatch]

def RowAgrees (db : TransactionDb) (userId : Int) (before : List ParsedRow) (row : ParsedRow) :
    Prop :=
  (∃ old ∈ db.transactions, old.userId = userId ∧ old.deleted = false ∧
    storedKey old = rowDedupKey row ∧ old.transactionType = row.transactionType) ∨
  ∃ other ∈ before, rowDedupKey other = rowDedupKey row ∧
    other.transactionType = row.transactionType

def ItemAgrees (db : TransactionDb) (userId : Int) (before : List BulkCreateTransactionItemDTO)
    (item : BulkCreateTransactionItemDTO) : Prop :=
  (∃ old ∈ db.transactions, old.userId = userId ∧ old.deleted = false ∧
    BulkImport.rowDedupKey old = itemDedupKey item ∧ old.transactionType = item.transactionType) ∨
  ∃ other ∈ before, itemDedupKey other = itemDedupKey item ∧
    other.transactionType = item.transactionType

def purchaseRecord : List (List Char) := ["2024/01/12", "-35,00", "Shop"].map String.toList

def refundRecord : List (List Char) := ["2024/01/12", "35,00", "Shop"].map String.toList

def nordeaContent : ByteArray :=
  csvContent ';' [["Bogføringsdato", "Beløb", "Beskrivelse"].map String.toList, purchaseRecord,
    refundRecord]

def shopRow (transactionType : TransactionType) : ParsedRow where
  userId := 1
  accountId := 7
  accountName := "Daily"
  categoryId := none
  categoryName := none
  amount := .finite false 3500 (-2)
  transactionType := transactionType
  description := some "Shop"
  txDate := ⟨2024, 1, 12, by decide⟩

def refundRequest : BulkCreateTransactionDTO where
  items := [coffeeItem none, { coffeeItem none with transactionType := .income }]
  nonempty := by decide
  bounded := by decide
  valid := by decide

/-- With an empty table, the refund is dropped for the purchase before it. -/
theorem refund_dropped :
    (CsvParser.nordea.parse csvMaxRows nordeaContent ⟨1, 7, "Daily"⟩ =
        .ok ⟨[shopRow .expense, shopRow .income], [], 0⟩ ∧
      RowDropped noTransactions.db 1 [shopRow .expense, shopRow .income] 1 ∧
      ¬ RowAgrees noTransactions.db 1 [shopRow .expense] (shopRow .income)) ∧
    (ItemDropped noTransactions.db 1 refundRequest 1 ∧ ∀ item, refundRequest.items[1]? = some item →
        NoIdMatch noTransactions.db 1 (refundRequest.items.take 1) item ∧
          ¬ ItemAgrees noTransactions.db 1 (refundRequest.items.take 1) item) := by
  refine ⟨⟨?_, ?_, ?_⟩, ?_, ?_⟩
  · have read : ReadsFile .nordea nordeaContent _ :=
      reads_plain (by decide +kernel) (by decide +kernel) (by decide +kernel)
    rw [parse_reads read]
    decide +kernel
  · unfold RowDropped
    decide +kernel
  · simp [RowAgrees, noTransactions, shopRow]
  · unfold ItemDropped
    decide +kernel
  · intro _ isItem
    cases isItem
    refine ⟨?_, ?_⟩
    · intro _ isKey
      cases isKey
    · simp [ItemAgrees, noTransactions, refundRequest, coffeeItem]

end FinanceTracker.Transaction.DroppedDuplicates
