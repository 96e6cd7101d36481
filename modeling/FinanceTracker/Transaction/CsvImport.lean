import FinanceTracker.Transaction.BulkService
import FinanceTracker.Transaction.CsvStorable

/-!
# Importing a CSV file

`import_csv`: the parse, the anti-join with the stored rows, the loop with its seen
set, and the unit of work that stores the rows it kept with their outbox rows. The
key of a parsed row has the amount of the file, that of a stored row the amount of
the column.
-/

namespace FinanceTracker.Transaction.CsvImport

open Library Calendar Columns List
open Library.DecimalText (Decimal)
open Library Runs Selection
open BulkImport (TransactionDb NewTransaction)
open BulkService Chunking CsvCells CsvIsolation CsvParsers CsvStorable Domain

/-- Account, date, amount and description; an infinite amount has no number. -/
structure DedupKey where
  accountId : Int
  date : Date
  amount : Option ℚ
  description : Option String
  deriving DecidableEq

def rowDedupKey (row : ParsedRow) : DedupKey where
  accountId := row.accountId
  date := row.txDate
  amount := row.amount.finiteValue
  description := row.description

def storedKey (row : Transaction) : DedupKey where
  accountId := row.accountId
  date := row.date
  amount := some ((row.amount : ℚ) / 100)
  description := row.description

def hasKey (db : TransactionDb) (userId : Int) (key : DedupKey) : Bool :=
  db.transactions.any fun row => row.userId = userId && !row.deleted && storedKey row = key

inductive ImportFailure where
  | accountRequired (bankFormat : String)
  | unknownFormat (bankFormat : String)
  | parse (failure : ParseFailure)
  | database (message : String)
  | transaction (error : TransactionError)

/-- `find_existing_dedup_keys`, whose parameters are columns as well. -/
def findExistingKeys (db : TransactionDb) (userId : Int) (keys : List DedupKey) :
    Except ImportFailure (List DedupKey) :=
  if keys.all fun key => fitsInteger key.accountId then .ok (keys.filter (hasKey db userId))
  else .error (.database "value out of int32 range")

structure ImportLoop where
  seenKeys : List DedupKey := []
  duplicatesSkipped : Nat := 0
  rowsToCreate : List ParsedRow := []

def importRow (existing : List DedupKey) (loop : ImportLoop) (row : ParsedRow) : ImportLoop :=
  if rowDedupKey row ∈ existing || rowDedupKey row ∈ loop.seenKeys then
    { loop with duplicatesSkipped := loop.duplicatesSkipped + 1 }
  else
    { loop with
      seenKeys := rowDedupKey row :: loop.seenKeys
      rowsToCreate := loop.rowsToCreate ++ [row] }

def storedRow (row : ParsedRow) (cents : ℕ) : NewTransaction where
  userId := row.userId
  accountId := row.accountId
  accountName := row.accountName
  categoryId := row.categoryId
  categoryName := row.categoryName
  amount := cents
  transactionType := row.transactionType
  description := row.description
  txDate := row.txDate
  subcategoryId := none
  subcategoryName := none
  categorizationTier := none
  categorizationConfidence := none
  externalId := none
  currency := "DKK"

def storeRow (row : ParsedRow) : Except ImportFailure NewTransaction :=
  match columnCents row.amount with
  | some cents =>
    if columnsAccept row then .ok (storedRow row cents)
    else .error (.database "value out of range for its column")
  | none => .error (.database "numeric field overflow")

structure CSVImportResultDTO where
  imported : Nat
  skipped : Nat
  duplicatesSkipped : Nat := 0
  errors : List RowError
  deriving DecidableEq

def getParser (bankFormat : String) : Except ImportFailure CsvParser :=
  if bankFormat = "internal" then .ok .internal
  else if bankFormat = "nordea" then .ok .nordea
  else if bankFormat = "danske_bank" then .ok .danskeBank
  else .error (.unknownFormat bankFormat)

/-- The arguments besides the file and the user. -/
structure ImportArguments where
  bankFormat : String := "internal"
  accountId : Option Int := none
  accountName : Option String := none

def ImportArguments.parse (arguments : ImportArguments) (userId : Int) : ParseArguments where
  userId := userId
  accountId := arguments.accountId.getD 0
  accountName := arguments.accountName.getD ""

def parseContent (maxRows : Nat) (userId : Int) (content : ByteArray)
    (arguments : ImportArguments) : Except ImportFailure ParsedCSVResult := do
  if arguments.bankFormat ≠ "internal" ∧
      (arguments.accountId = none ∨ arguments.accountName.getD "" = "") then
    .error (.accountRequired arguments.bankFormat)
  else do
    let parser ← getParser arguments.bankFormat
    (parser.parse maxRows content (arguments.parse userId)).mapError ImportFailure.parse

def importParsed (state : ServiceState) (userId : Int) (parsed : ParsedCSVResult) :
    Except ImportFailure (ServiceState × CSVImportResultDTO) := do
  if parsed.rows = [] then
    .ok (state, { imported := 0, skipped := parsed.skipped, errors := parsed.errors })
  else do
    let existing ← findExistingKeys state.db userId (parsed.rows.map rowDedupKey)
    let loop := parsed.rows.foldl (importRow existing) {}
    if loop.rowsToCreate = [] then
      .ok (state,
        { imported := 0
          skipped := parsed.skipped
          duplicatesSkipped := loop.duplicatesSkipped
          errors := parsed.errors })
    else do
      let rows ← loop.rowsToCreate.mapM storeRow
      let (state, created) ← (createRows state userId rows).mapError ImportFailure.transaction
      .ok (state,
        { imported := created.length
          skipped := parsed.skipped
          duplicatesSkipped := loop.duplicatesSkipped
          errors := parsed.errors })

def importCsv (maxRows : Nat) (state : ServiceState) (userId : Int) (content : ByteArray)
    (arguments : ImportArguments) : Except ImportFailure (ServiceState × CSVImportResultDTO) := do
  let parsed ← parseContent maxRows userId content arguments
  importParsed state userId parsed

/-- The loop skips a row whose key a live row or a row kept before has. -/
def blocked (db : TransactionDb) (userId : Int) (kept : List ParsedRow) (row : ParsedRow) : Bool :=
  hasKey db userId (rowDedupKey row) || kept.any fun other => rowDedupKey other = rowDedupKey row

def keptRows (db : TransactionDb) (userId : Int) (rows : List ParsedRow) : List ParsedRow :=
  select (blocked db userId) [] rows

def SeenKept (loop : ImportLoop) (kept : List ParsedRow) : Prop :=
  ∀ key, key ∈ loop.seenKeys ↔ ∃ other ∈ kept, rowDedupKey other = key

theorem import_row_cases {db : TransactionDb} {userId : Int} {keys : List DedupKey}
    {loop : ImportLoop} {kept : List ParsedRow} (seen : SeenKept loop kept) {row : ParsedRow}
    (member : rowDedupKey row ∈ keys) :
    (blocked db userId kept row = true → importRow (keys.filter (hasKey db userId)) loop row =
        { loop with duplicatesSkipped := loop.duplicatesSkipped + 1 }) ∧
    (blocked db userId kept row = false → importRow (keys.filter (hasKey db userId)) loop row =
        { loop with
          seenKeys := rowDedupKey row :: loop.seenKeys
          rowsToCreate := loop.rowsToCreate ++ [row] }) := by
  have decided : (rowDedupKey row ∈ keys.filter (hasKey db userId) ||
      rowDedupKey row ∈ loop.seenKeys : Bool) = blocked db userId kept row := by
    rw [Bool.eq_iff_iff]
    simp [blocked, member, seen (rowDedupKey row)]
  unfold importRow
  rw [decided]
  constructor
  · intro isBlocked
    rw [if_pos isBlocked]
  · intro isFree
    rw [if_neg (by simp [isFree])]

theorem import_loop_selects (db : TransactionDb) (userId : Int) (keys : List DedupKey)
    (rest : List ParsedRow) (included : ∀ row ∈ rest, rowDedupKey row ∈ keys)
    {loop : ImportLoop} {kept : List ParsedRow} (seen : SeenKept loop kept) :
    (rest.foldl (importRow (keys.filter (hasKey db userId))) loop).rowsToCreate =
        loop.rowsToCreate ++ select (blocked db userId) kept rest ∧
      (rest.foldl (importRow (keys.filter (hasKey db userId))) loop).duplicatesSkipped +
        (select (blocked db userId) kept rest).length = loop.duplicatesSkipped + rest.length := by
  induction rest generalizing loop kept with
  | nil => simp
  | cons row rest ih =>
    have step := @import_row_cases db userId keys loop kept seen row
      (included row mem_cons_self)
    have later := fun other member => included other (mem_cons_of_mem row member)
    rw [foldl_cons]
    cases decision : blocked db userId kept row with
    | true =>
      rw [select_blocked _ decision, step.1 decision]
      obtain ⟨rows, count⟩ := @ih later
        { loop with duplicatesSkipped := loop.duplicatesSkipped + 1 } kept seen
      refine ⟨rows, ?_⟩
      rw [count, length_cons]
      dsimp only
      omega
    | false =>
      rw [select_kept _ decision, step.2 decision]
      have next : SeenKept
          { loop with
            seenKeys := rowDedupKey row :: loop.seenKeys
            rowsToCreate := loop.rowsToCreate ++ [row] } (kept ++ [row]) := by
        intro key
        rw [mem_cons, seen key]
        constructor
        · rintro (rfl | ⟨other, isKept, same⟩)
          · exact ⟨row, mem_append_right _ (mem_singleton.mpr rfl), rfl⟩
          · exact ⟨other, mem_append_left _ isKept, same⟩
        · rintro ⟨other, isKept, same⟩
          rcases mem_snoc.mp isKept with early | rfl
          · exact Or.inr ⟨other, early, same⟩
          · exact Or.inl same.symm
      obtain ⟨rows, count⟩ := ih later next
      refine ⟨by rw [rows]; simp, ?_⟩
      rw [length_cons, length_cons]
      dsimp only at count
      omega

theorem kept_rows_selected (db : TransactionDb) (userId : Int) (rows : List ParsedRow) :
    (rows.foldl (importRow ((rows.map rowDedupKey).filter (hasKey db userId))) {}).rowsToCreate =
        keptRows db userId rows ∧
      (rows.foldl (importRow ((rows.map rowDedupKey).filter (hasKey db userId)))
        {}).duplicatesSkipped + (keptRows db userId rows).length = rows.length := by
  have selects := @import_loop_selects db userId (rows.map rowDedupKey) rows
    (fun row member => mem_map_of_mem member) {} [] (by simp [SeenKept])
  simpa [keptRows] using selects

theorem store_row_ok {row : ParsedRow} {stored : NewTransaction}
    (isStored : storeRow row = .ok stored) :
    ∃ value, row.amount.finiteValue = some value ∧ stored = storedRow row (toCents value) := by
  unfold storeRow columnCents at isStored
  cases isValue : row.amount.finiteValue with
  | none =>
    rw [isValue] at isStored
    cases isStored
  | some value =>
    rw [isValue, Option.bind_some] at isStored
    refine ⟨value, rfl, ?_⟩
    split_ifs at isStored
    cases isStored
    rfl

theorem store_rows_ok {rows : List ParsedRow} {stored : List NewTransaction}
    (areStored : rows.mapM storeRow = .ok stored) :
    List.Forall₂ (fun row new => storeRow row = .ok new) rows stored := by
  induction rows generalizing stored with
  | nil =>
    cases areStored
    exact .nil
  | cons row rows ih =>
    rw [mapM_cons] at areStored
    obtain ⟨_, isNew, areStored⟩ := bind_eq_ok.mp areStored
    obtain ⟨_, areOthers, areStored⟩ := bind_eq_ok.mp areStored
    cases areStored
    exact .cons isNew (ih areOthers)

/-- The kept rows are in the table, in their columns. -/
structure Stored (before after : ServiceState) (userId : Int) (rows : List ParsedRow)
    (result : CSVImportResultDTO) : Prop where
  fit : rows.all (fun row => fitsInteger row.accountId) = true
  table : ∃ stored, after.db = insertAll before.db stored ∧
    List.Forall₂ (fun row new => storeRow row = .ok new) (keptRows before.db userId rows) stored
  imported : result.imported = (keptRows before.db userId rows).length
  duplicates : result.duplicatesSkipped + (keptRows before.db userId rows).length = rows.length

variable {state after : ServiceState} {userId : Int} {parsed : ParsedCSVResult}
  {result : CSVImportResultDTO} {content : ByteArray}

theorem import_parsed_stores (returned : importParsed state userId parsed = .ok (after, result)) :
    Stored state after userId parsed.rows result := by
  obtain ⟨selected, count⟩ := kept_rows_selected state.db userId parsed.rows
  unfold importParsed at returned
  split at returned
  · next none =>
    cases returned
    rw [none]
    exact ⟨rfl, ⟨[], (insert_all_nil _).symm, .nil⟩, rfl, rfl⟩
  · obtain ⟨_, isExisting, returned⟩ := bind_eq_ok.mp returned
    unfold findExistingKeys at isExisting
    split at isExisting
    · next fit =>
      cases isExisting
      rw [all_map] at fit
      dsimp only at returned
      split at returned
      · next noRows =>
        cases returned
        rw [noRows] at selected
        rw [← selected] at count
        refine ⟨fit, ⟨[], (insert_all_nil _).symm, ?_⟩, ?_, ?_⟩
        · rw [← selected]
          exact .nil
        · rw [← selected]
          rfl
        · rw [← selected]
          exact count
      · obtain ⟨rows, areRows, returned⟩ := bind_eq_ok.mp returned
        obtain ⟨⟨_, _⟩, isCreated, returned⟩ := bind_eq_ok.mp returned
        cases returned
        have stored := store_rows_ok areRows
        rw [selected] at stored
        cases creates : createRows state userId rows with
        | error =>
          rw [creates] at isCreated
          cases isCreated
        | ok =>
          rw [creates] at isCreated
          cases isCreated
          obtain ⟨inserted, length, _⟩ := create_rows_ok creates
          refine ⟨fit, ⟨rows, inserted, stored⟩, ?_, count⟩
          rw [stored.length_eq]
          exact length
    · cases isExisting

theorem import_parsed_nothing (fit : parsed.rows.all (fun row => fitsInteger row.accountId) = true)
    (nothing : keptRows state.db userId parsed.rows = []) :
    importParsed state userId parsed = .ok (state,
      { imported := 0
        skipped := parsed.skipped
        duplicatesSkipped := parsed.rows.length
        errors := parsed.errors }) := by
  obtain ⟨selected, count⟩ := kept_rows_selected state.db userId parsed.rows
  rw [nothing] at selected count
  unfold importParsed
  split
  · next none => rw [none]; rfl
  · have existing : findExistingKeys state.db userId (parsed.rows.map rowDedupKey) =
        .ok ((parsed.rows.map rowDedupKey).filter (hasKey state.db userId)) := by
      unfold findExistingKeys
      rw [all_map]
      exact if_pos fit
    rw [length_nil, Nat.add_zero] at count
    rw [existing, ok_bind]
    dsimp only
    rw [if_pos selected, count]

theorem has_key_stored {kept : List ParsedRow} {stored : List NewTransaction}
    (areStored : List.Forall₂ (fun row new => storeRow row = .ok new) kept stored)
    (own : ∀ row ∈ kept, row.userId = userId) (db : TransactionDb) (key : DedupKey) :
    hasKey (insertAll db stored) userId key = true ↔
      hasKey db userId key = true ∨ ∃ row ∈ kept, ∃ value, row.amount.finiteValue = some value ∧
          { rowDedupKey row with amount := some ((toCents value : ℚ) / 100) } = key := by
  have same (row : ParsedRow) (value : ℚ) :
      storedKey ((storedRow row (toCents value)).toTransaction 0) =
        { rowDedupKey row with amount := some ((toCents value : ℚ) / 100) } := by
    simp [storedKey, storedRow, NewTransaction.toTransaction, rowDedupKey]
  have inserted : (stored.any fun new => (new.toTransaction 0).userId = userId &&
      !(new.toTransaction 0).deleted && storedKey (new.toTransaction 0) = key) = true ↔
        ∃ row ∈ kept, ∃ value, row.amount.finiteValue = some value ∧
          { rowDedupKey row with amount := some ((toCents value : ℚ) / 100) } = key := by
    induction areStored with
    | nil => simp
    | @cons row new kept stored isStored _ ih =>
      obtain ⟨value, isValue, rfl⟩ := store_row_ok isStored
      have isOwn := own row mem_cons_self
      have head : ((storedRow row (toCents value)).toTransaction 0).userId = userId := isOwn
      have live : ((storedRow row (toCents value)).toTransaction 0).deleted = false := rfl
      rw [any_cons, Bool.or_eq_true,
        ih fun other member => own other (mem_cons_of_mem row member), head, live, same]
      simp only [exists_mem_cons_iff, isValue, Option.some.injEq, exists_eq_left',
        decide_true, Bool.not_false, Bool.and_self, Bool.true_and, decide_eq_true_eq]
  unfold hasKey insertAll
  rw [any_append, Bool.or_eq_true, any_numbered _ _ _ fun _ _ _ => rfl, inserted]

/-- An amount that its column does not round. -/
def WholeCents (amount : Decimal) : Prop :=
  ∃ cents : ℤ, amount.finiteValue = some ((cents : ℚ) / 100)

theorem key_kept (db : TransactionDb) (userId : Int) (kept rows : List ParsedRow) :
    ∀ row ∈ rows, hasKey db userId (rowDedupKey row) = true ∨
      ∃ other ∈ kept ++ select (blocked db userId) kept rows,
        rowDedupKey other = rowDedupKey row := by
  induction rows generalizing kept with
  | nil => simp
  | cons head rows ih =>
    intro row member
    cases decision : blocked db userId kept head with
    | true =>
      rw [select_blocked _ decision]
      rcases mem_cons.mp member with rfl | later
      · unfold blocked at decision
        rw [Bool.or_eq_true, any_eq_true] at decision
        rcases decision with stored | ⟨other, isKept, same⟩
        · exact Or.inl stored
        · exact Or.inr ⟨other, mem_append_left _ isKept, of_decide_eq_true same⟩
      · exact ih kept row later
    | false =>
      rw [select_kept _ decision]
      rcases mem_cons.mp member with rfl | later
      · exact Or.inr ⟨row, mem_append_right _ mem_cons_self, rfl⟩
      · have found := ih (kept ++ [head]) row later
        rwa [append_assoc] at found

theorem whole_cents_kept {value : ℚ} (nonneg : 0 ≤ value) {cents : ℤ}
    (whole : value = (cents : ℚ) / 100) : (toCents value : ℚ) / 100 = value := by
  have positive : 0 ≤ cents := by
    by_contra negative
    have below : (cents : ℚ) < 0 := by exact_mod_cast not_le.mp negative
    rw [whole] at nonneg
    linarith
  obtain ⟨count, rfl⟩ := Int.eq_ofNat_of_zero_le positive
  have rounded := to_cents_from_cents count
  unfold fromCents at rounded
  rw [whole]
  push_cast
  rw [rounded]

theorem nothing_kept_again {before : ServiceState} {rows : List ParsedRow}
    (stored : Stored before after userId rows result) (own : ∀ row ∈ rows, row.userId = userId)
    (nonneg : ∀ row ∈ rows, ∀ value, row.amount.finiteValue = some value → 0 ≤ value) :
    keptRows after.db userId rows = [] ↔ ∀ row ∈ rows, WholeCents row.amount := by
  obtain ⟨_, table, areStored⟩ := stored.table
  have kept {row : ParsedRow} (isKept : row ∈ keptRows before.db userId rows) : row ∈ rows :=
    mem_of_select _ isKept
  have found := fun key => has_key_stored areStored (fun row isKept => own row (kept isKept))
    before.db key
  rw [← table] at found
  unfold keptRows
  rw [select_eq_nil_iff]
  constructor
  · -- A row found in the table has the amount of a column.
    intro allBlocked row member
    have isBlocked := allBlocked row member
    unfold blocked at isBlocked
    rw [any_nil, Bool.or_false] at isBlocked
    unfold hasKey at isBlocked
    obtain ⟨old, _, isOld⟩ := any_eq_true.mp isBlocked
    rw [Bool.and_eq_true, decide_eq_true_eq] at isOld
    exact ⟨old.amount, (congrArg DedupKey.amount isOld.2).symm⟩
  · intro whole row member
    unfold blocked
    rw [any_nil, Bool.or_false, found]
    rcases key_kept before.db userId [] rows row member with isStored | ⟨other, isKept, same⟩
    · exact Or.inl isStored
    · right
      obtain ⟨cents, isValue⟩ := whole row member
      rw [nil_append] at isKept
      have sameAmount : other.amount.finiteValue = some ((cents : ℚ) / 100) :=
        (congrArg DedupKey.amount same).trans isValue
      refine ⟨other, isKept, _, sameAmount, ?_⟩
      rw [whole_cents_kept (nonneg other (kept isKept) _ sameAmount) rfl, ← sameAmount]
      exact same

theorem import_csv_ok {maxRows : Nat} {arguments : ImportArguments}
    (returned : importCsv maxRows state userId content arguments = .ok (after, result)) :
    ∃ parser parsed, getParser arguments.bankFormat = .ok parser ∧
      parser.parse maxRows content (arguments.parse userId) = .ok parsed ∧
      parseContent maxRows userId content arguments = .ok parsed ∧
      importParsed state userId parsed = .ok (after, result) := by
  unfold importCsv at returned
  obtain ⟨parsed, isParsed, returned⟩ := bind_eq_ok.mp returned
  have original := isParsed
  unfold parseContent at isParsed
  split at isParsed
  · cases isParsed
  · obtain ⟨parser, isParser, isParsed⟩ := bind_eq_ok.mp isParsed
    cases parses : parser.parse maxRows content (arguments.parse userId) with
    | error =>
      rw [parses] at isParsed
      cases isParsed
    | ok =>
      rw [parses] at isParsed
      cases isParsed
      exact ⟨parser, parsed, isParser, parses, original, returned⟩

/-- After a successful import, the same import finds every parsed row and changes
nothing exactly when no amount of the file is rounded by its column. -/
theorem reimport_iff {maxRows : Nat} {state after : ServiceState} {userId : Int}
    {content : ByteArray} {arguments : ImportArguments} {first : CSVImportResultDTO}
    (succeeded : importCsv maxRows state userId content arguments = .ok (after, first)) :
    ∃ parser file parsed, getParser arguments.bankFormat = .ok parser ∧
      ReadsFile parser content file ∧
      parser.parse maxRows content (arguments.parse userId) = .ok parsed ∧
      ((∃ second, importCsv maxRows after userId content arguments = .ok (after, second) ∧
          second.imported = 0 ∧ second.duplicatesSkipped = parsed.rows.length) ↔
        ∀ record ∈ file.rows, reading parser record = some .accepted →
          ∃ amount, recordAmount parser record = some amount ∧ WholeCents amount) := by
  obtain ⟨parser, parsed, isParser, parses, isParsed, imported⟩ := import_csv_ok succeeded
  obtain ⟨file, reads, isCollected⟩ := parse_returns parses
  have stored := import_parsed_stores imported
  have again := nothing_kept_again stored
    (fun row member => by
      obtain ⟨_, _, emitted⟩ := collected_row_of (isCollected ▸ member)
      exact (row_of_emitted emitted).userId)
    (fun row member => by
      obtain ⟨_, _, emitted⟩ := collected_row_of (isCollected ▸ member)
      exact (row_of_emitted emitted).nonneg)
  have cells : (∀ row ∈ parsed.rows, WholeCents row.amount) ↔
      ∀ record ∈ file.rows, reading parser record = some .accepted →
        ∃ amount, recordAmount parser record = some amount ∧ WholeCents amount := by
    rw [isCollected]
    refine collected_rows_iff fun record row rowOf => ?_
    rw [rowOf.amount]
    simp
  refine ⟨parser, file, parsed, isParser, reads, parses, ?_⟩
  rw [← cells, ← again]
  constructor
  · rintro ⟨second, returned, none, _⟩
    unfold importCsv at returned
    rw [isParsed] at returned
    have counted := (import_parsed_stores returned).imported
    rw [none] at counted
    exact length_eq_zero_iff.mp counted.symm
  · intro nothing
    have returned := import_parsed_nothing stored.fit nothing
    have calls : importCsv maxRows after userId content arguments =
        importParsed after userId parsed := by
      unfold importCsv
      rw [isParsed]
      rfl
    exact ⟨_, calls.trans returned, rfl, rfl⟩

def noTransactions : ServiceState := ⟨⟨[], 1⟩, []⟩

theorem internal_content_parsed
    (parses : CsvParser.internal.parse csvMaxRows content wageArguments = .ok parsed) :
    parseContent csvMaxRows 1 content {} = .ok parsed := by
  unfold parseContent getParser
  rw [if_neg (by decide), if_pos rfl, ok_bind]
  exact congrArg (Except.mapError ImportFailure.parse) parses

theorem internal_content_imported
    (parses : CsvParser.internal.parse csvMaxRows content wageArguments = .ok parsed)
    (state : ServiceState) :
    importCsv csvMaxRows state 1 content {} = importParsed state 1 parsed := by
  unfold importCsv
  rw [internal_content_parsed parses]
  rfl

theorem wage_reimport_iff : ∃ after first, importCsv csvMaxRows noTransactions 1
        (csvContent ',' [accountHeader, wageRecord]) {} = .ok (after, first) ∧
      ∃ parser file parsed, getParser "internal" = .ok parser ∧
        ReadsFile parser (csvContent ',' [accountHeader, wageRecord]) file ∧
        parser.parse csvMaxRows (csvContent ',' [accountHeader, wageRecord]) wageArguments =
          .ok parsed ∧
        ((∃ second, importCsv csvMaxRows after 1 (csvContent ',' [accountHeader, wageRecord]) {} =
              .ok (after, second) ∧
            second.imported = 0 ∧ second.duplicatesSkipped = parsed.rows.length) ↔
          ∀ record ∈ file.rows, reading parser record = some .accepted →
            ∃ amount, recordAmount parser record = some amount ∧ WholeCents amount) := by
  have returns : (importParsed noTransactions 1
      ⟨[salaryRow (.finite false 1 0)], [], 0⟩).toOption.isSome = true := by decide +kernel
  have imports := internal_content_imported wage_accepted noTransactions
  rw [← imports] at returns
  cases imported : importCsv csvMaxRows noTransactions 1
      (csvContent ',' [accountHeader, wageRecord]) {} with
  | error =>
    rw [imported] at returns
    cases returns
  | ok outcome => exact ⟨outcome.1, outcome.2, rfl, reimport_iff imported⟩

def roundedRecord : List (List Char) :=
  ["2024-01-31", "1.005", "income", "7", "Salary"].map String.toList

theorem rounded_accepted :
    CsvParser.internal.parse csvMaxRows (csvContent ',' [accountHeader, roundedRecord])
      wageArguments = .ok ⟨[salaryRow (.finite false 1005 (-3))], [], 0⟩ := by
  rw [parse_reads (account_file_read (by decide +kernel))]
  decide +kernel

theorem rounded_amount_imported_twice : ∃ after first later second,
      importCsv csvMaxRows noTransactions 1 (csvContent ',' [accountHeader, roundedRecord]) {} =
        .ok (after, first) ∧
      importCsv csvMaxRows after 1 (csvContent ',' [accountHeader, roundedRecord]) {} =
        .ok (later, second) ∧
      second.imported = 1 ∧ second.duplicatesSkipped = 0 := by
  have twice : ((importParsed noTransactions 1 ⟨[salaryRow (.finite false 1005 (-3))], [], 0⟩ >>=
      fun outcome => importParsed outcome.1 1
        ⟨[salaryRow (.finite false 1005 (-3))], [], 0⟩).toOption.map fun outcome =>
          (outcome.2.imported, outcome.2.duplicatesSkipped)) = some (1, 0) := by decide +kernel
  simp only [internal_content_imported rounded_accepted]
  cases one : importParsed noTransactions 1 ⟨[salaryRow (.finite false 1005 (-3))], [], 0⟩ with
  | error =>
    rw [one] at twice
    cases twice
  | ok first =>
    rw [one, ok_bind] at twice
    cases two : importParsed first.1 1 ⟨[salaryRow (.finite false 1005 (-3))], [], 0⟩ with
    | error =>
      rw [two] at twice
      cases twice
    | ok second =>
      rw [two] at twice
      have counts := Option.some.inj twice
      exact ⟨first.1, first.2, second.1, second.2, rfl, two, congrArg Prod.fst counts,
        congrArg Prod.snd counts⟩

end FinanceTracker.Transaction.CsvImport
