import FinanceTracker.Transaction.CsvCells

/-!
# Bad records stay alone

The loop over the records keeps what each record alone becomes: a row, an error or
nothing. It ends early at a row beyond the cap and at a record that is not guarded.
-/

namespace FinanceTracker.Transaction.CsvIsolation

open Library Csv Decoding Runs CsvCells CsvParsers List

def emittedRow : RecordOutcome → Option ParsedRow
  | .emitted row => some row
  | _ => none

theorem emitted_of_row {outcome : RecordOutcome} {row : ParsedRow}
    (isRow : emittedRow outcome = some row) : outcome = .emitted row := by
  cases outcome with
  | emitted =>
    cases isRow
    rfl
  | blank | skipped | raised => cases isRow

def skippedException : RecordOutcome → Option RowException
  | .skipped exception => some exception
  | _ => none

section Loop

variable (outcome : DictRow → RecordOutcome)

def emittedRows (records : List DictRow) : List ParsedRow :=
  records.filterMap fun record => emittedRow (outcome record)

/-- One entry for each skipped record, under its number. -/
def rowErrors (rowNum : Nat) (records : List DictRow) : List RowError :=
  (records.zipIdx rowNum).filterMap fun numbered =>
    (skippedException (outcome numbered.1)).map (RowError.mk numbered.2)

theorem emitted_rows_cons (record : DictRow) (records : List DictRow) :
    emittedRows outcome (record :: records) =
      (emittedRow (outcome record)).toList ++ emittedRows outcome records := by
  unfold emittedRows
  rw [filterMap_cons]
  cases emittedRow (outcome record) with
  | none | some => rfl

variable {record : DictRow} {maxRows : Nat} {records : List DictRow} {result : ParsedCSVResult}

theorem emitted_rows_replicate {row : ParsedRow} (emitted : outcome record = .emitted row)
    (count : Nat) :
    emittedRows outcome (List.replicate count record) = List.replicate count row := by
  induction count with
  | zero => rfl
  | succ count ih =>
    rw [replicate_succ, emitted_rows_cons, ih, emitted]
    rfl

theorem row_errors_cons (rowNum : Nat) (record : DictRow) (records : List DictRow) :
    rowErrors outcome rowNum (record :: records) =
      ((skippedException (outcome record)).map (RowError.mk rowNum)).toList ++
        rowErrors outcome (rowNum + 1) records := by
  unfold rowErrors
  rw [zipIdx_cons, filterMap_cons]
  dsimp only
  cases skippedException (outcome record) with
  | none | some => rfl

/-- What the loop adds to a result. -/
def collect (rowNum : Nat) (result : ParsedCSVResult) (records : List DictRow) : ParsedCSVResult where
  rows := result.rows ++ emittedRows outcome records
  errors := result.errors ++ rowErrors outcome rowNum records
  skipped := result.skipped + (rowErrors outcome rowNum records).length

theorem collect_blank {outcome : DictRow → RecordOutcome} (blank : outcome record = .blank)
    (rowNum : Nat) (result : ParsedCSVResult) (records : List DictRow) :
    collect outcome rowNum result (record :: records) =
      collect outcome (rowNum + 1) result records := by
  simp [collect, emittedRows, rowErrors, blank, emittedRow, skippedException]

theorem collect_emitted {outcome : DictRow → RecordOutcome} {row : ParsedRow}
    (emitted : outcome record = .emitted row) (rowNum : Nat) (result : ParsedCSVResult)
    (records : List DictRow) :
    collect outcome rowNum result (record :: records) =
      collect outcome (rowNum + 1) { result with rows := result.rows ++ [row] } records := by
  simp [collect, emittedRows, rowErrors, emitted, emittedRow, skippedException]

theorem collect_skipped {outcome : DictRow → RecordOutcome} {exception : RowException}
    (skipped : outcome record = .skipped exception) (rowNum : Nat) (result : ParsedCSVResult)
    (records : List DictRow) :
    collect outcome rowNum result (record :: records) =
      collect outcome (rowNum + 1) (result.addError rowNum exception) records := by
  simp [collect, emittedRows, rowErrors, skipped, emittedRow, skippedException,
    ParsedCSVResult.addError, Nat.add_assoc, Nat.add_comm 1]

/-- The first row beyond the cap ends the loop. -/
theorem parse_records_eq {outcome : DictRow → RecordOutcome}
    (guarded : ∀ record ∈ records, ∀ exception, outcome record ≠ .raised exception) (rowNum : Nat)
    (within : result.rows.length ≤ maxRows) :
    parseRecords maxRows outcome rowNum result records =
      if result.rows.length + (emittedRows outcome records).length ≤ maxRows then
        .ok (collect outcome rowNum result records)
      else .error (.csvImport (tooManyRows maxRows)) := by
  induction records generalizing rowNum result with
  | nil => simp [parseRecords, collect, emittedRows, rowErrors, within]
  | cons record records ih =>
    have rest := fun other member => guarded other (mem_cons_of_mem record member)
    rw [emitted_rows_cons]
    unfold parseRecords
    cases isOutcome : outcome record with
    | blank =>
      rw [collect_blank isOutcome]
      exact ih rest (rowNum + 1) within
    | emitted =>
      rw [collect_emitted isOutcome]
      dsimp only
      unfold ParsedCSVResult.addRow
      split
      · rw [if_neg (by simp [emittedRow]; omega)]
        rfl
      · rw [ok_bind, ih rest (rowNum + 1) (by simp; omega)]
        rw [length_append, length_append, Nat.add_assoc]
        rfl
    | skipped =>
      rw [collect_skipped isOutcome]
      exact ih rest (rowNum + 1) within
    | raised exception => exact absurd isOutcome (guarded record mem_cons_self exception)

theorem parse_records_ok {outcome : DictRow → RecordOutcome}
    (guarded : ∀ record ∈ records, ∀ exception, outcome record ≠ .raised exception) (rowNum : Nat)
    (room : result.rows.length + (emittedRows outcome records).length ≤ maxRows) :
    parseRecords maxRows outcome rowNum result records =
      .ok (collect outcome rowNum result records) := by
  rw [parse_records_eq guarded rowNum (by omega), if_pos room]

theorem parse_records_full {outcome : DictRow → RecordOutcome}
    (guarded : ∀ record ∈ records, ∀ exception, outcome record ≠ .raised exception) (rowNum : Nat)
    (within : result.rows.length ≤ maxRows)
    (full : maxRows < result.rows.length + (emittedRows outcome records).length) :
    parseRecords maxRows outcome rowNum result records =
      .error (.csvImport (tooManyRows maxRows)) := by
  rw [parse_records_eq guarded rowNum within, if_neg (Nat.not_le.mpr full)]

theorem parse_records_collects {outcome : DictRow → RecordOutcome} {rowNum : Nat}
    {final : ParsedCSVResult}
    (returned : parseRecords maxRows outcome rowNum result records = .ok final) :
    final = collect outcome rowNum result records := by
  induction records generalizing rowNum result with
  | nil =>
    cases returned
    simp [collect, emittedRows, rowErrors]
  | cons record records ih =>
    unfold parseRecords at returned
    cases isOutcome : outcome record with
    | blank =>
      rw [isOutcome] at returned
      rw [collect_blank isOutcome]
      exact ih returned
    | emitted =>
      rw [isOutcome] at returned
      obtain ⟨_, added, returned⟩ := bind_eq_ok.mp returned
      rw [collect_emitted isOutcome]
      unfold ParsedCSVResult.addRow at added
      split at added
      · contradiction
      · cases added
        exact ih returned
    | skipped =>
      rw [isOutcome] at returned
      rw [collect_skipped isOutcome]
      exact ih returned
    | raised =>
      rw [isOutcome] at returned
      contradiction

theorem accounted (guarded : ∀ record ∈ records, ∀ exception, outcome record ≠ .raised exception)
    (rowNum : Nat) :
    (emittedRows outcome records).length + (rowErrors outcome rowNum records).length +
      (records.filter fun record => outcome record = .blank).length = records.length := by
  induction records generalizing rowNum with
  | nil => rfl
  | cons record records ih =>
    have rest := ih (fun other member => guarded other (mem_cons_of_mem record member))
      (rowNum + 1)
    rw [emitted_rows_cons, row_errors_cons, length_append, length_append, length_cons]
    cases isOutcome : outcome record with
    | blank =>
      rw [filter_cons_of_pos (by simp [isOutcome]), length_cons]
      simp only [emittedRow, skippedException, Option.map_none, Option.toList_none, length_nil]
      omega
    | emitted =>
      rw [filter_cons_of_neg (by simp [isOutcome])]
      simp only [emittedRow, skippedException, Option.map_none, Option.toList_none,
        Option.toList_some, length_nil, length_singleton]
      omega
    | skipped =>
      rw [filter_cons_of_neg (by simp [isOutcome])]
      simp only [emittedRow, skippedException, Option.map_some, Option.toList_none,
        Option.toList_some, length_nil, length_singleton]
      omega
    | raised exception => exact absurd isOutcome (guarded record mem_cons_self exception)

end Loop

/-- A decodable file whose header has the required columns. -/
structure ReadsFile (parser : CsvParser) (content : ByteArray) (file : DictFile) : Prop where
  text : ∃ text, parser.decode content = some text ∧
    dictReader parser.delimiter text = .ok (some file)
  complete : parser.missing file.fieldnames = []

variable {parser : CsvParser}

theorem parse_reads {content : ByteArray} {file : DictFile} (reads : ReadsFile parser content file)
    (maxRows : Nat) (arguments : ParseArguments) :
    parser.parse maxRows content arguments =
      parseRecords maxRows (parser.outcome arguments) 2 {} file.rows >>= fun result =>
        match file.failure with
        | none => .ok result
        | some failure => .error (.csv failure) := by
  obtain ⟨text, decoded, read⟩ := reads.text
  unfold CsvParser.parse
  rw [decoded]
  dsimp only
  rw [read]
  change parser.parseFile maxRows arguments file = _
  unfold CsvParser.parseFile
  rw [reads.complete]
  rfl

/-- An accepted file is one that was read to its end, and its rows are what its records
alone become. -/
theorem parse_returns {maxRows : Nat} {content : ByteArray} {arguments : ParseArguments}
    {result : ParsedCSVResult} (returned : parser.parse maxRows content arguments = .ok result) :
    ∃ file, ReadsFile parser content file ∧
      result = collect (parser.outcome arguments) 2 {} file.rows := by
  unfold CsvParser.parse at returned
  cases decoded : parser.decode content with
  | none =>
    rw [decoded] at returned
    cases returned
  | some text =>
    rw [decoded] at returned
    dsimp only at returned
    cases read : dictReader parser.delimiter text with
    | error =>
      rw [read] at returned
      cases returned
    | ok found =>
      rw [read] at returned
      cases found with
      | none => cases returned
      | some file =>
        change parser.parseFile maxRows arguments file = _ at returned
        unfold CsvParser.parseFile at returned
        dsimp only at returned
        split at returned
        · cases returned
        · next complete =>
          obtain ⟨_, parsed, returned⟩ := bind_eq_ok.mp returned
          refine ⟨file, ⟨⟨text, decoded, read⟩, not_not.mp complete⟩, ?_⟩
          cases ended : file.failure with
          | some =>
            rw [ended] at returned
            cases returned
          | none =>
            rw [ended] at returned
            cases returned
            exact parse_records_collects parsed

/-- A file of lines in UTF-8. -/
def csvContent (delimiter : Char) (records : List (List (List Char))) : ByteArray :=
  (String.ofList (records.flatMap (plainLine delimiter))).toUTF8

def plainFile (header : List (List Char)) (records : List (List (List Char))) : DictFile where
  fieldnames := header.map String.ofList
  rows := records.map fun record => ⟨header.map String.ofList, record.map String.ofList⟩
  failure := none

theorem decode_unmarked (parser : CsvParser) {text : String}
    (unmarked : text.toList.head? ≠ some byteOrderMark) :
    parser.decode text.toUTF8 = some text := by
  unfold CsvParser.decode
  cases parser.bank with
  | none => exact decode_utf8_text text
  | some =>
    change bankDecode text.toUTF8 = _
    unfold bankDecode
    rw [decode_utf8_sig_text unmarked]
    rfl

theorem reads_plain {parser : CsvParser} {header : List (List Char)}
    {records : List (List (List Char))}
    (plain : ∀ record ∈ header :: records, PlainRecord parser.delimiter record)
    (unmarked : (plainLine parser.delimiter header).head? ≠ some byteOrderMark)
    (complete : parser.missing (header.map String.ofList) = []) :
    ReadsFile parser (csvContent parser.delimiter (header :: records))
      (plainFile header records) := by
  have proper : ProperDelimiter parser.delimiter := by
    cases parser with
    | internal | nordea | danskeBank => decide
  have read := read_plain_text proper plain
  have kept : (records.map fun record => record.map String.ofList).filter (· ≠ []) =
      records.map fun record => record.map String.ofList := by
    rw [filter_eq_self]
    intro _ member
    obtain ⟨record, isRecord, rfl⟩ := mem_map.mp member
    have nonempty := (plain record (mem_cons_of_mem _ isRecord)).1
    simpa using nonempty
  refine ⟨⟨_, decode_unmarked parser ?_, ?_⟩, complete⟩
  · rw [String.toList_ofList, flatMap_cons]
    obtain ⟨line, isLine, _⟩ := plain_line_split proper (plain header mem_cons_self).2.2
    rw [isLine] at unmarked ⊢
    cases line with
    | nil | cons => exact unmarked
  · unfold dictReader
    rw [read, map_cons]
    dsimp only
    rw [kept, map_map]
    rfl

def accountHeader : List (List Char) :=
  ["date", "amount", "transaction_type", "account_id", "account_name"].map String.toList

def wageRecord : List (List Char) := ["2024-01-31", "1", "income", "7", "Salary"].map String.toList

/-- The record ends before its type. -/
def shortRecord : List (List Char) := ["2024-01-31", "1"].map String.toList

theorem account_header_plain : PlainRecord ',' accountHeader := by decide +kernel

theorem account_file_read {records : List (List (List Char))}
    (plain : ∀ record ∈ records, PlainRecord ',' record) :
    ReadsFile .internal (csvContent ',' (accountHeader :: records))
      (plainFile accountHeader records) :=
  @reads_plain .internal accountHeader records
    (forall_mem_cons.mpr ⟨account_header_plain, plain⟩) (by decide +kernel) (by decide +kernel)

def wageArguments : ParseArguments := ⟨1, 0, ""⟩

def wageRow : DictRow := ⟨accountHeader.map String.ofList, wageRecord.map String.ofList⟩

theorem wage_emitted : ∃ row, CsvParser.internal.outcome wageArguments wageRow = .emitted row := by
  rw [outcome_emitted_iff]
  decide +kernel

/-- Each record is a row, an error or blank, whatever the other records are. -/
structure Isolated (parser : CsvParser) (arguments : ParseArguments) (records : List DictRow)
    (result : ParsedCSVResult) : Prop where
  rows : result.rows = emittedRows (parser.outcome arguments) records
  errors : result.errors = rowErrors (parser.outcome arguments) 2 records
  skipped : result.skipped = result.errors.length
  each : ∀ record ∈ records, (∃ row, parser.outcome arguments record = .emitted row) ∨
      (∃ exception, parser.outcome arguments record = .skipped exception) ∨
        (parser ≠ .internal ∧ hasText record = false ∧ parser.outcome arguments record = .blank)
  counted : result.rows.length + result.skipped +
    (records.filter fun record => parser.outcome arguments record = .blank).length = records.length
  alone : ∀ before record after, records = before ++ record :: after →
    emittedRow (parser.outcome arguments record) = none →
      result.rows = emittedRows (parser.outcome arguments) (before ++ after)

theorem bank_of_blank {record : DictRow} (blank : isBlank parser record = true) :
    parser ≠ .internal ∧ hasText record = false := by
  unfold isBlank at blank
  rw [Bool.and_eq_true, Bool.not_eq_true'] at blank
  refine ⟨?_, blank.2⟩
  rintro rfl
  cases blank.1

theorem collect_isolated {arguments : ParseArguments} {records : List DictRow}
    (guarded : ∀ record ∈ records, ∀ exception, parser.outcome arguments record ≠ .raised exception) :
    Isolated parser arguments records (collect (parser.outcome arguments) 2 {} records) := by
  have errors : (collect (parser.outcome arguments) 2 {} records).errors =
      rowErrors (parser.outcome arguments) 2 records := nil_append _
  have skipped : (collect (parser.outcome arguments) 2 {} records).skipped =
      (rowErrors (parser.outcome arguments) 2 records).length := Nat.zero_add _
  have rows : (collect (parser.outcome arguments) 2 {} records).rows =
      emittedRows (parser.outcome arguments) records := nil_append _
  refine ⟨rows, errors, ?_, ?_, ?_, ?_⟩
  · rw [skipped, errors]
  · intro record member
    cases isOutcome : parser.outcome arguments record with
    | blank =>
      obtain ⟨isBank, noText⟩ := bank_of_blank (outcome_blank_iff.mp isOutcome).1
      exact Or.inr (Or.inr ⟨isBank, noText, rfl⟩)
    | emitted row => exact Or.inl ⟨row, rfl⟩
    | skipped exception => exact Or.inr (Or.inl ⟨exception, rfl⟩)
    | raised exception => exact absurd isOutcome (guarded record member exception)
  · rw [rows, skipped]
    exact accounted _ guarded 2
  · rintro before record after rfl none
    rw [rows]
    have kept := emitted_rows_cons (parser.outcome arguments) record after
    rw [none] at kept
    unfold emittedRows at kept ⊢
    rw [filterMap_append, filterMap_append, kept]
    rfl

/-- Records that the parser guards end in rows, errors and blanks, or in the row cap. -/
theorem records_isolated {parser : CsvParser} {content : ByteArray} {file : DictFile}
    (reads : ReadsFile parser content file) (whole : file.failure = none)
    (guarded : ∀ record ∈ file.rows, reading parser record ≠ some .unguarded) (maxRows : Nat)
    (arguments : ParseArguments) :
    ((emittedRows (parser.outcome arguments) file.rows).length ≤ maxRows →
      ∃ result, parser.parse maxRows content arguments = .ok result ∧
        Isolated parser arguments file.rows result) ∧
    (maxRows < (emittedRows (parser.outcome arguments) file.rows).length →
      parser.parse maxRows content arguments = .error (.csvImport (tooManyRows maxRows))) := by
  have noneRaised : ∀ record ∈ file.rows, ∀ exception,
      parser.outcome arguments record ≠ .raised exception := by
    intro record member exception raised
    exact guarded record member (outcome_raised_iff.mp ⟨exception, raised⟩)
  rw [parse_reads reads, whole]
  constructor
  · intro room
    rw [parse_records_ok noneRaised 2 (by simpa using room)]
    exact ⟨_, rfl, collect_isolated noneRaised⟩
  · intro full
    rw [parse_records_full noneRaised 2 (Nat.zero_le _) (by simpa using full)]
    rfl

def unreadableRecord : List (List Char) :=
  ["2024-01-31", "x", "income", "7", "Salary"].map String.toList

theorem unreadable_amount_isolated : ∃ result, CsvParser.internal.parse csvMaxRows
        (csvContent ',' [accountHeader, wageRecord, unreadableRecord, wageRecord]) wageArguments =
          .ok result ∧
      Isolated .internal wageArguments
        (plainFile accountHeader [wageRecord, unreadableRecord, wageRecord]).rows result :=
  (records_isolated (account_file_read (by decide +kernel)) rfl (by decide +kernel) csvMaxRows
    wageArguments).1 (by decide +kernel)

theorem wages_read (count : Nat) :
    ReadsFile .internal (csvContent ',' (accountHeader :: List.replicate count wageRecord))
      (plainFile accountHeader (List.replicate count wageRecord)) := by
  apply account_file_read
  intro _ member
  rw [eq_of_mem_replicate member]
  decide +kernel

theorem wages_beyond_cap (limit : Nat) : CsvParser.internal.parse limit
        (csvContent ',' (accountHeader :: List.replicate (limit + 1) wageRecord)) wageArguments =
      .error (.csvImport (tooManyRows limit)) := by
  have rows : (plainFile accountHeader (List.replicate (limit + 1) wageRecord)).rows =
      List.replicate (limit + 1) wageRow := map_replicate
  obtain ⟨_, emitted⟩ := wage_emitted
  have count : (emittedRows (CsvParser.internal.outcome wageArguments)
      (List.replicate (limit + 1) wageRow)).length = limit + 1 := by
    rw [emitted_rows_replicate _ emitted, length_replicate]
  rw [parse_reads (wages_read _), rows, parse_records_full]
  · rfl
  · intro _ member _ raised
    rw [eq_of_mem_replicate member, emitted] at raised
    contradiction
  · exact Nat.zero_le _
  · rw [count]
    simp

/-- Rows beyond the cap end the parse by design, and a record without its last cells ends
it by an exception that is not caught. -/
theorem crowded_file_raises : (∃ file, ReadsFile .internal
        (csvContent ',' (accountHeader :: List.replicate (csvMaxRows + 1) wageRecord)) file ∧
      CsvParser.internal.parse csvMaxRows
          (csvContent ',' (accountHeader :: List.replicate (csvMaxRows + 1) wageRecord))
          wageArguments = .error (.csvImport (tooManyRows csvMaxRows))) ∧
    ∃ file, ReadsFile .internal (csvContent ',' [accountHeader, shortRecord]) file ∧
      CsvParser.internal.parse csvMaxRows (csvContent ',' [accountHeader, shortRecord])
        wageArguments = .error (.row .attributeError) := by
  have short : ReadsFile .internal (csvContent ',' [accountHeader, shortRecord])
      (plainFile accountHeader [shortRecord]) := account_file_read (by decide +kernel)
  refine ⟨⟨_, wages_read _, wages_beyond_cap csvMaxRows⟩, ⟨_, short, ?_⟩⟩
  rw [parse_reads short]
  decide +kernel

end FinanceTracker.Transaction.CsvIsolation
