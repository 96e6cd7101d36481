import FinanceTracker.Transaction.CsvIsolation

/-!
# Which rows of a file can be stored

The parsers compare an amount with zero and strip the texts, and the columns ask for
more. Every row of an accepted file can be stored exactly when the cells of its
records are within the bounds of the columns.
-/

namespace FinanceTracker.Transaction.CsvStorable

open Library Columns Csv DecimalText Runs Texts CsvCells CsvIsolation CsvParsers

/-- The most cents that `NUMERIC(12, 2)` holds. -/
def maxCents : ℕ := 999999999999

def columnCents (amount : Decimal) : Option ℕ :=
  amount.finiteValue.bind fun value =>
    if toCents value ≤ maxCents then some (toCents value) else none

def columnsAccept (row : ParsedRow) : Bool :=
  (columnCents row.amount).isSome && fitsInteger row.accountId &&
    fitsVarchar 100 row.accountName && row.categoryId.all fitsInteger &&
    row.categoryName.all (fitsVarchar 100) && row.description.all (fitsVarchar 500)

/-- A positive amount of cents and texts within their lengths, in a row that the
database takes. -/
structure Storable (row : ParsedRow) : Prop where
  amount : ∃ value, row.amount.finiteValue = some value ∧ 1 ≤ toCents value ∧
    toCents value ≤ maxCents
  description : ∀ text, row.description = some text → text.length ≤ 500
  accountName : row.accountName.length ≤ 100
  categoryName : ∀ text, row.categoryName = some text → text.length ≤ 100
  accepted : columnsAccept row = true

def recordAmount (parser : CsvParser) (record : DictRow) : Option Decimal :=
  match parser.bank with
  | none => (record.get "amount").join.bind Decimal.ofText
  | some _ =>
    ((record.get "Beløb").join.bind danishAmount).bind fun amount => amount.abs.toOption

def recordAccountId (parser : CsvParser) (arguments : ParseArguments) (record : DictRow) :
    Option Int :=
  match parser.bank with
  | none => (record.get "account_id").join.bind intOfText
  | some _ => some arguments.accountId

def recordAccountName (parser : CsvParser) (arguments : ParseArguments) (record : DictRow) :
    String :=
  match parser.bank with
  | none => textOf record "account_name"
  | some _ => arguments.accountName

def recordCategoryId (parser : CsvParser) (record : DictRow) : Option Int :=
  match parser.bank with
  | none => (record.get "category_id").join.bind intOfText
  | some _ => none

def recordCategoryName (parser : CsvParser) (record : DictRow) : String :=
  match parser.bank with
  | none => textOf record "category_name"
  | some _ => ""

def recordDescription (parser : CsvParser) (record : DictRow) : String :=
  match parser.bank with
  | none => textOf record "description"
  | some format => format.describe record

/-- The fields of an emitted row in terms of the cells. -/
structure RowOf (parser : CsvParser) (arguments : ParseArguments) (record : DictRow)
    (row : ParsedRow) : Prop where
  userId : row.userId = arguments.userId
  amount : recordAmount parser record = some row.amount
  nonneg : ∀ value, row.amount.finiteValue = some value → 0 ≤ value
  accountId : recordAccountId parser arguments record = some row.accountId
  accountName : row.accountName = recordAccountName parser arguments record
  categoryId : row.categoryId = recordCategoryId parser record
  categoryName : row.categoryName.getD "" = recordCategoryName parser record
  description : row.description.getD "" = recordDescription parser record

variable {record : DictRow} {column : String} {value : Option String} {amount : Decimal}
  {arguments : ParseArguments} {row : ParsedRow} {parser : CsvParser}

theorem cell_ok (isCell : cell record column = .ok value) : record.get column = some value := by
  unfold cell at isCell
  generalize record.get column = found at isCell
  cases found with
  | none => contradiction
  | some =>
    cases isCell
    rfl

theorem strip_cell_ok {stripped : String} (isText : stripCell value = .ok stripped) :
    stripped = strip (value.getD "") := by
  cases value with
  | none => contradiction
  | some =>
    cases isText
    rfl

theorem int_cell_of_ok {number : Int} (isNumber : intCell value = .ok number) :
    value.bind intOfText = some number := by
  cases value with
  | none => contradiction
  | some text =>
    cases read : intOfText text with
    | none =>
      rw [int_cell_error read] at isNumber
      cases isNumber
    | some =>
      rw [int_cell_ok read] at isNumber
      cases isNumber
      exact read

theorem trapped_ok {Value : Type} {result : Except Signal Value} {value : Value}
    (isValue : trapped result = .ok value) : result = .ok value := by
  cases result with
  | error => cases isValue
  | ok =>
    cases isValue
    rfl

theorem positive_amount_ok (isAmount : positiveAmount value = .ok amount) :
    value.bind Decimal.ofText = some amount ∧ amount.leZero = .ok false := by
  cases value with
  | none => contradiction
  | some text =>
    unfold positiveAmount decimalText at isAmount
    dsimp only at isAmount
    rw [Option.bind_some]
    cases read : Decimal.ofText text with
    | none =>
      rw [read] at isAmount
      cases isAmount
    | some =>
      rw [read] at isAmount
      obtain ⟨_, isSame, isAmount⟩ := bind_eq_ok.mp isAmount
      cases isSame
      obtain ⟨_, isCompared, isAmount⟩ := bind_eq_ok.mp isAmount
      split at isAmount
      · cases isAmount
      · next isFalse =>
        cases isAmount
        rw [Bool.not_eq_true] at isFalse
        subst isFalse
        exact ⟨rfl, trapped_ok isCompared⟩

theorem optional_int_ok {number : Option Int} (read : optionalInt record column = .ok number) :
    number = (record.get column).join.bind intOfText := by
  unfold optionalInt at read
  generalize record.get column = value at read
  match value with
  | none =>
    cases read
    rfl
  | some none =>
    cases read
    rfl
  | some (some text) =>
    dsimp only at read
    split at read
    · next empty =>
      cases read
      subst empty
      rfl
    · cases isNumber : intCell (some text) with
      | error =>
        rw [isNumber] at read
        cases read
      | ok =>
        rw [isNumber] at read
        cases read
        exact (int_cell_of_ok isNumber).symm

theorem optional_text_ok {text : Option String} (read : optionalText record column = .ok text) :
    text.getD "" = textOf record column := by
  unfold optionalText at read
  unfold textOf
  generalize record.get column = value at read
  match value with
  | none =>
    cases read
    rfl
  | some none => contradiction
  | some (some found) =>
    cases read
    change (if strip found = "" then none else some (strip found)).getD "" = strip found
    split
    · next empty => exact empty.symm
    · rfl

theorem internal_row_of (emitted : internalRow arguments record = .ok row) :
    RowOf .internal arguments record row := by
  unfold internalRow at emitted
  obtain ⟨_, hasAmount, emitted⟩ := bind_eq_ok.mp emitted
  obtain ⟨amount, isAmount, emitted⟩ := bind_eq_ok.mp emitted
  obtain ⟨_, emitted⟩ := rest_ok emitted
  obtain ⟨_, emitted⟩ := rest_ok emitted
  obtain ⟨_, hasId, emitted⟩ := bind_eq_ok.mp emitted
  obtain ⟨_, isId, emitted⟩ := bind_eq_ok.mp emitted
  obtain ⟨_, hasName, emitted⟩ := bind_eq_ok.mp emitted
  obtain ⟨_, isName, emitted⟩ := bind_eq_ok.mp emitted
  obtain ⟨_, isCategory, emitted⟩ := bind_eq_ok.mp emitted
  obtain ⟨_, isCategoryName, emitted⟩ := bind_eq_ok.mp emitted
  obtain ⟨_, isDescription, emitted⟩ := bind_eq_ok.mp emitted
  obtain ⟨_, emitted⟩ := rest_ok emitted
  obtain ⟨_, emitted⟩ := rest_ok emitted
  cases emitted
  obtain ⟨read, positive⟩ := positive_amount_ok isAmount
  constructor
  · rfl
  · change (record.get "amount").join.bind Decimal.ofText = _
    rw [cell_ok hasAmount]
    exact read
  · exact fun value isValue => positive_nonneg positive isValue
  · change (record.get "account_id").join.bind intOfText = _
    rw [cell_ok hasId]
    exact int_cell_of_ok isId
  · change _ = textOf record "account_name"
    unfold textOf
    rw [cell_ok hasName]
    exact strip_cell_ok isName
  · exact optional_int_ok isCategory
  · exact optional_text_ok isCategoryName
  · exact optional_text_ok isDescription

theorem danish_amount_ok (isAmount : parseDanishAmount value = .ok amount) :
    value.bind danishAmount = some amount := by
  cases value with
  | none => cases isAmount
  | some text =>
    unfold parseDanishAmount stripCell at isAmount
    rw [ok_bind] at isAmount
    rw [Option.bind_some]
    unfold danishAmount
    split at isAmount
    · cases isAmount
    · unfold decimalText at isAmount
      generalize Decimal.ofText (String.ofList (danishNumeral (strip text).toList)) = read
        at isAmount
      cases read with
      | none => cases isAmount
      | some =>
        cases isAmount
        rfl

theorem split_amount_ok {magnitude : Decimal} {txType : Domain.TransactionType}
    (splits : splitAmount amount = .ok (txType, magnitude)) : amount.abs = .ok magnitude := by
  unfold splitAmount at splits
  obtain ⟨_, splits⟩ := rest_ok splits
  split at splits
  · cases splits
  · obtain ⟨_, splits⟩ := rest_ok splits
    obtain ⟨_, isAbs, splits⟩ := bind_eq_ok.mp splits
    cases splits
    exact trapped_ok isAbs

theorem bank_row_of {format : BankFormat} (isBank : parser.bank = some format)
    (emitted : format.row arguments record = .ok row) :
    RowOf parser arguments record row := by
  unfold BankFormat.row at emitted
  obtain ⟨_, emitted⟩ := rest_ok emitted
  obtain ⟨_, emitted⟩ := rest_ok emitted
  obtain ⟨amountCell, hasAmount, emitted⟩ := bind_eq_ok.mp emitted
  obtain ⟨_, isAmount, emitted⟩ := bind_eq_ok.mp emitted
  obtain ⟨⟨_, _⟩, splits, emitted⟩ := bind_eq_ok.mp emitted
  cases emitted
  have absolute := split_amount_ok splits
  constructor
  · rfl
  · unfold recordAmount
    rw [isBank, cell_ok hasAmount]
    change (amountCell.bind danishAmount).bind _ = _
    rw [danish_amount_ok isAmount, Option.bind_some, absolute]
    rfl
  · exact fun value isValue => abs_value_nonneg absolute isValue
  · unfold recordAccountId
    rw [isBank]
  · unfold recordAccountName
    rw [isBank]
  · unfold recordCategoryId
    rw [isBank]
  · unfold recordCategoryName
    rw [isBank]
    rfl
  · unfold recordDescription
    rw [isBank]
    rfl

theorem row_of_emitted (emitted : parser.outcome arguments record = .emitted row) :
    RowOf parser arguments record row := by
  have built {result : Except RowException ParsedRow} (isRow : outcomeOf result = .emitted row) :
      result = .ok row := by
    cases result with
    | ok =>
      cases isRow
      rfl
    | error =>
      unfold outcomeOf at isRow
      dsimp only at isRow
      split at isRow
      · cases isRow
      · cases isRow
  unfold CsvParser.outcome at emitted
  cases isBank : parser.bank with
  | none =>
    rw [isBank] at emitted
    have isInternal : parser = .internal := by
      cases parser with
      | internal => rfl
      | nordea => cases isBank
      | danskeBank => cases isBank
    subst isInternal
    exact internal_row_of (built emitted)
  | some format =>
    rw [isBank] at emitted
    change format.outcome arguments record = _ at emitted
    unfold BankFormat.outcome at emitted
    split at emitted
    · exact bank_row_of isBank (built emitted)
    · split at emitted
      · cases emitted
      · cases emitted

theorem collected_row_of {records : List DictRow}
    (member : row ∈ (collect (parser.outcome arguments) 2 {} records).rows) :
    ∃ record ∈ records, parser.outcome arguments record = .emitted row := by
  change row ∈ [] ++ emittedRows (parser.outcome arguments) records at member
  rw [List.nil_append] at member
  obtain ⟨record, inRecords, isRow⟩ := List.mem_filterMap.mp member
  exact ⟨record, inRecords, emitted_of_row isRow⟩

theorem collected_rows_iff {records : List DictRow} {OfRow : ParsedRow → Prop}
    {OfRecord : DictRow → Prop}
    (same : ∀ record row, RowOf parser arguments record row → (OfRow row ↔ OfRecord record)) :
    (∀ row ∈ (collect (parser.outcome arguments) 2 {} records).rows, OfRow row) ↔
      ∀ record ∈ records, reading parser record = some .accepted → OfRecord record := by
  constructor
  · intro ofRows record member isAccepted
    obtain ⟨row, emitted⟩ := (@outcome_emitted_iff parser arguments record).mpr isAccepted
    apply (same record row (row_of_emitted emitted)).mp
    apply ofRows
    exact List.mem_append_right _
      (List.mem_filterMap.mpr ⟨record, member, congrArg emittedRow emitted⟩)
  · intro ofRecords row member
    obtain ⟨record, inRecords, emitted⟩ := collected_row_of member
    exact (same record row (row_of_emitted emitted)).mpr
      (ofRecords record inRecords (outcome_emitted_iff.mp ⟨row, emitted⟩))

/-- An amount that rounds to a positive one within the column, identifiers within
`INTEGER`, and texts within their lengths and without NUL characters. -/
structure StorableCells (parser : CsvParser) (arguments : ParseArguments) (record : DictRow) :
    Prop where
  amount : ∃ value, (recordAmount parser record).bind Decimal.finiteValue = some value ∧
    1 / 200 ≤ value ∧ value < 1999999999999 / 200
  accountId : (recordAccountId parser arguments record).all fitsInteger = true
  accountName : fitsVarchar 100 (recordAccountName parser arguments record) = true
  categoryId : (recordCategoryId parser record).all fitsInteger = true
  categoryName : fitsVarchar 100 (recordCategoryName parser record) = true
  description : fitsVarchar 500 (recordDescription parser record) = true

theorem fits_length {limit : ℕ} {text : String} (fits : fitsVarchar limit text = true) :
    text.length ≤ limit := by
  unfold fitsVarchar at fits
  rw [Bool.and_eq_true, decide_eq_true_eq] at fits
  exact fits.1

theorem all_fits_iff (limit : ℕ) (text : Option String) :
    text.all (fitsVarchar limit) = fitsVarchar limit (text.getD "") := by
  cases text with
  | none => simp [fitsVarchar]
  | some => rfl

theorem storable_iff (rowOf : RowOf parser arguments record row) :
    Storable row ↔ StorableCells parser arguments record := by
  have bounds (value : ℚ) : 1 ≤ toCents value ∧ toCents value ≤ maxCents ↔
      1 / 200 ≤ value ∧ value < 1999999999999 / 200 := by
    have upper := to_cents_le_iff value maxCents
    have same : ((2 * (maxCents : ℕ) + 1) / 200 : ℚ) = 1999999999999 / 200 := by
      norm_num [maxCents]
    rw [same] at upper
    rw [upper, Nat.one_le_iff_ne_zero, ← Nat.pos_iff_ne_zero, to_cents_pos_iff]
  constructor
  · intro storable
    obtain ⟨value, isValue, low, high⟩ := storable.amount
    have accepted := storable.accepted
    simp only [columnsAccept, Bool.and_eq_true, all_fits_iff] at accepted
    obtain ⟨⟨⟨⟨⟨_, accountId⟩, accountName⟩, categoryId⟩, categoryName⟩, description⟩ := accepted
    constructor
    · refine ⟨value, ?_, (bounds value).mp ⟨low, high⟩⟩
      rw [rowOf.amount]
      exact isValue
    · rw [rowOf.accountId]
      exact accountId
    · rw [← rowOf.accountName]
      exact accountName
    · rw [← rowOf.categoryId]
      exact categoryId
    · rw [← rowOf.categoryName]
      exact categoryName
    · rw [← rowOf.description]
      exact description
  · intro cells
    obtain ⟨value, isValue, within⟩ := cells.amount
    rw [rowOf.amount, Option.bind_some] at isValue
    obtain ⟨low, high⟩ := (bounds value).mpr within
    have accountId := cells.accountId
    have accountName := cells.accountName
    have categoryId := cells.categoryId
    have categoryName := cells.categoryName
    have description := cells.description
    rw [rowOf.accountId] at accountId
    rw [← rowOf.accountName] at accountName
    rw [← rowOf.categoryId] at categoryId
    rw [← rowOf.categoryName] at categoryName
    rw [← rowOf.description] at description
    have cents : (columnCents row.amount).isSome = true := by
      unfold columnCents
      rw [isValue, Option.bind_some, if_pos high]
      rfl
    refine ⟨⟨value, isValue, low, high⟩, ?_, fits_length accountName, ?_, ?_⟩
    · intro _ isText
      rw [isText] at description
      exact fits_length description
    · intro _ isText
      rw [isText] at categoryName
      exact fits_length categoryName
    · simp only [columnsAccept, Bool.and_eq_true, all_fits_iff]
      exact ⟨⟨⟨⟨⟨cents, accountId⟩, accountName⟩, categoryId⟩, categoryName⟩, description⟩

/-- Every row of an accepted file can be stored exactly when the cells of every record
that becomes a row are within the bounds. -/
theorem rows_storable_iff {parser : CsvParser} {maxRows : Nat} {content : ByteArray}
    {arguments : ParseArguments} {result : ParsedCSVResult}
    (accepted : parser.parse maxRows content arguments = .ok result) :
    ∃ file, ReadsFile parser content file ∧ ((∀ row ∈ result.rows, Storable row) ↔
        ∀ record ∈ file.rows, reading parser record = some .accepted →
          StorableCells parser arguments record) := by
  obtain ⟨file, reads, rfl⟩ := parse_returns accepted
  exact ⟨file, reads, collected_rows_iff fun _ _ => storable_iff⟩

def salaryRow (amount : Decimal) : ParsedRow where
  userId := 1
  accountId := 7
  accountName := "Salary"
  categoryId := none
  categoryName := none
  amount := amount
  transactionType := .income
  description := none
  txDate := ⟨2024, 1, 31, by decide⟩

theorem wage_accepted :
    CsvParser.internal.parse csvMaxRows (csvContent ',' [accountHeader, wageRecord])
      wageArguments = .ok ⟨[salaryRow (.finite false 1 0)], [], 0⟩ := by
  rw [parse_reads (account_file_read (by decide +kernel))]
  decide +kernel

theorem wage_storable_iff :
    ∃ file, ReadsFile .internal (csvContent ',' [accountHeader, wageRecord]) file ∧
      ((∀ row ∈ [salaryRow (.finite false 1 0)], Storable row) ↔
        ∀ record ∈ file.rows, reading .internal record = some .accepted →
          StorableCells .internal wageArguments record) :=
  rows_storable_iff wage_accepted

def infiniteRecord : List (List Char) :=
  ["2024-01-31", "Infinity", "income", "7", "Salary"].map String.toList

/-- An infinite amount is a positive amount. -/
theorem infinite_amount_emitted : ∃ result, CsvParser.internal.parse csvMaxRows
        (csvContent ',' [accountHeader, infiniteRecord]) wageArguments = .ok result ∧
      ∃ row ∈ result.rows, ¬ Storable row := by
  refine ⟨⟨[salaryRow (.infinity false)], [], 0⟩, ?_, _, List.mem_singleton.mpr rfl, ?_⟩
  · rw [parse_reads (account_file_read (by decide +kernel))]
    decide +kernel
  · intro storable
    obtain ⟨_, isValue, _⟩ := storable.amount
    cases isValue

end FinanceTracker.Transaction.CsvStorable
