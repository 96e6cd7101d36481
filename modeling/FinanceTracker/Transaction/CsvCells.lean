import FinanceTracker.Transaction.CsvParsers

/-!
# What decides over a record

The cells of a record are read in a fixed order, and the first one that is not
accepted decides: the record is skipped, or the parse ends with an exception that
the loop does not catch.
-/

namespace FinanceTracker.Transaction.CsvCells

open Library.Calendar
open Library.Columns (fitsInteger)
open Library.Csv
open Library.DateText (fromIsoformat)
open Library DecimalText Runs Texts CsvParsers
open Domain (TransactionType)

inductive CellCheck where
  | accepted
  | rejected
  | unguarded
  deriving DecidableEq

/-- A cell is looked at only after the ones before it were accepted. -/
def CellCheck.andThen : CellCheck → CellCheck → CellCheck
  | .accepted, later => later
  | earlier, _ => earlier

structure CellRule where
  column : String
  check : Option (Option String) → CellCheck

/-- The first cell that is not accepted decides. -/
def verdict (rules : List CellRule) (record : DictRow) : CellCheck :=
  rules.foldr (fun rule later => (rule.check (record.get rule.column)).andThen later) .accepted

def acceptIf (accepts : Bool) : CellCheck := if accepts then .accepted else .rejected

/-- A cell whose text is needed: without its column the record is skipped, but a cell
that the record is too short for is not guarded. -/
def neededText (check : String → CellCheck) : Option (Option String) → CellCheck
  | none => .rejected
  | some none => .unguarded
  | some (some text) => check text

/-- A date of three numbers; a number beyond a C integer is not guarded. -/
def dateCheck (format : BankFormat) (text : String) : CellCheck :=
  match ((strip text).toList.splitOn format.separator).map String.ofList with
  | [first, second, third] =>
    match intOfText first, intOfText second, intOfText third with
    | some first, some second, some third =>
      if fitsInteger first && fitsInteger second && fitsInteger third then
        acceptIf (format.dateOfParts first second third).toOption.isSome
      else .unguarded
    | _, _, _ => .rejected
  | _ => .rejected

def danishAmount (text : String) : Option Decimal :=
  Decimal.ofText (String.ofList (danishNumeral (strip text).toList))

/-- A number other than zero; a magnitude beyond the context is not guarded. -/
def nonzeroCheck : Decimal → CellCheck
  | .nan _ => .rejected
  | amount =>
    if amount.eqZero = .ok true then .rejected
    else if amount.abs.toOption.isSome then .accepted
    else .unguarded

def danishAmountCheck (text : String) : CellCheck :=
  match danishAmount text with
  | none => .rejected
  | some amount => nonzeroCheck amount

def bankRules (format : BankFormat) : List CellRule :=
  [⟨format.dateColumn, neededText (dateCheck format)⟩, ⟨"Beløb", neededText danishAmountCheck⟩]

def amountCheck (text : String) : CellCheck :=
  match Decimal.ofText text with
  | none => .rejected
  | some amount =>
    match amount.leZero with
    | .ok false => .accepted
    | _ => .rejected

/-- A missing and an empty cell are as good as a number. -/
def optionalIntCheck : Option (Option String) → CellCheck
  | some (some text) => acceptIf (text = "" || (intOfText text).isSome)
  | _ => .accepted

/-- The default stands in for a missing column and not for a missing cell. -/
def optionalTextCheck : Option (Option String) → CellCheck
  | some none => .unguarded
  | _ => .accepted

def internalRules : List CellRule :=
  [⟨"amount", neededText amountCheck⟩,
    ⟨"transaction_type", neededText fun text => acceptIf (transactionTypeOf (strip text)).isSome⟩,
    ⟨"account_id", neededText fun text => acceptIf (intOfText text).isSome⟩,
    ⟨"account_name", neededText fun _ => .accepted⟩,
    ⟨"category_id", optionalIntCheck⟩,
    ⟨"category_name", optionalTextCheck⟩,
    ⟨"description", optionalTextCheck⟩,
    ⟨"date", neededText fun text => acceptIf (fromIsoformat (strip text)).isSome⟩]

/-- How the loop takes what a computation returns or raises. -/
def checkOf {Value : Type} : Except RowException Value → CellCheck
  | .ok _ => .accepted
  | .error exception => if exception.caught then .rejected else .unguarded

section CheckOf

variable {Value Other : Type} {rest : Value → Except RowException Other} {later : CellCheck}

theorem check_bind {first : Except RowException Value}
    (same : ∀ value, first = .ok value → checkOf (rest value) = later) :
    checkOf (first >>= rest) = (checkOf first).andThen later := by
  cases first with
  | ok value => exact same value rfl
  | error =>
    rw [error_bind]
    unfold checkOf
    dsimp only
    split
    · rfl
    · rfl

/-- A reader of one cell follows a rule, and what is done with its value a later one. -/
theorem check_cell {read : Option String → Except RowException Value} {check : String → CellCheck}
    {record : DictRow} {column : String} (missing : checkOf (read none) = .unguarded)
    (present : ∀ text, checkOf (read (some text)) = check text)
    (same : ∀ value, checkOf (rest value) = later) :
    checkOf (cell record column >>= fun value => read value >>= rest) =
      (neededText check (record.get column)).andThen later := by
  unfold cell
  generalize record.get column = value
  cases value with
  | none => rfl
  | some value =>
    rw [ok_bind, check_bind fun value _ => same value]
    cases value with
    | none => rw [missing, neededText]
    | some => rw [present, neededText]

end CheckOf

theorem check_int (text : String) :
    checkOf (intCell (some text)) = acceptIf (intOfText text).isSome := by
  unfold intCell
  dsimp only
  cases intOfText text with
  | none | some => rfl

variable {text : String} {format : BankFormat} {parser : CsvParser} {record : DictRow}

theorem int_cell_ok {number : Int} (isNumber : intOfText text = some number) :
    intCell (some text) = .ok number := by
  unfold intCell
  dsimp only
  rw [isNumber]

theorem int_cell_error (noNumber : intOfText text = none) :
    intCell (some text) = .error (.badInteger text) := by
  unfold intCell
  dsimp only
  rw [noNumber]

theorem check_make_date (year month day : Int) : checkOf (makeDate year month day) =
      if fitsInteger year && fitsInteger month && fitsInteger day then
        acceptIf (makeDate year month day).toOption.isSome
      else .unguarded := by
  unfold makeDate
  split
  · cases Date.ofFields year month day with
    | none | some => rfl
  · rfl

/-- A format whose date is that of three numbers in some order. -/
def MakesDate (format : BankFormat) : Prop :=
  ∀ first second third, checkOf (format.dateOfParts first second third) =
    if fitsInteger first && fitsInteger second && fitsInteger third then
      acceptIf (format.dateOfParts first second third).toOption.isSome
    else .unguarded

theorem nordea_makes_date : MakesDate nordea := check_make_date

theorem danske_bank_makes_date : MakesDate danskeBank := by
  intro day month year
  have reordered : (fitsInteger day && fitsInteger month && fitsInteger year) =
      (fitsInteger year && fitsInteger month && fitsInteger day) := by
    rw [Bool.and_comm (fitsInteger day), Bool.and_comm, Bool.and_assoc]
  rw [reordered]
  exact check_make_date year month day

theorem check_date (makes : MakesDate format) (text : String) :
    checkOf (format.parseDate (some text)) = dateCheck format text := by
  unfold BankFormat.parseDate dateCheck stripCell
  rw [ok_bind]
  generalize ((strip text).toList.splitOn format.separator).map String.ofList = parts
  match parts with
  | [] => rfl
  | [_] => rfl
  | [_, _] => rfl
  | _ :: _ :: _ :: _ :: _ => rfl
  | [first, second, third] =>
    dsimp only
    cases isFirst : intOfText first with
    | none =>
      rw [int_cell_error isFirst]
      rfl
    | some _ =>
      rw [int_cell_ok isFirst, ok_bind]
      cases isSecond : intOfText second with
      | none =>
        rw [int_cell_error isSecond]
        rfl
      | some _ =>
        rw [int_cell_ok isSecond, ok_bind]
        cases isThird : intOfText third with
        | none =>
          rw [int_cell_error isThird]
          rfl
        | some _ =>
          rw [int_cell_ok isThird, ok_bind]
          exact makes _ _ _

theorem danish_amount_empty (empty : strip text = "") :
    danishAmount text = none := by
  unfold danishAmount
  rw [empty]
  decide +kernel

theorem check_split_amount (amount : Decimal) :
    checkOf (splitAmount amount) = nonzeroCheck amount := by
  unfold splitAmount
  cases amount with
  | nan signaling => cases signaling <;> rfl
  | infinity => rfl
  | finite negative coefficient exponent =>
    by_cases zero : coefficient = 0
    · rw [zero]
      rfl
    · have nonzero : (Decimal.finite negative coefficient exponent).eqZero = .ok false :=
        congrArg Except.ok (decide_eq_false zero)
      have sign : (Decimal.finite negative coefficient exponent).ltZero = .ok negative := by
        simp [Decimal.ltZero, zero]
      unfold nonzeroCheck
      dsimp only
      rw [nonzero, sign, if_neg (show ¬ Except.ok false = Except.ok true by simp)]
      cases absolute : (Decimal.finite negative coefficient exponent).abs with
      | ok => rfl
      | error =>
        rw [abs_error absolute]
        rfl

theorem check_amount (text : String) :
    checkOf (parseDanishAmount (some text) >>= splitAmount) = danishAmountCheck text := by
  unfold parseDanishAmount danishAmountCheck stripCell
  rw [ok_bind]
  split
  · next empty =>
    rw [danish_amount_empty empty]
    rfl
  · unfold decimalText danishAmount
    cases Decimal.ofText (String.ofList (danishNumeral (strip text).toList)) with
    | none => rfl
    | some amount => exact check_split_amount amount

theorem row_verdict (makes : MakesDate format) (arguments : ParseArguments) (record : DictRow) :
    checkOf (format.row arguments record) = verdict (bankRules format) record := by
  have amount (rest : TransactionType × Decimal → ParsedRow) :
      checkOf (cell record "Beløb" >>= fun raw =>
        (parseDanishAmount raw >>= splitAmount) >>= fun split => .ok (rest split)) =
      (neededText danishAmountCheck (record.get "Beløb")).andThen .accepted :=
    check_cell rfl check_amount fun _ => rfl
  unfold BankFormat.row
  rw [check_cell rfl (check_date makes) fun txDate => ?_]
  · rfl
  · simp only [bind_assoc] at amount
    exact amount _

theorem check_positive (text : String) :
    checkOf (positiveAmount (some text)) = amountCheck text := by
  unfold positiveAmount decimalText amountCheck
  dsimp only
  cases Decimal.ofText text with
  | none => rfl
  | some amount =>
    rw [ok_bind]
    cases amount with
    | nan => rfl
    | infinity negative => cases negative <;> rfl
    | finite negative coefficient exponent =>
      have compared : (Decimal.finite negative coefficient exponent).leZero =
          .ok (negative || decide (coefficient = 0)) := rfl
      dsimp only
      rw [compared]
      cases negative || decide (coefficient = 0) with
      | false => rfl
      | true => rfl

theorem check_type (text : String) :
    checkOf (typeCell (some text)) = acceptIf (transactionTypeOf (strip text)).isSome := by
  unfold typeCell stripCell
  rw [ok_bind]
  cases transactionTypeOf (strip text) with
  | none | some => rfl

theorem check_iso_date (text : String) :
    checkOf (isoDateCell (some text)) = acceptIf (fromIsoformat (strip text)).isSome := by
  unfold isoDateCell stripCell
  rw [ok_bind]
  cases fromIsoformat (strip text) with
  | none | some => rfl

theorem check_optional_int (record : DictRow) (column : String) :
    checkOf (optionalInt record column) = optionalIntCheck (record.get column) := by
  unfold optionalInt
  generalize record.get column = value
  match value with
  | none => rfl
  | some none => rfl
  | some (some text) =>
    unfold optionalIntCheck
    dsimp only
    split
    · next empty => simp [empty, checkOf, acceptIf]
    · next nonempty =>
      have mapped : checkOf ((intCell (some text)).map some) = checkOf (intCell (some text)) := by
        cases intCell (some text) with
        | ok | error => rfl
      rw [mapped, check_int]
      simp [nonempty]

theorem check_optional_text (record : DictRow) (column : String) :
    checkOf (optionalText record column) = optionalTextCheck (record.get column) := by
  unfold optionalText
  generalize record.get column = value
  match value with
  | none => rfl
  | some none => rfl
  | some (some text) => rfl

theorem internal_row_verdict (arguments : ParseArguments) (record : DictRow) :
    checkOf (internalRow arguments record) = verdict internalRules record := by
  unfold internalRow
  rw [check_cell rfl check_positive fun amount => ?_]
  · rfl
  rw [check_cell rfl check_type fun txType => ?_]
  · rfl
  rw [check_cell rfl check_int fun accountId => ?_]
  · rfl
  rw [check_cell rfl (fun _ => rfl) fun accountName => ?_]
  · rfl
  rw [check_bind fun categoryId _ => ?_, check_optional_int]
  · rfl
  rw [check_bind fun categoryName _ => ?_, check_optional_text]
  · rfl
  rw [check_bind fun description _ => ?_, check_optional_text]
  · rfl
  exact check_cell rfl check_iso_date fun _ => rfl

def parserVerdict (parser : CsvParser) (record : DictRow) : CellCheck :=
  match parser.bank with
  | none => verdict internalRules record
  | some format => verdict (bankRules format) record

/-- A record of a bank without a text under any column. -/
def isBlank (parser : CsvParser) (record : DictRow) : Bool :=
  parser.bank.isSome && !hasText record

/-- Nothing becomes of a blank record, but one with surplus cells is not guarded. -/
def reading (parser : CsvParser) (record : DictRow) : Option CellCheck :=
  if isBlank parser record then
    if record.hasSurplus then some .unguarded else none
  else some (parserVerdict parser record)

def outcomeCheck : RecordOutcome → Option CellCheck
  | .blank => none
  | .emitted _ => some .accepted
  | .skipped _ => some .rejected
  | .raised _ => some .unguarded

theorem check_outcome_of (result : Except RowException ParsedRow) :
    outcomeCheck (outcomeOf result) = some (checkOf result) := by
  cases result with
  | ok => rfl
  | error =>
    unfold outcomeOf checkOf
    dsimp only
    split
    · rfl
    · rfl

theorem parser_makes_date (isBank : parser.bank = some format) : MakesDate format := by
  cases parser with
  | internal => contradiction
  | nordea =>
    cases isBank
    exact nordea_makes_date
  | danskeBank =>
    cases isBank
    exact danske_bank_makes_date

/-- The cells of a record tell what a pass of the loop does with it. -/
theorem check_outcome (parser : CsvParser) (arguments : ParseArguments) (record : DictRow) :
    outcomeCheck (parser.outcome arguments record) = reading parser record := by
  unfold CsvParser.outcome reading isBlank parserVerdict
  cases isBank : parser.bank with
  | none =>
    change outcomeCheck (outcomeOf (internalRow arguments record)) = _
    rw [check_outcome_of, internal_row_verdict]
    rfl
  | some format =>
    change outcomeCheck (format.outcome arguments record) = _
    unfold BankFormat.outcome
    cases hasText record with
    | true =>
      rw [if_pos rfl, check_outcome_of, row_verdict (parser_makes_date isBank)]
      rfl
    | false =>
      cases record.hasSurplus with
      | true => rfl
      | false => rfl

theorem outcome_emitted_iff {parser : CsvParser} {arguments : ParseArguments}
    {record : DictRow} :
    (∃ row, parser.outcome arguments record = .emitted row) ↔
      reading parser record = some .accepted := by
  rw [← check_outcome parser arguments record]
  cases parser.outcome arguments record with
  | blank | emitted | skipped | raised => simp [outcomeCheck]

theorem outcome_raised_iff {arguments : ParseArguments} :
    (∃ exception, parser.outcome arguments record = .raised exception) ↔
      reading parser record = some .unguarded := by
  rw [← check_outcome parser arguments record]
  cases parser.outcome arguments record with
  | blank | emitted | skipped | raised => simp [outcomeCheck]

theorem reading_none_iff :
    reading parser record = none ↔ isBlank parser record = true ∧ record.hasSurplus = false := by
  unfold reading
  cases isBlank parser record with
  | true =>
    cases record.hasSurplus with
    | true => simp
    | false => simp
  | false => simp

theorem outcome_blank_iff {arguments : ParseArguments} : parser.outcome arguments record = .blank ↔
      isBlank parser record = true ∧ record.hasSurplus = false := by
  rw [← reading_none_iff, ← check_outcome parser arguments record]
  cases parser.outcome arguments record with
  | blank | emitted | skipped | raised => simp [outcomeCheck]

end FinanceTracker.Transaction.CsvCells
