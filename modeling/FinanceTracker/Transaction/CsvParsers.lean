import FinanceTracker.Library.Columns
import FinanceTracker.Library.Csv
import FinanceTracker.Library.DateText
import FinanceTracker.Library.DecimalText
import FinanceTracker.Library.Decoding
import FinanceTracker.Library.Runs
import FinanceTracker.Transaction.Domain

/-!
# The parsers of CSV files

The two bank formats and the internal one. A record becomes a row, or an entry of
the errors where building the row raises an exception that the loop catches; any
other exception ends the parse. Of the interpreter's own exceptions the kind is
kept and not the text.
-/

namespace FinanceTracker.Transaction.CsvParsers

open Library.Calendar
open Library.Columns (fitsInteger)
open Library.Csv
open Library.DateText (fromIsoformat)
open Library DecimalText Decoding Texts Domain

/-- The dictionary that a parser makes of a record. -/
structure ParsedRow where
  userId : Int
  accountId : Int
  accountName : String
  categoryId : Option Int
  categoryName : Option String
  amount : Decimal
  transactionType : TransactionType
  description : Option String
  txDate : Date
  deriving DecidableEq

/-- What building a row can raise. -/
inductive RowException where
  | valueError (message : String)
  | invalidDateFormat (stripped : String)
  | invalidTransactionType (stripped : String)
  | badInteger (text : String)
  | badDate
  | keyError (column : String)
  | invalidOperation
  | attributeError
  | typeError
  | overflowError
  | decimalOverflow
  deriving DecidableEq

/-- `except (ValueError, KeyError, InvalidOperation)`. -/
def RowException.caught : RowException → Bool
  | .attributeError => false
  | .typeError => false
  | .overflowError => false
  | .decimalOverflow => false
  | _ => true

/-- An entry of `errors`. -/
structure RowError where
  rowNum : Nat
  exception : RowException
  deriving DecidableEq

structure ParsedCSVResult where
  rows : List ParsedRow := []
  errors : List RowError := []
  skipped : Nat := 0
  deriving DecidableEq

inductive ParseFailure where
  | csvImport (message : String)
  | unicodeDecode
  | csv (failure : CsvError)
  | row (exception : RowException)
  deriving DecidableEq

def csvMaxRows : Nat := 50000

/-- Dots between groups of three digits, the last digit first. -/
def dotted : List Char → List Char
  | first :: second :: third :: next :: rest =>
    first :: second :: third :: '.' :: dotted (next :: rest)
  | rest => rest

def tooManyRows (maxRows : Nat) : String :=
  "CSV-filen har for mange rækker (grænsen er " ++
    String.ofList (dotted (toString maxRows).toList.reverse).reverse ++
      " rækker). Del filen op i flere mindre importer."

def ParsedCSVResult.addRow (maxRows : Nat) (result : ParsedCSVResult) (row : ParsedRow) :
    Except ParseFailure ParsedCSVResult :=
  if maxRows ≤ result.rows.length then .error (.csvImport (tooManyRows maxRows))
  else .ok { result with rows := result.rows ++ [row] }

def ParsedCSVResult.addError (result : ParsedCSVResult) (rowNum : Nat) (exception : RowException) :
    ParsedCSVResult :=
  { result with
    errors := result.errors ++ [⟨rowNum, exception⟩]
    skipped := result.skipped + 1 }

/-- `row[column]`. -/
def cell (record : DictRow) (column : String) : Except RowException (Option String) :=
  match record.get column with
  | some value => .ok value
  | none => .error (.keyError column)

/-- `value.strip()`. -/
def stripCell : Option String → Except RowException String
  | some text => .ok (strip text)
  | none => .error .attributeError

/-- `int(value)`. -/
def intCell : Option String → Except RowException Int
  | some text =>
    match intOfText text with
    | some number => .ok number
    | none => .error (.badInteger text)
  | none => .error .typeError

def decimalText (text : String) : Except RowException Decimal :=
  match Decimal.ofText text with
  | some amount => .ok amount
  | none => .error .invalidOperation

def signalException : Signal → RowException
  | .invalidOperation => .invalidOperation
  | .overflow => .decimalOverflow

def trapped {Value : Type} (result : Except Signal Value) : Except RowException Value :=
  result.mapError signalException

/-- `date(year, month, day)`, whose arguments become C integers first. -/
def makeDate (year month day : Int) : Except RowException Date :=
  if fitsInteger year && fitsInteger month && fitsInteger day then
    match Date.ofFields year month day with
    | some date => .ok date
    | none => .error .badDate
  else .error .overflowError

/-- `(row.get(column) or "").strip()`. -/
def textOf (record : DictRow) (column : String) : String :=
  strip ((record.get column).join.getD "")

/-- What the two bank parsers do not share. -/
structure BankFormat where
  title : String
  required : List String
  dateColumn : String
  separator : Char
  dateOfParts : Int → Int → Int → Except RowException Date
  describe : DictRow → String

def noDescription : String := "(no description)"

def extractDescription (record : DictRow) : String :=
  let beskrivelse := textOf record "Beskrivelse"
  let navn := textOf record "Navn"
  if beskrivelse ≠ "" then beskrivelse else if navn ≠ "" then navn else noDescription

def nordea : BankFormat where
  title := "Nordea"
  required := ["Beløb", "Beskrivelse", "Bogføringsdato"]
  dateColumn := "Bogføringsdato"
  separator := '/'
  dateOfParts year month day := makeDate year month day
  describe := extractDescription

def danskeBank : BankFormat where
  title := "Danske Bank"
  required := ["Beløb", "Dato", "Tekst"]
  dateColumn := "Dato"
  separator := '.'
  dateOfParts day month year := makeDate year month day
  describe record :=
    let description := textOf record "Tekst"
    if description ≠ "" then description else noDescription

def BankFormat.parseDate (format : BankFormat) (raw : Option String) : Except RowException Date := do
  let stripped ← stripCell raw
  match (stripped.toList.splitOn format.separator).map String.ofList with
  | [first, second, third] => do
    let first ← intCell (some first)
    let second ← intCell (some second)
    let third ← intCell (some third)
    format.dateOfParts first second third
  | _ => .error (.invalidDateFormat stripped)

/-- The number with a period as its decimal sign. -/
def danishNumeral (cleaned : List Char) : List Char :=
  let point (char : Char) : Char := if char = ',' then '.' else char
  if '.' ∈ cleaned ∧ ',' ∈ cleaned then (cleaned.filter (· ≠ '.')).map point
  else if ',' ∈ cleaned then cleaned.map point
  else cleaned

def parseDanishAmount (raw : Option String) : Except RowException Decimal := do
  let cleaned ← stripCell raw
  if cleaned = "" then .error (.valueError "empty amount")
  else decimalText (String.ofList (danishNumeral cleaned.toList))

def splitAmount (amount : Decimal) : Except RowException (TransactionType × Decimal) := do
  if ← trapped amount.eqZero then .error (.valueError "amount is zero, skipped")
  else do
    let negative ← trapped amount.ltZero
    let absAmount ← trapped amount.abs
    return (if negative then .expense else .income, absAmount)

/-- The arguments of `parse` besides the file. -/
structure ParseArguments where
  userId : Int
  accountId : Int
  accountName : String

def BankFormat.row (format : BankFormat) (arguments : ParseArguments) (record : DictRow) :
    Except RowException ParsedRow := do
  let txDate ← format.parseDate (← cell record format.dateColumn)
  let amount ← parseDanishAmount (← cell record "Beløb")
  let (txType, absAmount) ← splitAmount amount
  .ok
    { userId := arguments.userId
      accountId := arguments.accountId
      accountName := arguments.accountName
      categoryId := none
      categoryName := none
      amount := absAmount
      transactionType := txType
      description := some (format.describe record)
      txDate := txDate }

/-- `tx_type`, whose lower case is ASCII only where the text is. -/
def transactionTypeOf (stripped : String) : Option TransactionType :=
  let lowered := stripped.toList.map Char.toLower
  if lowered = "income".toList then some .income
  else if lowered = "expense".toList then some .expense
  else none

def positiveAmount (value : Option String) : Except RowException Decimal :=
  match value with
  | none => .error .typeError
  | some text => do
    let amount ← decimalText text
    if ← trapped amount.leZero then .error (.valueError "amount must be positive")
    else return amount

def typeCell (value : Option String) : Except RowException TransactionType := do
  let stripped ← stripCell value
  match transactionTypeOf stripped with
  | some transactionType => .ok transactionType
  | none => .error (.invalidTransactionType stripped)

/-- `int(row[column]) if row.get(column) else None`. -/
def optionalInt (record : DictRow) (column : String) : Except RowException (Option Int) :=
  match record.get column with
  | some (some text) =>
    if text = "" then .ok none else (intCell (some text)).map some
  | _ => .ok none

/-- `row.get(column, "").strip() or None`. -/
def optionalText (record : DictRow) (column : String) : Except RowException (Option String) :=
  match record.get column with
  | none => .ok none
  | some value => (stripCell value).map fun stripped => if stripped = "" then none else some stripped

def isoDateCell (value : Option String) : Except RowException Date := do
  let stripped ← stripCell value
  match fromIsoformat stripped with
  | some date => .ok date
  | none => .error .badDate

def internalRow (arguments : ParseArguments) (record : DictRow) : Except RowException ParsedRow := do
  let amount ← positiveAmount (← cell record "amount")
  let txType ← typeCell (← cell record "transaction_type")
  let accountId ← intCell (← cell record "account_id")
  let accountName ← stripCell (← cell record "account_name")
  let categoryId ← optionalInt record "category_id"
  let categoryName ← optionalText record "category_name"
  let description ← optionalText record "description"
  let txDate ← isoDateCell (← cell record "date")
  .ok
    { userId := arguments.userId
      accountId := accountId
      accountName := accountName
      categoryId := categoryId
      categoryName := categoryName
      amount := amount
      transactionType := txType
      description := description
      txDate := txDate }

/-- What one pass of the loop does with a record. -/
inductive RecordOutcome where
  | blank
  | emitted (row : ParsedRow)
  | skipped (exception : RowException)
  | raised (exception : RowException)
  deriving DecidableEq

def outcomeOf : Except RowException ParsedRow → RecordOutcome
  | .ok row => .emitted row
  | .error exception => if exception.caught then .skipped exception else .raised exception

/-- A truthy cell among those with a name. -/
def hasText (record : DictRow) : Bool :=
  record.fieldnames.any fun column => textOf record column ≠ ""

/-- The blank test calls `strip` on the list of the surplus cells when it gets there. -/
def BankFormat.outcome (format : BankFormat) (arguments : ParseArguments) (record : DictRow) :
    RecordOutcome :=
  if hasText record then outcomeOf (format.row arguments record)
  else if record.hasSurplus then .raised .attributeError
  else .blank

def internalOutcome (arguments : ParseArguments) (record : DictRow) : RecordOutcome :=
  outcomeOf (internalRow arguments record)

def parseRecords (maxRows : Nat) (outcome : DictRow → RecordOutcome) :
    Nat → ParsedCSVResult → List DictRow → Except ParseFailure ParsedCSVResult
  | _, result, [] => .ok result
  | rowNum, result, record :: records =>
    match outcome record with
    | .blank => parseRecords maxRows outcome (rowNum + 1) result records
    | .emitted row => do
      let result ← result.addRow maxRows row
      parseRecords maxRows outcome (rowNum + 1) result records
    | .skipped exception =>
      parseRecords maxRows outcome (rowNum + 1) (result.addError rowNum exception) records
    | .raised exception => .error (.row exception)

/-- The three classes. -/
inductive CsvParser where
  | internal
  | nordea
  | danskeBank
  deriving DecidableEq

def bankDecode (content : ByteArray) : Option String :=
  (decodeUtf8Sig content).or (decodeWindows1252 content)

def CsvParser.bank : CsvParser → Option BankFormat
  | .internal => none
  | .nordea => some CsvParsers.nordea
  | .danskeBank => some CsvParsers.danskeBank

def CsvParser.decode (parser : CsvParser) : ByteArray → Option String :=
  match parser.bank with
  | none => decodeUtf8
  | some _ => bankDecode

def CsvParser.delimiter (parser : CsvParser) : Char :=
  match parser.bank with
  | none => ','
  | some _ => ';'

def internalRequired : List String :=
  ["account_id", "account_name", "amount", "date", "transaction_type"]

/-- The required columns that the header lacks, sorted. -/
def CsvParser.missing (parser : CsvParser) (fieldnames : List String) : List String :=
  match parser.bank with
  | none => internalRequired.filter (· ∉ fieldnames)
  | some format =>
    let headers := (fieldnames.map strip).filter (· ≠ "")
    format.required.filter (· ∉ headers)

def CsvParser.missingMessage (parser : CsvParser) (missing : List String) : String :=
  match parser.bank with
  | none => "CSV missing required columns: " ++ ", ".intercalate missing
  | some format => format.title ++ " CSV missing required columns: " ++ ", ".intercalate missing

def CsvParser.outcome (parser : CsvParser) (arguments : ParseArguments) : DictRow → RecordOutcome :=
  match parser.bank with
  | none => internalOutcome arguments
  | some format => format.outcome arguments

def CsvParser.parseFile (parser : CsvParser) (maxRows : Nat) (arguments : ParseArguments)
    (file : DictFile) : Except ParseFailure ParsedCSVResult := do
  let missing := parser.missing file.fieldnames
  if missing ≠ [] then .error (.csvImport (parser.missingMessage missing))
  else do
    let result ← parseRecords maxRows (parser.outcome arguments) 2 {} file.rows
    match file.failure with
    | none => .ok result
    | some failure => .error (.csv failure)

def CsvParser.parse (parser : CsvParser) (maxRows : Nat) (content : ByteArray)
    (arguments : ParseArguments) : Except ParseFailure ParsedCSVResult :=
  match parser.decode content with
  | none => .error .unicodeDecode
  | some text =>
    match dictReader parser.delimiter text with
    | .error failure => .error (.csv failure)
    | .ok none => .error (.csvImport "CSV file is empty or has no headers")
    | .ok (some file) => parser.parseFile maxRows arguments file

end FinanceTracker.Transaction.CsvParsers
