import Mathlib.Data.List.Basic

/-!
# CSV texts

The reader of Python's `csv` module with the default dialect and a delimiter, over the
lines of a `StringIO`, and what `DictReader` makes of its records. A record whose
fields hold no special character reads back from its line.
-/

namespace FinanceTracker.Library.Csv

open List

inductive ReaderState where
  | startRecord
  | startField
  | inField
  | inQuotedField
  | quoteInQuotedField
  | eatNewLine
  deriving DecidableEq

inductive CsvError where
  | newLineInField
  | fieldTooLarge
  deriving DecidableEq

/-- The fields read so far and the characters of the next one. -/
structure Reader where
  state : ReaderState := .startRecord
  field : List Char := []
  fields : List String := []
  deriving DecidableEq

/-- `csv.field_size_limit()`. -/
def fieldLimit : Nat := 131072

def Reader.addChar (reader : Reader) (char : Char) : Except CsvError Reader :=
  if fieldLimit ≤ reader.field.length then .error .fieldTooLarge
  else .ok { reader with field := reader.field ++ [char] }

def Reader.saveField (reader : Reader) (state : ReaderState) : Reader where
  state := state
  field := []
  fields := reader.fields ++ [String.ofList reader.field]

def isLineEnd (char : Char) : Bool := char = '\n' || char = '\r'

def atFieldStart (delimiter : Char) (reader : Reader) : Option Char → Except CsvError Reader
  | none => .ok (reader.saveField .startRecord)
  | some char =>
    if isLineEnd char then .ok (reader.saveField .eatNewLine)
    else if char = '"' then .ok { reader with state := .inQuotedField }
    else if char = delimiter then .ok (reader.saveField .startField)
    else Reader.addChar { reader with state := .inField } char

def processChar (delimiter : Char) (reader : Reader) (char : Option Char) :
    Except CsvError Reader :=
  match reader.state with
  | .startRecord =>
    match char with
    | none => .ok reader
    | some other =>
      if isLineEnd other then .ok { reader with state := .eatNewLine }
      else atFieldStart delimiter reader (some other)
  | .startField => atFieldStart delimiter reader char
  | .inField =>
    match char with
    | none => .ok (reader.saveField .startRecord)
    | some other =>
      if isLineEnd other then .ok (reader.saveField .eatNewLine)
      else if other = delimiter then .ok (reader.saveField .startField)
      else reader.addChar other
  | .inQuotedField =>
    match char with
    | none => .ok reader
    | some other =>
      if other = '"' then .ok { reader with state := .quoteInQuotedField }
      else reader.addChar other
  | .quoteInQuotedField =>
    match char with
    | none => .ok (reader.saveField .startRecord)
    | some other =>
      if other = '"' then Reader.addChar { reader with state := .inQuotedField } other
      else if other = delimiter then .ok (reader.saveField .startField)
      else if isLineEnd other then .ok (reader.saveField .eatNewLine)
      else Reader.addChar { reader with state := .inField } other
  | .eatNewLine =>
    match char with
    | none => .ok { reader with state := .startRecord }
    | some other => if isLineEnd other then .ok reader else .error .newLineInField

def processChars (delimiter : Char) : Reader → List (Option Char) → Except CsvError Reader
  | reader, [] => .ok reader
  | reader, char :: chars => do
    let reader ← processChar delimiter reader char
    processChars delimiter reader chars

def processLine (delimiter : Char) (reader : Reader) (line : List Char) : Except CsvError Reader :=
  processChars delimiter reader (line.map some ++ [none])

/-- The records up to the end of the lines, or up to the one that the reader refuses. -/
structure Records where
  records : List (List String)
  failure : Option CsvError
  deriving DecidableEq

/-- `Reader_iternext` over and over: a record ends with the line that brings the reader
back to the start, or with the last line inside quotes. -/
def readLines (delimiter : Char) : Reader → List (List Char) → Records
  | reader, [] =>
    if reader.field ≠ [] ∨ reader.state = .inQuotedField then
      ⟨[(reader.saveField .startRecord).fields], none⟩
    else ⟨[], none⟩
  | reader, line :: rest =>
    match processLine delimiter reader line with
    | .error failure => ⟨[], some failure⟩
    | .ok next =>
      if next.state = .startRecord then
        let others := readLines delimiter {} rest
        ⟨next.fields :: others.records, others.failure⟩
      else readLines delimiter next rest

/-- The lines of a `StringIO`, each with its `\n`. -/
def lines : List Char → List (List Char)
  | [] => []
  | char :: chars =>
    if char = '\n' then [char] :: lines chars
    else
      match lines chars with
      | [] => [[char]]
      | line :: rest => (char :: line) :: rest

def readText (delimiter : Char) (text : String) : Records :=
  readLines delimiter {} (lines text.toList)

/-- A record under the field names of the header. -/
structure DictRow where
  fieldnames : List String
  cells : List String
  deriving DecidableEq

/-- The cells padded with `restval`. -/
def DictRow.padded (row : DictRow) : List (Option String) :=
  row.cells.map some ++ List.replicate (row.fieldnames.length - row.cells.length) none

/-- `row.get(name)`, with none for a missing key. Of a repeated name the last counts. -/
def DictRow.get (row : DictRow) (name : String) : Option (Option String) :=
  (row.fieldnames.zip row.padded).reverse.lookup name

/-- Surplus cells are a list under the key `None`. -/
def DictRow.hasSurplus (row : DictRow) : Bool := row.fieldnames.length < row.cells.length

/-- The header, and the rows below it without the blank lines. -/
structure DictFile where
  fieldnames : List String
  rows : List DictRow
  failure : Option CsvError
  deriving DecidableEq

/-- `DictReader`: no field names in a file without records, and the error of the header. -/
def dictReader (delimiter : Char) (text : String) : Except CsvError (Option DictFile) :=
  match readText delimiter text with
  | ⟨[], some failure⟩ => .error failure
  | ⟨[], none⟩ => .ok none
  | ⟨fieldnames :: records, failure⟩ =>
    .ok (some
      { fieldnames := fieldnames
        rows := (records.filter (· ≠ [])).map fun cells => ⟨fieldnames, cells⟩
        failure := failure })

/-- A character that means nothing to the reader. -/
def PlainChar (delimiter char : Char) : Prop :=
  char ≠ '\n' ∧ char ≠ '\r' ∧ char ≠ '"' ∧ char ≠ delimiter

instance (delimiter char : Char) : Decidable (PlainChar delimiter char) :=
  inferInstanceAs (Decidable (_ ∧ _))

def PlainField (delimiter : Char) (field : List Char) : Prop :=
  field.length ≤ fieldLimit ∧ ∀ char ∈ field, PlainChar delimiter char

instance (delimiter : Char) (field : List Char) : Decidable (PlainField delimiter field) :=
  @instDecidableAnd _ _ inferInstance (List.decidableBAll (PlainChar delimiter) field)

/-- A delimiter that the reader tells from its own marks. -/
def ProperDelimiter (delimiter : Char) : Prop :=
  delimiter ≠ '\n' ∧ delimiter ≠ '\r' ∧ delimiter ≠ '"'

instance (delimiter : Char) : Decidable (ProperDelimiter delimiter) :=
  inferInstanceAs (Decidable (_ ∧ _))

/-- The fields with the delimiter between them and a `\n` at the end. -/
def plainLine (delimiter : Char) : List (List Char) → List Char
  | [] => ['\n']
  | [field] => field ++ ['\n']
  | field :: next :: fields => field ++ delimiter :: plainLine delimiter (next :: fields)

section Plain

variable {delimiter : Char}

theorem plain_no_line_end {char : Char} (plain : PlainChar delimiter char) :
    isLineEnd char = false := by
  simp [isLineEnd, plain.1, plain.2.1]

theorem process_chars_append (reader : Reader) (first second : List (Option Char)) :
    processChars delimiter reader (first ++ second) =
      (processChars delimiter reader first).bind fun next =>
        processChars delimiter next second := by
  induction first generalizing reader with
  | nil => rfl
  | cons char first ih =>
    rw [cons_append, processChars, processChars]
    cases processChar delimiter reader char with
    | error => rfl
    | ok next => exact ih next

variable {field : List Char} {state : ReaderState} {records : List (List (List Char))}

theorem process_in_field {chars : List Char} (plain : ∀ char ∈ chars, PlainChar delimiter char)
    (bounded : field.length + chars.length ≤ fieldLimit) (fields : List String) :
    processChars delimiter ⟨.inField, field, fields⟩ (chars.map some) =
      .ok ⟨.inField, field ++ chars, fields⟩ := by
  induction chars generalizing field with
  | nil => simp [processChars]
  | cons char chars ih =>
    have here := plain char mem_cons_self
    rw [length_cons] at bounded
    have room : ¬ fieldLimit ≤ field.length := by omega
    have added : processChar delimiter ⟨.inField, field, fields⟩ (some char) =
        .ok ⟨.inField, field ++ [char], fields⟩ := by
      simp [processChar, plain_no_line_end here, here.2.2.2, Reader.addChar, room]
    rw [map_cons, processChars, added]
    change processChars delimiter ⟨.inField, field ++ [char], fields⟩ (chars.map some) = _
    rw [ih (fun other member => plain other (mem_cons_of_mem _ member))
      (by rw [length_append, length_singleton]; omega)]
    simp

/-- Where the reader stands after a plain field that it has begun to read. -/
def afterField (state : ReaderState) (field : List Char) (fields : List String) : Reader :=
  if field = [] then ⟨state, [], fields⟩ else ⟨.inField, field, fields⟩

theorem process_plain_field (isStart : state = .startRecord ∨ state = .startField)
    (plain : PlainField delimiter field) (fields : List String) :
    processChars delimiter ⟨state, [], fields⟩ (field.map some) =
      .ok (afterField state field fields) := by
  cases field with
  | nil => rfl
  | cons char chars =>
    have here := plain.2 char mem_cons_self
    have begun : processChar delimiter ⟨state, [], fields⟩ (some char) =
        .ok ⟨.inField, [char], fields⟩ := by
      rcases isStart with rfl | rfl
      · simp [processChar, atFieldStart, plain_no_line_end here, here.2.2.1, here.2.2.2,
          Reader.addChar, fieldLimit]
      · simp [processChar, atFieldStart, plain_no_line_end here, here.2.2.1, here.2.2.2,
          Reader.addChar, fieldLimit]
    have bounded := plain.1
    rw [length_cons] at bounded
    rw [map_cons, processChars, begun]
    change processChars delimiter ⟨.inField, [char], fields⟩ (chars.map some) = _
    rw [process_in_field (fun other member => plain.2 other (mem_cons_of_mem _ member))
      (by rw [length_singleton]; omega)]
    rfl

theorem process_delimiter (proper : ProperDelimiter delimiter)
    (isStart : state = .startRecord ∨ state = .startField) (field : List Char)
    (fields : List String) :
    processChar delimiter (afterField state field fields) (some delimiter) =
      .ok ⟨.startField, [], fields ++ [String.ofList field]⟩ := by
  have noEnd : isLineEnd delimiter = false := by simp [isLineEnd, proper.1, proper.2.1]
  unfold afterField
  split
  · next empty =>
    subst empty
    rcases isStart with rfl | rfl
    · simp [processChar, atFieldStart, noEnd, proper.2.2, Reader.saveField]
    · simp [processChar, atFieldStart, noEnd, proper.2.2, Reader.saveField]
  · simp [processChar, noEnd, Reader.saveField]

theorem process_line_end (begun : state = .startField ∨ (state = .startRecord ∧ field ≠ []))
    (fields : List String) :
    processChars delimiter (afterField state field fields) [some '\n', none] =
      .ok ⟨.startRecord, [], fields ++ [String.ofList field]⟩ := by
  unfold afterField
  split
  · next empty =>
    subst empty
    rcases begun with rfl | ⟨_, nonempty⟩
    · rfl
    · exact absurd rfl nonempty
  · rfl

theorem process_plain_rest (proper : ProperDelimiter delimiter)
    (isStart : state = .startRecord ∨ state = .startField) {record : List (List Char)}
    (plain : ∀ field ∈ record, PlainField delimiter field) (nonempty : record ≠ [])
    (begun : state = .startRecord → record ≠ [[]]) (fields : List String) :
    processLine delimiter ⟨state, [], fields⟩ (plainLine delimiter record) =
      .ok ⟨.startRecord, [], fields ++ record.map String.ofList⟩ := by
  unfold processLine
  induction record generalizing state fields with
  | nil => exact absurd rfl nonempty
  | cons field rest ih =>
    have here := plain field mem_cons_self
    cases rest with
    | nil =>
      have ended : state = .startField ∨ (state = .startRecord ∧ field ≠ []) := by
        rcases isStart with isRecord | isField
        · refine Or.inr ⟨isRecord, ?_⟩
          rintro rfl
          exact begun isRecord rfl
        · exact Or.inl isField
      rw [plainLine, map_append, append_assoc, process_chars_append,
        process_plain_field isStart here]
      exact process_line_end ended fields
    | cons next others =>
      rw [plainLine, map_append, append_assoc, process_chars_append,
        process_plain_field isStart here]
      change processChars delimiter (afterField state field fields)
        (some delimiter :: ((plainLine delimiter (next :: others)).map some ++ [none])) = _
      rw [processChars, process_delimiter proper isStart]
      change processChars delimiter ⟨.startField, [], fields ++ [String.ofList field]⟩ _ = _
      rw [ih (Or.inr rfl) (fun other member => plain other (mem_cons_of_mem _ member))
        (by simp) (by simp)]
      simp

def PlainRecord (delimiter : Char) (record : List (List Char)) : Prop :=
  record ≠ [] ∧ record ≠ [[]] ∧ ∀ field ∈ record, PlainField delimiter field

instance (record : List (List Char)) : Decidable (PlainRecord delimiter record) :=
  inferInstanceAs (Decidable (_ ∧ _ ∧ _))

theorem read_plain_lines (proper : ProperDelimiter delimiter)
    (plain : ∀ record ∈ records, PlainRecord delimiter record) :
    readLines delimiter {} (records.map (plainLine delimiter)) =
      ⟨records.map fun record => record.map String.ofList, none⟩ := by
  induction records with
  | nil => simp [readLines]
  | cons record records ih =>
    obtain ⟨nonempty, notBlank, fields⟩ := plain record mem_cons_self
    have read := process_plain_rest proper (Or.inl rfl) fields nonempty (fun _ => notBlank) []
    rw [map_cons, readLines, read]
    dsimp only
    rw [if_pos rfl, ih fun other member => plain other (mem_cons_of_mem _ member)]
    rfl

theorem lines_append {line : List Char} (inside : '\n' ∉ line) (rest : List Char) :
    lines (line ++ '\n' :: rest) = (line ++ ['\n']) :: lines rest := by
  induction line with
  | nil => simp [lines]
  | cons char line ih =>
    rw [mem_cons, not_or] at inside
    rw [cons_append, lines, if_neg (Ne.symm inside.1), ih inside.2]
    rfl

theorem plain_line_split (proper : ProperDelimiter delimiter) {record : List (List Char)}
    (plain : ∀ field ∈ record, PlainField delimiter field) :
    ∃ line, plainLine delimiter record = line ++ ['\n'] ∧ '\n' ∉ line := by
  induction record with
  | nil => exact ⟨[], rfl, not_mem_nil⟩
  | cons field rest ih =>
    have here : '\n' ∉ field := fun member =>
      ((plain field mem_cons_self).2 _ member).1 rfl
    cases rest with
    | nil => exact ⟨field, rfl, here⟩
    | cons =>
      obtain ⟨line, isLine, inside⟩ :=
        ih fun other member => plain other (mem_cons_of_mem _ member)
      refine ⟨field ++ delimiter :: line, ?_, ?_⟩
      · rw [plainLine, isLine]
        simp
      · simp [here, inside, Ne.symm proper.1]

theorem lines_plain (proper : ProperDelimiter delimiter)
    (plain : ∀ record ∈ records, PlainRecord delimiter record) :
    lines (records.flatMap (plainLine delimiter)) = records.map (plainLine delimiter) := by
  induction records with
  | nil => rfl
  | cons record records ih =>
    obtain ⟨line, isLine, inside⟩ :=
      plain_line_split proper (plain record mem_cons_self).2.2
    rw [flatMap_cons, map_cons, isLine, append_assoc]
    change lines (line ++ '\n' :: records.flatMap (plainLine delimiter)) = _
    rw [lines_append inside, ih fun other member => plain other (mem_cons_of_mem _ member)]

theorem read_plain_text (proper : ProperDelimiter delimiter)
    (plain : ∀ record ∈ records, PlainRecord delimiter record) :
    readText delimiter (String.ofList (records.flatMap (plainLine delimiter))) =
      ⟨records.map fun record => record.map String.ofList, none⟩ := by
  unfold readText
  rw [String.toList_ofList, lines_plain proper plain, read_plain_lines proper plain]

end Plain

end FinanceTracker.Library.Csv
