import FinanceTracker.Library.KeyedRows
import Mathlib.Data.Int.Notation

/-!
# JSON values and Python's reader

The values of JSON as Python's `json.loads` gives them, and that reader on a text and
on bytes. A float is kept as its literal. A lone surrogate escape, which a Lean string
cannot hold, is read as U+FFFD; the depth of a value is not limited.
-/

namespace FinanceTracker.Library.Json

open KeyedRows

inductive JsonValue where
  | null
  | bool (value : Bool)
  | int (value : ℤ)
  | float (literal : String)
  | str (value : String)
  | arr (items : List JsonValue)
  | obj (entries : List (String × JsonValue))

abbrev JsonObject := List (String × JsonValue)

def get (entries : JsonObject) (key : String) : Option JsonValue :=
  (lookup Prod.fst entries key).map Prod.snd

def getD (entries : JsonObject) (key : String) (default : JsonValue) : JsonValue :=
  (get entries key).getD default

def isZeroLiteral (literal : String) : Bool :=
  (literal.toList.takeWhile fun char => char ≠ 'e' && char ≠ 'E').all fun char =>
    char = '-' || char = '0' || char = '.'

def truthy : JsonValue → Bool
  | .null => false
  | .bool value => value
  | .int value => value ≠ 0
  | .float literal => !isZeroLiteral literal
  | .str value => value ≠ ""
  | .arr items => !items.isEmpty
  | .obj entries => !entries.isEmpty

def hexDigit (char : Char) : Option ℕ :=
  if '0' ≤ char ∧ char ≤ '9' then some (char.toNat - '0'.toNat)
  else if 'a' ≤ char ∧ char ≤ 'f' then some (char.toNat - 'a'.toNat + 10)
  else if 'A' ≤ char ∧ char ≤ 'F' then some (char.toNat - 'A'.toNat + 10)
  else none

def readHex4 : List Char → Option (ℕ × List Char)
  | a :: b :: c :: d :: rest => do
    let first ← hexDigit a
    let second ← hexDigit b
    let third ← hexDigit c
    let fourth ← hexDigit d
    some (((first * 16 + second) * 16 + third) * 16 + fourth, rest)
  | _ => none

def replacement : Char := Char.ofNat 0xfffd

def isHighSurrogate (unit : ℕ) : Bool := 0xd800 ≤ unit && unit < 0xdc00

def isLowSurrogate (unit : ℕ) : Bool := 0xdc00 ≤ unit && unit < 0xe000

/-- The character of an escaped unit, with the rest of the text. -/
def readUnit (unit : ℕ) (rest : List Char) : Char × List Char :=
  if isHighSurrogate unit then
    match rest with
    | '\\' :: 'u' :: after =>
      match readHex4 after with
      | some (low, beyond) =>
        if isLowSurrogate low then
          (Char.ofNat (0x10000 + (unit - 0xd800) * 0x400 + (low - 0xdc00)), beyond)
        else (replacement, rest)
      | none => (replacement, rest)
    | _ => (replacement, rest)
  else if isLowSurrogate unit then (replacement, rest)
  else (Char.ofNat unit, rest)

def escapedChar : Char → Option Char
  | '"' => some '"'
  | '\\' => some '\\'
  | '/' => some '/'
  | 'b' => some (Char.ofNat 8)
  | 'f' => some (Char.ofNat 12)
  | 'n' => some '\n'
  | 'r' => some '\r'
  | 't' => some '\t'
  | _ => none

/-- The first character of a string's content; none at its end or at an error. -/
def readChar : List Char → Option (Char × List Char)
  | '"' :: _ => none
  | '\\' :: 'u' :: rest => (readHex4 rest).map fun read => readUnit read.1 read.2
  | '\\' :: char :: rest => (escapedChar char).map fun read => (read, rest)
  | char :: rest => if char.toNat < 0x20 then none else some (char, rest)
  | [] => none

/-- The content of a string up to its closing quote. -/
def readContent : ℕ → List Char → Option (List Char × List Char)
  | _, '"' :: rest => some ([], rest)
  | 0, _ => none
  | fuel + 1, chars => do
    let (char, rest) ← readChar chars
    let (content, after) ← readContent fuel rest
    some (char :: content, after)

def readString (chars : List Char) : Option (String × List Char) :=
  (readContent chars.length chars).map fun read => (String.ofList read.1, read.2)

def isAsciiDigit (char : Char) : Bool := '0' ≤ char && char ≤ '9'

def numeral (digits : List Char) : ℕ :=
  digits.foldl (fun value char => value * 10 + (char.toNat - '0'.toNat)) 0

/-- `sys.get_int_max_str_digits()`. -/
def maxIntDigits : ℕ := 4300

/-- The fraction of a number: a point with digits behind it. -/
def spanFraction : List Char → List Char × List Char
  | '.' :: rest =>
    match rest.takeWhile isAsciiDigit with
    | [] => ([], '.' :: rest)
    | digits => ('.' :: digits, rest.dropWhile isAsciiDigit)
  | chars => ([], chars)

def spanSign : List Char → List Char × List Char
  | '+' :: rest => (['+'], rest)
  | '-' :: rest => (['-'], rest)
  | chars => ([], chars)

def spanExponent : List Char → List Char × List Char
  | [] => ([], [])
  | mark :: rest =>
    if mark = 'e' ∨ mark = 'E' then
      let (sign, after) := spanSign rest
      match after.takeWhile isAsciiDigit with
      | [] => ([], mark :: rest)
      | digits => (mark :: sign ++ digits, after.dropWhile isAsciiDigit)
    else ([], mark :: rest)

/-- The digits before the point, of which a zero is the only one or not the first. -/
def spanInteger : List Char → List Char × List Char
  | '0' :: rest => (['0'], rest)
  | chars => (chars.takeWhile isAsciiDigit, chars.dropWhile isAsciiDigit)

def readMagnitude (negative : Bool) (chars : List Char) : Option (JsonValue × List Char) :=
  let (digits, afterDigits) := spanInteger chars
  let (fraction, afterFraction) := spanFraction afterDigits
  let (exponent, rest) := spanExponent afterFraction
  if digits = [] then none
  else if fraction = [] ∧ exponent = [] then
    if maxIntDigits < digits.length then none
    else some (.int (if negative then -(numeral digits : ℤ) else numeral digits), rest)
  else
    some (.float (String.ofList ((if negative then ['-'] else []) ++ digits ++ fraction ++ exponent)),
      rest)

def readNumber : List Char → Option (JsonValue × List Char)
  | 'N' :: 'a' :: 'N' :: rest => some (.float "NaN", rest)
  | 'I' :: 'n' :: 'f' :: 'i' :: 'n' :: 'i' :: 't' :: 'y' :: rest => some (.float "Infinity", rest)
  | '-' :: 'I' :: 'n' :: 'f' :: 'i' :: 'n' :: 'i' :: 't' :: 'y' :: rest =>
    some (.float "-Infinity", rest)
  | '-' :: rest => readMagnitude true rest
  | chars => readMagnitude false chars

def isBlank (char : Char) : Bool := char = ' ' || char = '\t' || char = '\n' || char = '\r'

def skipBlanks (chars : List Char) : List Char := chars.dropWhile isBlank

/-- The last of two entries with one key counts, at the place of the first. -/
def setEntry (entries : JsonObject) (key : String) (value : JsonValue) : JsonObject :=
  if entries.any fun entry => entry.1 = key then
    replace Prod.fst entries key fun entry => (entry.1, value)
  else entries ++ [(key, value)]

mutual

def readValue : ℕ → List Char → Option (JsonValue × List Char)
  | 0, _ => none
  | fuel + 1, chars =>
    match chars with
    | 'n' :: 'u' :: 'l' :: 'l' :: rest => some (.null, rest)
    | 't' :: 'r' :: 'u' :: 'e' :: rest => some (.bool true, rest)
    | 'f' :: 'a' :: 'l' :: 's' :: 'e' :: rest => some (.bool false, rest)
    | '"' :: rest => (readString rest).map fun read => (.str read.1, read.2)
    | '[' :: rest =>
      match skipBlanks rest with
      | ']' :: after => some (.arr [], after)
      | items => (readItems fuel items []).map fun read => (.arr read.1, read.2)
    | '{' :: rest =>
      match skipBlanks rest with
      | '}' :: after => some (.obj [], after)
      | entries => (readEntries fuel entries []).map fun read => (.obj read.1, read.2)
    | chars => readNumber chars

/-- The items of a list from the first of those left, behind those already read. -/
def readItems : ℕ → List Char → List JsonValue → Option (List JsonValue × List Char)
  | 0, _, _ => none
  | fuel + 1, chars, before =>
    match readValue fuel chars with
    | none => none
    | some (item, rest) =>
      match skipBlanks rest with
      | ']' :: after => some (before ++ [item], after)
      | ',' :: after => readItems fuel (skipBlanks after) (before ++ [item])
      | _ => none

def readEntries : ℕ → List Char → JsonObject → Option (JsonObject × List Char)
  | 0, _, _ => none
  | fuel + 1, chars, before =>
    match chars with
    | '"' :: afterQuote =>
      match readString afterQuote with
      | none => none
      | some (key, afterKey) =>
        match skipBlanks afterKey with
        | ':' :: afterColon =>
          match readValue fuel (skipBlanks afterColon) with
          | none => none
          | some (value, rest) =>
            match skipBlanks rest with
            | '}' :: after => some (setEntry before key value, after)
            | ',' :: after =>
              readEntries fuel (skipBlanks after) (setEntry before key value)
            | _ => none
        | _ => none
    | _ => none

end

/-- `json.loads` of a text. -/
def readText (chars : List Char) : Option JsonValue :=
  match readValue (chars.length + 1) (skipBlanks chars) with
  | some (value, rest) => if skipBlanks rest = [] then some value else none
  | none => none

/-- `json.loads(body.decode("utf-8"))`; none where it raises. -/
def loads (body : ByteArray) : Option JsonValue :=
  (String.fromUTF8? body).bind fun text => readText text.toList

theorem loads_text (text : String) : loads text.toUTF8 = readText text.toList := by
  have valid : text.toUTF8.IsValidUTF8 := text.isValidUTF8
  unfold loads String.fromUTF8?
  rw [dif_pos valid]
  rfl

def asObject : Option JsonValue → Option JsonObject
  | some (.obj entries) => some entries
  | _ => none

theorem as_object_iff {value : Option JsonValue} {entries : JsonObject} :
    asObject value = some entries ↔ value = some (.obj entries) := by
  constructor
  · intro isObject
    unfold asObject at isObject
    split at isObject
    · rw [Option.some.inj isObject]
    · contradiction
  · rintro rfl
    rfl

instance decidableObject {value : Option JsonValue} {test : JsonObject → Prop}
    [DecidablePred test] :
    Decidable (∃ entries, value = some (.obj entries) ∧ test entries) :=
  match read : asObject value with
  | some entries =>
    decidable_of_iff (test entries) ⟨fun holds => ⟨entries, as_object_iff.mp read, holds⟩,
      fun ⟨_, isOther, holds⟩ =>
        Option.some.inj (read.symm.trans (as_object_iff.mpr isOther)) ▸ holds⟩
  | none =>
    isFalse fun ⟨entries, isOther, _⟩ =>
      Option.some_ne_none entries ((as_object_iff.mpr isOther).symm.trans read)

end FinanceTracker.Library.Json
