import FinanceTracker.Library.Binary64
import FinanceTracker.Library.DecimalText
import FinanceTracker.Library.KeyedRows

/-!
# The retry header

The values that AMQP can carry in a header, as aio-pika gives them to Python, and
the ways in which the consumers read `x-retry-count`: through `int`, through the
helper of transaction-service, raw in banking-service and through `int(str(...))` in
analytics-service.
-/

namespace FinanceTracker.Messaging.RetryHeader

open Library Binary64 KeyedRows Texts
open Library.DecimalText (Decimal fix)

inductive FloatValue where
  | finite (value : ℚ)
  | infinity (negative : Bool)
  | nan

inductive HeaderValue where
  | none
  | bool (value : Bool)
  | int (value : ℤ)
  | float (value : FloatValue)
  | decimal (value : Decimal)
  | text (value : String)
  | bytes (octets : List UInt8)
  | bytearray (octets : List UInt8)
  | timestamp (seconds : ℤ)
  | array (items : List HeaderValue)
  | table (entries : List (String × HeaderValue))

inductive PyError where
  | attributeError
  | typeError
  | valueError
  | overflowError
  | invalidOperation
  deriving DecidableEq

structure HeaderTable where
  entries : List (String × HeaderValue)
  distinct : DistinctKeys Prod.fst entries

def HeaderTable.empty : HeaderTable := ⟨[], List.nodup_nil⟩

def HeaderTable.get (headers : HeaderTable) (key : String) : Option HeaderValue :=
  (lookup Prod.fst headers.entries key).map Prod.snd

def retryHeader : String := "x-retry-count"

def HeaderTable.set (headers : HeaderTable) (key : String) (value : HeaderValue) : HeaderTable :=
  if stored : ∃ entry ∈ headers.entries, entry.1 = key then
    { entries := replace Prod.fst headers.entries key fun entry => (entry.1, value)
      distinct := replace_distinct headers.distinct fun _ _ _ => rfl }
  else
    { entries := headers.entries ++ [(key, value)]
      distinct := append_distinct headers.distinct fun entry member same =>
        stored ⟨entry, member, same⟩ }

/-- `(message.headers or {}).get("x-retry-count", 0)`. -/
def rawRetryCount (headers : Option HeaderTable) : HeaderValue :=
  ((headers.getD .empty).get retryHeader).getD (.int 0)

/-- `headers = dict(original.headers or {})` with the count set. -/
def withRetryCount (headers : Option HeaderTable) (count : HeaderValue) : HeaderTable :=
  (headers.getD .empty).set retryHeader count

theorem get_set (headers : HeaderTable) (key other : String) (value : HeaderValue) :
    (headers.set key value).get other = if other = key then some value else headers.get other := by
  unfold HeaderTable.set
  split
  · next stored =>
    obtain ⟨entry, member, isKey⟩ := stored
    have keeps : ∀ entry ∈ headers.entries, entry.1 = key →
        ((entry.1, value) : String × HeaderValue).1 = entry.1 := fun _ _ _ => rfl
    unfold HeaderTable.get
    dsimp only
    rw [lookup_replace keeps]
    by_cases same : other = key
    · rw [if_pos same, if_pos same]
      cases found : lookup Prod.fst headers.entries other with
      | none =>
        exact absurd (isKey.trans same.symm) (lookup_none_iff.mp found entry member)
      | some => rfl
    · rw [if_neg same, if_neg same]
  · next absent =>
    unfold HeaderTable.get
    dsimp only
    have fresh : ∀ entry ∈ headers.entries, entry.1 ≠ (key, value).1 :=
      fun entry member same => absent ⟨entry, member, same⟩
    rw [lookup_append fresh]
    by_cases same : other = key
    · rw [if_pos same, if_pos same]
      rfl
    · rw [if_neg same, if_neg same]

theorem raw_with_retry_count (headers : Option HeaderTable) (count : HeaderValue) :
    rawRetryCount (some (withRetryCount headers count)) = count := by
  unfold rawRetryCount withRetryCount
  rw [Option.getD_some, get_set, if_pos rfl]
  rfl

def truncate (value : ℚ) : ℤ := if 0 ≤ value then value.floor else value.ceil

def orValueError (read : Option ℤ) : Except PyError ℤ :=
  match read with
  | some value => .ok value
  | none => .error .valueError

def intOfDecimal (value : Decimal) : Except PyError ℤ :=
  match value.finiteValue, value with
  | some number, _ => .ok (truncate number)
  | none, .infinity _ => .error .overflowError
  | none, _ => .error .valueError

def pyInt : HeaderValue → Except PyError ℤ
  | .bool value => .ok (if value then 1 else 0)
  | .int value => .ok value
  | .float (.finite value) => .ok (truncate value)
  | .float (.infinity _) => .error .overflowError
  | .float .nan => .error .valueError
  | .decimal value => intOfDecimal value
  | .text value => orValueError (intOfText value)
  | .bytes octets => orValueError (intOfBytes octets)
  | .bytearray octets => orValueError (intOfBytes octets)
  | .none => .error .typeError
  | .timestamp _ => .error .typeError
  | .array _ => .error .typeError
  | .table _ => .error .typeError

/-- `int((message.headers or {}).get(RETRY_HEADER, 0))` in `ConsumerBase`. -/
def baseRetryCount (headers : Option HeaderTable) : Except PyError ℤ := pyInt (rawRetryCount headers)

/-- The except clause of `retry_count` in transaction-service. -/
def zeroOnValueError : Except PyError ℤ → Except PyError ℤ
  | .error .typeError => .ok 0
  | .error .valueError => .ok 0
  | read => read

def transactionRetryCount (headers : Option HeaderTable) : Except PyError ℤ :=
  match rawRetryCount headers with
  | .bool _ => .ok 0
  | .int value => .ok value
  | .float value => zeroOnValueError (pyInt (.float value))
  | .decimal value => zeroOnValueError (pyInt (.decimal value))
  | .bytes octets => zeroOnValueError (pyInt (.bytes octets))
  | .bytearray octets => zeroOnValueError (pyInt (.bytearray octets))
  | .text value => zeroOnValueError (pyInt (.text value))
  | _ => .ok 0

/-- `int(str(value))`; the text of a float, of octets, of a time or of a container is
never that of an integer. -/
def intOfStr : HeaderValue → Except PyError ℤ
  | .int value => .ok value
  | .decimal value => orValueError (intOfText value.text)
  | .text value => orValueError (intOfText value)
  | _ => .error .valueError

def analyticsRetryCount (headers : Option HeaderTable) : Except PyError ℤ :=
  intOfStr (rawRetryCount headers)

/-- `value + 1` for decimals, in the default context. -/
def decimalSucc : Decimal → Except PyError Decimal
  | .finite negative coefficient exponent =>
    let lowest := min exponent 0
    let shifted : ℤ := (if negative then -(coefficient : ℤ) else coefficient) *
      10 ^ (exponent - lowest).toNat + 10 ^ (-lowest).toNat
    match fix (shifted < 0) shifted.natAbs lowest with
    | .ok value => .ok value
    | .error _ => .error .overflowError
  | .infinity negative => .ok (.infinity negative)
  | .nan signaling => if signaling then .error .invalidOperation else .ok (.nan false)

/-- What banking-service makes of a raw count: whether it is at least the limit, and
the count of the next attempt. -/
structure RawCount where
  exhausted : Bool
  next : HeaderValue

def rawIntCount (maxRetries : ℕ) (value : ℤ) : RawCount where
  exhausted := (maxRetries : ℤ) ≤ value
  next := .int (value + 1)

def rawDecimalCount (maxRetries : ℕ) (value : Decimal) : Except PyError RawCount :=
  match value.finiteValue, value with
  | some number, _ =>
    if (maxRetries : ℚ) ≤ number then .ok { exhausted := true, next := .decimal value }
    else do .ok { exhausted := false, next := .decimal (← decimalSucc value) }
  | none, .infinity negative => .ok { exhausted := !negative, next := .decimal value }
  | none, _ => .error .invalidOperation

/-- The comparison with `MAX_RETRIES` and the addition in banking-service, of which
only octets are converted before. -/
def bankingRetryCount (maxRetries : ℕ) (headers : Option HeaderTable) : Except PyError RawCount :=
  match rawRetryCount headers with
  | .bool value => .ok (rawIntCount maxRetries (if value then 1 else 0))
  | .int value => .ok (rawIntCount maxRetries value)
  | .float (.finite value) =>
    .ok { exhausted := (maxRetries : ℚ) ≤ value
          next := .float (.finite (nearestDouble (value + 1))) }
  | .float (.infinity negative) =>
    .ok { exhausted := !negative, next := .float (.infinity negative) }
  | .float .nan => .ok { exhausted := false, next := .float .nan }
  | .decimal value => rawDecimalCount maxRetries value
  | .bytes octets => do .ok (rawIntCount maxRetries (← orValueError (intOfBytes octets)))
  | _ => .error .typeError

end FinanceTracker.Messaging.RetryHeader
