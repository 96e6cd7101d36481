import FinanceTracker.Library.IntText
import FinanceTracker.Messaging.SagaCommandCallbacks

/-!
# The retry count as a total reading

`retry_count` of transaction-service under any header name, on every value of a header:
where it returns, and where it gives back the integer that was written there as an integer,
as its decimal text or as the bytes of that text.
-/

namespace FinanceTracker.Messaging.RetryTotality

open Library IntText Json List
open Library.Texts (maxStrDigits)
open Callbacks RetryHeader SagaCommandCallbacks

/-- `(message.headers or {}).get(header, 0)`. -/
def headerValue (headers : Option HeaderTable) (header : String) : HeaderValue :=
  ((headers.getD .empty).get header).getD (.int 0)

def retryCount (headers : Option HeaderTable) (header : String) : Except PyError ℤ :=
  match headerValue headers header with
  | .bool _ => .ok 0
  | .int value => .ok value
  | .float value => zeroOnValueError (pyInt (.float value))
  | .decimal value => zeroOnValueError (pyInt (.decimal value))
  | .bytes octets => zeroOnValueError (pyInt (.bytes octets))
  | .bytearray octets => zeroOnValueError (pyInt (.bytearray octets))
  | .text value => zeroOnValueError (pyInt (.text value))
  | _ => .ok 0

/-- The handlers call it with the default name. -/
theorem transaction_retry_count (headers : Option HeaderTable) :
    transactionRetryCount headers = retryCount headers retryHeader := rfl

def octetsOf (value : ℤ) : List UInt8 := (signedDigits value).map fun char => UInt8.ofNat char.toNat

inductive Renders : HeaderValue → ℤ → Prop
  | int (value) : Renders (.int value) value
  | text (value) : Renders (.text (intText value)) value
  | bytes (value) : Renders (.bytes (octetsOf value)) value
  | bytearray (value) : Renders (.bytearray (octetsOf value)) value

structure Total (headers : Option HeaderTable) (header : String) : Prop where
  returns : ∃ count, retryCount headers header = .ok count
  renders : ∀ value, Renders (headerValue headers header) value →
    retryCount headers header = .ok value

/-- Not an infinity; and no text of an integer with more digits than `int` takes. -/
structure Usable (value : HeaderValue) : Prop where
  finite : Participant.transactionService.reads value = true
  short : ∀ number, Renders value number →
    value = .int number ∨ (Nat.toDigits 10 number.natAbs).length ≤ maxStrDigits

variable {headers : Option HeaderTable} {header : String}

theorem returns_iff : (∃ count, retryCount headers header = .ok count) ↔
    Participant.transactionService.reads (headerValue headers header) = true := by
  have moved := transaction_count_iff (some (withRetryCount none (headerValue headers header)))
  rw [transactionRetryCount, raw_with_retry_count] at moved
  exact moved

theorem signed_digits_ascii (value : ℤ) :
    ∀ char ∈ signedDigits value, char = '-' ∨ isAsciiDigit char = true := by
  intro char member
  unfold signedDigits at member
  split at member
  · rcases mem_cons.mp member with sign | digit
    · exact Or.inl sign
    · exact Or.inr (digits_ascii _ char digit)
  · exact Or.inr (digits_ascii _ char member)

theorem octets_chars (value : ℤ) :
    (octetsOf value).map (fun octet => Char.ofNat octet.toNat) = signedDigits value := by
  unfold octetsOf
  rw [map_map]
  conv_rhs => rw [← map_id (signedDigits value)]
  apply map_congr_left
  intro char member
  have small : char.toNat < 256 := by
    rcases signed_digits_ascii value char member with rfl | digit
    · decide
    · have := digit_bounds digit
      omega
  simp [Nat.mod_eq_of_lt small]

theorem read_back_iff (value : ℤ) :
    zeroOnValueError (orValueError (if maxStrDigits < (Nat.toDigits 10 value.natAbs).length then none
      else some value)) = .ok value ↔ (Nat.toDigits 10 value.natAbs).length ≤ maxStrDigits := by
  by_cases long : maxStrDigits < (Nat.toDigits 10 value.natAbs).length
  · rw [if_pos long]
    refine iff_of_false (fun same => ?_) (Nat.not_le.mpr long)
    have isZero : 0 = value := Except.ok.inj same
    rw [← isZero] at long
    exact absurd long (by decide)
  · rw [if_neg long]
    exact iff_of_true rfl (Nat.not_lt.mp long)

theorem renders_iff {value : ℤ} (renders : Renders (headerValue headers header) value) :
    retryCount headers header = .ok value ↔ headerValue headers header = .int value ∨
      (Nat.toDigits 10 value.natAbs).length ≤ maxStrDigits := by
  unfold retryCount
  generalize headerValue headers header = raw at renders ⊢
  cases renders with
  | int => exact iff_of_true rfl (Or.inl rfl)
  | text =>
    simp only [pyInt, Library.Texts.intOfText, intText, String.toList_ofList,
      read_signed_digits text_reads, read_back_iff, reduceCtorEq, false_or]
  | bytes | bytearray =>
    simp only [pyInt, Library.Texts.intOfBytes, octets_chars, read_signed_digits bytes_read,
      read_back_iff, reduceCtorEq, false_or]

/-- The count is total exactly on the usable values, and the retry ladder of the saga commands
settles its message exactly where the count returns. -/
theorem retry_count_total_iff (message : Delivery) (header : String) :
    (Total message.headers header ↔ Usable (headerValue message.headers header)) ∧
      ((∀ body error, (retry .transactionService message body error).SettledOnce) ↔
        Participant.transactionService.reads (rawRetryCount message.headers) = true) := by
  constructor
  · constructor
    · intro total
      exact ⟨returns_iff.mp total.returns,
        fun value renders => (renders_iff renders).mp (total.renders value renders)⟩
    · intro usable
      exact ⟨returns_iff.mpr usable.finite,
        fun value renders => (renders_iff renders).mpr (usable.short value renders)⟩
  · constructor
    · intro settles
      exact retry_settled_iff.mp (settles [] "")
    · intro reads body error
      exact retry_settled_iff.mpr reads

/-- An infinite float raises. -/
theorem infinite_count_raises :
    retryCount (some ⟨[(retryHeader, .float (.infinity false))], nodup_singleton _⟩) retryHeader =
      .error .overflowError := by
  decide

end FinanceTracker.Messaging.RetryTotality
