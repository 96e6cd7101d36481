import FinanceTracker.Banking.EnableBanking
import FinanceTracker.Library.Json

/-!
# Parsing a batch of raw transactions

`_parse_batch` on the JSON objects of the API, whatever their fields hold. The parser asks
for the methods of dicts and strings without looking at what it was given, and only a
`ValueError` is caught.
-/

namespace FinanceTracker.Banking.BatchParsing

open EnableBanking (FromIsoformat ParseError describe)
open Library Calendar DecimalText Json Runs Texts List

inductive Raised where
  | parse (error : ParseError)
  | keyError
  deriving DecidableEq

def Raised.isValueError : Raised → Bool
  | .parse error => error.isValueError
  | .keyError => false

def attributeError : Raised := .parse .attributeError

def typeError : Raised := .parse .typeError

structure BankTransaction where
  transactionId : JsonValue
  amount : Decimal
  currency : JsonValue
  description : String
  date : Date
  creditorName : JsonValue
  debtorName : JsonValue
  status : JsonValue
  raw : JsonObject

/-- `value or other`. -/
def orElse (value other : JsonValue) : JsonValue := if truthy value then value else other

/-- `raw.get("transaction_amount", {})`, of which `get` is asked. -/
def amountData (raw : JsonObject) : Except Raised JsonObject :=
  match get raw "transaction_amount" with
  | none => .ok []
  | some (.obj entries) => .ok entries
  | some _ => .error attributeError

def amountText (strOf : JsonValue → String) (data : JsonObject) : String :=
  match getD data "amount" (.str "0") with
  | .str text => text
  | value => strOf value

def readAmount (text : String) : Except Raised Decimal :=
  match Decimal.ofText text with
  | some amount => .ok amount
  | none => .error (.parse (.unparseableAmount text))

def isDebit (raw : JsonObject) : Bool :=
  match get raw "credit_debit_indicator" with
  | some (.str text) => text = "DBIT"
  | _ => false

def signedAmount (raw : JsonObject) (amount : Decimal) : Except Raised Decimal :=
  if isDebit raw then
    match amount.abs >>= Decimal.neg with
    | .ok amount => .ok amount
    | .error signal => .error (.parse (.signal signal))
  else .ok amount

def partyName (raw : JsonObject) (name party : String) : Except Raised JsonValue :=
  if truthy (getD raw name (.str "")) then .ok (getD raw name (.str ""))
  else
    match orElse (getD raw party .null) (.obj []) with
    | .obj entries => .ok (getD entries "name" (.str ""))
    | _ => .error attributeError

def stripValue : JsonValue → Except Raised String
  | .str text => .ok (strip text)
  | _ => .error attributeError

/-- `creditor.strip() or debtor.strip()`. -/
def humanName (creditor debtor : JsonValue) : Except Raised String := do
  let creditor ← stripValue creditor
  if creditor ≠ "" then return creditor else stripValue debtor

/-- `(value or [""])[0]`. -/
def firstItem (value : JsonValue) : Except Raised JsonValue :=
  match orElse value (.arr [.str ""]) with
  | .arr (item :: _) => .ok item
  | .str text => .ok (.str (String.ofList (text.toList.take 1)))
  | .obj _ => .error .keyError
  | _ => .error typeError

def asText : JsonValue → Option String
  | .str text => some text
  | _ => none

def joined (value : JsonValue) : Except Raised String :=
  match orElse value (.arr []) with
  | .arr items =>
    match items.mapM asText with
    | some texts => .ok (String.intercalate " " texts)
    | none => .error typeError
  | .str text => .ok (String.intercalate " " (text.toList.map String.singleton))
  | .obj entries => .ok (String.intercalate " " (entries.map Prod.fst))
  | _ => .error typeError

/-- `next((c.strip() for c in candidates if c and c.strip()), "")`. -/
def firstRemark : List JsonValue → Except Raised String
  | [] => .ok ""
  | candidate :: rest =>
    if truthy candidate then do
      let text ← stripValue candidate
      if text ≠ "" then return text else firstRemark rest
    else firstRemark rest

def remittance (raw : JsonObject) : Except Raised String := do
  let first ← firstItem (getD raw "remittance_information_unstructured_array" .null)
  let joined ← joined (getD raw "remittance_information" .null)
  firstRemark [getD raw "remittance_information_unstructured" (.str ""), first, .str joined]

def dateValue (raw : JsonObject) : JsonValue :=
  orElse (getD raw "booking_date" .null) (getD raw "value_date" .null)

def bookingDate (fromisoformat : FromIsoformat) (raw : JsonObject) : Except Raised Date :=
  if truthy (dateValue raw) then
    match dateValue raw with
    | .str text =>
      match fromisoformat text with
      | some date => .ok date
      | none => .error (.parse (.invalidDate text))
    | _ => .error typeError
  else .error (.parse .noDate)

section Parser

variable (strOf : JsonValue → String) (fromisoformat : FromIsoformat)

def parseTransaction (raw : JsonObject) : Except Raised BankTransaction := do
  let data ← amountData raw
  let amount ← readAmount (amountText strOf data)
  let amount ← signedAmount raw amount
  let creditor ← partyName raw "creditor_name" "creditor"
  let debtor ← partyName raw "debtor_name" "debtor"
  let humanName ← humanName creditor debtor
  let remittance ← remittance raw
  let date ← bookingDate fromisoformat raw
  return {
    transactionId := orElse (getD raw "entry_reference" .null)
      (orElse (getD raw "transaction_id" .null) (.str ""))
    amount := amount
    currency := orElse (getD data "currency" .null) (.str "DKK")
    description := describe humanName remittance
    date := date
    creditorName := creditor
    debtorName := debtor
    status := getD raw "status" (.str "")
    raw := raw }

/-- `_parse_batch`: the parsed transactions and how many were skipped. -/
def parseBatch : List JsonObject → Except Raised (List BankTransaction × ℕ)
  | [] => .ok ([], 0)
  | raw :: rest =>
    match parseTransaction strOf fromisoformat raw with
    | .ok transaction => do
      let (parsed, skipped) ← parseBatch rest
      return (transaction :: parsed, skipped)
    | .error error =>
      if error.isValueError then do
        let (parsed, skipped) ← parseBatch rest
        return (parsed, skipped + 1)
      else .error error

end Parser

def isText : JsonValue → Bool
  | .str _ => true
  | _ => false

def isObject : JsonValue → Bool
  | .obj _ => true
  | _ => false

def amountIsObject (raw : JsonObject) : Bool := (get raw "transaction_amount").all isObject

def amountObject (raw : JsonObject) : JsonObject :=
  match get raw "transaction_amount" with
  | some (.obj entries) => entries
  | _ => []

/-- The magnitude of a debit does not signal. -/
def debitReads (raw : JsonObject) (amount : Decimal) : Bool :=
  !isDebit raw || (amount.abs >>= Decimal.neg).toBool

def partyIsObject (raw : JsonObject) (name party : String) : Bool :=
  truthy (getD raw name (.str "")) || isObject (orElse (getD raw party .null) (.obj []))

def partyValue (raw : JsonObject) (name party : String) : JsonValue :=
  if truthy (getD raw name (.str "")) then getD raw name (.str "")
  else
    match orElse (getD raw party .null) (.obj []) with
    | .obj entries => getD entries "name" (.str "")
    | _ => .str ""

/-- The debtor is only looked at where the creditor is blank. -/
def namesAreTexts (creditor debtor : JsonValue) : Bool :=
  match creditor with
  | .str text => strip text ≠ "" || isText debtor
  | _ => false

def isIndexed (value : JsonValue) : Bool :=
  match orElse value (.arr [.str ""]) with
  | .arr (_ :: _) => true
  | .str _ => true
  | _ => false

def indexedValue (value : JsonValue) : JsonValue :=
  match orElse value (.arr [.str ""]) with
  | .arr (item :: _) => item
  | .str text => .str (String.ofList (text.toList.take 1))
  | _ => .str ""

def joinsTexts (value : JsonValue) : Bool :=
  match orElse value (.arr []) with
  | .arr items => items.all isText
  | .str _ => true
  | .obj _ => true
  | _ => false

/-- Up to the first that is not blank, what is not empty is a text. -/
def remarksAreTexts : List JsonValue → Bool
  | [] => true
  | .str text :: rest => strip text ≠ "" || remarksAreTexts rest
  | candidate :: rest => !truthy candidate && remarksAreTexts rest

def remittanceReads (raw : JsonObject) : Bool :=
  isIndexed (getD raw "remittance_information_unstructured_array" .null) &&
    joinsTexts (getD raw "remittance_information" .null) &&
    remarksAreTexts [getD raw "remittance_information_unstructured" (.str ""),
      indexedValue (getD raw "remittance_information_unstructured_array" .null)]

def dateIsText (raw : JsonObject) : Bool := !truthy (dateValue raw) || isText (dateValue raw)

/-- Where the amount is an object whose amount can be read, the other fields have the types
that the parser takes for granted. -/
def wellShaped (strOf : JsonValue → String) (raw : JsonObject) : Bool :=
  amountIsObject raw &&
    (Decimal.ofText (amountText strOf (amountObject raw))).all fun amount =>
      debitReads raw amount && partyIsObject raw "creditor_name" "creditor" &&
        partyIsObject raw "debtor_name" "debtor" &&
        namesAreTexts (partyValue raw "creditor_name" "creditor")
          (partyValue raw "debtor_name" "debtor") &&
        remittanceReads raw && dateIsText raw

section Caught

variable {Value Other : Type} {result : Except Raised Value} {rest : Value → Except Raised Other}
  {shape later : Bool}

def Caught (result : Except Raised Value) : Prop :=
  ∀ error, result = .error error → error.isValueError = true

/-- A part of the parser that returns on its shape and raises what is not caught on others. -/
def Checked (result : Except Raised Value) (shape : Bool) : Prop :=
  (shape = true → ∃ value, result = .ok value) ∧
    (shape = false → ∃ error, result = .error error ∧ error.isValueError = false)

theorem checked_ok (value : Value) : Checked (.ok value) true :=
  ⟨fun _ => ⟨value, rfl⟩, fun isFalse => by cases isFalse⟩

theorem checked_error {error : Raised} (uncaught : error.isValueError = false) :
    Checked (.error error : Except Raised Value) false :=
  ⟨fun isTrue => by (cases isTrue), fun _ => ⟨error, rfl, uncaught⟩⟩

theorem checked_bind (checked : Checked result shape)
    (next : ∀ value, result = .ok value → Checked (rest value) later) :
    Checked (result >>= rest) (shape && later) := by
  cases shape with
  | true =>
    obtain ⟨value, returned⟩ := checked.1 rfl
    rw [returned, ok_bind, Bool.true_and]
    exact next value returned
  | false =>
    obtain ⟨_, raised, uncaught⟩ := checked.2 rfl
    rw [raised, error_bind, Bool.false_and]
    exact checked_error uncaught

theorem caught_ok (value : Value) : Caught (.ok value) := by
  intro _ raised
  cases raised

theorem caught_error (error : Raised) :
    Caught (.error error : Except Raised Value) ↔ error.isValueError = true := by
  constructor
  · intro caught
    exact caught error rfl
  · intro isValueError _ isRaised
    cases isRaised
    exact isValueError

theorem caught_bind {tail : Prop} (checked : Checked result shape)
    (next : ∀ value, result = .ok value → (Caught (rest value) ↔ tail)) :
    Caught (result >>= rest) ↔ shape = true ∧ tail := by
  cases shape with
  | true =>
    obtain ⟨value, returned⟩ := checked.1 rfl
    rw [returned, ok_bind, next value returned]
    simp
  | false =>
    obtain ⟨error, raised, uncaught⟩ := checked.2 rfl
    rw [raised, error_bind]
    constructor
    · intro caught
      rw [caught error rfl] at uncaught
      cases uncaught
    · intro both
      cases both.1

end Caught

section Parts

variable (raw : JsonObject)

theorem amount_data_checked : Checked (amountData raw) (amountIsObject raw) := by
  unfold amountData amountIsObject
  cases get raw "transaction_amount" with
  | none => exact checked_ok []
  | some value =>
    cases value with
    | obj entries => exact checked_ok entries
    | null | bool _ | int _ | float _ | str _ | arr _ => exact checked_error rfl

theorem amount_data_eq {data : JsonObject} (returned : amountData raw = .ok data) :
    data = amountObject raw := by
  unfold amountData at returned
  unfold amountObject
  cases found : get raw "transaction_amount" with
  | none =>
    rw [found] at returned
    cases returned
    rfl
  | some value =>
    rw [found] at returned
    cases value with
    | obj =>
      cases returned
      rfl
    | null | bool _ | int _ | float _ | str _ | arr _ => cases returned

theorem signed_amount_checked (amount : Decimal) :
    Checked (signedAmount raw amount) (debitReads raw amount) := by
  unfold signedAmount debitReads
  cases isDebit raw with
  | false => exact checked_ok amount
  | true =>
    cases amount.abs >>= Decimal.neg with
    | ok debit => exact checked_ok debit
    | error => exact checked_error rfl

theorem party_name_checked (name party : String) :
    Checked (partyName raw name party) (partyIsObject raw name party) := by
  unfold partyName partyIsObject
  cases truthy (getD raw name (.str "")) with
  | true => exact checked_ok (getD raw name (.str ""))
  | false =>
    cases orElse (getD raw party .null) (.obj []) with
    | obj entries => exact checked_ok (getD entries "name" (.str ""))
    | null | bool _ | int _ | float _ | str _ | arr _ => exact checked_error rfl

theorem party_name_eq {name party : String} {value : JsonValue}
    (returned : partyName raw name party = .ok value) : value = partyValue raw name party := by
  unfold partyName at returned
  unfold partyValue
  cases named : truthy (getD raw name (.str "")) with
  | true =>
    rw [named] at returned
    cases returned
    rfl
  | false =>
    rw [named] at returned
    cases found : orElse (getD raw party .null) (.obj []) with
    | obj =>
      rw [found] at returned
      cases returned
      rfl
    | null | bool _ | int _ | float _ | str _ | arr _ =>
      rw [found] at returned
      cases returned

theorem strip_value_checked (value : JsonValue) : Checked (stripValue value) (isText value) := by
  cases value with
  | str text => exact checked_ok (strip text)
  | null | bool _ | int _ | float _ | arr _ | obj _ => exact checked_error rfl

theorem human_name_checked (creditor debtor : JsonValue) :
    Checked (humanName creditor debtor) (namesAreTexts creditor debtor) := by
  cases creditor with
  | str text =>
    by_cases blank : strip text = ""
    · simpa [humanName, namesAreTexts, stripValue, ok_bind, blank] using
        strip_value_checked debtor
    · simpa [humanName, namesAreTexts, stripValue, ok_bind, blank, pure, Except.pure] using
        checked_ok (strip text)
  | null | bool _ | int _ | float _ | arr _ | obj _ => exact checked_error rfl

theorem first_item_checked (value : JsonValue) : Checked (firstItem value) (isIndexed value) := by
  unfold firstItem isIndexed
  cases orElse value (.arr [.str ""]) with
  | str => exact checked_ok _
  | arr items =>
    cases items with
    | nil => exact checked_error rfl
    | cons item => exact checked_ok item
  | null | bool _ | int _ | float _ | obj _ => exact checked_error rfl

theorem first_item_eq {value item : JsonValue} (returned : firstItem value = .ok item) :
    item = indexedValue value := by
  unfold firstItem at returned
  unfold indexedValue
  cases found : orElse value (.arr [.str ""]) with
  | str =>
    rw [found] at returned
    cases returned
    rfl
  | arr items =>
    rw [found] at returned
    cases items with
    | nil => cases returned
    | cons =>
      cases returned
      rfl
  | null | bool _ | int _ | float _ | obj _ =>
    rw [found] at returned
    cases returned

theorem as_text_is_some (value : JsonValue) : (asText value).isSome = isText value := by
  cases value with
  | str | null | bool _ | int _ | float _ | arr _ | obj _ => rfl

theorem texts_read (items : List JsonValue) : (items.mapM asText).isSome = items.all isText := by
  induction items with
  | nil => rfl
  | cons item items read =>
    rw [mapM_cons, all_cons, ← as_text_is_some item, ← read]
    cases asText item with
    | none => rfl
    | some =>
      cases items.mapM asText with
      | none => rfl
      | some => rfl

theorem joined_checked (value : JsonValue) : Checked (joined value) (joinsTexts value) := by
  unfold joined joinsTexts
  cases orElse value (.arr []) with
  | arr items =>
    simp only [← texts_read items]
    cases items.mapM asText with
    | none => exact checked_error rfl
    | some texts => exact checked_ok (String.intercalate " " texts)
  | str | obj => exact checked_ok _
  | null | bool _ | int _ | float _ => exact checked_error rfl

theorem first_remark_text {text : String} (rest : List JsonValue) :
    firstRemark (.str text :: rest) =
      if strip text = "" then firstRemark rest else .ok (strip text) := by
  by_cases empty : text = ""
  · subst empty
    rfl
  · have told : truthy (.str text) = true := by simp [truthy, empty]
    rw [firstRemark, if_pos told, stripValue, ok_bind]
    by_cases blank : strip text = ""
    · simp [blank]
    · simp [blank, pure, Except.pure]

/-- What is joined is a text, so it adds nothing to the shape. -/
theorem first_remark_checked (text : String) (candidates : List JsonValue) :
    Checked (firstRemark (candidates ++ [.str text])) (remarksAreTexts candidates) := by
  induction candidates with
  | nil =>
    rw [nil_append, first_remark_text]
    by_cases blank : strip text = ""
    · rw [if_pos blank]
      exact checked_ok ""
    · rw [if_neg blank]
      exact checked_ok (strip text)
  | cons candidate candidates checked =>
    cases candidate with
    | str remark =>
      rw [cons_append, first_remark_text]
      by_cases blank : strip remark = ""
      · simpa [blank, remarksAreTexts] using checked
      · simpa [blank, remarksAreTexts] using checked_ok (strip remark)
    | null | bool _ | int _ | float _ | arr _ | obj _ =>
      all_goals
        rw [cons_append]
        simp only [firstRemark, remarksAreTexts]
        split
        case isTrue told =>
          rw [told]
          exact checked_error rfl
        case isFalse untold =>
          rw [Bool.eq_false_of_not_eq_true untold]
          exact checked

theorem remittance_checked : Checked (remittance raw) (remittanceReads raw) := by
  rw [remittanceReads, Bool.and_assoc]
  apply checked_bind (first_item_checked _)
  intro _ returned
  apply checked_bind (joined_checked _)
  intro text _
  rw [← first_item_eq returned]
  exact first_remark_checked text _

theorem booking_date_caught (fromisoformat : FromIsoformat) {Value : Type}
    (transaction : Date → Value) :
    Caught (bookingDate fromisoformat raw >>= fun date => .ok (transaction date)) ↔
      dateIsText raw = true := by
  unfold bookingDate dateIsText
  cases truthy (dateValue raw) with
  | false => exact caught_error _
  | true =>
    cases dateValue raw with
    | str text =>
      cases isDate : fromisoformat text with
      | some => simp [isDate, ok_bind, caught_ok, isText]
      | none =>
        simp only [isDate]
        exact caught_error _
    | null | bool _ | int _ | float _ | arr _ | obj _ => exact caught_error _

end Parts

section Batch

variable (strOf : JsonValue → String) (fromisoformat : FromIsoformat)

theorem parse_caught (raw : JsonObject) :
    Caught (parseTransaction strOf fromisoformat raw) ↔ wellShaped strOf raw = true := by
  rw [parseTransaction, wellShaped, Bool.and_eq_true]
  apply caught_bind (amount_data_checked raw)
  intro _ returned
  rw [amount_data_eq raw returned]
  cases read : Decimal.ofText (amountText strOf (amountObject raw)) with
  | none =>
    simp [readAmount, read, error_bind, caught_error, Raised.isValueError, ParseError.isValueError]
  | some amount =>
    simp only [readAmount, read, ok_bind, Option.all_some, Bool.and_assoc, Bool.and_eq_true]
    apply caught_bind (signed_amount_checked raw amount)
    intro _ _
    apply caught_bind (party_name_checked raw _ _)
    intro creditor isCreditor
    apply caught_bind (party_name_checked raw _ _)
    intro debtor isDebtor
    rw [← party_name_eq raw isCreditor, ← party_name_eq raw isDebtor]
    apply caught_bind (human_name_checked creditor debtor)
    intro _ _
    apply caught_bind (remittance_checked raw)
    intro _ _
    exact booking_date_caught raw fromisoformat _

def parsedAlone (raw : JsonObject) : Option BankTransaction :=
  (parseTransaction strOf fromisoformat raw).toOption

/-- A batch is read without raising, every transaction is parsed or counted as skipped, and
what is parsed is what each transaction parses to on its own. -/
def BatchTotal (raws : List JsonObject) : Prop :=
  ∃ parsed skipped, parseBatch strOf fromisoformat raws = .ok (parsed, skipped) ∧
      parsed.length + skipped = raws.length ∧
      parsed = raws.filterMap (parsedAlone strOf fromisoformat)

theorem batch_read {raws : List JsonObject}
    (caught : ∀ raw ∈ raws, Caught (parseTransaction strOf fromisoformat raw)) :
    BatchTotal strOf fromisoformat raws := by
  induction raws with
  | nil => exact ⟨[], 0, rfl, rfl, rfl⟩
  | cons raw rest total =>
    rw [forall_mem_cons] at caught
    obtain ⟨parsed, skipped, returned, _, alone⟩ := total caught.2
    cases read : parseTransaction strOf fromisoformat raw with
    | ok transaction =>
      have kept : parsedAlone strOf fromisoformat raw = some transaction := by
        rw [parsedAlone, read]
        rfl
      refine ⟨transaction :: parsed, skipped, ?_, ?_, ?_⟩
      · simp only [parseBatch, read, returned, ok_bind]
        rfl
      · simp only [length_cons]
        omega
      · rw [filterMap_cons_some kept, alone]
    | error error =>
      have dropped : parsedAlone strOf fromisoformat raw = none := by
        rw [parsedAlone, read]
        rfl
      have isValueError : error.isValueError = true := caught.1 error read
      refine ⟨parsed, skipped + 1, ?_, ?_, ?_⟩
      · simp only [parseBatch, read, isValueError, if_true, returned, ok_bind]
        rfl
      · simp only [length_cons]
        omega
      · rw [filterMap_cons_none dropped, alone]

theorem batch_raises {raw : JsonObject} {raws : List JsonObject} {error : Raised}
    (present : raw ∈ raws) (raised : parseTransaction strOf fromisoformat raw = .error error)
    (uncaught : error.isValueError = false) :
    ∃ error, parseBatch strOf fromisoformat raws = .error error := by
  induction raws with
  | nil => simp at present
  | cons first rest raises =>
    cases read : parseTransaction strOf fromisoformat first with
    | error failure =>
      cases isValueError : failure.isValueError with
      | false => exact ⟨failure, by simp [parseBatch, read, isValueError]⟩
      | true =>
        have later : raw ∈ rest := by
          rcases mem_cons.1 present with isFirst | isLater
          · rw [isFirst, read] at raised
            cases raised
            rw [isValueError] at uncaught
            cases uncaught
          · exact isLater
        obtain ⟨restError, restRaised⟩ := raises later
        exact ⟨restError, by simp [parseBatch, read, isValueError, restRaised]⟩
    | ok =>
      have later : raw ∈ rest := by
        rcases mem_cons.1 present with isFirst | isLater
        · rw [isFirst, read] at raised
          cases raised
        · exact isLater
      obtain ⟨restError, restRaised⟩ := raises later
      exact ⟨restError, by simp [parseBatch, read, restRaised]⟩

/-- Exactly the batches of well-shaped transactions are read. -/
theorem batch_total_iff (raws : List JsonObject) :
    BatchTotal strOf fromisoformat raws ↔ ∀ raw ∈ raws, wellShaped strOf raw = true := by
  constructor
  · intro total raw present
    rw [← parse_caught strOf fromisoformat raw]
    intro error raised
    obtain ⟨_, _, returned, _⟩ := total
    cases uncaught : error.isValueError with
    | true => rfl
    | false =>
      obtain ⟨_, batchRaised⟩ :=
        batch_raises strOf fromisoformat present raised uncaught
      rw [batchRaised] at returned
      cases returned
  · intro shaped
    apply batch_read
    intro raw present
    rw [parse_caught]
    exact shaped raw present

/-- The amount of one transaction is null. -/
theorem null_amount_raises :
    ¬ ∀ (strOf : JsonValue → String) (fromisoformat : FromIsoformat) (raws : List JsonObject),
      BatchTotal strOf fromisoformat raws := by
  intro total
  obtain ⟨_, _, returned, _⟩ := total (fun _ => "") (fun _ => none)
    [[("transaction_amount", .null), ("booking_date", .str "2026-07-01")]]
  have raised : ∀ (strOf : JsonValue → String) (fromisoformat : FromIsoformat),
      parseBatch strOf fromisoformat
        [[("transaction_amount", .null), ("booking_date", .str "2026-07-01")]] =
      .error attributeError := by
    intro _ _
    rfl
  rw [raised] at returned
  cases returned

end Batch

end FinanceTracker.Banking.BatchParsing
