import FinanceTracker.Library.Binary64
import FinanceTracker.Library.DateText
import FinanceTracker.Library.DecimalText
import FinanceTracker.Banking.SagaCommands

/-!
# Fetching bank transactions

`get_transactions` of the Enable Banking client, from the pages that the API
answers on, and the items that `_handle_fetch_transactions` makes of its result.
A raw transaction has the field types of the API. Where the parser tells an absent
field from a null one the field has two layers, the inner one for null.
-/

namespace FinanceTracker.Banking.EnableBanking

open Library Binary64 Calendar DateText DecimalText Runs Texts Shared.SagaMessages SagaCommands List

structure AmountData where
  amount : Option (Option String) := none
  currency : Option String := none
  deriving DecidableEq

/-- A creditor or debtor object. -/
structure Party where
  name : Option (Option String) := none
  deriving DecidableEq

structure RawTransaction where
  transactionAmount : Option (Option AmountData) := none
  creditDebitIndicator : Option String := none
  creditorName : Option String := none
  creditor : Option Party := none
  debtorName : Option String := none
  debtor : Option Party := none
  remittanceInformationUnstructured : Option String := none
  remittanceInformationUnstructuredArray : Option (List (Option String)) := none
  remittanceInformation : Option (List (Option String)) := none
  bookingDate : Option String := none
  valueDate : Option String := none
  entryReference : Option String := none
  transactionId : Option String := none
  status : Option (Option String) := none
  deriving DecidableEq

structure BankTransaction where
  transactionId : String
  amount : Decimal
  currency : String
  description : String
  date : Date
  creditorName : Option String
  debtorName : Option String
  status : Option String
  raw : RawTransaction
  deriving DecidableEq

/-- What the parser raises. -/
inductive ParseError where
  | unparseableAmount (text : String)
  | noDate
  | invalidDate (text : String)
  | signal (signal : Signal)
  | attributeError
  | typeError
  deriving DecidableEq

def ParseError.isValueError : ParseError → Bool
  | .unparseableAmount _ => true
  | .noDate => true
  | .invalidDate _ => true
  | .signal _ => false
  | .attributeError => false
  | .typeError => false

def orDefault (text : Option String) (default : String) : String :=
  match text with
  | some text => if text = "" then default else text
  | none => default

def amountData (raw : RawTransaction) : Except ParseError AmountData :=
  match raw.transactionAmount with
  | none => .ok {}
  | some none => .error .attributeError
  | some (some data) => .ok data

def amountText (data : AmountData) : String :=
  match data.amount with
  | none => "0"
  | some none => "None"
  | some (some text) => text

def readAmount (text : String) : Except ParseError Decimal :=
  match Decimal.ofText text with
  | some amount => .ok amount
  | none => .error (.unparseableAmount text)

def signedAmount (raw : RawTransaction) (amount : Decimal) : Except ParseError Decimal :=
  if raw.creditDebitIndicator = some "DBIT" then
    match amount.abs >>= Decimal.neg with
    | .ok amount => .ok amount
    | .error signal => .error (.signal signal)
  else .ok amount

/-- `raw.get("creditor_name", "") or (raw.get("creditor") or {}).get("name", "")`. -/
def partyName (name : Option String) (party : Option Party) : Option String :=
  if name.getD "" ≠ "" then name else (party.getD {}).name.getD (some "")

def stripName (name : Option String) : Except ParseError String :=
  match name with
  | some name => .ok (strip name)
  | none => .error .attributeError

/-- `creditor.strip() or debtor.strip()`. -/
def humanName (creditor debtor : Option String) : Except ParseError String := do
  let creditor ← stripName creditor
  if creditor ≠ "" then return creditor else stripName debtor

def joinTexts (texts : List (Option String)) : Except ParseError String :=
  if texts.any Option.isNone then .error .typeError
  else .ok (String.intercalate " " (texts.filterMap id))

def firstText (texts : Option (List (Option String))) : Option String :=
  match texts with
  | some (text :: _) => text
  | some [] => some ""
  | none => some ""

def remittance (raw : RawTransaction) : Except ParseError String := do
  let joined ← joinTexts (raw.remittanceInformation.getD [])
  let candidates := [raw.remittanceInformationUnstructured,
    firstText raw.remittanceInformationUnstructuredArray, some joined]
  let stripped := candidates.map fun candidate => strip (candidate.getD "")
  return (stripped.find? fun text => text ≠ "").getD ""

def isReferenceNumber (text : String) : Bool :=
  let stripped := strip text
  if stripped = "" then true
  else
    8 < stripped.length &&
      nearestDouble (3 / 5) < nearestDouble (stripped.toList.countP isDigit / stripped.length)

def describe (humanName remittance : String) : String :=
  if humanName ≠ "" ∧ (remittance = "" ∨ isReferenceNumber remittance) then humanName
  else if remittance ≠ "" then remittance
  else if humanName ≠ "" then humanName
  else "Ukendt"

/-- `date.fromisoformat` of the language; none where it raises a `ValueError`. -/
abbrev FromIsoformat := String → Option Date

variable (fromisoformat : FromIsoformat)

def bookingDate (raw : RawTransaction) : Except ParseError Date :=
  let text := orDefault raw.bookingDate (raw.valueDate.getD "")
  if text = "" then .error .noDate
  else
    match fromisoformat text with
    | some date => .ok date
    | none => .error (.invalidDate text)

def parseTransaction (raw : RawTransaction) : Except ParseError BankTransaction := do
  let data ← amountData raw
  let amount ← readAmount (amountText data)
  let amount ← signedAmount raw amount
  let creditor := partyName raw.creditorName raw.creditor
  let debtor := partyName raw.debtorName raw.debtor
  let humanName ← humanName creditor debtor
  let remittance ← remittance raw
  let date ← bookingDate fromisoformat raw
  return {
    transactionId := orDefault raw.entryReference (orDefault raw.transactionId "")
    amount := amount
    currency := orDefault data.currency "DKK"
    description := describe humanName remittance
    date := date
    creditorName := creditor
    debtorName := debtor
    status := raw.status.getD (some "")
    raw := raw }

/-- `_parse_batch`: the parsed transactions and how many were skipped. -/
def parseBatch : List RawTransaction → Except ParseError (List BankTransaction × ℕ)
  | [] => .ok ([], 0)
  | raw :: rest =>
    match parseTransaction fromisoformat raw with
    | .ok transaction => do
      let (parsed, skipped) ← parseBatch rest
      return (transaction :: parsed, skipped)
    | .error error =>
      if error.isValueError then do
        let (parsed, skipped) ← parseBatch rest
        return (parsed, skipped + 1)
      else .error error

structure Page where
  transactions : List RawTransaction := []
  continuationKey : Option String := none
  deriving DecidableEq

/-- No further page is asked for. -/
def isLast (maxTxPages pagesFetched : ℕ) (page : Page) : Bool :=
  orDefault page.continuationKey "" = "" || maxTxPages ≤ pagesFetched

/-- The loop of `get_transactions` over the answers of the API. -/
def getTransactions (maxTxPages : ℕ) : ℕ → List Page → Except ParseError (List BankTransaction × ℕ)
  | _, [] => .ok ([], 0)
  | pagesFetched, page :: pages => do
    let (batch, skipped) ← parseBatch fromisoformat page.transactions
    if isLast maxTxPages (pagesFetched + 1) page then return (batch, skipped)
    else
      let (later, laterSkipped) ← getTransactions maxTxPages (pagesFetched + 1) pages
      return (batch ++ later, skipped + laterSkipped)

/-- The dict of one transaction. -/
def prepareItem (transaction : BankTransaction) : Except Signal FetchedItem := do
  let isIncome ← transaction.amount.geZero
  let magnitude ← transaction.amount.abs
  let externalId := strip transaction.transactionId
  return {
    amount := some magnitude.text
    transactionType := some (if isIncome then "income" else "expense")
    date := some (isoformat transaction.date)
    description := some (some transaction.description)
    externalId := if externalId = "" then none else some externalId
    currency := some (orDefault (some transaction.currency) "DKK") }

/-- The items, and how many transactions raised. -/
def prepareItems : List BankTransaction → List FetchedItem × ℕ
  | [] => ([], 0)
  | transaction :: rest =>
    let (items, errors) := prepareItems rest
    match prepareItem transaction with
    | .ok item => (item :: items, errors)
    | .error _ => (items, errors + 1)

/-- `_handle_fetch_transactions` for a connection whose consent has not expired. -/
def fetchTransactions (maxTxPages : ℕ) (pages : List Page) : Except ParseError FetchOutcome := do
  let (transactions, skipped) ← getTransactions fromisoformat maxTxPages 0 pages
  let (items, errors) := prepareItems transactions
  return .fetched items transactions.length skipped errors

variable {fromisoformat}

def readTransaction (fromisoformat : FromIsoformat) (raw : RawTransaction) :
    Option BankTransaction :=
  (parseTransaction fromisoformat raw).toOption

/-- A batch holds every transaction that can be read and counts the others, which
raised a `ValueError`. -/
structure BatchRead (fromisoformat : FromIsoformat) (raws : List RawTransaction)
    (parsed : List BankTransaction) (skipped : ℕ) : Prop where
  reads : parsed = raws.filterMap (readTransaction fromisoformat)
  counted : parsed.length + skipped = raws.length
  skips : ∀ raw ∈ raws, ∀ error, parseTransaction fromisoformat raw = .error error →
    error.isValueError = true

theorem batch_read_nil : BatchRead fromisoformat [] [] 0 :=
  ⟨rfl, rfl, by simp⟩

variable {parsed : List BankTransaction} {skipped : ℕ} {raw : RawTransaction}
  {transaction : BankTransaction} {decimal : Decimal} {error : ParseError}

theorem batch_read_append {first second : List RawTransaction} {later : List BankTransaction}
    {laterSkipped : ℕ} (read : BatchRead fromisoformat first parsed skipped)
    (readLater : BatchRead fromisoformat second later laterSkipped) :
    BatchRead fromisoformat (first ++ second) (parsed ++ later) (skipped + laterSkipped) := by
  have counted := read.counted
  have countedLater := readLater.counted
  constructor
  · rw [filterMap_append, ← read.reads, ← readLater.reads]
  · rw [length_append, length_append]
    omega
  · refine forall_mem_append.mpr ⟨read.skips, ?_⟩
    intro raw after
    exact readLater.skips raw after

theorem batch_read_parsed (parsed : parseTransaction fromisoformat raw = .ok transaction) :
    BatchRead fromisoformat [raw] [transaction] 0 := by
  constructor
  · simp [readTransaction, parsed, Except.toOption]
  · rfl
  · intro _ member _ raised
    rw [mem_singleton.mp member, parsed] at raised
    contradiction

theorem batch_read_skipped {failure : ParseError}
    (raised : parseTransaction fromisoformat raw = .error failure)
    (isValueError : failure.isValueError = true) : BatchRead fromisoformat [raw] [] 1 := by
  constructor
  · simp [readTransaction, raised, Except.toOption]
  · rfl
  · intro _ member error otherRaised
    rw [mem_singleton.mp member, raised] at otherRaised
    rw [← Except.error.inj otherRaised]
    exact isValueError

theorem parse_batch_read {raws : List RawTransaction}
    (returned : parseBatch fromisoformat raws = .ok (parsed, skipped)) :
    BatchRead fromisoformat raws parsed skipped := by
  induction raws generalizing parsed skipped with
  | nil =>
    cases returned
    exact batch_read_nil
  | cons raw rest ih =>
    unfold parseBatch at returned
    cases reading : parseTransaction fromisoformat raw with
    | ok =>
      rw [reading] at returned
      obtain ⟨⟨_, _⟩, batch, returned⟩ := bind_eq_ok.mp returned
      cases returned
      have read := batch_read_append (batch_read_parsed reading) (ih batch)
      rwa [Nat.zero_add] at read
    | error =>
      rw [reading] at returned
      dsimp only at returned
      split at returned
      · next isValueError =>
        obtain ⟨⟨_, _⟩, batch, returned⟩ := bind_eq_ok.mp returned
        cases returned
        have read := batch_read_append (batch_read_skipped reading isValueError) (ih batch)
        rwa [Nat.add_comm] at read
      · contradiction

def rawTransactions (maxTxPages : ℕ) : ℕ → List Page → List RawTransaction
  | _, [] => []
  | pagesFetched, page :: pages =>
    if isLast maxTxPages (pagesFetched + 1) page then page.transactions
    else page.transactions ++ rawTransactions maxTxPages (pagesFetched + 1) pages

theorem get_transactions_read {maxTxPages pagesFetched : ℕ} {pages : List Page}
    (returned : getTransactions fromisoformat maxTxPages pagesFetched pages = .ok (parsed, skipped)) :
    BatchRead fromisoformat (rawTransactions maxTxPages pagesFetched pages) parsed skipped := by
  induction pages generalizing pagesFetched parsed skipped with
  | nil =>
    cases returned
    exact batch_read_nil
  | cons page pages ih =>
    unfold getTransactions at returned
    unfold rawTransactions
    obtain ⟨⟨_, _⟩, isBatch, returned⟩ := bind_eq_ok.mp returned
    dsimp only at returned
    split at returned
    · next last =>
      cases returned
      rw [if_pos last]
      exact parse_batch_read isBatch
    · next goesOn =>
      obtain ⟨⟨_, _⟩, isLater, returned⟩ := bind_eq_ok.mp returned
      cases returned
      rw [if_neg goesOn]
      exact batch_read_append (parse_batch_read isBatch) (ih isLater)

def itemOf (transaction : BankTransaction) (magnitude : Decimal) : FetchedItem where
  amount := some magnitude.text
  transactionType := some (if transaction.amount.geZero = .ok true then "income" else "expense")
  date := some (isoformat transaction.date)
  description := some (some transaction.description)
  externalId :=
    if strip transaction.transactionId = "" then none else some (strip transaction.transactionId)
  currency := some (orDefault (some transaction.currency) "DKK")

/-- A transaction is handed over exactly when its amount has a magnitude in the
context; a NaN has none. -/
theorem prepare_item_iff {item : FetchedItem} : prepareItem transaction = .ok item ↔
      ∃ magnitude, transaction.amount.abs = .ok magnitude ∧ magnitude ≠ .nan false ∧
        item = itemOf transaction magnitude := by
  have prepared : ∀ {isIncome : Bool} {magnitude : Decimal},
      transaction.amount.geZero = .ok isIncome → transaction.amount.abs = .ok magnitude →
        prepareItem transaction = .ok (itemOf transaction magnitude) := by
    intro _ _ sign absolute
    unfold prepareItem itemOf
    rw [sign, absolute]
    simp [Bind.bind, Except.bind, Pure.pure, Except.pure]
  constructor
  · intro isItem
    have returned := isItem
    unfold prepareItem at returned
    obtain ⟨_, sign, returned⟩ := bind_eq_ok.mp returned
    obtain ⟨magnitude, absolute, _⟩ := bind_eq_ok.mp returned
    refine ⟨magnitude, absolute, ?_, ?_⟩
    · rintro rfl
      cases isAmount : transaction.amount with
      | finite =>
        rw [isAmount] at absolute
        obtain ⟨_, _, _, _⟩ := fixed_of_fix absolute
        contradiction
      | infinity =>
        rw [isAmount] at absolute
        cases absolute
      | nan =>
        rw [isAmount] at sign
        contradiction
    · rw [prepared sign absolute] at isItem
      exact (Except.ok.inj isItem).symm
  · rintro ⟨magnitude, absolute, number, rfl⟩
    cases isAmount : transaction.amount with
    | finite | infinity => exact prepared (by rw [isAmount]; rfl) absolute
    | nan signaling =>
      rw [isAmount] at absolute
      cases signaling with
      | false => exact absurd (Except.ok.inj absolute).symm number
      | true => contradiction

theorem prepare_items_counts (transactions : List BankTransaction) : (prepareItems transactions).1 =
        transactions.filterMap (fun transaction => (prepareItem transaction).toOption) ∧
      (prepareItems transactions).1.length + (prepareItems transactions).2 =
        transactions.length := by
  induction transactions with
  | nil => exact ⟨rfl, rfl⟩
  | cons transaction rest ih =>
    obtain ⟨items, _⟩ := ih
    unfold prepareItems
    cases prepared : prepareItem transaction with
    | ok =>
      rw [filterMap_cons_some (by rw [prepared]; rfl), ← items]
      simp only [length_cons, true_and]
      omega
    | error =>
      rw [filterMap_cons_none (by rw [prepared]; rfl), ← items, length_cons]
      dsimp only
      exact ⟨rfl, by omega⟩

def rawAmount (raw : RawTransaction) : Option Decimal :=
  (amountData raw).toOption.bind fun data => Decimal.ofText (amountText data)

def rawCurrency (raw : RawTransaction) : String :=
  orDefault ((amountData raw).toOption.bind AmountData.currency) "DKK"

def rawDescription (raw : RawTransaction) : Except ParseError String := do
  let humanName ← humanName (partyName raw.creditorName raw.creditor)
    (partyName raw.debtorName raw.debtor)
  let remittance ← remittance raw
  return describe humanName remittance

def rawTransactionId (raw : RawTransaction) : String :=
  orDefault raw.entryReference (orDefault raw.transactionId "")

/-- A debit has the magnitude of the amount in the text. -/
theorem signed_amount_abs {amount : Decimal} (signed : signedAmount raw decimal = .ok amount) :
    amount.abs = decimal.abs := by
  unfold signedAmount at signed
  split at signed
  · split at signed
    · next negated negates =>
      cases signed
      obtain ⟨_, absolute, negates⟩ := bind_eq_ok.mp negates
      rw [absolute]
      exact abs_of_neg_abs absolute negates
    · contradiction
  · cases signed
    rfl

structure ReadAs (fromisoformat : FromIsoformat) (raw : RawTransaction)
    (transaction : BankTransaction) : Prop where
  amount : ∃ decimal, rawAmount raw = some decimal ∧ transaction.amount.abs = decimal.abs
  currency : transaction.currency = rawCurrency raw
  description : rawDescription raw = .ok transaction.description
  transactionId : transaction.transactionId = rawTransactionId raw
  date : bookingDate fromisoformat raw = .ok transaction.date

theorem parse_transaction_reads (parsed : parseTransaction fromisoformat raw = .ok transaction) :
    ReadAs fromisoformat raw transaction := by
  unfold parseTransaction at parsed
  obtain ⟨data, isData, parsed⟩ := bind_eq_ok.mp parsed
  obtain ⟨decimal, isDecimal, parsed⟩ := bind_eq_ok.mp parsed
  obtain ⟨_, signed, parsed⟩ := bind_eq_ok.mp parsed
  obtain ⟨_, isName, parsed⟩ := bind_eq_ok.mp parsed
  obtain ⟨_, isText, parsed⟩ := bind_eq_ok.mp parsed
  obtain ⟨_, isDate, parsed⟩ := bind_eq_ok.mp parsed
  cases parsed
  have hasData : (amountData raw).toOption = some data := by
    rw [isData]
    rfl
  constructor
  · refine ⟨decimal, ?_, signed_amount_abs signed⟩
    unfold rawAmount
    rw [hasData, Option.bind_some]
    unfold readAmount at isDecimal
    split at isDecimal
    · next isText =>
      cases isDecimal
      exact isText
    · cases isDecimal
  · unfold rawCurrency
    rw [hasData]
    rfl
  · unfold rawDescription
    rw [isName, isText]
    rfl
  · rfl
  · exact isDate

theorem human_name_error {creditor debtor : Option String}
    (raised : humanName creditor debtor = .error error) : error = .attributeError := by
  have nameError : ∀ {name : Option String} {error : ParseError},
      stripName name = .error error → error = .attributeError := by
    intro name error failed
    cases name with
    | none => exact (Except.error.inj failed).symm
    | some => contradiction
  unfold humanName at raised
  cases stripped : stripName creditor with
  | error =>
    rw [stripped, error_bind] at raised
    rw [← Except.error.inj raised]
    exact nameError stripped
  | ok =>
    rw [stripped, ok_bind] at raised
    split at raised
    · contradiction
    · exact nameError raised

theorem remittance_error (raised : remittance raw = .error error) : error = .typeError := by
  unfold remittance joinTexts at raised
  split at raised
  · exact (Except.error.inj raised).symm
  · contradiction

theorem signed_amount_error (raised : signedAmount raw decimal = .error error) :
    error.isValueError = false := by
  unfold signedAmount at raised
  split at raised
  · split at raised
    · cases raised
    · cases raised
      rfl
  · cases raised

theorem readable_not_skipped {date : Date} (isAmount : rawAmount raw = some decimal)
    (isDate : bookingDate fromisoformat raw = .ok date)
    (raised : parseTransaction fromisoformat raw = .error error) : error.isValueError = false := by
  unfold parseTransaction at raised
  unfold rawAmount at isAmount
  cases isData : amountData raw with
  | error =>
    rw [isData] at isAmount
    cases isAmount
  | ok data =>
    rw [isData] at isAmount
    simp only [Except.toOption, Option.bind_some] at isAmount
    have reads : readAmount (amountText data) = .ok decimal := by
      rw [readAmount, isAmount]
    rw [isData, ok_bind, reads, ok_bind] at raised
    cases signed : signedAmount raw decimal with
    | error =>
      rw [signed, error_bind] at raised
      rw [← Except.error.inj raised]
      exact signed_amount_error signed
    | ok =>
      rw [signed, ok_bind] at raised
      dsimp only at raised
      cases isName : humanName (partyName raw.creditorName raw.creditor)
          (partyName raw.debtorName raw.debtor) with
      | error =>
        rw [isName, error_bind] at raised
        rw [← Except.error.inj raised, human_name_error isName]
        rfl
      | ok =>
        rw [isName, ok_bind] at raised
        cases isText : remittance raw with
        | error =>
          rw [isText, error_bind] at raised
          rw [← Except.error.inj raised, remittance_error isText]
          rfl
        | ok =>
          rw [isText, ok_bind, isDate, ok_bind] at raised
          cases raised

theorem or_default_nonempty {text : Option String} {default : String} (nonempty : default ≠ "") :
    orDefault text default ≠ "" := by
  unfold orDefault
  split
  · split
    · exact nonempty
    · assumption
  · exact nonempty

end FinanceTracker.Banking.EnableBanking
