import FinanceTracker.Banking.EnableBanking
import FinanceTracker.Saga.BankSync
import FinanceTracker.Transaction.SagaCommands
import FinanceTracker.Transaction.StoredImport

/-!
# What banking hands over and what transactions accepts

The items of a fetch reply, taken through the saga context into the command of
the import. The parser accepts more than the request model and the columns do, and
the handler builds the models of the whole list before it imports any, so that one
item beyond their bounds stops all.
-/

namespace FinanceTracker.System.FetchedItems

open Library Calendar DateText DecimalText Runs Texts Shared.SagaMessages Banking.SagaCommands
  Banking.EnableBanking Saga.BankSync Transaction.Domain Transaction.BulkImport
  Transaction.SagaCommands Transaction.StoredImport List

/-- The conversions of the consumer: `Decimal` with the finite numbers that the
model admits, `strip`, and the model's reader of dates. -/
def itemReads (validateDate : String → Option Date) : ItemReads where
  decimal := fun text => (Decimal.ofText text).bind Decimal.finiteValue
  date := validateDate
  strip := strip

def importCommand (start : BankSyncStart) (outcome : FetchOutcome) : Option BulkImportCommand :=
  let context := onReply 0 (startContext start) (fetchReply outcome).resultData
  (buildCommand 1 context).toOption.bind fun fields => (readImportCommand fields).toOption

def fetchedCommand (start : BankSyncStart) (items : List FetchedItem) : BulkImportCommand where
  userId := start.userId
  accountId := start.accountId
  accountName := start.accountName
  items := items

theorem import_command_items (start : BankSyncStart) (items : List FetchedItem)
    (totalFetched parseSkipped errors : Int) :
    importCommand start (.fetched items totalFetched parseSkipped errors) =
      some (fetchedCommand start items) := rfl

def transactionTypeOf (amount : Decimal) : TransactionType :=
  if amount.geZero = .ok true then .income else .expense

def externalIdOf (transaction : BankTransaction) : Option String :=
  if strip transaction.transactionId = "" then none else some (strip transaction.transactionId)

/-- The model of a transaction whose amount is this number. -/
def modelOf (start : BankSyncStart) (transaction : BankTransaction) (value : ℚ) :
    BulkCreateTransactionItemDTO where
  accountId := start.accountId
  accountName := start.accountName
  amount := (value * 100).num
  transactionType := transactionTypeOf transaction.amount
  description := some transaction.description
  date := transaction.date
  externalId := externalIdOf transaction
  currency := transaction.currency

def importedItem (start : BankSyncStart) (transaction : BankTransaction) :
    Option BulkCreateTransactionItemDTO :=
  (transaction.amount.abs.toOption.bind Decimal.finiteValue).map (modelOf start transaction)

/-- Between 0.01 and 9999999999.99, with at most two decimals. -/
def Payable (magnitude : Decimal) : Prop :=
  ∃ cents : ℤ, magnitude.finiteValue = some (cents / 100 : ℚ) ∧ 1 ≤ cents ∧ cents ≤ 999999999999

theorem amount_in_cents_ok {value : ℚ} {cents : ℤ} : amountInCents value = .ok cents ↔
      value = cents / 100 ∧ 1 ≤ cents ∧ cents ≤ 999999999999 := by
  unfold amountInCents
  dsimp only
  constructor
  · intro returned
    split at returned
    · next inRange =>
      cases returned
      refine ⟨?_, inRange.2⟩
      rw [(Rat.den_eq_one_iff _).mp inRange.1]
      ring
    · contradiction
  · rintro ⟨rfl, inRange⟩
    have whole : (cents / 100 : ℚ) * 100 = cents := by ring
    rw [whole, Rat.num_intCast, if_pos ⟨Rat.den_intCast cents, inRange⟩]

theorem parse_transaction_type_of (amount : Decimal) :
    parseTransactionType (if amount.geZero = .ok true then "income" else "expense") =
      .ok (transactionTypeOf amount) := by
  unfold transactionTypeOf
  split
  · rfl
  · rfl

theorem parse_external_id_of (validateDate : String → Option Date)
    (transaction : BankTransaction) :
    parseExternalId (itemReads validateDate) (externalIdOf transaction) =
      externalIdOf transaction := by
  unfold parseExternalId externalIdOf itemReads
  dsimp only
  by_cases blank : strip transaction.transactionId = ""
  · simp [blank, strip_empty]
  · simp [blank, strip_idempotent]

theorem parse_currency_of {currency : String} (nonempty : currency ≠ "") :
    parseCurrency (some (orDefault (some currency) "DKK")) = currency := by
  simp [parseCurrency, orDefault, nonempty]

theorem require_bind {Value Other : Type} (key : String) (value : Value)
    (next : Value → Except TransactionError Other) :
    (require key (some value) >>= next) = next value := rfl

variable {validateDate : String → Option Date} {transaction : BankTransaction} {magnitude : Decimal}

/-- After the conversions of an item only the bounds of the model decide. -/
theorem parse_item_steps (validates : ∀ date, validateDate (isoformat date) = some date)
    (start : BankSyncStart) (absolute : transaction.amount.abs = .ok magnitude)
    (number : magnitude ≠ .nan false) (currency : transaction.currency ≠ "") :
    parseItem (itemReads validateDate) start.accountId start.accountName
        (itemOf transaction magnitude) =
      (do
        let value ← require "decimal amount" magnitude.finiteValue
        let amount ← amountInCents value
        checkLengths { modelOf start transaction value with amount := amount }) := by
  have read : (itemReads validateDate).decimal magnitude.text = magnitude.finiteValue := by
    unfold itemReads
    dsimp only
    rw [of_text_abs absolute number, Option.bind_some]
  have date : (itemReads validateDate).date (isoformat transaction.date) = some transaction.date :=
    validates transaction.date
  have externalId : parseExternalId (itemReads validateDate)
      (if strip transaction.transactionId = "" then none
        else some (strip transaction.transactionId)) = externalIdOf transaction :=
    parse_external_id_of validateDate transaction
  unfold parseItem itemOf
  dsimp only
  rw [require_bind, read]
  apply bind_congr
  intro _
  apply bind_congr
  intro _
  rw [require_bind, parse_transaction_type_of, ok_bind, require_bind, date, require_bind,
    parse_currency_of currency, externalId]
  rfl

/-- A transaction with this magnitude, description, id and currency is within the
bounds of the request model. -/
structure Storable (magnitude : Decimal) (description transactionId currency : String) : Prop where
  amount : Payable magnitude
  description : description.length ≤ 500
  transactionId : (strip transactionId).length ≤ 128
  currency : currency.length = 3

structure AccountFits (start : BankSyncStart) : Prop where
  positive : 0 < start.accountId
  short : start.accountName.length ≤ 100

/-- The fields of the transaction itself are within the bounds. -/
def FieldsFit (transaction : BankTransaction) (magnitude : Decimal) : Prop :=
  Storable magnitude transaction.description transaction.transactionId transaction.currency

def HasMagnitude (transaction : BankTransaction) (magnitude : Decimal) : Prop :=
  transaction.amount.abs = .ok magnitude ∧ magnitude ≠ .nan false

theorem check_lengths_ok {model result : BulkCreateTransactionItemDTO} :
    checkLengths model = .ok result ↔ (0 < model.accountId ∧ model.accountName.length ≤ 100 ∧
        model.description.all (fun text => text.length ≤ 500) ∧
        model.externalId.all (fun text => text.length ≤ 128) ∧ model.currency.length = 3) ∧
      model = result := by
  unfold checkLengths
  split
  · next fits => simp [fits]
  · next misfits => simp [misfits, invalid]

theorem external_id_short_iff (transaction : BankTransaction) :
    (externalIdOf transaction).all (fun text => text.length ≤ 128) = true ↔
      (strip transaction.transactionId).length ≤ 128 := by
  unfold externalIdOf
  split
  · next blank => simp [blank]
  · simp

/-- The model takes an item exactly when the transaction is within its bounds. -/
theorem parse_item_iff (validates : ∀ date, validateDate (isoformat date) = some date)
    (start : BankSyncStart) (has : HasMagnitude transaction magnitude)
    (currency : transaction.currency ≠ "") (model : BulkCreateTransactionItemDTO) :
    parseItem (itemReads validateDate) start.accountId start.accountName
        (itemOf transaction magnitude) = .ok model ↔
      FieldsFit transaction magnitude ∧ AccountFits start ∧
        importedItem start transaction = some model := by
  have imported : importedItem start transaction =
      magnitude.finiteValue.map (modelOf start transaction) := by
    unfold importedItem
    rw [has.1]
    rfl
  rw [parse_item_steps validates start has.1 has.2 currency, imported]
  constructor
  · intro returned
    obtain ⟨value, isValue, returned⟩ := bind_eq_ok.mp returned
    obtain ⟨cents, isCents, returned⟩ := bind_eq_ok.mp returned
    obtain ⟨⟨positive, short, description, externalId, three⟩, isModel⟩ :=
      check_lengths_ok.mp returned
    obtain ⟨whole, inRange⟩ := amount_in_cents_ok.mp isCents
    have finite : magnitude.finiteValue = some value := by
      cases isFinite : magnitude.finiteValue with
      | none =>
        rw [isFinite] at isValue
        cases isValue
      | some =>
        rw [isFinite] at isValue
        rw [Except.ok.inj isValue]
    refine ⟨⟨⟨cents, by rw [finite, whole], inRange⟩, ?_, ?_, three⟩, ⟨positive, short⟩, ?_⟩
    · simpa [modelOf] using description
    · simpa only [modelOf, external_id_short_iff] using externalId
    · rw [finite, ← isModel, Option.map_some]
      unfold modelOf
      have whole' : (value * 100).num = cents := by
        rw [whole, div_mul_cancel₀ _ (by norm_num), Rat.num_intCast]
      rw [whole']
  · rintro ⟨⟨⟨cents, finite, inRange⟩, description, transactionId, three⟩, account, isModel⟩
    rw [finite, Option.map_some] at isModel
    rw [finite, require_bind, amount_in_cents_ok.mpr ⟨rfl, inRange⟩, ok_bind, check_lengths_ok]
    have whole : ((cents / 100 : ℚ) * 100).num = cents := by
      rw [div_mul_cancel₀ _ (by norm_num), Rat.num_intCast]
    refine ⟨⟨account.positive, account.short, ?_, ?_, three⟩, ?_⟩
    · simpa [modelOf] using description
    · simpa only [modelOf, external_id_short_iff] using transactionId
    · rw [← Option.some.inj isModel]
      unfold modelOf
      rw [whole]

def handedItems (transactions : List BankTransaction) : List FetchedItem :=
  transactions.filterMap fun transaction => (prepareItem transaction).toOption

theorem prepared_of_magnitude (has : HasMagnitude transaction magnitude) :
    prepareItem transaction = .ok (itemOf transaction magnitude) :=
  prepare_item_iff.mpr ⟨magnitude, has.1, has.2, rfl⟩

theorem not_imported_of_error {signal : Signal} (start : BankSyncStart)
    (raised : prepareItem transaction = .error signal) :
    (∀ magnitude, ¬ HasMagnitude transaction magnitude) ∧ importedItem start transaction = none := by
  have none : ∀ magnitude, ¬ HasMagnitude transaction magnitude := by
    intro _ has
    rw [prepared_of_magnitude has] at raised
    cases raised
  refine ⟨none, ?_⟩
  unfold importedItem
  cases absolute : transaction.amount.abs with
  | error => rfl
  | ok magnitude =>
    have isNan : magnitude = .nan false := by
      by_contra number
      exact none magnitude ⟨absolute, number⟩
    rw [isNan]
    rfl

/-- The models of the whole list are built exactly when every transaction that is
handed over is within the bounds. -/
theorem parse_handed_iff (validates : ∀ date, validateDate (isoformat date) = some date)
    (start : BankSyncStart) {transactions : List BankTransaction}
    (currencies : ∀ transaction ∈ transactions, transaction.currency ≠ "")
    (models : List BulkCreateTransactionItemDTO) :
    (handedItems transactions).mapM
        (parseItem (itemReads validateDate) start.accountId start.accountName) = .ok models ↔
      (∀ transaction ∈ transactions, ∀ magnitude, HasMagnitude transaction magnitude →
        FieldsFit transaction magnitude ∧ AccountFits start) ∧
      models = transactions.filterMap (importedItem start) := by
  induction transactions generalizing models with
  | nil =>
    change Except.ok [] = Except.ok models ↔ _
    simp [eq_comm]
  | cons transaction rest ih =>
    have later := ih fun other member => currencies other (mem_cons_of_mem _ member)
    unfold handedItems at later ⊢
    rw [forall_mem_cons]
    cases prepared : prepareItem transaction with
    | error =>
      obtain ⟨none, isNone⟩ := not_imported_of_error start prepared
      rw [filterMap_cons_none (by rw [prepared]; rfl), filterMap_cons_none isNone,
        later]
      simp [none]
    | ok =>
      obtain ⟨magnitude, absolute, number, rfl⟩ := prepare_item_iff.mp prepared
      have has : HasMagnitude transaction magnitude := ⟨absolute, number⟩
      have only : ∀ other, HasMagnitude transaction other → other = magnitude :=
        fun other hasOther => Except.ok.inj (hasOther.1.symm.trans absolute)
      have parses := parse_item_iff validates start has
        (currencies transaction mem_cons_self)
      rw [filterMap_cons_some (by rw [prepared]; rfl), mapM_cons, bind_eq_ok]
      constructor
      · rintro ⟨model, isModel, returned⟩
        obtain ⟨others, isOthers, returned⟩ := bind_eq_ok.mp returned
        cases returned
        obtain ⟨fields, account, imported⟩ := (parses model).mp isModel
        obtain ⟨fit, isRest⟩ := (later others).mp isOthers
        refine ⟨⟨?_, fit⟩, ?_⟩
        · intro other hasOther
          rw [only other hasOther]
          exact ⟨fields, account⟩
        · rw [filterMap_cons_some imported, isRest]
      · rintro ⟨⟨fits, fit⟩, rfl⟩
        obtain ⟨fields, account⟩ := fits magnitude has
        obtain ⟨cents, finite, _⟩ := fields.amount
        have imported : importedItem start transaction =
            some (modelOf start transaction (cents / 100)) := by
          unfold importedItem
          rw [absolute]
          change magnitude.finiteValue.map _ = _
          rw [finite, Option.map_some]
        refine ⟨_, (parses _).mpr ⟨fields, account, imported⟩, ?_⟩
        rw [(later _).mpr ⟨fit, rfl⟩, ok_bind, filterMap_cons_some imported]
        rfl

section Pipeline

variable {fromisoformat : FromIsoformat}

/-- The parser reads the raw transaction, and the handler hands it over with this
magnitude and description: its amount is no NaN and within the exponents of the
context, and it has a date. -/
structure HandedOver (fromisoformat : FromIsoformat) (raw : RawTransaction)
    (magnitude : Decimal) (description : String) : Prop where
  amount : ∃ decimal, rawAmount raw = some decimal ∧ decimal.abs = .ok magnitude
  number : magnitude ≠ .nan false
  description : rawDescription raw = .ok description
  date : ∃ date, bookingDate fromisoformat raw = .ok date

theorem read_of_read_transaction {raw : RawTransaction} {transaction : BankTransaction}
    (read : readTransaction fromisoformat raw = some transaction) :
    ReadAs fromisoformat raw transaction := by
  unfold readTransaction at read
  cases parsed : parseTransaction fromisoformat raw with
  | ok =>
    rw [parsed] at read
    cases read
    exact parse_transaction_reads parsed
  | error =>
    rw [parsed] at read
    cases read

theorem handed_over_iff {raw : RawTransaction}
    (skips : ∀ error, parseTransaction fromisoformat raw = .error error →
      error.isValueError = true) {magnitude : Decimal} {description : String} :
    HandedOver fromisoformat raw magnitude description ↔
      ∃ transaction, readTransaction fromisoformat raw = some transaction ∧
        HasMagnitude transaction magnitude ∧ transaction.description = description := by
  constructor
  · rintro ⟨⟨decimal, isAmount, absolute⟩, number, isDescription, date, isDate⟩
    cases parsed : parseTransaction fromisoformat raw with
    | ok transaction =>
      have readAs := parse_transaction_reads parsed
      refine ⟨transaction, by rw [readTransaction, parsed]; rfl, ⟨?_, number⟩, ?_⟩
      · obtain ⟨_, isOther, sameAbs⟩ := readAs.amount
        rw [isAmount] at isOther
        rw [sameAbs, ← Option.some.inj isOther, absolute]
      · have same := readAs.description
        rw [isDescription] at same
        exact (Except.ok.inj same).symm
    | error error =>
      have skipped := skips error parsed
      rw [readable_not_skipped isAmount isDate parsed] at skipped
      cases skipped
  · rintro ⟨transaction, read, has, rfl⟩
    have readAs := read_of_read_transaction read
    obtain ⟨decimal, isAmount, sameAbs⟩ := readAs.amount
    exact ⟨⟨decimal, isAmount, sameAbs.symm.trans has.1⟩, has.2, readAs.description,
      transaction.date, readAs.date⟩

/-- When the list is accepted: what is handed over is within the bounds of the
request model, the account is, and no chunk of it is refused by the table. -/
structure Importable (fromisoformat : FromIsoformat) (copies : ReadCopies) (db : TransactionDb)
    (start : BankSyncStart) (raws : List RawTransaction) : Prop where
  storable : ∀ raw ∈ raws, ∀ magnitude description,
    HandedOver fromisoformat raw magnitude description →
      Storable magnitude description (rawTransactionId raw) (rawCurrency raw)
  account : ∀ raw ∈ raws, ∀ magnitude description,
    HandedOver fromisoformat raw magnitude description → AccountFits start
  table : ChunksFit copies start.userId db
    (chunks ((raws.filterMap (readTransaction fromisoformat)).filterMap (importedItem start)))

/-- The reply of the fetch, sent through the saga, is imported: the handler returns,
every raw transaction is counted once, and what was handed over is in the table. -/
def EverythingAccepted (validateDate : String → Option Date) (fromisoformat : FromIsoformat)
    (copies : ReadCopies) (db : TransactionDb) (start : BankSyncStart) (maxTxPages : ℕ)
    (pages : List Page) : Prop :=
  ∃ (items : List FetchedItem) (totalFetched parseSkipped errors : ℕ) (command : BulkImportCommand)
    (next : TransactionDb) (result : BulkCreateResultDTO),
    fetchTransactions fromisoformat maxTxPages pages =
        .ok (.fetched items totalFetched parseSkipped errors) ∧
      importCommand start (.fetched items totalFetched parseSkipped errors) = some command ∧
      handleStoredImport (itemReads validateDate) copies db command = (next, .ok result) ∧
      accounted result + errors + parseSkipped = (rawTransactions maxTxPages 0 pages).length ∧
      ∀ models, parseItems (itemReads validateDate) command = .ok models →
        ∀ model ∈ models, held next start.userId model = true

theorem importable_models_iff {validateDate : String → Option Date}
    (validates : ∀ date, validateDate (isoformat date) = some date) (copies : ReadCopies)
    (db : TransactionDb) (start : BankSyncStart) {raws : List RawTransaction}
    (skips : ∀ raw ∈ raws, ∀ error, parseTransaction fromisoformat raw = .error error →
      error.isValueError = true) :
    Importable fromisoformat copies db start raws ↔
      ∃ models, (handedItems (raws.filterMap (readTransaction fromisoformat))).mapM
          (parseItem (itemReads validateDate) start.accountId start.accountName) = .ok models ∧
        ChunksFit copies start.userId db (chunks models) := by
  have currencies : ∀ transaction ∈ raws.filterMap (readTransaction fromisoformat),
      transaction.currency ≠ "" := by
    intro _ member
    obtain ⟨_, _, read⟩ := mem_filterMap.mp member
    rw [(read_of_read_transaction read).currency]
    exact or_default_nonempty (by decide)
  have parses := parse_handed_iff validates start currencies
  constructor
  · intro importable
    refine ⟨_, (parses _).mpr ⟨?_, rfl⟩, importable.table⟩
    intro transaction member _ has
    obtain ⟨raw, inRaws, read⟩ := mem_filterMap.mp member
    have readAs := read_of_read_transaction read
    have handed := (handed_over_iff (skips raw inRaws)).mpr ⟨transaction, read, has, rfl⟩
    refine ⟨?_, importable.account raw inRaws _ _ handed⟩
    unfold FieldsFit
    rw [readAs.transactionId, readAs.currency]
    exact importable.storable raw inRaws _ _ handed
  · rintro ⟨models, isModels, table⟩
    obtain ⟨fits, rfl⟩ := (parses models).mp isModels
    have each : ∀ raw ∈ raws, ∀ magnitude description,
        HandedOver fromisoformat raw magnitude description →
          Storable magnitude description (rawTransactionId raw) (rawCurrency raw) ∧
            AccountFits start := by
      intro raw inRaws magnitude _ handed
      obtain ⟨transaction, read, has, rfl⟩ := (handed_over_iff (skips raw inRaws)).mp handed
      have readAs := read_of_read_transaction read
      rw [← readAs.transactionId, ← readAs.currency]
      exact fits transaction (mem_filterMap.mpr ⟨raw, inRaws, read⟩) magnitude has
    exact ⟨fun raw inRaws _ _ handed => (each raw inRaws _ _ handed).1,
      fun raw inRaws _ _ handed => (each raw inRaws _ _ handed).2, table⟩

/-- Everything banking hands over is imported exactly when the list is `Importable`. -/
theorem fetched_items_accepted_iff {validateDate : String → Option Date}
    (validates : ∀ date, validateDate (isoformat date) = some date) (copies : ReadCopies)
    (db : TransactionDb) (start : BankSyncStart) {maxTxPages : ℕ} {pages : List Page}
    {transactions : List BankTransaction} {parseSkipped : ℕ}
    (parsed : getTransactions fromisoformat maxTxPages 0 pages = .ok (transactions, parseSkipped)) :
    EverythingAccepted validateDate fromisoformat copies db start maxTxPages pages ↔
      Importable fromisoformat copies db start (rawTransactions maxTxPages 0 pages) := by
  obtain ⟨reads, counted, skips⟩ := get_transactions_read parsed
  obtain ⟨items, prepared⟩ := prepare_items_counts transactions
  have fetched : fetchTransactions fromisoformat maxTxPages pages =
      .ok (.fetched (handedItems transactions) transactions.length parseSkipped
        (prepareItems transactions).2) := by
    unfold fetchTransactions
    rw [parsed, ok_bind]
    change Except.ok (FetchOutcome.fetched (prepareItems transactions).1 _ _ _) = _
    rw [items]
    rfl
  have models := @importable_models_iff fromisoformat _ validates copies db start _ skips
  rw [← reads] at models
  rw [models]
  constructor
  · rintro ⟨others, _, _, _, command, next, result, isFetched, isCommand, returned, _⟩
    have sameItems : handedItems transactions = others := by
      rw [fetched] at isFetched
      exact (FetchOutcome.fetched.inj (Except.ok.inj isFetched)).1
    rw [import_command_items, ← sameItems] at isCommand
    rw [← Option.some.inj isCommand] at returned
    obtain ⟨built, isBuilt, fit⟩ := @fit_of_handle_stored _ _ _ _ result (by rw [returned])
    exact ⟨built, isBuilt, fit⟩
  · rintro ⟨built, isBuilt, fit⟩
    obtain ⟨next, result, returned, count, holds⟩ :=
      @handle_stored_fit (itemReads validateDate) (fetchedCommand start (handedItems transactions))
        copies db built isBuilt fit
    refine ⟨_, _, _, _, _, next, result, fetched, import_command_items _ _ _ _ _, returned, ?_, ?_⟩
    · rw [items] at prepared
      change (handedItems transactions).length + _ = _ at prepared
      rw [count, models_length isBuilt, prepared, counted]
    · intro models isModels
      have same : built = models := Except.ok.inj (isBuilt.symm.trans isModels)
      rw [← same]
      exact holds

end Pipeline

def purchase (reference amount : String) : RawTransaction where
  transactionAmount := some (some { amount := some (some amount), currency := some "DKK" })
  creditDebitIndicator := some "DBIT"
  creditorName := some "Netto"
  bookingDate := some "2024-05-01"
  entryReference := some reference

def onePage (raws : List RawTransaction) : List Page := [{ transactions := raws }]

def syncStart : BankSyncStart where
  connectionId := "connection"
  userId := 1
  accountId := 1
  accountName := "Budget"
  bankAccountUid := "uid"

def noCopies : ReadCopies where
  categoryName := fun _ => none
  subcategory := fun _ => none

def noRows : TransactionDb where
  transactions := []
  nextId := 1

def purchaseModel : BulkCreateTransactionItemDTO where
  accountId := 1
  accountName := "Budget"
  amount := 12550
  transactionType := .expense
  description := some "Netto"
  date := { year := 2024, month := 5, day := 1, valid := by decide }
  externalId := some "ref-1"

theorem purchase_importable :
    Importable readCalendarDate noCopies noRows syncStart [purchase "ref-1" "125.50"] := by
  have isAmount : rawAmount (purchase "ref-1" "125.50") = some (.finite false 12550 (-2)) := by
    decide +kernel
  have absolute : (Decimal.finite false 12550 (-2)).abs = .ok (.finite false 12550 (-2)) := by
    decide +kernel
  have isDescription : rawDescription (purchase "ref-1" "125.50") = .ok "Netto" := by
    decide +kernel
  have models : ([purchase "ref-1" "125.50"].filterMap
      (readTransaction readCalendarDate)).filterMap (importedItem syncStart) = [purchaseModel] := by
    decide +kernel
  constructor
  · intro _ member _ description handed
    rw [mem_singleton.mp member] at handed ⊢
    obtain ⟨_, isDecimal, isMagnitude⟩ := handed.amount
    have isText := handed.description
    rw [isAmount] at isDecimal
    rw [← Option.some.inj isDecimal, absolute] at isMagnitude
    rw [isDescription] at isText
    rw [← Except.ok.inj isMagnitude, ← Except.ok.inj isText]
    exact ⟨⟨12550, by decide +kernel, by decide, by decide⟩, by decide +kernel,
      by decide +kernel, by decide +kernel⟩
  · intro _ _ _ _ _
    exact ⟨by decide, by decide⟩
  · rw [models]
    exact ⟨⟨by decide +kernel, by decide +kernel, by decide +kernel⟩, trivial⟩

/-- A purchase alone is imported. -/
theorem purchase_accepted :
    EverythingAccepted readCalendarDate readCalendarDate noCopies noRows syncStart 20
      (onePage [purchase "ref-1" "125.50"]) :=
  (fetched_items_accepted_iff read_isoformat noCopies noRows syncStart
    (show getTransactions readCalendarDate 20 0 (onePage [purchase "ref-1" "125.50"]) =
      .ok ([purchase "ref-1" "125.50"].filterMap (readTransaction readCalendarDate), 0) by
        decide +kernel)).mpr purchase_importable

def handedPurchase (reference amount transactionType : String) : FetchedItem where
  amount := some amount
  transactionType := some transactionType
  date := some "2024-05-01"
  description := some (some "Netto")
  externalId := some reference
  currency := some "DKK"

/-- With a transaction of amount zero in the list the handler raises, and the
purchase is not imported either. -/
theorem zero_amount_stops_list : (getTransactions readCalendarDate 20 0
        (onePage [purchase "ref-1" "125.50", purchase "ref-2" "0.00"])).isOk = true ∧
      ¬ EverythingAccepted readCalendarDate readCalendarDate noCopies noRows syncStart 20
        (onePage [purchase "ref-1" "125.50", purchase "ref-2" "0.00"]) := by
  refine ⟨by decide +kernel, ?_⟩
  rintro ⟨items, _, _, _, command, next, result, isFetched, isCommand, returned, _⟩
  have fetched : fetchTransactions readCalendarDate 20
      (onePage [purchase "ref-1" "125.50", purchase "ref-2" "0.00"]) =
        .ok (.fetched [handedPurchase "ref-1" "125.50" "expense",
          handedPurchase "ref-2" "0.00" "income"] 2 0 0) := by decide +kernel
  have raised : (handleStoredImport (itemReads readCalendarDate) noCopies noRows
      (fetchedCommand syncStart [handedPurchase "ref-1" "125.50" "expense",
        handedPurchase "ref-2" "0.00" "income"])).2 = .error (.invalidInput "amount") := by
    decide +kernel
  rw [fetched] at isFetched
  rw [import_command_items, ← (FetchOutcome.fetched.inj (Except.ok.inj isFetched)).1] at isCommand
  rw [← Option.some.inj isCommand] at returned
  rw [returned] at raised
  cases raised

end FinanceTracker.System.FetchedItems
