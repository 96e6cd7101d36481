import FinanceTracker.Transaction.BulkImport
import FinanceTracker.Transaction.Categorization

/-!
# Creating transactions with the synchronous categorizer

`create_transaction`, and `bulk_import` as the API calls it, with a
categorization client. The client answers each question or fails to; no client
and a failed call both give no answer. The outbox rows are left out.
-/

namespace FinanceTracker.Transaction.Creation

open Library Calendar Runs Domain BulkImport Transaction.Categorization

/-- What the categorizer answers. -/
structure CategorizationResult where
  categoryId : Int
  subcategoryId : Int
  tier : String
  confidence : String
  deriving DecidableEq

/-- The four values that the caller sends and an answer may replace. -/
structure SentChoice where
  categoryId : Option Int
  subcategoryId : Option Int
  tier : Option String
  confidence : Option String
  deriving DecidableEq

/-- The rule both creation paths follow: the caller's parent category wins, and tier and
confidence are those of the answer. -/
def takeAnswer (sent : SentChoice) : Option CategorizationResult → SentChoice
  | none => sent
  | some result =>
    let sent :=
      if sent.categoryId = none then
        { sent with
          categoryId := some result.categoryId
          subcategoryId := some result.subcategoryId }
      else if sent.categoryId = some result.categoryId then
        { sent with subcategoryId := some result.subcategoryId }
      else sent
    { sent with tier := some result.tier, confidence := some result.confidence }

variable {categoryId userId : Int} {db next : TransactionDb}

theorem take_answer_keeps {sent : SentChoice} (chosen : sent.categoryId = some categoryId)
    (answer : Option CategorizationResult) :
    (takeAnswer sent answer).categoryId = some categoryId := by
  cases answer with
  | none => exact chosen
  | some =>
    unfold takeAnswer
    dsimp only
    rw [if_neg (by simp [chosen])]
    split
    · exact chosen
    · exact chosen

def tierTaken (sent : Option String) (answer : Option CategorizationResult) : Option String :=
  match answer with
  | none => sent
  | some result => some result.tier

theorem take_answer_tier (sent : SentChoice) (answer : Option CategorizationResult) :
    (takeAnswer sent answer).tier = tierTaken sent.tier answer := by
  cases answer with
  | none | some => rfl

def checkColumns (rows : List Transaction) : Except TransactionError Unit :=
  if rows.all fitsColumns then .ok ()
  else .error (.database "value too long for type character varying")

structure CreateTransactionDTO where
  accountId : Int
  accountName : String
  categoryId : Option Int := none
  categoryName : Option String := none
  amount : Int
  transactionType : TransactionType
  description : Option String := none
  date : Date
  subcategoryId : Option Int := none
  categorizationTier : Option String := none
  categorizationConfidence : Option String := none
  deriving DecidableEq

def alreadyCategorized (tier : Option String) : Bool :=
  tier ≠ none && tier ≠ some "fallback"

/-- The answer that `create_transaction` asks for. -/
def askedAnswer (tier : Option String) (answer : Option CategorizationResult) :
    Option CategorizationResult :=
  if alreadyCategorized tier then none else answer

def createdRow (copies : ReadCopies) (userId : Int) (dto : CreateTransactionDTO)
    (answer : Option CategorizationResult) : NewTransaction :=
  let choice := takeAnswer
    { categoryId := dto.categoryId
      subcategoryId := dto.subcategoryId
      tier := dto.categorizationTier
      confidence := dto.categorizationConfidence }
    (askedAnswer dto.categorizationTier answer)
  { userId := userId
    accountId := dto.accountId
    accountName := dto.accountName
    categoryId := choice.categoryId
    categoryName := resolveCategoryName copies choice.categoryId dto.categoryName
    amount := dto.amount
    transactionType := dto.transactionType
    description := dto.description
    txDate := dto.date
    subcategoryId := choice.subcategoryId
    subcategoryName := (choice.subcategoryId.bind copies.subcategory).map SubCategory.name
    categorizationTier := choice.tier
    categorizationConfidence := choice.confidence
    externalId := none
    currency := "DKK" }

def createTransaction (copies : ReadCopies) (db : TransactionDb) (userId : Int)
    (dto : CreateTransactionDTO) (answer : Option CategorizationResult) :
    Except TransactionError (TransactionDb × Transaction) := do
  let (db, created) ← createRow db (createdRow copies userId dto answer)
  checkColumns [created]
  return (db, created)

/-- `not row.get("categorization_tier") or row.get("categorization_tier") == "fallback"`. -/
def isUncategorized (row : NewTransaction) : Bool :=
  row.categorizationTier = none || row.categorizationTier = some "" ||
    row.categorizationTier = some "fallback"

/-- The uncategorized rows take the answers in order, while there are any. -/
def alignAnswers :
    List NewTransaction → List (Option CategorizationResult) → List (Option CategorizationResult)
  | [], _ => []
  | row :: rows, answers =>
    if isUncategorized row then
      match answers with
      | [] => none :: alignAnswers rows []
      | answer :: answers => answer :: alignAnswers rows answers
    else none :: alignAnswers rows answers

def enrichRow (row : NewTransaction) (answer : Option CategorizationResult) : NewTransaction :=
  let choice := takeAnswer
    { categoryId := row.categoryId
      subcategoryId := row.subcategoryId
      tier := row.categorizationTier
      confidence := row.categorizationConfidence } answer
  { row with
    categoryId := choice.categoryId
    subcategoryId := choice.subcategoryId
    categorizationTier := choice.tier
    categorizationConfidence := choice.confidence }

def rowsToCreate (db : TransactionDb) (userId : Int)
    (items : List BulkCreateTransactionItemDTO) (skipDuplicates : Bool) : List NewTransaction :=
  if skipDuplicates then
    (items.foldl (importItem userId (lookupExisting db userId items)) {}).rowsToCreate
  else items.map (newRow userId)

def bulkImportCategorized (copies : ReadCopies) (db : TransactionDb) (userId : Int)
    (items : List BulkCreateTransactionItemDTO) (skipDuplicates : Bool)
    (answers : List (Option CategorizationResult)) :
    Except TransactionError (TransactionDb × List Transaction) := do
  let rows := rowsToCreate db userId items skipDuplicates
  let enriched := List.zipWith enrichRow rows (alignAnswers rows answers)
  let (db, created) ← bulkCreate db (enriched.map (resolveNames copies))
  checkColumns created
  return (db, created)

theorem check_columns_ok {rows : List Transaction} (checked : checkColumns rows = .ok ()) :
    ∀ row ∈ rows, fitsColumns row = true := by
  unfold checkColumns at checked
  split at checked
  · next fits => exact List.all_eq_true.mp fits
  · cases checked

variable {created stored : Transaction} {index : Nat} {copies : ReadCopies}
  {answer : Option CategorizationResult}

theorem create_row_ok {row : NewTransaction} (returned : createRow db row = .ok (next, created)) :
    created = row.toTransaction db.nextId := by
  unfold createRow at returned
  split at returned
  · cases returned
  · cases returned
    rfl

theorem bulk_create_get {rows : List NewTransaction} {created : List Transaction}
    (returned : bulkCreate db rows = .ok (next, created)) (found : created[index]? = some stored) :
    ∃ row id, rows[index]? = some row ∧ stored = row.toTransaction id := by
  induction rows generalizing db created index with
  | nil =>
    cases returned
    simp at found
  | cons row rows ih =>
    unfold bulkCreate at returned
    obtain ⟨⟨_, _⟩, isFirst, returned⟩ := bind_eq_ok.mp returned
    obtain ⟨⟨_, _⟩, areOthers, returned⟩ := bind_eq_ok.mp returned
    cases returned
    cases index with
    | zero =>
      simp only [List.getElem?_cons_zero, Option.some.injEq] at found
      exact ⟨row, db.nextId, rfl, found.symm.trans (create_row_ok isFirst)⟩
    | succ =>
      simp only [List.getElem?_cons_succ] at found ⊢
      exact ih areOthers found

/-- A live row with the caller's explicit category, and the tier it was created with. -/
structure KeepsCategory (categoryId : Int) (tier : Option String) (row : Transaction) : Prop where
  category : row.categoryId = some categoryId
  tier : row.categorizationTier = tier
  live : row.deleted = false
  fits : fitsColumns row = true

theorem create_transaction_keeps {dto : CreateTransactionDTO}
    (chosen : dto.categoryId = some categoryId)
    (returned : createTransaction copies db userId dto answer = .ok (next, created)) :
    KeepsCategory categoryId
      (tierTaken dto.categorizationTier (askedAnswer dto.categorizationTier answer)) created := by
  unfold createTransaction at returned
  obtain ⟨⟨_, _⟩, isCreated, returned⟩ := bind_eq_ok.mp returned
  obtain ⟨_, checked, returned⟩ := bind_eq_ok.mp returned
  cases returned
  have fits := check_columns_ok checked _ (List.mem_singleton.mpr rfl)
  have same := create_row_ok isCreated
  subst same
  exact ⟨take_answer_keeps chosen _, take_answer_tier _ _, rfl, fits⟩

theorem bulk_import_keeps {items : List BulkCreateTransactionItemDTO} {skipDuplicates : Bool}
    {answers : List (Option CategorizationResult)} {created : List Transaction}
    {item : BulkCreateTransactionItemDTO} (chosen : item.categoryId = some categoryId)
    (returned : bulkImportCategorized copies db userId items skipDuplicates answers =
      .ok (next, created))
    (requested : (rowsToCreate db userId items skipDuplicates)[index]? = some (newRow userId item))
    (answered : (alignAnswers (rowsToCreate db userId items skipDuplicates) answers)[index]? =
      some answer) (found : created[index]? = some stored) :
    KeepsCategory categoryId (tierTaken item.categorizationTier answer) stored := by
  unfold bulkImportCategorized at returned
  obtain ⟨⟨_, _⟩, areCreated, returned⟩ := bind_eq_ok.mp returned
  obtain ⟨_, checked, returned⟩ := bind_eq_ok.mp returned
  cases returned
  have fits := check_columns_ok checked stored (List.mem_of_getElem? found)
  obtain ⟨_, _, isRow, same⟩ := bulk_create_get areCreated found
  rw [List.getElem?_map, List.getElem?_zipWith, requested, answered] at isRow
  cases isRow
  subst same
  exact ⟨take_answer_keeps chosen answer, take_answer_tier _ answer, rfl, fits⟩

end FinanceTracker.Transaction.Creation
