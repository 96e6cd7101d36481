import FinanceTracker.Transaction.TaxonomyRuns

/-!
# A subcategory and its parent

Of the four writers only `update_transaction` checks that the subcategory belongs to
the category. The others take the pair they are given: the caller's, the
categorizer's, or the subcategory of an event beside the category of the row.
-/

namespace FinanceTracker.Transaction.SubcategoryParents

open Library.Runs Domain List
open BulkImport (TransactionDb NewTransaction resolveNames)
open BulkService (completedRows align_answers_length)
open Transaction.Categorization Chunking Creation TaxonomyRuns

/-- A subcategory of the read copy stands beside its parent. -/
def PairFits (copies : ReadCopies) (categoryId subcategoryId : Option Int) : Prop :=
  ∀ id subcategory, subcategoryId = some id → copies.subcategory id = some subcategory →
    categoryId = some subcategory.categoryId

def Parented (copies : ReadCopies) (row : Transaction) : Prop :=
  PairFits copies row.categoryId row.subcategoryId

/-- An event names the parent of the subcategory it names. -/
def ConsistentIds (copies : ReadCopies) (payload : CategorizedPayload) : Prop :=
  ∀ categoryId, payload.categoryId = some categoryId →
    PairFits copies (some categoryId) payload.subcategoryId

/-- The pair the row takes fits: the caller's own, unless the categorizer answers with
the caller's category or the caller has none. -/
def ChoiceFits (copies : ReadCopies) (categoryId subcategoryId : Option Int) :
    Option CategorizationResult → Prop
  | none => PairFits copies categoryId subcategoryId
  | some result =>
    if categoryId = none ∨ categoryId = some result.categoryId then
      PairFits copies (some result.categoryId) (some result.subcategoryId)
    else PairFits copies categoryId subcategoryId

variable (copies : ReadCopies) (db : TransactionDb) (userId : Int)

theorem take_answer_fits_iff (sent : SentChoice) (answer : Option CategorizationResult) :
    PairFits copies (takeAnswer sent answer).categoryId (takeAnswer sent answer).subcategoryId ↔
      ChoiceFits copies sent.categoryId sent.subcategoryId answer := by
  cases answer with
  | none => rfl
  | some result =>
    simp only [takeAnswer, ChoiceFits]
    by_cases absent : sent.categoryId = none
    · rw [if_pos absent, if_pos (Or.inl absent)]
    · by_cases agrees : sent.categoryId = some result.categoryId
      · rw [if_neg absent, if_pos agrees, if_pos (Or.inr agrees)]
        rw [agrees]
      · rw [if_neg absent, if_neg agrees, if_neg (not_or.mpr ⟨absent, agrees⟩)]

def answeredRows (db : TransactionDb) (userId : Int) (dto : BulkService.BulkCreateTransactionDTO)
    (answers : List (Option CategorizationResult)) :
    List (NewTransaction × Option CategorizationResult) :=
  let rows := rowsToCreate db userId dto.items dto.skipDuplicates
  rows.zip (alignAnswers rows answers)

theorem imported_rows_answered (dto : BulkService.BulkCreateTransactionDTO)
    (answers : List (Option CategorizationResult)) :
    importedRows copies db userId dto answers =
      (answeredRows db userId dto answers).map fun pair =>
        resolveNames copies (enrichRow pair.1 pair.2) := by
  unfold importedRows completedRows answeredRows
  rw [zip_eq_zipWith, map_zipWith, map_zipWith]

/-- A property of new rows that does not look at their id. -/
theorem forall_numbered_iff {property : Transaction → Prop} {rows : List NewTransaction}
    {ofNew : NewTransaction → Prop}
    (same : ∀ row id, property (NewTransaction.toTransaction row id) ↔ ofNew row) (start : Nat) :
    (∀ row ∈ numbered start rows, property row) ↔ ∀ row ∈ rows, ofNew row := by
  induction rows generalizing start with
  | nil => simp [numbered]
  | cons row rows ih =>
    rw [numbered, forall_mem_cons, forall_mem_cons, ih, same]

/-- What keeps the pairs right: created rows take a pair that fits, and an event without
a category names a subcategory that fits the category of the row. -/
def KeepsParents (copies : ReadCopies) (db : TransactionDb) :
    Operation (ConsistentIds copies) → Prop
  | .create userId dto answer =>
    (∃ returned, createTransaction copies db userId dto answer = .ok returned) →
      ChoiceFits copies dto.categoryId dto.subcategoryId
        (askedAnswer dto.categorizationTier answer)
  | .bulk userId dto answers =>
    (∃ returned, bulkImportCategorized copies db userId dto.items dto.skipDuplicates answers =
        .ok returned) →
      ∀ pair ∈ answeredRows db userId dto answers,
        ChoiceFits copies pair.1.categoryId pair.1.subcategoryId pair.2
  | .update _ _ _ => True
  | .categorized transactionId payload _ =>
    ∀ row, findForConsumer db transactionId = some row →
      row.categorizationTier ≠ some "manual" →
      fitsColumns (applyPayload row payload (payloadParentName copies payload)) = true →
      payload.categoryId = none → PairFits copies row.categoryId payload.subcategoryId

theorem create_parented_iff (dto : CreateTransactionDTO) (answer : Option CategorizationResult) :
    (∀ row ∈ written copies db (.create userId dto answer : Operation (ConsistentIds copies)),
        Parented copies row) ↔
      KeepsParents copies db (.create userId dto answer) := by
  simp only [written, KeepsParents]
  cases returned : createTransaction copies db userId dto answer with
  | error => simp
  | ok =>
    simp only [mem_singleton, forall_eq, Except.ok.injEq, exists_eq', true_implies]
    rw [(create_transaction_ok returned).1]
    exact take_answer_fits_iff copies _ _

theorem bulk_parented_iff (dto : BulkService.BulkCreateTransactionDTO)
    (answers : List (Option CategorizationResult)) :
    (∀ row ∈ written copies db (.bulk userId dto answers : Operation (ConsistentIds copies)),
        Parented copies row) ↔
      KeepsParents copies db (.bulk userId dto answers) := by
  simp only [written, KeepsParents]
  cases returned : bulkImportCategorized copies db userId dto.items dto.skipDuplicates answers with
  | error => simp
  | ok =>
    simp only [Except.ok.injEq, exists_eq', true_implies]
    rw [(bulk_import_ok returned).1,
      @forall_numbered_iff _ _ (fun row => PairFits copies row.categoryId row.subcategoryId)
        (fun _ _ => Iff.rfl),
      imported_rows_answered, forall_mem_map]
    refine forall₂_congr fun pair _ => ?_
    exact take_answer_fits_iff copies _ _

theorem update_parented {copies : ReadCopies} {existing updated : Transaction} {userId : Int}
    {dto : UpdateTransactionDTO} (before : Parented copies existing)
    (returned : updateTransaction copies existing userId dto = .ok (some updated)) :
    Parented copies updated := by
  obtain ⟨_, _, cleared | ⟨chosen, subcategory, isChosen, known, belongs, _⟩ |
    ⟨sameCategory, sameSubcategory, _⟩⟩ := update_taxonomy returned
  · intro _ _ isId
    rw [cleared.1] at isId
    contradiction
  · intro _ _ isId isOther
    rw [isChosen, Option.some.injEq] at isId
    rw [← isId, known, Option.some.injEq] at isOther
    rw [belongs, isOther]
  · unfold Parented
    rw [sameCategory, sameSubcategory]
    exact before

theorem update_written_parented {db : TransactionDb} (before : AllRows (Parented copies) db)
    (transactionId : Nat) (userId : Int) (dto : UpdateTransactionDTO) :
    ∀ row ∈ written copies db
        (.update transactionId userId dto : Operation (ConsistentIds copies)),
      Parented copies row := by
  intro _ member
  simp only [written] at member
  split at member
  · contradiction
  · next existing found =>
    split at member
    · next updated returned =>
      rw [mem_singleton.mp member]
      exact update_parented (before existing (find_by_id_some found)) returned
    · contradiction

theorem categorized_parented_iff {db : TransactionDb} (before : AllRows (Parented copies) db)
    (transactionId : Nat) (payload : CategorizedPayload) (holds : ConsistentIds copies payload) :
    (∀ row ∈ written copies db (.categorized transactionId payload holds), Parented copies row) ↔
      KeepsParents copies db (.categorized transactionId payload holds) := by
  simp only [written, KeepsParents]
  cases found : findForConsumer db transactionId with
  | none => simp
  | some existing =>
    simp only [Option.some.injEq, forall_eq']
    by_cases pinned : existing.categorizationTier = some "manual"
    · rw [apply_payload_pinned payload _ pinned]
      refine iff_of_true ?_ fun unpinned => absurd pinned unpinned
      intro _ member
      split at member
      · rw [mem_singleton.mp member]
        exact before existing (find_for_consumer_some found)
      · contradiction
    · have taxonomy := apply_payload_taxonomy payload (payloadParentName copies payload) pinned
      obtain ⟨isCategory, _, isSubcategory, _⟩ := RowTaxonomy.mk.inj taxonomy
      have parented : Parented copies
            (applyPayload existing payload (payloadParentName copies payload)) ↔
          (payload.categoryId = none →
            PairFits copies existing.categoryId payload.subcategoryId) := by
        unfold Parented
        rw [isCategory, isSubcategory]
        cases isId : payload.categoryId with
        | none => simp
        | some categoryId => exact iff_of_true (holds categoryId isId) (by simp)
      split
      · next fits => simp [parented, pinned, fits]
      · next unfit => simp [unfit]

theorem written_parented_iff (operation : Operation (ConsistentIds copies))
    (before : AllRows (Parented copies) db) :
    (∀ row ∈ written copies db operation, Parented copies row) ↔
      KeepsParents copies db operation := by
  cases operation with
  | create userId dto answer => exact create_parented_iff copies db userId dto answer
  | bulk userId dto answers => exact bulk_parented_iff copies db userId dto answers
  | update transactionId userId dto =>
    exact iff_of_true (update_written_parented copies before transactionId userId dto) trivial
  | categorized transactionId payload holds =>
    exact categorized_parented_iff copies before transactionId payload holds

/-- Every subcategory stands beside its parent all along a run exactly when every
operation of the run meets its condition. -/
theorem subcategories_parented_iff (copies : ReadCopies) {db : TransactionDb}
    (initial : AllRows (Parented copies) db)
    (operations : List (Operation (ConsistentIds copies))) :
    (∀ before, before <+: operations →
        AllRows (Parented copies) (runFrom (step copies) db before)) ↔
      AllSteps (step copies) (KeepsParents copies) db operations :=
  run_all_rows_iff copies (written_parented_iff copies) initial operations

def rentCopies : ReadCopies where
  categoryName := fun id => if id = 1 then some "Mad" else if id = 2 then some "Bolig" else none
  subcategory := fun id =>
    if id = 20 then some { id := 20, name := "Husleje", categoryId := 2 } else none

/-- An expense with the subcategory 20 under the given category. -/
def rentRequest (categoryId : Int) : CreateTransactionDTO where
  accountId := 1
  accountName := "Daily"
  categoryId := some categoryId
  amount := 750000
  transactionType := .expense
  date := { year := 2026, month := 3, day := 28, valid := by decide }
  subcategoryId := some 20

def emptyTable : TransactionDb := { transactions := [], nextId := 1 }

theorem all_rows_empty (property : Transaction → Prop) : AllRows property emptyTable :=
  fun _ member => absurd member not_mem_nil

def rentEvent : CategorizedPayload := { subcategoryId := some 20 }

theorem rent_event_consistent : ConsistentIds rentCopies rentEvent := by
  intro _ _
  contradiction

/-- The rent is created under its own category and categorized afterwards. -/
def rentRun : List (Operation (ConsistentIds rentCopies)) :=
  [.create 7 (rentRequest 2) none, .categorized 1 rentEvent rent_event_consistent]

theorem rent_stays_parented :
    (runFrom (step rentCopies) emptyTable rentRun).transactions.length = 1 ∧
      ∀ before, before <+: rentRun →
        AllRows (Parented rentCopies) (runFrom (step rentCopies) emptyTable before) := by
  have fits : PairFits rentCopies (some 2) (some 20) := by
    intro _ _ isId known
    cases isId
    cases known
    rfl
  refine ⟨rfl, (subcategories_parented_iff rentCopies (all_rows_empty _) rentRun).mpr
    ⟨fun _ => fits, ?_, trivial⟩⟩
  intro _ found _ _ _
  cases found
  exact fits

/-- A caller that sends category 1 with the subcategory 20 gets exactly that row. -/
def mismatchedRun : List (Operation (ConsistentIds rentCopies)) :=
  [.create 7 (rentRequest 1) none]

theorem mismatched_pair_created : ¬ ∀ before, before <+: mismatchedRun →
      AllRows (Parented rentCopies) (runFrom (step rentCopies) emptyTable before) := by
  intro always
  have parented := always _ (prefix_refl _) _ mem_cons_self 20 _ rfl rfl
  contradiction

end FinanceTracker.Transaction.SubcategoryParents
