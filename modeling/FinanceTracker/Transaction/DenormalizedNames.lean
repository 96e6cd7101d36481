import FinanceTracker.Transaction.SubcategoryParents

/-!
# The names beside the ids

Both creation paths resolve the names from the read copies, and so does an update that
changes the category. An update that names the category without changing it writes the
caller's name. The consumer writes the names of its event unless they are empty, and a
name also when the event has no id for it.
-/

namespace FinanceTracker.Transaction.DenormalizedNames

open Library.Runs Shared.TransactionEvents Domain
open BulkImport (TransactionDb NewTransaction resolveNames)
open Transaction.Categorization Chunking Creation
open SubcategoryParents (imported_rows_answered forall_numbered_iff
  rentCopies rentRequest emptyTable all_rows_empty)
open TaxonomyRuns

def CategoryNamed (copies : ReadCopies) (categoryId : Option Int) (name : Option String) : Prop :=
  ∀ id copied, categoryId = some id → copies.categoryName id = some copied → name = some copied

def SubcategoryNamed (copies : ReadCopies) (subcategoryId : Option Int) (name : Option String) :
    Prop :=
  ∀ id copied, subcategoryId = some id → copies.subcategory id = some copied →
    name = some copied.name

structure Named (copies : ReadCopies) (row : Transaction) : Prop where
  category : CategoryNamed copies row.categoryId row.categoryName
  subcategory : SubcategoryNamed copies row.subcategoryId row.subcategoryName

structure CarriesNames (copies : ReadCopies) (payload : CategorizedPayload) : Prop where
  category : CategoryNamed copies payload.categoryId (some payload.categoryName)
  subcategory : SubcategoryNamed copies payload.subcategoryId (some payload.subcategoryName)

theorem resolved_category_named (copies : ReadCopies) (categoryId : Option Int)
    (fallback : Option String) :
    CategoryNamed copies categoryId (resolveCategoryName copies categoryId fallback) := by
  intro _ _ isId isCopied
  rw [isId]
  unfold resolveCategoryName
  dsimp only
  rw [isCopied, Option.some_or]

variable {copies : ReadCopies} {db : TransactionDb} {userId : Int} {payload : CategorizedPayload}

theorem create_named {next : TransactionDb} {dto : CreateTransactionDTO}
    {answer : Option CategorizationResult} {created : Transaction}
    (returned : createTransaction copies db userId dto answer = .ok (next, created)) :
    Named copies created := by
  rw [(create_transaction_ok returned).1]
  constructor
  · exact resolved_category_named copies _ _
  · intro id _ isId isCopied
    change (Option.bind _ copies.subcategory).map SubCategory.name = _
    change (takeAnswer _ _).subcategoryId = some id at isId
    rw [isId, Option.bind_some, isCopied, Option.map_some]

theorem resolve_names_named (copies : ReadCopies) (row : NewTransaction) :
    CategoryNamed copies (resolveNames copies row).categoryId
        (resolveNames copies row).categoryName ∧
      SubcategoryNamed copies (resolveNames copies row).subcategoryId
        (resolveNames copies row).subcategoryName := by
  unfold resolveNames
  constructor
  · intro _ _ isId isCopied
    dsimp only at isId ⊢
    rw [isId, Option.bind_some, isCopied, Option.some_or]
  · intro _ _ isId isCopied
    dsimp only at isId ⊢
    rw [isId, Option.bind_some, isCopied, Option.map_some, Option.some_or]

theorem bulk_named {next : TransactionDb} {dto : BulkService.BulkCreateTransactionDTO}
    {answers : List (Option CategorizationResult)} {created : List Transaction}
    (returned : bulkImportCategorized copies db userId dto.items dto.skipDuplicates answers =
      .ok (next, created)) :
    ∀ row ∈ created, Named copies row := by
  have sameNames : ∀ row id, Named copies (NewTransaction.toTransaction row id) ↔
      CategoryNamed copies row.categoryId row.categoryName ∧
        SubcategoryNamed copies row.subcategoryId row.subcategoryName :=
    fun _ _ => ⟨fun named => ⟨named.category, named.subcategory⟩, fun both => ⟨both.1, both.2⟩⟩
  rw [(bulk_import_ok returned).1, forall_numbered_iff sameNames, imported_rows_answered,
    List.forall_mem_map]
  intro _ _
  exact resolve_names_named copies _

def UpdateNames (copies : ReadCopies) (existing : Transaction) (dto : UpdateTransactionDTO) : Prop :=
  effectiveCategory existing dto = existing.categoryId →
    ∀ name, dto.categoryName = some name → CategoryNamed copies existing.categoryId name

theorem update_named_iff {existing updated : Transaction} {dto : UpdateTransactionDTO}
    (before : Named copies existing)
    (returned : updateTransaction copies existing userId dto = .ok (some updated)) :
    Named copies updated ↔ UpdateNames copies existing dto := by
  obtain ⟨isCategory, name, sub⟩ := update_taxonomy returned
  have subNamed : SubcategoryNamed copies updated.subcategoryId updated.subcategoryName := by
    rcases sub with cleared | ⟨chosen, subcategory, isChosen, known, _, isName⟩ |
      ⟨_, sameSubcategory, sameName⟩
    · intro _ _ isId _
      rw [cleared.1] at isId
      contradiction
    · intro _ _ isId isCopied
      rw [isChosen, Option.some.injEq] at isId
      rw [← isId, known, Option.some.injEq] at isCopied
      rw [isName, isCopied]
    · rw [sameSubcategory, sameName]
      exact before.subcategory
  have categoryNamed : CategoryNamed copies updated.categoryId updated.categoryName ↔
      UpdateNames copies existing dto := by
    unfold UpdateNames
    rw [isCategory]
    rcases name with ⟨same, isName⟩ | ⟨changed, isName⟩
    · rw [isName, same]
      cases sent : dto.categoryName with
      | none => exact iff_of_true before.category fun _ _ none => by contradiction
      | some => simp
    · rw [isName]
      exact iff_of_true (resolved_category_named copies _ _) fun same => absurd same changed
  exact ⟨fun named => categoryNamed.mp named.category,
    fun names => ⟨categoryNamed.mpr names, subNamed⟩⟩

structure EventNames (copies : ReadCopies) (row : Transaction) (payload : CategorizedPayload) :
    Prop where
  noId : payload.categoryId = none → payload.categoryName ≠ "" →
    CategoryNamed copies row.categoryId (some payload.categoryName)
  emptyName : ∀ id, payload.categoryId = some id → copies.categoryName id = some "" →
    row.categoryName = some ""
  emptySubName : ∀ id copied, payload.subcategoryId = some id →
    copies.subcategory id = some copied → copied.name = "" → row.subcategoryName = some ""

theorem or_none_of_nonempty {text : String} (nonempty : text ≠ "") : orNone text = some text :=
  if_neg nonempty

theorem parent_name_of_id {id : Int} {copied : String} (carries : CarriesNames copies payload)
    (isId : payload.categoryId = some id) (isCopied : copies.categoryName id = some copied) :
    (payloadParentName copies payload).bind orNone = orNone copied := by
  have isName := Option.some.inj (carries.category id copied isId isCopied)
  unfold payloadParentName
  rw [isName, isId, Option.bind_some, isCopied]
  by_cases empty : copied = ""
  · rw [empty]
    rfl
  · rw [or_none_of_nonempty empty, Option.some_or, Option.bind_some, or_none_of_nonempty empty]

theorem parent_name_without_id (noId : payload.categoryId = none) :
    (payloadParentName copies payload).bind orNone = orNone payload.categoryName := by
  unfold payloadParentName
  rw [noId, Option.bind_none, Option.or_none]
  by_cases empty : payload.categoryName = ""
  · rw [empty]
    rfl
  · rw [or_none_of_nonempty empty, Option.bind_some, or_none_of_nonempty empty]

theorem categorized_category_iff {row : Transaction} (before : Named copies row)
    (carries : CarriesNames copies payload) :
    CategoryNamed copies (payload.categoryId.or row.categoryId)
        (((payloadParentName copies payload).bind orNone).or row.categoryName) ↔
      (payload.categoryId = none → payload.categoryName ≠ "" →
        CategoryNamed copies row.categoryId (some payload.categoryName)) ∧
      ∀ id, payload.categoryId = some id → copies.categoryName id = some "" →
        row.categoryName = some "" := by
  cases sent : payload.categoryId with
  | none =>
    rw [parent_name_without_id sent, Option.none_or]
    by_cases empty : payload.categoryName = ""
    · rw [empty]
      exact iff_of_true before.category
        ⟨fun _ nonempty => absurd rfl nonempty, fun _ none => by contradiction⟩
    · rw [or_none_of_nonempty empty, Option.some_or]
      simp [empty]
  | some sentId =>
    rw [Option.some_or]
    constructor
    · intro named
      refine ⟨fun none => by contradiction, ?_⟩
      intro _ isId isEmpty
      cases isId
      have isName := named sentId "" rfl isEmpty
      rw [parent_name_of_id carries sent isEmpty] at isName
      exact isName
    · rintro ⟨_, emptyName⟩ id copied isId isCopied
      cases isId
      rw [parent_name_of_id carries sent isCopied]
      by_cases empty : copied = ""
      · subst empty
        exact emptyName sentId rfl isCopied
      · rw [or_none_of_nonempty empty, Option.some_or]

theorem categorized_subcategory_iff {copies : ReadCopies} {row : Transaction}
    {payload : CategorizedPayload} (carries : CarriesNames copies payload) :
    SubcategoryNamed copies payload.subcategoryId
        ((orNone payload.subcategoryName).or row.subcategoryName) ↔
      ∀ id copied, payload.subcategoryId = some id → copies.subcategory id = some copied →
        copied.name = "" → row.subcategoryName = some "" := by
  constructor
  · intro named id copied isId isCopied isEmpty
    have isName := named id copied isId isCopied
    have carried := Option.some.inj (carries.subcategory id copied isId isCopied)
    rw [carried, isEmpty] at isName
    exact isName
  · intro emptyName id copied isId isCopied
    have carried := Option.some.inj (carries.subcategory id copied isId isCopied)
    rw [carried]
    by_cases empty : copied.name = ""
    · rw [empty, emptyName id copied isId isCopied empty]
      rfl
    · rw [or_none_of_nonempty empty, Option.some_or]

theorem categorized_named_iff {row : Transaction} (before : Named copies row)
    (carries : CarriesNames copies payload) (unpinned : row.categorizationTier ≠ some "manual") :
    Named copies (applyPayload row payload (payloadParentName copies payload)) ↔
      EventNames copies row payload := by
  have taxonomy := apply_payload_taxonomy payload (payloadParentName copies payload) unpinned
  obtain ⟨isCategory, isName, isSubcategory, isSubName⟩ := RowTaxonomy.mk.inj taxonomy
  have category := categorized_category_iff before carries
  have subcategory := @categorized_subcategory_iff copies row payload carries
  rw [← isCategory, ← isName] at category
  rw [← isSubName] at subcategory
  constructor
  · rintro ⟨categoryNamed, subcategoryNamed⟩
    rw [isSubcategory] at subcategoryNamed
    exact ⟨(category.mp categoryNamed).1, (category.mp categoryNamed).2,
      subcategory.mp subcategoryNamed⟩
  · rintro ⟨noId, emptyName, emptySubName⟩
    refine ⟨category.mpr ⟨noId, emptyName⟩, ?_⟩
    rw [isSubcategory]
    exact subcategory.mpr emptySubName

def KeepsNames (copies : ReadCopies) (db : TransactionDb) : Operation (CarriesNames copies) → Prop
  | .create _ _ _ => True
  | .bulk _ _ _ => True
  | .update transactionId userId dto =>
    ∀ row, findById db transactionId userId = some row →
      (∃ updated, updateTransaction copies row userId dto = .ok (some updated)) →
      UpdateNames copies row dto
  | .categorized transactionId payload _ =>
    ∀ row, findForConsumer db transactionId = some row →
      row.categorizationTier ≠ some "manual" →
      fitsColumns (applyPayload row payload (payloadParentName copies payload)) = true →
      EventNames copies row payload

theorem update_written_iff (copies : ReadCopies) (before : AllRows (Named copies) db)
    (transactionId : Nat) (userId : Int) (dto : UpdateTransactionDTO) :
    (∀ row ∈ written copies db
        (.update transactionId userId dto : Operation (CarriesNames copies)), Named copies row) ↔
      KeepsNames copies db (.update transactionId userId dto) := by
  simp only [written, KeepsNames]
  cases found : findById db transactionId userId with
  | none => simp
  | some existing =>
    have named := before existing (find_by_id_some found)
    dsimp only
    cases returned : updateTransaction copies existing userId dto with
    | error => simp [returned]
    | ok result =>
      cases result with
      | none => simp [returned]
      | some =>
        simp only [List.mem_singleton, forall_eq, Option.some.injEq, forall_eq', returned,
          Except.ok.injEq, exists_eq', true_implies]
        exact update_named_iff named returned

theorem categorized_written_iff (copies : ReadCopies) (before : AllRows (Named copies) db)
    (transactionId : Nat) (payload : CategorizedPayload) (holds : CarriesNames copies payload) :
    (∀ row ∈ written copies db (.categorized transactionId payload holds), Named copies row) ↔
      KeepsNames copies db (.categorized transactionId payload holds) := by
  simp only [written, KeepsNames]
  cases found : findForConsumer db transactionId with
  | none => simp
  | some existing =>
    have named := before existing (find_for_consumer_some found)
    simp only [Option.some.injEq, forall_eq']
    by_cases pinned : existing.categorizationTier = some "manual"
    · rw [apply_payload_pinned payload _ pinned]
      refine iff_of_true ?_ fun unpinned => absurd pinned unpinned
      intro _ member
      split at member
      · rw [List.mem_singleton.mp member]
        exact named
      · contradiction
    · have iff := categorized_named_iff named holds pinned
      split
      · next fits => simp [iff, pinned, fits]
      · next unfit => simp [unfit]

theorem written_named_iff (copies : ReadCopies) (db : TransactionDb)
    (operation : Operation (CarriesNames copies)) (before : AllRows (Named copies) db) :
    (∀ row ∈ written copies db operation, Named copies row) ↔ KeepsNames copies db operation := by
  cases operation with
  | create userId dto answer =>
    simp only [written, KeepsNames]
    cases returned : createTransaction copies db userId dto answer with
    | error => simp
    | ok => simpa using create_named returned
  | bulk userId dto answers =>
    simp only [written, KeepsNames]
    cases returned :
        bulkImportCategorized copies db userId dto.items dto.skipDuplicates answers with
    | error => simp
    | ok => simpa using bulk_named returned
  | update transactionId userId dto => exact update_written_iff copies before transactionId userId dto
  | categorized transactionId payload holds =>
    exact categorized_written_iff copies before transactionId payload holds

/-- The names follow the ids all along a run exactly when every operation of the run
meets its condition. -/
theorem names_follow_iff (copies : ReadCopies) {db : TransactionDb}
    (initial : AllRows (Named copies) db)
    (operations : List (Operation (CarriesNames copies))) :
    (∀ before, before <+: operations → AllRows (Named copies) (runFrom (step copies) db before)) ↔
      AllSteps (step copies) (KeepsNames copies) db operations :=
  run_all_rows_iff copies (written_named_iff copies) initial operations

/-- The rent, and then a request for its row that only sends a category name. -/
def renamedRun (name : String) : List (Operation (CarriesNames rentCopies)) :=
  [.create 7 (rentRequest 2) none, .update 1 7 { categoryName := some (some name) }]

theorem copied_name_follows :
    (runFrom (step rentCopies) emptyTable (renamedRun "Bolig")).transactions.length = 1 ∧
      ∀ before, before <+: renamedRun "Bolig" →
        AllRows (Named rentCopies) (runFrom (step rentCopies) emptyTable before) := by
  refine ⟨rfl, (names_follow_iff rentCopies (all_rows_empty _) (renamedRun "Bolig")).mpr
    ⟨trivial, ?_, trivial⟩⟩
  intro _ found _ _ _ isName _ _ isId isCopied
  cases found
  cases isName
  cases isId
  exact isCopied

theorem made_up_name_stored :
    ¬ ∀ before, before <+: renamedRun "Ferie" →
      AllRows (Named rentCopies) (runFrom (step rentCopies) emptyTable before) := by
  intro always
  have named := (always _ (List.prefix_refl _) _ List.mem_cons_self).category 2 "Bolig" rfl rfl
  contradiction

end FinanceTracker.Transaction.DenormalizedNames
