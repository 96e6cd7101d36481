import FinanceTracker.Transaction.Creation

/-!
# A category chosen at creation, and the pipeline afterwards

The row of one transaction under the deliveries of its `transaction.categorized`
events, the updates of its user and its deletion. What the pipeline answers
depends on rules that change all the time, so an event is arbitrary. An attempt
that crashes or raises before its commit changes nothing; a redelivery of a
message with a correlation id that was committed is skipped.
-/

namespace FinanceTracker.Transaction.ChosenCategory

open Library.Runs Shared.TransactionEvents Domain BulkImport Transaction.Categorization Creation

/-- The row, the processed messages, and whether the user has changed the category. -/
structure RowState where
  row : Transaction
  inbox : List String := []
  changed : Bool := false
  deriving DecidableEq

/-- `copies` are the read copies of the taxonomy at that moment. -/
inductive Step where
  | deliver (messageId : String) (event : CategorizedEvent) (copies : ReadCopies)
      (commits : Bool)
  | update (userId : Int) (dto : UpdateTransactionDTO) (copies : ReadCopies)
  | delete

def isDuplicate (state : RowState) (messageId : String) : Bool :=
  messageId ≠ "" && state.inbox.contains messageId

def categorized (state : RowState) (event : CategorizedEvent) (copies : ReadCopies) :
    Transaction :=
  applyCategorization state.row event (parentName copies event)

/-- One delivery to the categorized consumer. -/
def handle (state : RowState) (messageId : String) (event : CategorizedEvent)
    (copies : ReadCopies) (commits : Bool) : RowState :=
  if isDuplicate state messageId || state.row.deleted then state
  else if !commits || !fitsColumns (categorized state event copies) then state
  else
    { state with
      row := categorized state event copies
      inbox := if messageId = "" then state.inbox else state.inbox ++ [messageId] }

def step (state : RowState) : Step → RowState
  | .deliver messageId event copies commits => handle state messageId event copies commits
  | .update userId dto copies =>
    match updateTransaction copies state.row userId dto with
    | .ok (some updated) =>
      { state with
        row := updated
        changed := state.changed || decide (updated.categoryId ≠ state.row.categoryId) }
    | _ => state
  | .delete => { state with row := { state.row with deleted := true } }

def start (row : Transaction) : RowState := { row := row }

/-- Until the user changes it, the category is the chosen one. -/
def Kept (categoryId : Int) (state : RowState) : Prop :=
  state.changed = false → state.row.categoryId = some categoryId

def Survives (categoryId : Int) (row : Transaction) (steps : List Step) : Prop :=
  ∀ before, before <+: steps → Kept categoryId (runFrom step (start row) before)

/-- The delivery writes the category of its event to the row. -/
def Overwrites (state : RowState) (messageId : String) (event : CategorizedEvent)
    (copies : ReadCopies) (commits : Bool) : Bool :=
  !isDuplicate state messageId && !state.row.deleted && commits &&
    fitsColumns (categorized state event copies) &&
    decide (state.row.categorizationTier ≠ some "manual")

/-- A delivery that writes a category writes the chosen one. -/
def Spares (categoryId : Int) (state : RowState) : Step → Prop
  | .deliver messageId event copies commits =>
    state.changed = false → Overwrites state messageId event copies commits = true →
      event.categoryId = categoryId
  | _ => True

theorem categorized_category (state : RowState) (event : CategorizedEvent)
    (copies : ReadCopies) :
    (categorized state event copies).categoryId =
      if state.row.categorizationTier = some "manual" then state.row.categoryId
      else some event.categoryId := by
  unfold categorized
  split
  · next pinned => rw [apply_categorization_manual event _ pinned]
  · next unpinned =>
    have choice := apply_categorization_choice event (parentName copies event) unpinned
    exact congrArg CategoryChoice.categoryId choice

theorem handle_category (state : RowState) (messageId : String) (event : CategorizedEvent)
    (copies : ReadCopies) (commits : Bool) :
    (handle state messageId event copies commits).row.categoryId =
      if Overwrites state messageId event copies commits then some event.categoryId
      else state.row.categoryId := by
  unfold handle Overwrites
  cases isDuplicate state messageId with
  | true => rfl
  | false =>
    cases state.row.deleted with
    | true => rfl
    | false =>
      cases commits with
      | false => rfl
      | true =>
        cases fits : fitsColumns (categorized state event copies) with
        | false => rfl
        | true =>
          simp only [Bool.or_false, Bool.false_eq_true, if_false, Bool.not_true,
            Bool.not_false, Bool.and_self, Bool.true_and, decide_eq_true_eq]
          rw [categorized_category]
          by_cases pinned : state.row.categorizationTier = some "manual"
          · simp [pinned]
          · simp [pinned]

theorem handle_changed (state : RowState) (messageId : String) (event : CategorizedEvent)
    (copies : ReadCopies) (commits : Bool) :
    (handle state messageId event copies commits).changed = state.changed := by
  unfold handle
  split
  · rfl
  · split
    · rfl
    · rfl

variable {categoryId : Int} {state : RowState} {tier : Option String} {row : Transaction}

theorem update_keeps (kept : Kept categoryId state) (userId : Int) (dto : UpdateTransactionDTO)
    (copies : ReadCopies) :
    Kept categoryId (step state (.update userId dto copies)) := by
  simp only [step]
  split
  · next updated returned =>
    intro unchanged
    simp only [Bool.or_eq_false_iff, decide_eq_false_iff_not, not_not] at unchanged
    exact unchanged.2.trans (kept unchanged.1)
  · exact kept

theorem step_kept_iff (kept : Kept categoryId state) (label : Step) :
    Kept categoryId (step state label) ↔ Spares categoryId state label := by
  cases label with
  | deliver =>
    simp only [step, Kept, Spares, handle_changed, handle_category]
    constructor
    · intro after unchanged overwrites
      have same := after unchanged
      rw [if_pos overwrites] at same
      exact Option.some.inj same
    · intro spares unchanged
      split
      · next overwrites => rw [spares unchanged overwrites]
      · exact kept unchanged
  | update userId dto copies => exact iff_of_true (update_keeps kept userId dto copies) trivial
  | delete => exact iff_of_true kept trivial

/-- Pinned rows stay pinned: the consumer leaves them alone, and an update only pins. -/
theorem update_tier {copies : ReadCopies} {existing updated : Transaction} {userId : Int}
    {dto : UpdateTransactionDTO}
    (returned : updateTransaction copies existing userId dto = .ok (some updated)) :
    updated.categorizationTier = existing.categorizationTier ∨
      updated.categorizationTier = some "manual" := by
  obtain ⟨_, fields, checked, wrote⟩ := update_transaction_ok returned
  obtain ⟨_, _, _, _, _, rfl⟩ := write_fields_ok wrote
  have sameTier : fields.categorizationTier =
      (pinCategory copies existing dto).categorizationTier := by
    unfold checkSubcategory at checked
    split at checked
    · cases checked
      rfl
    · cases checked
      rfl
    · split at checked
      · cases checked
      · dsimp only at checked
        split at checked
        · cases checked
        · cases checked
          rfl
  dsimp only
  rw [sameTier]
  unfold pinCategory
  dsimp only
  split
  · refine Or.inr ?_
    split
    · rfl
    · split
      · rfl
      · rfl
  · exact Or.inl rfl

def Pinned (state : RowState) : Prop := state.row.categorizationTier = some "manual"

theorem step_pinned (state : RowState) (label : Step) (pinned : Pinned state) :
    Pinned (step state label) := by
  cases label with
  | deliver messageId event copies =>
    have same : categorized state event copies = state.row :=
      apply_categorization_manual event _ pinned
    simp only [step, handle, same]
    split
    · exact pinned
    · split
      · exact pinned
      · exact pinned
  | update =>
    simp only [step]
    split
    · next updated returned =>
      rcases update_tier returned with same | manual
      · exact same.trans pinned
      · exact manual
    · exact pinned
  | delete => exact pinned

theorem pinned_spares (pinned : Pinned state) (label : Step) : Spares categoryId state label := by
  cases label with
  | deliver =>
    intro _ overwrites
    unfold Overwrites at overwrites
    rw [pinned] at overwrites
    simp at overwrites
  | update | delete => trivial

/-- A row created with an explicit category, and the tier its creation gave it. -/
inductive CreatedWith (categoryId : Int) : Option String → Transaction → Prop
  | one {copies : ReadCopies} {db next : TransactionDb} {userId : Int}
      {dto : CreateTransactionDTO} {answer : Option CategorizationResult}
      {created : Transaction} (chosen : dto.categoryId = some categoryId)
      (returned : createTransaction copies db userId dto answer = .ok (next, created)) :
      CreatedWith categoryId
        (tierTaken dto.categorizationTier (askedAnswer dto.categorizationTier answer)) created
  | bulk {copies : ReadCopies} {db next : TransactionDb} {userId : Int}
      {items : List BulkCreateTransactionItemDTO} {skipDuplicates : Bool}
      {answers : List (Option CategorizationResult)} {created : List Transaction} {index : Nat}
      {item : BulkCreateTransactionItemDTO} {answer : Option CategorizationResult}
      {stored : Transaction} (chosen : item.categoryId = some categoryId)
      (returned : bulkImportCategorized copies db userId items skipDuplicates answers =
        .ok (next, created))
      (requested : (rowsToCreate db userId items skipDuplicates)[index]? =
        some (newRow userId item))
      (answered : (alignAnswers (rowsToCreate db userId items skipDuplicates) answers)[index]? =
        some answer)
      (found : created[index]? = some stored) :
      CreatedWith categoryId (tierTaken item.categorizationTier answer) stored

theorem created_keeps (created : CreatedWith categoryId tier row) :
    KeepsCategory categoryId tier row := by
  cases created with
  | one chosen returned => exact create_transaction_keeps chosen returned
  | bulk chosen returned requested answered found =>
    exact bulk_import_keeps chosen returned requested answered found

theorem survives_iff_spares (keeps : KeepsCategory categoryId tier row) (steps : List Step) :
    Survives categoryId row steps ↔
      AllSteps step (Spares categoryId) (start row) steps :=
  @run_kept_iff _ _ step (Spares categoryId) (fun _ => True) (Kept categoryId)
    (fun _ _ _ => trivial) (fun _ label _ kept => step_kept_iff kept label) (start row) trivial
    (fun _ => keeps.category) steps

def otherAnswer (categoryId : Int) : CategorizedEvent where
  categoryId := categoryId + 1
  subcategoryId := 1
  tier := "rule"
  confidence := "high"
  timestamp := 0

def noCopies : ReadCopies where
  categoryName := fun _ => none
  subcategory := fun _ => none

theorem other_answer_overwrites (keeps : KeepsCategory categoryId tier row)
    (unpinned : tier ≠ some "manual") :
    Overwrites (start row) "m" (otherAnswer categoryId) noCopies true = true := by
  have notManual : row.categorizationTier ≠ some "manual" := by
    rw [keeps.tier]
    exact unpinned
  have fits : fitsColumns (categorized (start row) (otherAnswer categoryId) noCopies) = true := by
    have before := keeps.fits
    change fitsColumns (applyCategorization row (otherAnswer categoryId) _) = true
    unfold applyCategorization
    rw [if_neg notManual]
    dsimp only
    split
    · exact before
    · simp only [fitsColumns, Bool.and_eq_true] at before ⊢
      obtain ⟨⟨⟨⟨⟨name, category⟩, description⟩, subcategory⟩, _⟩, _⟩ := before
      have shortTier : "rule".length ≤ 20 := by decide
      have shortConfidence : "high".length ≤ 10 := by decide
      refine ⟨⟨⟨⟨⟨name, category⟩, description⟩, subcategory⟩, ?_⟩, ?_⟩
      · rw [Option.all_some, decide_eq_true_eq]
        exact shortTier
      · rw [Option.all_some, decide_eq_true_eq]
        exact shortConfidence
  unfold Overwrites
  rw [fits]
  simp [start, isDuplicate, keeps.live, notManual]

/-- A category chosen at creation survives every run exactly when the row was created with
the tier `manual`; it survives one run exactly when every delivery of the run that writes a
category before the user changes it writes the chosen one. -/
theorem chosen_category_survives_iff {categoryId : Int} {tier : Option String}
    {row : Transaction} (created : CreatedWith categoryId tier row) :
    ((∀ steps, Survives categoryId row steps) ↔ tier = some "manual") ∧
      ∀ steps, Survives categoryId row steps ↔
        AllSteps step (Spares categoryId) (start row) steps := by
  have keeps := created_keeps created
  refine ⟨?_, survives_iff_spares keeps⟩
  constructor
  · intro always
    by_contra unpinned
    have spares := (survives_iff_spares keeps
      [.deliver "m" (otherAnswer categoryId) noCopies true]).mp (always _)
    have same := spares.1 rfl (other_answer_overwrites keeps unpinned)
    change categoryId + 1 = categoryId at same
    omega
  · intro manual steps
    rw [survives_iff_spares keeps]
    have pinned : Pinned (start row) := keeps.tier.trans manual
    apply all_steps_imp step step_pinned (fun state label held _ => pinned_spares held label)
      pinned
    exact all_steps_of_forall step (fun _ _ => trivial) (start row) steps

def chosenGroceries : CreateTransactionDTO where
  accountId := 1
  accountName := "Lønkonto"
  categoryId := some 3
  amount := 12550
  transactionType := .expense
  description := some "NETTO"
  date := ⟨2026, 3, 1, by decide⟩

def groceriesRow : Transaction :=
  (createdRow noCopies 1 chosenGroceries none).toTransaction 1

theorem groceries_created : CreatedWith 3 none groceriesRow := by
  have returned : createTransaction noCopies { transactions := [], nextId := 1 } 1
      chosenGroceries none = .ok ({ transactions := [groceriesRow], nextId := 2 }, groceriesRow) := by
    decide +kernel
  exact .one rfl returned

/-- The caller chooses category 3 and sends no tier; the pipeline answers 4. -/
theorem pipeline_overwrites_choice : CreatedWith 3 none groceriesRow ∧
      ¬ Survives 3 groceriesRow [.deliver "m" (otherAnswer 3) noCopies true] := by
  refine ⟨groceries_created, ?_⟩
  intro survives
  have kept := survives _ (List.prefix_refl _)
  revert kept
  unfold Kept
  decide +kernel

theorem groceries_survive_iff : CreatedWith 3 none groceriesRow ∧
      ((∀ steps, Survives 3 groceriesRow steps) ↔ (none : Option String) = some "manual") :=
  ⟨groceries_created, (chosen_category_survives_iff groceries_created).1⟩

end FinanceTracker.Transaction.ChosenCategory
