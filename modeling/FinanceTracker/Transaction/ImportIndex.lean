import FinanceTracker.Transaction.BulkService

/-!
# The unique index under a bulk import

The insert of `bulk_import` violates `uq_transactions_account_external_id` exactly
when a kept item has an external id that a live row of the account holds although
the lookup of the user did not find it, or when two kept items of one account both
have the empty external id.
-/

namespace FinanceTracker.Transaction.ImportIndex

open Library Selection Domain List
open BulkImport (TransactionDb NewTransaction
  BulkCreateTransactionItemDTO itemDedupKey itemExternalIdKey hasExternalId hasDedupKey bulkCreate
  createRow slotTaken)
open BulkService Chunking
open Creation (CategorizationResult checkColumns)

/-- What the index raises. -/
def uniqueViolation : TransactionError :=
  .database "duplicate key value violates uq_transactions_account_external_id"

variable {db : TransactionDb} {userId : Int} {items : List BulkCreateTransactionItemDTO}
  {item : BulkCreateTransactionItemDTO} {failure : TransactionError} {rows : List NewTransaction}
  {position : Nat}

theorem create_row_error {row : NewTransaction} (failed : createRow db row = .error failure) :
    failure = uniqueViolation := by
  unfold createRow at failed
  split at failed
  · cases failed
    rfl
  · contradiction

theorem bulk_create_error_unique (failed : bulkCreate db rows = .error failure) :
    failure = uniqueViolation := by
  induction rows generalizing db with
  | nil => contradiction
  | cons row rows ih =>
    cases created : createRow db row with
    | error =>
      unfold bulkCreate at failed
      rw [created] at failed
      cases failed
      exact create_row_error created
    | ok result =>
      rw [bulk_create_cons created] at failed
      cases rest : bulkCreate result.1 rows with
      | error =>
        rw [rest] at failed
        cases failed
        exact ih rest
      | ok =>
        rw [rest] at failed
        contradiction

/-- Rows can be created exactly when no slot is taken in the table and no two of
them want one slot. -/
theorem bulk_create_ok_iff :
    (∃ created, bulkCreate db rows = .ok created) ↔
      (∀ row ∈ rows, slotTaken db row.accountId row.externalId = false) ∧
        rows.Pairwise fun first second => ¬ SameSlot first second := by
  constructor
  · rintro ⟨created, returned⟩
    have free : ∀ (db : TransactionDb) (rows : List NewTransaction) created,
        bulkCreate db rows = .ok created →
          ∀ row ∈ rows, slotTaken db row.accountId row.externalId = false := by
      intro _ _ _ returned _ member
      by_contra taken
      obtain ⟨_, failed⟩ := bulk_create_error member (by simpa using taken)
      rw [returned] at failed
      contradiction
    refine ⟨free db rows created returned, ?_⟩
    clear free
    induction rows generalizing db created with
    | nil => exact List.Pairwise.nil
    | cons row rows ih =>
      cases head : createRow db row with
      | error =>
        unfold bulkCreate at returned
        rw [head] at returned
        contradiction
      | ok result =>
        have inserted : result.1 = insertAll db [row] := by
          unfold createRow at head
          split at head
          · contradiction
          · cases head
            rfl
        rw [bulk_create_cons head] at returned
        cases rest : bulkCreate result.1 rows with
        | error =>
          rw [rest] at returned
          contradiction
        | ok others =>
          refine pairwise_cons.mpr ⟨?_, ih others rest⟩
          rintro other member ⟨isSome, account, external⟩
          -- The row created first holds the slot that the later one needs.
          have taken : slotTaken result.1 other.accountId other.externalId = true := by
            rw [inserted, slot_taken_insert, ← external, isSome]
            simp [account]
          obtain ⟨_, failed⟩ := bulk_create_error member taken
          rw [rest] at failed
          contradiction
  · rintro ⟨free, distinct⟩
    exact ⟨_, bulk_create_ok free distinct⟩

/-- A call raises the violation exactly when its insert does. -/
theorem bulk_import_trips_iff (copies : ReadCopies) (state : ServiceState) (userId : Int)
    (dto : BulkCreateTransactionDTO) (answers : List (Option CategorizationResult)) :
    bulkImport copies state userId dto answers ≠ .error uniqueViolation ↔
      ∃ created, bulkCreate state.db
        (completedRows copies answers (importLoop state.db userId dto).rowsToCreate) =
          .ok created := by
  unfold bulkImport
  dsimp only
  generalize completedRows copies answers (importLoop state.db userId dto).rowsToCreate = rows
  by_cases none : rows = []
  · rw [if_pos none, none]
    exact ⟨fun _ => ⟨_, rfl⟩, fun _ => by simp⟩
  · rw [if_neg none]
    unfold createRows
    cases created : bulkCreate state.db rows with
    | error =>
      have unique := bulk_create_error_unique created
      subst unique
      constructor
      · intro passes
        exact absurd rfl passes
      · rintro ⟨_, returned⟩
        contradiction
    | ok result =>
      refine ⟨fun _ => ⟨result, rfl⟩, fun _ => ?_⟩
      change ((checkColumns result.2 >>= fun _ => pure _ : Except TransactionError _) >>= _) ≠ _
      unfold checkColumns
      split
      · intro failed
        cases failed
      · intro failed
        have tooLong : .database "value too long for type character varying" = uniqueViolation :=
          Except.error.inj failed
        exact absurd tooLong (by decide)

/-- A live row of the account has the external id of the item, and it is the row of
another user or the id is the empty text. -/
def SlotHeld (db : TransactionDb) (userId : Int) (item : BulkCreateTransactionItemDTO) : Prop :=
  ∃ row ∈ db.transactions, row.deleted = false ∧ row.accountId = item.accountId ∧
    row.externalId = item.externalId ∧ item.externalId ≠ none ∧
    (row.userId ≠ userId ∨ item.externalId = some "")

instance (db : TransactionDb) (userId : Int) (item : BulkCreateTransactionItemDTO) :
    Decidable (SlotHeld db userId item) := by
  unfold SlotHeld
  infer_instance

/-- The requests whose insert the index accepts. -/
structure SlotsFree (db : TransactionDb) (userId : Int)
    (items : List BulkCreateTransactionItemDTO) : Prop where
  stored : ∀ position item, KeptAt db userId items position item → ¬ SlotHeld db userId item
  emptyIds : ∀ early late first second, early < late → KeptAt db userId items early first →
    KeptAt db userId items late second → first.externalId = some "" →
    second.externalId = some "" → first.accountId ≠ second.accountId

theorem selected_at_iff :
    SelectedAt (blocked db userId) [] items position item ↔ KeptAt db userId items position item :=
  and_congr_right fun _ => free_iff_fresh (items.take position) item

theorem key_of_nonempty {text : String} (isText : item.externalId = some text)
    (nonempty : text ≠ "") :
    itemExternalIdKey item = some { accountId := item.accountId, externalId := text } := by
  unfold itemExternalIdKey
  rw [isText]
  exact if_neg nonempty

theorem kept_slot_held_iff (kept : KeptAt db userId items position item) :
    clashes db item = true ↔ SlotHeld db userId item := by
  unfold clashes slotTaken SlotHeld
  simp only [Bool.and_eq_true, any_eq_true, decide_eq_true_eq, Bool.not_eq_true']
  constructor
  · rintro ⟨isSome, row, member, ⟨live, account⟩, external⟩
    obtain ⟨text, isText⟩ := Option.isSome_iff_exists.mp isSome
    refine ⟨row, member, live, account, external, by simp [isText], ?_⟩
    by_contra own
    rw [not_or, not_not] at own
    have nonempty : text ≠ "" := by
      rintro rfl
      exact own.2 isText
    -- The user's own row with a truthy id would have blocked the item.
    have fresh := kept.2
    unfold Fresh at fresh
    rw [key_of_nonempty isText nonempty] at fresh
    have unseen := fresh.1
    unfold hasExternalId at unseen
    rw [any_eq_false] at unseen
    apply unseen row member
    simp [own.1, live, account, external, isText]
  · rintro ⟨row, member, live, account, external, present, _⟩
    exact ⟨Option.isSome_iff_ne_none.mpr present, row, member, ⟨live, account⟩, external⟩

theorem kept_same_slot_iff {copies : ReadCopies} {early late : Nat}
    {first second : BulkCreateTransactionItemDTO} (before : early < late)
    (firstKept : KeptAt db userId items early first)
    (secondKept : KeptAt db userId items late second) :
    SameSlot (itemRow copies userId first) (itemRow copies userId second) ↔
      first.externalId = some "" ∧ second.externalId = some "" ∧
        first.accountId = second.accountId := by
  change (first.externalId.isSome = true ∧ first.accountId = second.accountId ∧
    first.externalId = second.externalId) ↔ _
  constructor
  · rintro ⟨isSome, account, external⟩
    obtain ⟨text, isText⟩ := Option.isSome_iff_exists.mp isSome
    by_cases empty : text = ""
    · subst empty
      exact ⟨isText, external ▸ isText, account⟩
    · -- The earlier item is not a legacy duplicate, so it took the key before the later one.
      have firstKey := key_of_nonempty isText empty
      have secondKey := key_of_nonempty (external ▸ isText) empty
      have firstFresh := firstKept.2
      have secondFresh := secondKept.2
      unfold Fresh at firstFresh secondFresh
      rw [firstKey] at firstFresh
      rw [secondKey] at secondFresh
      have inTake : first ∈ items.take late := by
        refine mem_of_getElem? (i := early) ?_
        rw [List.getElem?_take_of_lt before]
        exact firstKept.1
      have legacy := secondFresh.2.2 first inTake (account ▸ firstKey)
      rw [firstFresh.2.1] at legacy
      contradiction
  · rintro ⟨firstEmpty, secondEmpty, account⟩
    exact ⟨by simp [firstEmpty], account, firstEmpty.trans secondEmpty.symm⟩

/-- The insert of a call passes the index exactly when the kept items leave it alone. -/
theorem bulk_import_index_iff (copies : ReadCopies) (state : ServiceState) (userId : Int)
    {dto : BulkCreateTransactionDTO} (answers : List (Option CategorizationResult))
    (skips : dto.skipDuplicates = true) :
    bulkImport copies state userId dto answers ≠ .error uniqueViolation ↔
      SlotsFree state.db userId dto.items := by
  have same := @created_identity copies state.db userId dto answers skips
  have rowsFree : (∀ row ∈ completedRows copies answers (importLoop state.db userId dto).rowsToCreate,
        slotTaken state.db row.accountId row.externalId = false) ↔
      ∀ item ∈ keptItems state.db userId dto.items, clashes state.db item = false := by
    have onIdentities (rows : List NewTransaction) :
        (∀ row ∈ rows, slotTaken state.db row.accountId row.externalId = false) ↔
          ∀ identity ∈ rows.map rowIdentity,
            slotTaken state.db identity.accountId identity.externalId = false := by
      rw [forall_mem_map]
      rfl
    rw [onIdentities, same, ← onIdentities]
    unfold itemRows
    rw [forall_mem_map]
    rfl
  have rowsApart : (completedRows copies answers
        (importLoop state.db userId dto).rowsToCreate).Pairwise
          (fun first second => ¬ SameSlot first second) ↔
      (keptItems state.db userId dto.items).Pairwise fun first second =>
        ¬ SameSlot (itemRow copies userId first) (itemRow copies userId second) := by
    have onIdentities (rows : List NewTransaction) :
        rows.Pairwise (fun first second => ¬ SameSlot first second) ↔
          (rows.map rowIdentity).Pairwise fun first second =>
            ¬ (first.externalId.isSome = true ∧ first.accountId = second.accountId ∧
              first.externalId = second.externalId) := by
      rw [pairwise_map]
      rfl
    rw [onIdentities, same, ← onIdentities]
    unfold itemRows
    rw [pairwise_map]
  rw [bulk_import_trips_iff, bulk_create_ok_iff, rowsFree, rowsApart]
  unfold keptItems
  rw [select_pairwise_iff]
  simp only [selected_at_iff]
  constructor
  · rintro ⟨free, apart⟩
    refine ⟨?_, ?_⟩
    · intro position item kept held
      have clash := (kept_slot_held_iff kept).mpr held
      rw [free item (mem_kept_iff.mpr ⟨position, kept⟩)] at clash
      contradiction
    · intro early late first second before firstKept secondKept firstEmpty secondEmpty account
      exact apart early late first second before firstKept secondKept
        ((kept_same_slot_iff before firstKept secondKept).mpr ⟨firstEmpty, secondEmpty, account⟩)
  · intro slots
    refine ⟨?_, ?_⟩
    · intro item member
      obtain ⟨position, kept⟩ := mem_kept_iff.mp member
      rw [Bool.eq_false_iff]
      intro clash
      exact slots.stored position item kept ((kept_slot_held_iff kept).mp clash)
    · intro early late first second before firstKept secondKept sameSlot
      obtain ⟨firstEmpty, secondEmpty, account⟩ :=
        (kept_same_slot_iff before firstKept secondKept).mp sameSlot
      exact slots.emptyIds early late first second before firstKept secondKept firstEmpty
        secondEmpty account

theorem coffee_request_slots_free : SlotsFree ⟨[], 1⟩ 7 coffeeRequest.items := by
  have passes : bulkImport emptyCopies ⟨⟨[], 1⟩, []⟩ 7 coffeeRequest [] ≠ .error uniqueViolation := by
    rw [coffee_returns]
    simp
  exact (bulk_import_index_iff emptyCopies ⟨⟨[], 1⟩, []⟩ 7 [] rfl).mp passes

def emptyIdRequest : BulkCreateTransactionDTO where
  items := [coffeeItem (some ""), { coffeeItem (some "") with amount := 3000 }]
  nonempty := by decide
  bounded := by decide
  valid := by decide

theorem empty_ids_trip_index : emptyIdRequest.skipDuplicates = true ∧
      bulkImport emptyCopies ⟨⟨[], 1⟩, []⟩ 7 emptyIdRequest [] = .error uniqueViolation :=
  ⟨rfl, rfl⟩

end FinanceTracker.Transaction.ImportIndex
