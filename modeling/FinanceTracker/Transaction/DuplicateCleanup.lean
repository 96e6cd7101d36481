import FinanceTracker.Library.SortedBy
import FinanceTracker.Transaction.Chunking
import FinanceTracker.Transaction.RollbackImport
import Mathlib.Data.Prod.Lex

/-!
# The cleanup of duplicates

`scripts/cleanup_pg_duplicates.py`: the grouping of the live rows in SQL, the delete events
with the soft delete in one transaction, and what the bulk import makes of a deleted row
where only the row kept in its group is stored. The raw `UPDATE` leaves `updated_at` as it is.
-/

namespace FinanceTracker.Transaction.DuplicateCleanup

open Library Runs SortedBy List BulkImport Chunking Domain
open Library.Selection (select)
open RollbackImport (DeletedEntry RollbackState RollbackTables StampedRow rowEntry)

/-- The columns of `GROUP BY`, where NULL descriptions are alike. -/
def groupKey (row : StampedRow) : Int × DedupKey := (row.tx.userId, rowDedupKey row.tx)

def live (rows : List StampedRow) : List StampedRow := rows.filter fun row => row.deletedAt.isNone

def group (rows : List StampedRow) (row : StampedRow) : List StampedRow :=
  (live rows).filter fun other => groupKey other = groupKey row

/-- `MIN(id)`. -/
def keepId (rows : List StampedRow) (row : StampedRow) : ℕ :=
  ((group rows row).map fun other => other.tx.id).min?.getD row.tx.id

def isDuplicate (rows : List StampedRow) (row : StampedRow) : Bool :=
  1 < (group rows row).length && row.tx.id ≠ keepId rows row

structure Duplicate where
  row : StampedRow
  groupSize : ℕ
  keepId : ℕ

def findDuplicates (rows : List StampedRow) : List Duplicate :=
  sortedBy (fun duplicate => toLex (duplicate.keepId, duplicate.row.tx.id))
    (((live rows).filter (isDuplicate rows)).map fun row =>
      ⟨row, (group rows row).length, keepId rows row⟩)

def stampDeleted (now : Int) (row : StampedRow) : StampedRow where
  tx := { row.tx with deleted := true }
  deletedAt := some now
  createdAt := row.createdAt
  updatedAt := row.updatedAt
  flag := Eq.refl true

/-- `WHERE id = ANY(ids) AND deleted_at IS NULL`. -/
def hit (ids : List ℕ) (row : StampedRow) : Bool := row.tx.id ∈ ids && row.deletedAt.isNone

inductive CleanupError where
  | refusing (outboxed deleted : ℕ)

def deleteRows (now : Int) (state : RollbackState) (duplicates : List Duplicate) :
    Except CleanupError RollbackState :=
  let ids := duplicates.map fun duplicate => duplicate.row.tx.id
  let events := duplicates.map fun duplicate => rowEntry duplicate.row
  let deleted := (state.rows.filter (hit ids)).length
  if deleted = events.length then
    .ok
      { rows := state.rows.map fun row => if hit ids row then stampDeleted now row else row
        outbox := state.outbox ++ events }
  else .error (.refusing events.length deleted)

/-- `main` with `--execute`. -/
def cleanup (now : Int) (state : RollbackState) : Except CleanupError RollbackState :=
  let duplicates := findDuplicates state.rows
  if duplicates.length = 0 then .ok state else deleteRows now state duplicates

/-- An item with the own fields of a row. -/
def itemOf (row : Transaction) : BulkCreateTransactionItemDTO where
  accountId := row.accountId
  accountName := row.accountName
  categoryId := row.categoryId
  categoryName := row.categoryName
  amount := row.amount
  transactionType := row.transactionType
  description := row.description
  date := row.date
  subcategoryId := row.subcategoryId
  categorizationTier := row.categorizationTier
  categorizationConfidence := row.categorizationConfidence
  externalId := row.externalId
  currency := row.currency

def storing (kept : Transaction) : TransactionDb := ⟨[kept], kept.id + 1⟩

/-- The import skips the item of the row as a duplicate of the kept row. -/
def Skips (copies : ReadCopies) (kept row : Transaction) : Prop :=
  ∃ result, bulkImport copies (storing kept) row.userId [itemOf row] = .ok (storing kept, result) ∧
    result.duplicatesSkipped = 1

/-- The live row with the lowest id of the group of a row. -/
structure Keeps (rows : List StampedRow) (row kept : StampedRow) : Prop where
  stored : kept ∈ rows
  isLive : kept.deletedAt = none
  alike : groupKey kept = groupKey row
  lowest : ∀ other ∈ rows, other.deletedAt = none → groupKey other = groupKey row →
    kept.tx.id ≤ other.tx.id

/-- A run deletes the rows that the import would have skipped, and no others. -/
structure Cleans (copies : ReadCopies) (now : Int) (state after : RollbackState) : Prop where
  returns : cleanup now state = .ok after
  skipped : ∀ duplicate ∈ findDuplicates state.rows, ∃ kept, Keeps state.rows duplicate.row kept ∧
    kept.tx.id ≠ duplicate.row.tx.id ∧ Skips copies kept.tx duplicate.row.tx
  once : ((findDuplicates state.rows).map fun duplicate => duplicate.row.tx.id).Nodup
  outbox : after.outbox = state.outbox ++ (findDuplicates state.rows).map fun duplicate =>
    rowEntry duplicate.row
  rows : after.rows = state.rows.map fun row =>
    if hit ((findDuplicates state.rows).map fun duplicate => duplicate.row.tx.id) row then
      stampDeleted now row
    else row
  again : findDuplicates after.rows = []

/-- The row has no external id of its own, the kept row has none, or they have the same. -/
def SameId (kept row : Transaction) : Prop :=
  row.externalId.getD "" = "" ∨ kept.externalId = none ∨ kept.externalId = row.externalId

/-- Live rows of one group do not differ by external id from the lowest of it. -/
def Mergeable (rows : List StampedRow) : Prop :=
  ∀ row ∈ rows, row.deletedAt = none → ∀ kept, Keeps rows row kept → kept.tx.id ≠ row.tx.id →
    SameId kept.tx row.tx

variable {copies : ReadCopies} {rows : List StampedRow} {row kept : StampedRow} {now : Int}

theorem mem_live : row ∈ live rows ↔ row ∈ rows ∧ row.deletedAt = none := by
  simp [live]

theorem mem_group {other : StampedRow} : other ∈ group rows row ↔
    other ∈ rows ∧ other.deletedAt = none ∧ groupKey other = groupKey row := by
  simp [group, mem_live, and_assoc]

theorem keeper (stored : row ∈ rows) (isLive : row.deletedAt = none) :
    ∃ kept, Keeps rows row kept ∧ kept.tx.id = keepId rows row := by
  have own : row.tx.id ∈ (group rows row).map fun other => other.tx.id :=
    mem_map_of_mem (mem_group.mpr ⟨stored, isLive, rfl⟩)
  obtain ⟨least, isLeast⟩ := Option.isSome_iff_exists.mp (isSome_min?_of_mem own)
  obtain ⟨member, below⟩ := min?_eq_some_iff.mp isLeast
  obtain ⟨kept, inGroup, isKept⟩ := mem_map.mp member
  obtain ⟨keptStored, keptLive, alike⟩ := mem_group.mp inGroup
  refine ⟨kept, ⟨keptStored, keptLive, alike, ?_⟩, ?_⟩
  · intro other otherStored otherLive same
    rw [isKept]
    exact below _ (mem_map_of_mem (mem_group.mpr ⟨otherStored, otherLive, same⟩))
  · rw [isKept, keepId, isLeast, Option.getD_some]

theorem duplicate_iff (stored : row ∈ rows) (isLive : row.deletedAt = none) :
    isDuplicate rows row = true ↔ ∃ kept, Keeps rows row kept ∧ kept.tx.id ≠ row.tx.id := by
  obtain ⟨least, leastKeeps, isLeast⟩ := keeper stored isLive
  rw [isDuplicate, Bool.and_eq_true, decide_eq_true_eq, decide_eq_true_eq, ← isLeast]
  constructor
  · rintro ⟨_, apart⟩
    exact ⟨least, leastKeeps, apart.symm⟩
  · rintro ⟨kept, keeps, apart⟩
    have below := leastKeeps.lowest kept keeps.stored keeps.isLive keeps.alike
    have above := keeps.lowest least leastKeeps.stored leastKeeps.isLive leastKeeps.alike
    refine ⟨?_, by omega⟩
    have own := mem_group.mpr ⟨stored, isLive, rfl⟩
    have other := mem_group.mpr ⟨keeps.stored, keeps.isLive, keeps.alike⟩
    match found : group rows row with
    | [] =>
      rw [found] at own
      cases own
    | [only] =>
      rw [found] at own other
      rw [mem_singleton.mp own, mem_singleton.mp other] at apart
      exact absurd rfl apart
    | _ :: _ :: _ => simp

/-- A row that is no duplicate is the kept one of its group. -/
theorem spared_keeps (stored : row ∈ rows) (isLive : row.deletedAt = none)
    (spared : isDuplicate rows row = false) : Keeps rows row row := by
  obtain ⟨kept, keeps, _⟩ := keeper stored isLive
  have same : kept.tx.id = row.tx.id := by
    by_contra apart
    rw [(duplicate_iff stored isLive).mpr ⟨kept, keeps, apart⟩] at spared
    cases spared
  refine ⟨stored, isLive, rfl, ?_⟩
  rw [← same]
  exact keeps.lowest

theorem single_blocked_iff {kept row : Transaction} : Skips copies kept row ↔
    blocked (storing kept) row.userId [] (itemOf row) = true := by
  have start : LoopKept {} [] := ⟨by simp, by simp⟩
  obtain ⟨created, counted⟩ := import_loop_selects (storing kept) row.userId [itemOf row]
    [itemOf row] (fun _ member => member) start
  unfold Skips bulkImport
  cases isBlocked : blocked (storing kept) row.userId [] (itemOf row) with
  | true =>
    simp only [select, isBlocked, if_true, length_nil] at created counted
    refine iff_of_true ⟨_, bind_eq_ok.mpr ⟨(storing kept, []), ?_, rfl⟩, counted⟩ rfl
    rw [created]
    rfl
  | false =>
    simp only [select, isBlocked, length_cons, length_nil] at counted
    refine iff_of_false ?_ (by decide)
    rintro ⟨result, returned, skipped⟩
    dsimp only at returned
    obtain ⟨_, returned⟩ := rest_ok returned
    rw [← (Prod.mk.inj (Except.ok.inj returned)).2] at skipped
    simp only [Bool.false_eq_true, if_false, length_cons, length_nil] at counted skipped
    omega

theorem skips_iff {kept row : Transaction} (isLive : kept.deleted = false)
    (sameUser : kept.userId = row.userId) (sameKey : rowDedupKey kept = rowDedupKey row) :
    Skips copies kept row ↔ SameId kept row := by
  rw [single_blocked_iff]
  have ownKey : itemDedupKey (itemOf row) = rowDedupKey row := rfl
  have sameAccount : kept.accountId = row.accountId := congrArg DedupKey.accountId sameKey
  have fuzzy (missing : Bool) : hasDedupKey (storing kept) row.userId missing (itemDedupKey (itemOf row)) =
      (!missing || kept.externalId.isNone) := by
    simp [hasDedupKey, storing, isLive, sameUser, ownKey, sameKey]
  by_cases plain : row.externalId.getD "" = ""
  · have noKey : itemExternalIdKey (itemOf row) = none := by
      unfold itemExternalIdKey itemOf
      cases own : row.externalId with
      | none => rfl
      | some externalId => simpa [own] using plain
    simp [blocked, noKey, fuzzy, SameId, plain]
  · obtain ⟨externalId, own⟩ : ∃ externalId, row.externalId = some externalId := by
      rw [← Option.ne_none_iff_exists']
      intro none
      simp [none] at plain
    have isKey : itemExternalIdKey (itemOf row) = some ⟨row.accountId, externalId⟩ := by
      rw [own, Option.getD_some] at plain
      simp [itemExternalIdKey, itemOf, own, plain]
    have byId : hasExternalId (storing kept) row.userId ⟨row.accountId, externalId⟩ =
        decide (kept.externalId = row.externalId) := by
      simp [hasExternalId, storing, isLive, sameUser, sameAccount, own]
    simp [blocked, isKey, byId, fuzzy, SameId, plain, or_comm]

section Cleanup

variable (tables : RollbackTables)

theorem ids_of_duplicates (rows : List StampedRow) :
    ((findDuplicates rows).map fun duplicate => duplicate.row.tx.id).Perm
      (((live rows).filter (isDuplicate rows)).map fun row => row.tx.id) := by
  have sorted := (sorted_perm (fun duplicate : Duplicate =>
    toLex (duplicate.keepId, duplicate.row.tx.id)) (((live rows).filter (isDuplicate rows)).map
      fun row => ⟨row, (group rows row).length, keepId rows row⟩)).map
        fun duplicate : Duplicate => duplicate.row.tx.id
  rw [map_map] at sorted
  exact sorted

theorem duplicate_ids_nodup :
    ((findDuplicates tables.rows).map fun duplicate => duplicate.row.tx.id).Nodup := by
  rw [(ids_of_duplicates tables.rows).nodup_iff]
  exact tables.ids.sublist ((filter_sublist.trans filter_sublist).map _)

theorem hit_iff (stored : row ∈ tables.rows) :
    hit ((findDuplicates tables.rows).map fun duplicate => duplicate.row.tx.id) row =
      (row.deletedAt.isNone && isDuplicate tables.rows row) := by
  rw [Bool.eq_iff_iff, hit, Bool.and_eq_true, Bool.and_eq_true, decide_eq_true_eq, and_comm,
    (ids_of_duplicates tables.rows).mem_iff]
  refine and_congr_right fun isLive => ?_
  constructor
  · intro member
    obtain ⟨other, found, same⟩ := mem_map.mp member
    obtain ⟨inLive, duplicate⟩ := mem_filter.mp found
    have identical : other = row :=
      inj_on_of_nodup_map tables.ids (mem_live.mp inLive).1 stored same
    rw [← identical]
    exact duplicate
  · intro duplicate
    apply mem_map_of_mem
    exact mem_filter.mpr ⟨mem_live.mpr ⟨stored, Option.isNone_iff_eq_none.mp isLive⟩, duplicate⟩

theorem hits_counted : (tables.rows.filter
    (hit ((findDuplicates tables.rows).map fun duplicate => duplicate.row.tx.id))).length =
      (findDuplicates tables.rows).length := by
  have same := (ids_of_duplicates tables.rows).length_eq
  rw [length_map, length_map] at same
  rw [same, live, filter_filter]
  congr 1
  apply filter_congr
  intro row stored
  rw [hit_iff tables stored, Bool.and_comm]

/-- The rows after a run. -/
def cleaned (now : Int) (rows : List StampedRow) : List StampedRow :=
  rows.map fun row =>
    if hit ((findDuplicates rows).map fun duplicate => duplicate.row.tx.id) row then
      stampDeleted now row
    else row

theorem cleanup_returns (now : Int) : cleanup now tables.toRollbackState =
    .ok ⟨cleaned now tables.rows, tables.outbox ++ (findDuplicates tables.rows).map fun duplicate =>
      rowEntry duplicate.row⟩ := by
  unfold cleanup
  dsimp only
  split
  · next none =>
    have empty := eq_nil_of_length_eq_zero none
    simp [cleaned, empty, hit]
  · rw [deleteRows, length_map, if_pos (hits_counted tables)]
    rfl

theorem live_after {row : StampedRow} (found : row ∈ live (cleaned now tables.rows)) :
    row ∈ tables.rows ∧ row.deletedAt = none ∧ isDuplicate tables.rows row = false := by
  obtain ⟨member, isLive⟩ := mem_live.mp found
  obtain ⟨before, stored, rfl⟩ := mem_map.mp member
  have isHit := hit_iff tables stored
  split at isLive
  · cases isLive
  · next spared =>
    rw [if_neg spared]
    rw [Bool.eq_false_of_not_eq_true spared, isLive] at isHit
    exact ⟨stored, isLive, isHit.symm⟩

theorem no_second_deletion (now : Int) : findDuplicates (cleaned now tables.rows) = [] := by
  have none : (live (cleaned now tables.rows)).filter (isDuplicate (cleaned now tables.rows)) = [] := by
    rw [filter_eq_nil_iff]
    intro row found duplicate
    obtain ⟨member, isLive⟩ := mem_live.mp found
    obtain ⟨kept, keeps, apart⟩ := (duplicate_iff member isLive).mp duplicate
    obtain ⟨stored, wasLive, spared⟩ := live_after tables found
    obtain ⟨keptStored, keptLive, keptSpared⟩ :=
      live_after tables (mem_live.mpr ⟨keeps.stored, keeps.isLive⟩)
    have below := (spared_keeps stored wasLive spared).lowest kept keptStored keptLive keeps.alike
    have above := (spared_keeps keptStored keptLive keptSpared).lowest row stored wasLive keeps.alike.symm
    omega
  rw [findDuplicates, none]
  rfl

theorem duplicate_found_iff {rows : List StampedRow} {row : StampedRow} :
    (∃ duplicate ∈ findDuplicates rows, duplicate.row = row) ↔
      row ∈ rows ∧ row.deletedAt = none ∧ isDuplicate rows row = true := by
  simp [findDuplicates, mem_sorted_iff, mem_live, and_assoc]

/-- A run does what the import would, exactly on rows of which each group can be merged. -/
theorem cleanup_as_import_iff (copies : ReadCopies) (now : Int) :
    (∃ after, Cleans copies now tables.toRollbackState after) ↔ Mergeable tables.rows := by
  have skips {row kept : StampedRow} (keeps : Keeps tables.rows row kept) :
      Skips copies kept.tx row.tx ↔ SameId kept.tx row.tx := by
    have alive : kept.tx.deleted = false := by
      rw [kept.flag, keeps.isLive]
      rfl
    exact skips_iff alive (congrArg Prod.fst keeps.alike) (congrArg Prod.snd keeps.alike)
  constructor
  · rintro ⟨after, cleans⟩ row stored isLive kept keeps apart
    have isDuplicate := (duplicate_iff stored isLive).mpr ⟨kept, keeps, apart⟩
    obtain ⟨duplicate, found, rfl⟩ := duplicate_found_iff.mpr ⟨stored, isLive, isDuplicate⟩
    obtain ⟨other, others, _, skipped⟩ := cleans.skipped duplicate found
    have same : other = kept := by
      apply inj_on_of_nodup_map tables.ids others.stored keeps.stored
      exact le_antisymm (others.lowest kept keeps.stored keeps.isLive keeps.alike)
        (keeps.lowest other others.stored others.isLive others.alike)
    rw [← same]
    exact (skips others).mp skipped
  · intro mergeable
    refine ⟨_, cleanup_returns tables now, ?_, duplicate_ids_nodup tables, rfl, rfl,
      no_second_deletion tables now⟩
    intro duplicate found
    obtain ⟨stored, isLive, isDuplicate⟩ := duplicate_found_iff.mp ⟨duplicate, found, rfl⟩
    obtain ⟨kept, keeps, apart⟩ := (duplicate_iff stored isLive).mp isDuplicate
    exact ⟨kept, keeps, apart, (skips keeps).mpr (mergeable _ stored isLive kept keeps apart)⟩

end Cleanup

/-- One of two equal purchases of a day, as the bank numbers them. -/
def coffee (id : ℕ) (externalId : String) : StampedRow where
  tx :=
    { id
      userId := 7
      accountId := 1
      accountName := "Lønkonto"
      amount := 4500
      transactionType := .expense
      description := some "Kaffe"
      date := ⟨2026, 5, 19, by decide⟩
      externalId := some externalId }
  deletedAt := none
  createdAt := 0
  updatedAt := none
  flag := rfl

/-- The second purchase is deleted, and the import would have created it. -/
theorem second_purchase_deleted :
    (findDuplicates [coffee 1 "A", coffee 2 "B"]).map (fun duplicate => duplicate.row.tx.id) = [2] ∧
      (bulkImport ⟨fun _ => none, fun _ => none⟩ (storing (coffee 1 "A").tx) 7
        [itemOf (coffee 2 "B").tx]).map (fun done => done.2.duplicatesSkipped) = .ok 0 := by
  decide +kernel

end FinanceTracker.Transaction.DuplicateCleanup
