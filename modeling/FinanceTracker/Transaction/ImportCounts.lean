import FinanceTracker.Transaction.ImportedRows
import FinanceTracker.Transaction.StoredImport

/-!
# What an import reply counts

The counters of the reply are those of one delivery: it lists the rows that this
delivery inserted, and each item of the command is imported, skipped or an error. What
an earlier delivery inserted is a duplicate to it.
-/

namespace FinanceTracker.Transaction.ImportCounts

open Library.Runs Shared.CommandConsumer Shared.SagaMessages Domain
  BulkImport Chunking SagaCommands ImportedRows List
open StoredImport (accounted chunks chunks_flatten)

def insertedRows (consumer : Consumer) (sagaId : String) : List Nat :=
  (consumer.inserted.filter fun row => row.1 = sagaId).map Prod.snd

theorem mem_inserted_rows {consumer : Consumer} {sagaId : String} {id : Nat} :
    id ∈ insertedRows consumer sagaId ↔ (sagaId, id) ∈ consumer.inserted := by
  unfold insertedRows
  constructor
  · intro member
    obtain ⟨_, filtered, rfl⟩ := mem_map.mp member
    obtain ⟨stored, isSaga⟩ := mem_filter.mp filtered
    rw [← of_decide_eq_true isSaga]
    exact stored
  · intro stored
    exact mem_map.mpr ⟨(sagaId, id), mem_filter.mpr ⟨stored, by simp⟩, rfl⟩

theorem numbered_ids (start : Nat) (rows : List NewTransaction) :
    (numbered start rows).map Transaction.id = List.range' start rows.length := by
  induction rows generalizing start with
  | nil => rfl
  | cons row rows ih =>
    rw [numbered, map_cons, ih, length_cons, range'_succ]
    rfl

/-- A chunk that returns accounts for its items and lists the ids it drew from the
sequence. -/
theorem bulk_import_counts {copies : ReadCopies} {db next : TransactionDb} {userId : Int}
    {items : List BulkCreateTransactionItemDTO} {result : BulkCreateResultDTO}
    (imported : bulkImport copies db userId items = .ok (next, result)) :
    accounted result = items.length ∧ result.imported = result.importedIds.length ∧
      result.importedIds = List.range' db.nextId result.imported ∧
      next.nextId = db.nextId + result.imported := by
  have start : LoopKept {} [] := ⟨by simp, by simp⟩
  obtain ⟨rows, count⟩ := import_loop_selects db userId items items (fun _ member => member) start
  unfold bulkImport at imported
  dsimp only at imported
  obtain ⟨⟨_, created⟩, isCreated, returned⟩ := bind_eq_ok.mp imported
  cases returned
  obtain ⟨inserted, isNumbered⟩ := bulk_create_inserts isCreated
  have length : created.length = (keptItems db userId items).length := by
    rw [isNumbered, numbered_length, length_map, rows]
    simp [keptItems]
  refine ⟨?_, ?_, ?_, ?_⟩
  · unfold accounted
    dsimp only at count ⊢
    rw [length]
    unfold keptItems
    omega
  · exact (length_map _).symm
  · dsimp only
    rw [isNumbered, numbered_ids, numbered_length]
  · rw [inserted, isNumbered, numbered_length]
    rfl

/-- What a delivery has counted of the items of its command, with `left` items still
to come. -/
structure Tally (consumer : Consumer) (body : SagaCommand) (left : Nat)
    (total : BulkCreateResultDTO) : Prop where
  items : accounted total + left = (body.fields.items.getD []).length
  imported : total.imported = total.importedIds.length
  distinct : total.importedIds.Nodup
  inserted : ∀ id ∈ total.importedIds, id ∈ insertedRows consumer body.sagaId

theorem tally_grows {consumer next : Consumer} {body : SagaCommand} {left : Nat}
    {total : BulkCreateResultDTO} (grows : consumer.inserted ⊆ next.inserted)
    (tally : Tally consumer body left total) : Tally next body left total where
  items := tally.items
  imported := tally.imported
  distinct := tally.distinct
  inserted id listed :=
    mem_inserted_rows.mpr (grows (mem_inserted_rows.mp (tally.inserted id listed)))

/-- A successful reply to an import carries the counters of the delivery that sent it. -/
structure ImportReply (consumer : Consumer) (published : PublishedReply) : Prop where
  command : published.command.eventType = bulkImportEventType
  counts : ∃ total, published.reply.resultData = (importReply total).resultData ∧
    Tally consumer published.command 0 total

/-- Each row is recorded once, and the running import and the replies carry the counters
of their deliveries. -/
structure RowsCounted (consumer : Consumer) : Prop where
  rowIds : ∀ row ∈ consumer.inserted, row.2 < consumer.db.nextId
  distinct : (consumer.inserted.map Prod.snd).Nodup
  running : ∀ running command rest total, consumer.running = some running →
    running.work = .importing command rest total →
      Tally consumer running.message.body rest.flatten.length total
  addressed : ∀ published ∈ consumer.replies, published.reply.sagaId = published.command.sagaId ∧
      published.reply.stepName = published.command.stepName
  replies : ∀ published ∈ consumer.replies, published.reply.success = true →
    published.reply.isCompensation = false → ImportReply consumer published

theorem inserted_rows_nodup {consumer : Consumer} (counts : RowsCounted consumer)
    (sagaId : String) : (insertedRows consumer sagaId).Nodup :=
  counts.distinct.sublist (filter_sublist.map Prod.snd)

theorem listed_rows_counted {consumer : Consumer} (counts : RowsCounted consumer)
    {body : SagaCommand} {left : Nat} {total : BulkCreateResultDTO}
    (tally : Tally consumer body left total)
    (lists : ∀ id ∈ insertedRows consumer body.sagaId, id ∈ total.importedIds) :
    total.imported = (insertedRows consumer body.sagaId).length := by
  have perm : total.importedIds.Perm (insertedRows consumer body.sagaId) :=
    (perm_ext_iff_of_nodup tally.distinct (inserted_rows_nodup counts body.sagaId)).mpr
      fun id => ⟨tally.inserted id, lists id⟩
  rw [tally.imported, perm.length_eq]

section Step

variable {reads : ItemReads} {copies : ReadCopies} {consumer : Consumer} {label : Label}

theorem step_records (reads : ItemReads) (copies : ReadCopies) (consumer : Consumer)
    (label : Label) :
    (step reads copies consumer label).inserted = consumer.inserted ∨
      ∃ running count, consumer.running = some running ∧
        (step reads copies consumer label).db.nextId = consumer.db.nextId + count ∧
        (step reads copies consumer label).inserted = consumer.inserted ++
          ((List.range' consumer.db.nextId count).map fun id =>
            (running.message.body.sagaId, id)) ∧
        (0 < count → commitsRows consumer running.message.body.sagaId label = true) := by
  have stepped := step_stepped reads copies consumer label
  generalize step reads copies consumer label = next at stepped ⊢
  cases stepped with
  | @chunkCommitted running command items rest total result db isRunning work imported =>
    obtain ⟨_, _, ids, nextId⟩ := bulk_import_counts imported
    refine Or.inr ⟨running, result.imported, isRunning, nextId, ?_, ?_⟩
    · dsimp only
      rw [← ids]
    · intro _
      have first : consumer.db.nextId ∈ result.importedIds := by
        rw [ids, mem_range'_1]
        omega
      have inserts := inserts_rows_of_imported imported first
      unfold commitsRows
      rw [isRunning]
      simp [work, inserts]
  | idle | delivered | taken | raised | idDeleted | idGone | idFailed | exhausted | republished
  | finished | crashed => exact Or.inl rfl

theorem step_inserted_rows (reads : ItemReads) (copies : ReadCopies) (consumer : Consumer)
    (label : Label) (sagaId : String) :
    insertedRows (step reads copies consumer label) sagaId = insertedRows consumer sagaId ∨
      commitsRows consumer sagaId label = true := by
  unfold insertedRows
  rcases step_records reads copies consumer label with same | ⟨running, count, _, _, added, commits⟩
  · rw [same]
    exact Or.inl rfl
  · by_cases isSaga : running.message.body.sagaId = sagaId
    · by_cases some : 0 < count
      · rw [← isSaga]
        exact Or.inr (commits some)
      · have none : count = 0 := by omega
        rw [added, none]
        simp
    · rw [added]
      simp [filter_map, Function.comp_def, isSaga]

theorem inserted_grows (reads : ItemReads) (copies : ReadCopies) (consumer : Consumer)
    (label : Label) : consumer.inserted ⊆ (step reads copies consumer label).inserted := by
  rcases step_records reads copies consumer label with same | ⟨running, count, _, _, added, _⟩
  · rw [same]
    exact List.Subset.refl _
  · rw [added]
    exact subset_append_left _ _

variable {command : BulkImportCommand} {rest : List (List BulkCreateTransactionItemDTO)}
  {total : BulkCreateResultDTO} {running : Running Work}

/-- A delivery begins with all items of its command left. -/
theorem begun_import_tally {body : SagaCommand}
    (begun : beginWork reads body = some (.importing command rest total)) :
    Tally consumer body rest.flatten.length total := by
  rcases begin_work_cases begun with ⟨_, work⟩ | ⟨_, work⟩
  · rcases begin_import_cases reads body.fields with
      ⟨error, raised⟩ | ⟨read, items, isRead, parsed, importing⟩
    · rw [raised] at work
      contradiction
    · rw [importing] at work
      cases work
      have given : command.items = body.fields.items.getD [] := by
        unfold readImportCommand at isRead
        obtain ⟨_, isRead⟩ := rest_ok isRead
        obtain ⟨_, isRead⟩ := rest_ok isRead
        obtain ⟨_, isRead⟩ := rest_ok isRead
        cases isRead
        rfl
      have length : items.length = command.items.length := models_length parsed
      have all := chunks_flatten items
      unfold chunks at all
      refine ⟨?_, rfl, nodup_nil, by simp [BulkCreateResultDTO.empty]⟩
      rw [all, length, given]
      exact Nat.zero_add _
  · rcases begin_rollback_cases body.fields with ⟨error, raised⟩ | ⟨userId, _, rolling⟩
    · rw [raised] at work
      contradiction
    · rw [rolling] at work
      contradiction

/-- The ids of the next chunk are above all that were recorded before. -/
theorem chunk_tally {items : List BulkCreateTransactionItemDTO} {result : BulkCreateResultDTO}
    {db : TransactionDb} (rowIds : ∀ row ∈ consumer.inserted, row.2 < consumer.db.nextId)
    (imported : bulkImport copies consumer.db command.userId items = .ok (db, result))
    (tally : Tally consumer running.message.body (items :: rest).flatten.length total) :
    Tally
      { setWork consumer running (.importing command rest (total.add result)) with
        db := db
        inserted := consumer.inserted ++
          result.importedIds.map fun id => (running.message.body.sagaId, id) }
      running.message.body rest.flatten.length (total.add result) := by
  obtain ⟨accounts, _, ids, _⟩ := bulk_import_counts imported
  have before := tally.items
  have importedBefore := tally.imported
  constructor
  · rw [flatten_cons, length_append] at before
    unfold accounted at accounts before ⊢
    unfold BulkCreateResultDTO.add
    dsimp only
    omega
  · unfold BulkCreateResultDTO.add
    dsimp only
    rw [length_append]
    omega
  · refine nodup_append'.mpr ⟨tally.distinct, ?_, ?_⟩
    · rw [ids]
      exact nodup_range'
    · intro id listed new
      have recorded := rowIds _ (mem_inserted_rows.mp (tally.inserted id listed))
      rw [ids, mem_range'_1] at new
      dsimp only at recorded
      omega
  · intro id listed
    rw [mem_inserted_rows]
    rcases mem_append.mp listed with earlier | new
    · exact mem_append_left _ (mem_inserted_rows.mp (tally.inserted id earlier))
    · exact mem_append_right _ (mem_map.mpr ⟨id, new, rfl⟩)

theorem published_import {data : ReplyData} (matching : WorkMatches running)
    (tallies : ∀ command rest total, running.work = .importing command rest total →
      Tally consumer running.message.body rest.flatten.length total)
    (answer : finishedReply running.work = some data ∨ ∃ error, data = exhaustedReply error)
    (succeeded : data.success = true) (execution : data.isCompensation = false) :
    ImportReply consumer (publishedReply running.message.body data) := by
  rcases answer with done | ⟨error, rfl⟩
  · unfold finishedReply at done
    split at done
    · next command total work =>
      cases done
      unfold WorkMatches at matching
      rw [work] at matching
      exact ⟨matching.1, total, rfl, tallies command [] total work⟩
    · next userId failedIds work =>
      cases done
      unfold rollbackReply at execution
      split at execution
      · contradiction
      · contradiction
    · contradiction
  · contradiction

theorem step_keeps_row_ids (reads : ItemReads) (copies : ReadCopies) (label : Label)
    (rowIds : ∀ row ∈ consumer.inserted, row.2 < consumer.db.nextId)
    (distinct : (consumer.inserted.map Prod.snd).Nodup) :
    (∀ row ∈ (step reads copies consumer label).inserted,
      row.2 < (step reads copies consumer label).db.nextId) ∧
      ((step reads copies consumer label).inserted.map Prod.snd).Nodup := by
  have grown := (step_grown reads copies consumer label).nextId
  rcases step_records reads copies consumer label with same | ⟨running, count, _, nextId, added, _⟩
  · rw [same]
    exact ⟨fun row member => Nat.lt_of_lt_of_le (rowIds row member) grown, distinct⟩
  · rw [added]
    constructor
    · intro row member
      rcases mem_append.mp member with earlier | new
      · exact Nat.lt_of_lt_of_le (rowIds row earlier) grown
      · obtain ⟨_, drawn, rfl⟩ := mem_map.mp new
        rw [mem_range'_1] at drawn
        rw [nextId]
        exact drawn.2
    · rw [map_append, map_map]
      refine nodup_append'.mpr ⟨distinct, ?_, ?_⟩
      · rw [show (Prod.snd ∘ fun id => (running.message.body.sagaId, id)) = id from rfl,
          map_id]
        exact nodup_range'
      · intro _ earlier new
        obtain ⟨row, recorded, rfl⟩ := mem_map.mp earlier
        obtain ⟨_, isDrawn, same⟩ := mem_map.mp new
        have below := rowIds row recorded
        rw [mem_range'_1] at isDrawn
        dsimp only [Function.comp] at same
        omega

theorem step_keeps_running_tally (label : Label) (counts : RowsCounted consumer)
    (isRunning : (step reads copies consumer label).running = some running)
    (work : running.work = .importing command rest total) :
    Tally (step reads copies consumer label) running.message.body rest.flatten.length total := by
  have stepped := step_stepped reads copies consumer label
  generalize step reads copies consumer label = next at stepped isRunning ⊢
  cases stepped with
  | idle => exact counts.running running command rest total isRunning work
  | delivered =>
    refine tally_grows ?_ (counts.running _ _ _ _ isRunning work)
    exact List.Subset.refl _
  | taken =>
    rcases take_running isRunning with before | begun
    · refine tally_grows ?_ (counts.running _ _ _ _ before work)
      exact List.Subset.refl _
    · rw [work] at begun
      exact begun_import_tally begun
  | chunkCommitted wasRunning earlier imported =>
    cases isRunning
    cases work
    exact chunk_tally counts.rowIds imported (counts.running _ _ _ _ wasRunning earlier)
  | raised | idDeleted | idGone | idFailed =>
    cases isRunning
    contradiction
  | exhausted | republished | finished | crashed => contradiction

theorem step_keeps_counts (reads : ItemReads) (copies : ReadCopies) (label : Label)
    (matching : RunningMatches consumer) (counts : RowsCounted consumer) :
    RowsCounted (step reads copies consumer label) := by
  have grows := inserted_grows reads copies consumer label
  obtain ⟨rowIds, distinct⟩ :=
    step_keeps_row_ids reads copies label counts.rowIds counts.distinct
  refine ⟨rowIds, distinct, ?_, ?_, ?_⟩
  · intro _ _ _ _ isRunning work
    exact step_keeps_running_tally label counts isRunning work
  · intro published member
    rcases step_replies member with earlier | ⟨running, data, _, rfl, _⟩
    · exact counts.addressed published earlier
    · exact ⟨rfl, rfl⟩
  · intro published member succeeded execution
    rcases step_replies member with earlier | ⟨running, data, isRunning, rfl, answer⟩
    · obtain ⟨command, total, data, tally⟩ :=
        counts.replies published earlier succeeded execution
      exact ⟨command, total, data, tally_grows grows tally⟩
    · obtain ⟨command, total, data, tally⟩ :=
        published_import (matching running isRunning)
          (fun command rest total => counts.running running command rest total isRunning) answer
          succeeded execution
      exact ⟨command, total, data, tally_grows grows tally⟩

end Step

end FinanceTracker.Transaction.ImportCounts
