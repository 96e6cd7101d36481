import FinanceTracker.Transaction.Chunking

/-!
# When the saga's chunked import is the unsplit import

The handler commits a list in chunks; the claim compares it with one call over
the whole list. Both keep the same items up to the first chunk in which a
committed item of the other kind has the fuzzy key of an item that the unsplit
call keeps, and both fail alike when the first chunk that keeps anything holds a
clash with another user's row.
-/

namespace FinanceTracker.Transaction.ChunkTransparency

open Library Calendar Runs Selection Shared.SagaMessages Domain BulkImport Chunking List

variable {copies : ReadCopies} {userId : Int} {db : TransactionDb}
  {items : List BulkCreateTransactionItemDTO}

theorem proper_kept {kept : List BulkCreateTransactionItemDTO} (proper : ProperIds items) :
    ProperIds (select (blocked db userId) kept items) :=
  fun item member => proper item (mem_of_select _ member)

theorem proper_chunk (proper : ProperIds items) (number : Nat) :
    ProperIds (chunk items number) := by
  intro item member
  unfold chunk at member
  exact proper item (mem_of_mem_drop (mem_of_mem_take member))

theorem proper_whole_kept (proper : ProperIds items) (number : Nat) :
    ProperIds (wholeKept db userId items number) :=
  fun item member => proper item (mem_of_select _ (whole_kept_subset member))

/-- One call either raises or adds the rows of what it keeps. -/
theorem bulk_import_cases (copies : ReadCopies) (userId : Int) (db : TransactionDb)
    (proper : ProperIds items) :
    (∃ item ∈ keptItems db userId items, clashes db item = true) ∧
        (∃ failure, bulkImport copies db userId items = .error failure) ∨
      (∀ item ∈ keptItems db userId items, clashes db item = false) ∧
        bulkImport copies db userId items =
          .ok (withItems copies userId db (keptItems db userId items),
            importResult copies userId db items (keptItems db userId items)) := by
  by_cases clash : ∃ item ∈ keptItems db userId items, clashes db item = true
  · obtain ⟨item, member, isClash⟩ := clash
    exact Or.inl ⟨⟨item, member, isClash⟩, bulk_import_error member isClash⟩
  · have free : ∀ item ∈ keptItems db userId items, clashes db item = false := by
      intro item member
      rw [Bool.eq_false_iff]
      exact fun isClash => clash ⟨item, member, isClash⟩
    exact Or.inr ⟨free, bulk_import_ok proper free⟩

/-- No item of the chunk that the unsplit call keeps meets the fuzzy key of an
item of the other kind kept in an earlier chunk. -/
def Uncrossed (db : TransactionDb) (userId : Int) (items : List BulkCreateTransactionItemDTO)
    (number : Nat) : Prop :=
  ∀ item ∈ chunkKept db userId items number, cross (wholeKept db userId items number) item = false

def ClashFree (db : TransactionDb) (userId : Int) (items : List BulkCreateTransactionItemDTO)
    (number : Nat) : Prop :=
  ∀ item ∈ chunkKept db userId items number, clashes db item = false

/-- The totals of the unsplit call after the first chunks. -/
def resultUpto (copies : ReadCopies) (db : TransactionDb) (userId : Int)
    (items : List BulkCreateTransactionItemDTO) (number : Nat) : BulkCreateResultDTO where
  imported := (wholeKept db userId items number).length
  duplicatesSkipped := (items.take (bulkImportChunkSize * number)).length -
    (wholeKept db userId items number).length
  errors := 0
  importedIds := importedIds copies userId db (wholeKept db userId items number)

theorem imported_ids_append (first second : List BulkCreateTransactionItemDTO) :
    importedIds copies userId db (first ++ second) = importedIds copies userId db first ++
        importedIds copies userId (withItems copies userId db first) second := by
  unfold importedIds withItems insertAll itemRows
  rw [map_append, numbered_append, map_append]

theorem result_upto_succ (number : Nat) : (resultUpto copies db userId items number).add
        (importResult copies userId (withItems copies userId db (wholeKept db userId items number))
          (chunk items number) (chunkKept db userId items number)) =
      resultUpto copies db userId items (number + 1) := by
  have before : (wholeKept db userId items number).length ≤
      (items.take (bulkImportChunkSize * number)).length := select_length_le _ _ _
  have inside : (chunkKept db userId items number).length ≤ (chunk items number).length :=
    select_length_le _ _ _
  unfold resultUpto importResult BulkCreateResultDTO.add
  rw [whole_kept_succ, take_next_chunk, imported_ids_append, length_append, length_append]
  congr 1
  dsimp only
  omega

variable {number : Nat} {item : BulkCreateTransactionItemDTO} {reads : ItemReads}

/-- What the call on one chunk keeps after the earlier chunks were committed. -/
theorem kept_of_uncrossed (copies : ReadCopies) (proper : ProperIds items)
    (uncrossed : Uncrossed db userId items number) :
    keptItems (withItems copies userId db (wholeKept db userId items number)) userId
        (chunk items number) = chunkKept db userId items number :=
  kept_after_commit_uncrossed (proper_whole_kept proper number) uncrossed

theorem chunk_clash_iff (proper : ProperIds items) (uncrossed : Uncrossed db userId items number)
    (member : item ∈ chunkKept db userId items number) :
    clashes (withItems copies userId db (wholeKept db userId items number)) item =
      clashes db item := by
  apply kept_clash_iff (proper_whole_kept proper number) (proper_chunk proper number)
  rw [kept_of_uncrossed copies proper uncrossed]
  exact member

theorem chunk_import_ok (proper : ProperIds items) (uncrossed : Uncrossed db userId items number)
    (free : ClashFree db userId items number) :
    bulkImport copies (withItems copies userId db (wholeKept db userId items number)) userId
        (chunk items number) =
      .ok (withItems copies userId db (wholeKept db userId items (number + 1)),
        importResult copies userId (withItems copies userId db (wholeKept db userId items number))
          (chunk items number) (chunkKept db userId items number)) := by
  have kept := kept_of_uncrossed copies proper uncrossed
  have keptFree : ∀ item ∈ keptItems (withItems copies userId db
      (wholeKept db userId items number)) userId (chunk items number),
      clashes (withItems copies userId db (wholeKept db userId items number)) item = false := by
    intro item member
    rw [kept] at member
    rw [chunk_clash_iff proper uncrossed member]
    exact free item member
  rw [bulk_import_ok (proper_chunk proper number) keptFree, kept, with_items_append,
    whole_kept_succ]

theorem chunk_import_error (copies : ReadCopies) (proper : ProperIds items)
    (uncrossed : Uncrossed db userId items number)
    (member : item ∈ chunkKept db userId items number) (clash : clashes db item = true) :
    ∃ failure, bulkImport copies (withItems copies userId db (wholeKept db userId items number))
      userId (chunk items number) = .error failure := by
  have keptMember := member
  rw [← kept_of_uncrossed copies proper uncrossed] at keptMember
  apply bulk_import_error keptMember
  rw [chunk_clash_iff proper uncrossed member]
  exact clash

/-- As long as the chunks are uncrossed and free of clashes, the loop walks
through the unsplit call's own states. -/
theorem import_chunks_prefix (copies : ReadCopies) (db : TransactionDb) (userId : Int)
    (proper : ProperIds items) (start count : Nat)
    (rest : List (List BulkCreateTransactionItemDTO))
    (good : ∀ number, start ≤ number → number < start + count →
      Uncrossed db userId items number ∧ ClashFree db userId items number) :
    importChunks copies userId (withItems copies userId db (wholeKept db userId items start))
        ((List.range' start count).map (chunk items) ++ rest)
        (resultUpto copies db userId items start) =
      importChunks copies userId
        (withItems copies userId db (wholeKept db userId items (start + count))) rest
        (resultUpto copies db userId items (start + count)) := by
  induction count generalizing start with
  | zero => rfl
  | succ count ih =>
    obtain ⟨uncrossed, free⟩ := good start (Nat.le_refl _) (by omega)
    rw [range'_succ, map_cons, cons_append, importChunks, chunk_import_ok proper uncrossed free]
    dsimp only
    rw [result_upto_succ, ih (start + 1) fun number lower upper =>
      good number (by omega) (by omega)]
    rw [Nat.add_right_comm, Nat.add_assoc]

/-- The loop only appends rows, and none with the key and external id of an item
crossed by what was committed before. -/
theorem import_chunks_grows (copies : ReadCopies) (db : TransactionDb) (userId : Int)
    (chunks : List (List BulkCreateTransactionItemDTO)) (proper : ∀ part ∈ chunks, ProperIds part)
    (committed : List BulkCreateTransactionItemDTO) (committedProper : ProperIds committed) (total : BulkCreateResultDTO) :
    ∃ added, (importChunks copies userId (withItems copies userId db committed) chunks total).1 =
        withItems copies userId db (committed ++ added) ∧
      ∀ item, cross committed item = true → ∀ other ∈ added,
        ¬ (itemDedupKey other = itemDedupKey item ∧
          itemExternalIdKey other = itemExternalIdKey item) := by
  induction chunks generalizing committed total with
  | nil =>
    refine ⟨[], ?_, ?_⟩
    · rw [append_nil]
      rfl
    · intro _ _ _ _
      contradiction
  | cons part chunks ih =>
    have partProper := proper part mem_cons_self
    have restProper : ∀ other ∈ chunks, ProperIds other :=
      fun other member => proper other (mem_cons_of_mem _ member)
    unfold importChunks
    rcases bulk_import_cases copies userId (withItems copies userId db committed) partProper with
      ⟨_, failure, failed⟩ | ⟨_, done⟩
    · rw [failed]
      refine ⟨[], ?_, ?_⟩
      · rw [append_nil]
      · intro _ _ _ _
        contradiction
    · rw [done]
      dsimp only
      rw [with_items_append]
      have keptProper : ProperIds
          (keptItems (withItems copies userId db committed) userId part) :=
        proper_kept partProper
      have nextProper : ProperIds (committed ++
          keptItems (withItems copies userId db committed) userId part) := by
        refine forall_mem_append.mpr ⟨committedProper, ?_⟩
        intro item later
        exact keptProper item later
      obtain ⟨added, sameDb, apart⟩ := ih restProper _ nextProper _
      refine ⟨keptItems (withItems copies userId db committed) userId part ++ added, ?_, ?_⟩
      · rw [sameDb, append_assoc]
      · intro item crossed other member
        rcases mem_append.mp member with now | later
        · rintro ⟨sameKey, sameId⟩
          rw [kept_after_commit committedProper] at now
          obtain ⟨_, _, free⟩ := (mem_select_iff _ _ _ _).mp now
          rw [Bool.or_eq_false_iff] at free
          have crossedToo : cross committed other = cross committed item := by
            unfold cross
            rw [sameKey, sameId]
          rw [crossedToo, crossed] at free
          exact absurd free.2 (by decide)
        · apply apart item _ other later
          unfold cross at crossed ⊢
          rw [any_append, crossed, Bool.true_or]

variable {first second : List BulkCreateTransactionItemDTO} {accountId : Int} {accountName : String}
  {fetched : FetchedItem} {command : BulkImportCommand}

theorem with_items_inj (same : withItems copies userId db first = withItems copies userId db second) :
    (itemRows copies userId first) = itemRows copies userId second := by
  have rows := congrArg TransactionDb.transactions same
  exact numbered_inj (append_cancel_left rows)

theorem item_of_same_db
    (same : withItems copies userId db first = withItems copies userId db second)
    (member : item ∈ first) :
    ∃ other ∈ second, itemDedupKey other = itemDedupKey item ∧
      itemExternalIdKey other = itemExternalIdKey item := by
  have rowIn : itemRow copies userId item ∈ itemRows copies userId second := by
    rw [← with_items_inj same]
    exact mem_map_of_mem member
  obtain ⟨other, otherIn, sameRow⟩ := mem_map.mp rowIn
  refine ⟨other, otherIn, ?_, ?_⟩
  · exact congrArg (fun row : NewTransaction =>
      DedupKey.mk row.accountId row.txDate row.amount row.description) sameRow
  · have account : other.accountId = item.accountId := congrArg NewTransaction.accountId sameRow
    have external : other.externalId = item.externalId :=
      congrArg NewTransaction.externalId sameRow
    unfold itemExternalIdKey
    rw [account, external]

theorem with_items_nonempty {added : List BulkCreateTransactionItemDTO} (nonempty : added ≠ []) :
    withItems copies userId db added ≠ db := by
  intro same
  have size := congrArg TransactionDb.nextId same
  have positive := length_pos_iff.mpr nonempty
  simp only [withItems, insertAll, itemRows, length_map] at size
  omega

theorem chunk_kept_new (member : item ∈ chunkKept db userId items number) :
    ∀ other ∈ wholeKept db userId items number, ¬ (itemDedupKey other = itemDedupKey item ∧
        itemExternalIdKey other = itemExternalIdKey item) := by
  rintro other otherIn ⟨sameKey, sameId⟩
  obtain ⟨_, _, free⟩ := (mem_select_iff _ _ _ _).mp member
  unfold blocked at free
  cases kind : itemExternalIdKey item with
  | some =>
    rw [kind] at free
    simp only [Bool.or_eq_false_iff, any_append, any_eq_false, decide_eq_true_eq] at free
    exact free.1.2.1 other otherIn (sameId.trans kind)
  | none =>
    rw [kind] at free
    simp only [Bool.or_eq_false_iff, any_append, any_eq_false, Bool.and_eq_true,
      decide_eq_true_eq] at free
    exact free.2.1 other otherIn ⟨sameId.trans kind, sameKey⟩

theorem chunk_in_range {position : Nat} (inside : position < items.length) :
    position / bulkImportChunkSize < chunkCount items := by
  unfold chunkCount
  rw [Nat.div_lt_iff_lt_mul (by decide)]
  have enough := Nat.div_add_mod (items.length + (bulkImportChunkSize - 1)) bulkImportChunkSize
  have remainder := Nat.mod_lt (items.length + (bulkImportChunkSize - 1))
    (show bulkImportChunkSize > 0 by decide)
  rw [Nat.mul_comm]
  unfold bulkImportChunkSize at *
  omega

theorem take_chunks (items : List BulkCreateTransactionItemDTO) :
    items.take (bulkImportChunkSize * chunkCount items) = items := by
  apply take_of_length_le
  by_contra short
  have bound := @chunk_in_range items _ (Nat.lt_of_not_le short)
  rw [Nat.mul_div_cancel_left _ (by decide)] at bound
  exact Nat.lt_irrefl _ bound

theorem whole_kept_all :
    wholeKept db userId items (chunkCount items) = keptItems db userId items := by
  unfold wholeKept
  rw [take_chunks]

theorem result_upto_all : resultUpto copies db userId items (chunkCount items) =
      importResult copies userId db items (keptItems db userId items) := by
  unfold resultUpto importResult
  rw [whole_kept_all, take_chunks]

/-- The chunk loop of the handler over items that were parsed. -/
def importSplit (copies : ReadCopies) (userId : Int) (db : TransactionDb)
    (items : List BulkCreateTransactionItemDTO) :
    TransactionDb × Except TransactionError BulkCreateResultDTO :=
  importChunks copies userId db ((List.range (chunkCount items)).map (chunk items)) .empty

theorem with_no_items : withItems copies userId db [] = db := insert_all_nil db

theorem import_split_from (copies : ReadCopies) (proper : ProperIds items)
    (inRange : number ≤ chunkCount items)
    (good : ∀ earlier, earlier < number →
      Uncrossed db userId items earlier ∧ ClashFree db userId items earlier) :
    importSplit copies userId db items =
      importChunks copies userId (withItems copies userId db (wholeKept db userId items number))
        ((List.range' number (chunkCount items - number)).map (chunk items))
        (resultUpto copies db userId items number) := by
  have split : List.range (chunkCount items) =
      List.range' 0 number ++ List.range' number (chunkCount items - number) := by
    rw [range_eq_range', ← Nat.add_sub_cancel' inRange, ← range'_append]
    simp
  have walked := import_chunks_prefix copies db userId proper 0
    number ((List.range' number (chunkCount items - number)).map (chunk items))
    fun earlier _ upper => good earlier (by omega)
  rw [Nat.zero_add] at walked
  rw [← walked, ← map_append, ← split]
  unfold importSplit
  congr 1
  exact with_no_items.symm

theorem import_split_good (copies : ReadCopies) (proper : ProperIds items)
    (good : ∀ number, number < chunkCount items →
      Uncrossed db userId items number ∧ ClashFree db userId items number) :
    importSplit copies userId db items = (withItems copies userId db (keptItems db userId items),
        .ok (resultUpto copies db userId items (chunkCount items))) := by
  rw [import_split_from copies proper (Nat.le_refl _) good, whole_kept_all, Nat.sub_self]
  rfl

theorem proper_rest (proper : ProperIds items) (numbers : List Nat) :
    ∀ part ∈ numbers.map (chunk items), ProperIds part := by
  intro _ member
  obtain ⟨number, _, rfl⟩ := mem_map.mp member
  exact proper_chunk proper number

theorem split_at_first_crossing (proper : ProperIds items) (inRange : number < chunkCount items)
    (good : ∀ earlier, earlier < number →
      Uncrossed db userId items earlier ∧ ClashFree db userId items earlier)
    (crossed : ¬ Uncrossed db userId items number) :
    (importSplit copies userId db items).1 ≠
      withItems copies userId db (keptItems db userId items) := by
  intro same
  unfold Uncrossed at crossed
  push Not at crossed
  obtain ⟨item, member, isCrossed⟩ := crossed
  rw [import_split_from copies proper (Nat.le_of_lt inRange) good] at same
  obtain ⟨_, grown, apart⟩ := import_chunks_grows copies db userId _
    (proper_rest proper _) _ (proper_whole_kept proper number)
    (resultUpto copies db userId items number)
  rw [grown] at same
  have inWhole : item ∈ keptItems db userId items := by
    apply @whole_kept_subset db userId items (number + 1)
    rw [whole_kept_succ]
    exact mem_append_right _ member
  obtain ⟨other, otherIn, sameItem⟩ := item_of_same_db same.symm inWhole
  rcases mem_append.mp otherIn with earlier | later
  · exact chunk_kept_new member other earlier sameItem
  · exact apart item (by simpa using isCrossed) other later sameItem

/-- The first chunk that keeps anything decides what a clash does. -/
theorem split_at_first_kept (copies : ReadCopies) (proper : ProperIds items)
    (inRange : number < chunkCount items) (nothing : wholeKept db userId items number = [])
    (something : chunkKept db userId items number ≠ []) :
    ((∃ item ∈ chunkKept db userId items number, clashes db item = true) →
      ∃ failure, importSplit copies userId db items = (db, .error failure)) ∧
    (ClashFree db userId items number → (importSplit copies userId db items).1 ≠ db) := by
  have good : ∀ earlier, earlier < number →
      Uncrossed db userId items earlier ∧ ClashFree db userId items earlier := by
    intro earlier before
    have absent : ∀ item, item ∉ chunkKept db userId items earlier := by
      intro item member
      obtain ⟨position, isNumber, kept⟩ := mem_chunk_kept_iff.mp member
      have inWhole : item ∈ wholeKept db userId items number :=
        mem_whole_kept_iff.mpr ⟨position, by rw [isNumber]; exact before, kept⟩
      rw [nothing] at inWhole
      contradiction
    exact ⟨fun item member => absurd member (absent item),
      fun item member => absurd member (absent item)⟩
  have uncrossed : Uncrossed db userId items number := by
    intro _ _
    rw [nothing]
    rfl
  have step : List.range' number (chunkCount items - number) =
      number :: List.range' (number + 1) (chunkCount items - number - 1) := by
    rw [← range'_succ]
    congr 1
    omega
  rw [import_split_from copies proper (Nat.le_of_lt inRange) good, step, map_cons, importChunks]
  constructor
  · rintro ⟨item, member, clash⟩
    obtain ⟨failure, failed⟩ := chunk_import_error copies proper uncrossed member clash
    refine ⟨failure, ?_⟩
    rw [failed, nothing, with_no_items]
  · intro free
    rw [chunk_import_ok proper uncrossed free]
    dsimp only
    obtain ⟨_, grown, _⟩ := import_chunks_grows copies db userId _
      (proper_rest proper _) _ (proper_whole_kept proper (number + 1)) _
    rw [grown]
    apply with_items_nonempty
    rw [whole_kept_succ, nothing, nil_append]
    exact fun empty => something (append_eq_nil_iff.mp empty).1

/-- No item the unsplit call keeps wants the index slot of another user's row. -/
def NoClash (db : TransactionDb) (userId : Int) (items : List BulkCreateTransactionItemDTO) :
    Prop :=
  ∀ position item, KeptAt db userId items position item → clashes db item = false

/-- No two kept items of different chunks share account, date, amount and
description while exactly one of them has an external id. -/
def NoCrossing (db : TransactionDb) (userId : Int) (items : List BulkCreateTransactionItemDTO) :
    Prop :=
  ∀ first second early late, KeptAt db userId items first early →
    KeptAt db userId items second late →
    first / bulkImportChunkSize < second / bulkImportChunkSize →
    itemDedupKey early = itemDedupKey late →
    (itemExternalIdKey early).isSome = (itemExternalIdKey late).isSome

def ClashFirst (db : TransactionDb) (userId : Int) (items : List BulkCreateTransactionItemDTO) :
    Prop :=
  ∃ position item, KeptAt db userId items position item ∧ clashes db item = true ∧
    ∀ other kept, KeptAt db userId items other kept →
      position / bulkImportChunkSize ≤ other / bulkImportChunkSize

def ChunkTransparent (db : TransactionDb) (userId : Int)
    (items : List BulkCreateTransactionItemDTO) : Prop :=
  (NoClash db userId items ∧ NoCrossing db userId items) ∨ ClashFirst db userId items

theorem kept_at_in_range {position : Nat} (kept : KeptAt db userId items position item) :
    position / bulkImportChunkSize < chunkCount items := by
  obtain ⟨inside, _⟩ := List.getElem?_eq_some_iff.mp kept.1
  exact chunk_in_range inside

theorem all_uncrossed_iff :
    (∀ number, number < chunkCount items → Uncrossed db userId items number) ↔
      NoCrossing db userId items := by
  constructor
  · intro uncrossed first second early late keptEarly keptLate before sameKey
    have apart := uncrossed _ (kept_at_in_range keptLate) late
      (mem_chunk_kept_iff.mpr ⟨second, rfl, keptLate⟩)
    have inWhole : early ∈ wholeKept db userId items (second / bulkImportChunkSize) :=
      mem_whole_kept_iff.mpr ⟨first, before, keptEarly⟩
    unfold cross at apart
    rw [any_eq_false] at apart
    simpa [sameKey] using apart early inWhole
  · intro noCrossing _ _ late member
    obtain ⟨second, isNumber, keptLate⟩ := mem_chunk_kept_iff.mp member
    unfold cross
    rw [any_eq_false]
    intro early inWhole
    obtain ⟨first, before, keptEarly⟩ := mem_whole_kept_iff.mp inWhole
    rw [← isNumber] at before
    simp only [Bool.and_eq_true, decide_eq_true_eq, not_and, ne_eq, not_not]
    exact fun sameKey => noCrossing first second early late keptEarly keptLate before sameKey

theorem no_clash_iff :
    (∀ item ∈ keptItems db userId items, clashes db item = false) ↔ NoClash db userId items := by
  constructor
  · intro free position item kept
    exact free item (mem_kept_iff.mpr ⟨position, kept⟩)
  · intro free item member
    obtain ⟨position, kept⟩ := mem_kept_iff.mp member
    exact free position item kept

theorem clash_first_not_free (clash : ClashFirst db userId items) : ¬ NoClash db userId items := by
  intro free
  obtain ⟨position, item, kept, isClash, _⟩ := clash
  rw [free position item kept] at isClash
  contradiction

/-- The two numbers of a reply that the claim compares; none when the call raised. -/
def totals (outcome : Except TransactionError BulkCreateResultDTO) : Option (Nat × Nat) :=
  match outcome with
  | .ok result => some (result.imported, result.duplicatesSkipped)
  | .error _ => none

def importWhole (copies : ReadCopies) (userId : Int) (db : TransactionDb)
    (items : List BulkCreateTransactionItemDTO) :
    TransactionDb × Except TransactionError BulkCreateResultDTO :=
  match bulkImport copies db userId items with
  | .error failure => (db, .error failure)
  | .ok (next, result) => (next, .ok result)

/-- The split import and the whole one agree on the database and the totals. -/
def SameOutcome (copies : ReadCopies) (userId : Int) (db : TransactionDb)
    (items : List BulkCreateTransactionItemDTO) : Prop :=
  (importSplit copies userId db items).1 = (importWhole copies userId db items).1 ∧
    totals (importSplit copies userId db items).2 = totals (importWhole copies userId db items).2

theorem same_outcome_of_free (copies : ReadCopies) (proper : ProperIds items)
    (free : NoClash db userId items) :
    SameOutcome copies userId db items ↔ NoCrossing db userId items := by
  have keptFree := no_clash_iff.mpr free
  have clashFree : ∀ number, ClashFree db userId items number := by
    intro _ item member
    obtain ⟨position, _, kept⟩ := mem_chunk_kept_iff.mp member
    exact free position item kept
  have whole : importWhole copies userId db items =
      (withItems copies userId db (keptItems db userId items),
        .ok (resultUpto copies db userId items (chunkCount items))) := by
    unfold importWhole
    rw [bulk_import_ok proper keptFree, result_upto_all]
  rw [← all_uncrossed_iff]
  constructor
  · rintro ⟨sameDb, _⟩
    rw [whole] at sameDb
    -- The first crossed chunk would drop an item that the unsplit call keeps.
    intro number
    induction number using Nat.strong_induction_on with
    | _ number ih =>
      intro inRange
      by_contra crossed
      apply split_at_first_crossing proper inRange _ crossed sameDb
      exact fun earlier before =>
        ⟨ih earlier before (Nat.lt_trans before inRange), clashFree earlier⟩
  · intro uncrossed
    have split := import_split_good copies proper
      fun number inRange => ⟨uncrossed number inRange, clashFree number⟩
    unfold SameOutcome
    rw [split, whole]
    exact ⟨rfl, rfl⟩

theorem same_outcome_of_clash (copies : ReadCopies) (proper : ProperIds items)
    (clash : ¬ NoClash db userId items) :
    SameOutcome copies userId db items ↔ ClashFirst db userId items := by
  have whole : ∃ failure, importWhole copies userId db items = (db, .error failure) := by
    rw [← no_clash_iff] at clash
    push Not at clash
    obtain ⟨_, member, isClash⟩ := clash
    obtain ⟨failure, failed⟩ := @bulk_import_error copies _ _ _ _ member (by simpa using isClash)
    refine ⟨failure, ?_⟩
    unfold importWhole
    rw [failed]
  obtain ⟨_, wholeFails⟩ := whole
  have keeps : ∃ number, chunkKept db userId items number ≠ [] := by
    unfold NoClash at clash
    push Not at clash
    obtain ⟨position, _, kept, _⟩ := clash
    refine ⟨position / bulkImportChunkSize, ?_⟩
    exact ne_nil_of_mem (mem_chunk_kept_iff.mpr ⟨position, rfl, kept⟩)
  classical
  have something := Nat.find_spec keeps
  have least : ∀ position item, KeptAt db userId items position item →
      Nat.find keeps ≤ position / bulkImportChunkSize := by
    intro position _ kept
    apply Nat.find_min'
    exact ne_nil_of_mem (mem_chunk_kept_iff.mpr ⟨position, rfl, kept⟩)
  generalize Nat.find keeps = number at something least
  have nothing : wholeKept db userId items number = [] := by
    apply eq_nil_iff_forall_not_mem.mpr
    intro item member
    obtain ⟨position, before, kept⟩ := mem_whole_kept_iff.mp member
    exact absurd before (Nat.not_lt_of_le (least position item kept))
  have inRange : number < chunkCount items := by
    obtain ⟨_, member⟩ := exists_mem_of_ne_nil _ something
    obtain ⟨_, isNumber, kept⟩ := mem_chunk_kept_iff.mp member
    rw [← isNumber]
    exact kept_at_in_range kept
  obtain ⟨fails, grows⟩ := split_at_first_kept copies proper inRange nothing something
  unfold SameOutcome
  rw [wholeFails]
  constructor
  · rintro ⟨sameDb, _⟩
    by_contra notFirst
    apply grows _ sameDb
    intro item member
    rw [Bool.eq_false_iff]
    intro isClash
    obtain ⟨position, isNumber, kept⟩ := mem_chunk_kept_iff.mp member
    refine notFirst ⟨position, item, kept, isClash, ?_⟩
    intro other keptItem keptOther
    rw [isNumber]
    exact least other keptItem keptOther
  · rintro ⟨position, item, kept, isClash, first⟩
    have isNumber : position / bulkImportChunkSize = number := by
      apply Nat.le_antisymm _ (least position item kept)
      obtain ⟨other, member⟩ := exists_mem_of_ne_nil _ something
      obtain ⟨otherPosition, otherNumber, keptOther⟩ := mem_chunk_kept_iff.mp member
      rw [← otherNumber]
      exact first otherPosition other keptOther
    obtain ⟨_, splitFails⟩ :=
      fails ⟨item, mem_chunk_kept_iff.mpr ⟨position, isNumber, kept⟩, isClash⟩
    rw [splitFails]
    exact ⟨rfl, rfl⟩

/-- The chunk boundary is invisible exactly when the list is `ChunkTransparent`. -/
theorem same_outcome_iff (copies : ReadCopies) (proper : ProperIds items) :
    SameOutcome copies userId db items ↔ ChunkTransparent db userId items := by
  unfold ChunkTransparent
  by_cases free : NoClash db userId items
  · rw [same_outcome_of_free copies proper free]
    constructor
    · exact fun noCrossing => Or.inl ⟨free, noCrossing⟩
    · rintro (⟨_, noCrossing⟩ | clash)
      · exact noCrossing
      · exact absurd free (clash_first_not_free clash)
  · rw [same_outcome_of_clash copies proper free]
    constructor
    · exact Or.inr
    · rintro (⟨isFree, _⟩ | clash)
      · exact absurd isFree free
      · exact clash

theorem parse_item_proper (parsed : parseItem reads accountId accountName fetched = .ok item) :
    item.externalId ≠ some "" := by
  unfold parseItem at parsed
  obtain ⟨_, parsed⟩ := rest_ok parsed
  obtain ⟨_, parsed⟩ := rest_ok parsed
  obtain ⟨_, parsed⟩ := rest_ok parsed
  obtain ⟨_, parsed⟩ := rest_ok parsed
  obtain ⟨_, parsed⟩ := rest_ok parsed
  obtain ⟨_, parsed⟩ := rest_ok parsed
  obtain ⟨_, parsed⟩ := rest_ok parsed
  unfold checkLengths at parsed
  split at parsed
  · cases parsed
    change parseExternalId reads fetched.externalId ≠ some ""
    unfold parseExternalId
    dsimp only
    split
    · simp
    · simpa using ‹_›
  · contradiction

theorem parse_items_proper (parsed : parseItems reads command = .ok items) : ProperIds items := by
  unfold parseItems at parsed
  generalize command.items = fetchedItems at parsed
  induction fetchedItems generalizing items with
  | nil =>
    rw [mapM_nil] at parsed
    cases parsed
    intro _ _
    contradiction
  | cons fetched rest ih =>
    rw [mapM_cons] at parsed
    obtain ⟨_, itemParsed, parsed⟩ := bind_eq_ok.mp parsed
    obtain ⟨_, othersParsed, parsed⟩ := bind_eq_ok.mp parsed
    cases parsed
    intro other member
    rcases mem_cons.mp member with rfl | later
    · exact parse_item_proper itemParsed
    · exact ih othersParsed other later

theorem handle_bulk_import_parsed (copies : ReadCopies) (db : TransactionDb)
    (parsed : parseItems reads command = .ok items) :
    handleBulkImport reads copies db command = importSplit copies command.userId db items := by
  unfold handleBulkImport
  rw [parsed]
  dsimp only
  split
  · rename_i empty
    rw [empty]
    rfl
  · rfl

/-- The handler without its chunk loop. -/
def handleBulkImportUnsplit (reads : ItemReads) (copies : ReadCopies) (db : TransactionDb)
    (command : BulkImportCommand) :
    TransactionDb × Except TransactionError BulkCreateResultDTO :=
  match parseItems reads command with
  | .error failure => (db, .error failure)
  | .ok items => importWhole copies command.userId db items

/-- The handler inserts the rows, and reports the totals, of one unsplit call. -/
def ChunkingInvisible (reads : ItemReads) (copies : ReadCopies) (db : TransactionDb)
    (command : BulkImportCommand) : Prop :=
  (handleBulkImport reads copies db command).1 =
      (handleBulkImportUnsplit reads copies db command).1 ∧
    totals (handleBulkImport reads copies db command).2 =
      totals (handleBulkImportUnsplit reads copies db command).2

def boundaryDate : Date where
  year := 2024
  month := 1
  day := 5
  valid := by decide

def boundaryFetched (externalId : Option String) : FetchedItem where
  amount := some "1.00"
  transactionType := some "expense"
  date := some "2024-01-05"
  externalId := externalId

/-- One expense without an external id 500 times, then the same expense with one. -/
def boundaryCommand : BulkImportCommand where
  userId := 1
  accountId := 1
  accountName := "Budget"
  items := List.replicate 500 (boundaryFetched none) ++ [boundaryFetched (some "x")]

def boundaryReads : ItemReads where
  decimal := fun text => if text = "1.00" then some 1 else none
  date := fun text => if text = "2024-01-05" then some boundaryDate else none
  strip := fun text => text

def boundaryCopies : ReadCopies where
  categoryName := fun _ => none
  subcategory := fun _ => none

def boundaryDb : TransactionDb where
  transactions := []
  nextId := 1

def boundaryItem (externalId : Option String) : BulkCreateTransactionItemDTO where
  accountId := 1
  accountName := "Budget"
  amount := 100
  transactionType := .expense
  description := some ""
  date := boundaryDate
  externalId := externalId

def boundaryItems : List BulkCreateTransactionItemDTO :=
  List.replicate 500 (boundaryItem none) ++ [boundaryItem (some "x")]

theorem parse_repeated (count : Nat)
    (parsed : parseItem reads accountId accountName fetched = .ok item) :
    (List.replicate count fetched).mapM (parseItem reads accountId accountName) =
      .ok (List.replicate count item) := by
  induction count with
  | zero => rfl
  | succ count ih =>
    rw [replicate_succ, mapM_cons, parsed, ih]
    rfl

theorem boundary_parsed : parseItems boundaryReads boundaryCommand = .ok boundaryItems := by
  have plain : parseItem boundaryReads 1 "Budget" (boundaryFetched none) =
      .ok (boundaryItem none) := by decide +kernel
  have withId : parseItem boundaryReads 1 "Budget" (boundaryFetched (some "x")) =
      .ok (boundaryItem (some "x")) := by decide +kernel
  unfold parseItems boundaryCommand boundaryItems
  rw [mapM_append, parse_repeated 500 plain, mapM_cons, withId]
  rfl

theorem boundary_last_fresh (count : Nat) :
    Fresh boundaryDb 1 (List.replicate count (boundaryItem none)) (boundaryItem (some "x")) := by
  refine ⟨rfl, rfl, ?_⟩
  intro _ member isKey
  rw [eq_of_mem_replicate member] at isKey
  contradiction

end FinanceTracker.Transaction.ChunkTransparency
