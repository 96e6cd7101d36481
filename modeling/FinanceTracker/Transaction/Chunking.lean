import FinanceTracker.Library.Selection
import FinanceTracker.Transaction.BulkImport

/-!
# Where the chunk boundary falls

The import loop keeps an item unless the database or an item kept before it
blocks it. Inside one call an item with an external id and one without never
block each other; across a commit they do, because the database lookups compare
the fuzzy key of both kinds. That difference, and a clash with another user's
row on the unique index, are the only things the chunk boundary can decide.
-/

namespace FinanceTracker.Transaction.Chunking

open Library.Selection Domain BulkImport List

/-- What the loop of one call skips, given the items it kept before. -/
def blocked (db : TransactionDb) (userId : Int) (kept : List BulkCreateTransactionItemDTO)
    (item : BulkCreateTransactionItemDTO) : Bool :=
  match itemExternalIdKey item with
  | some extKey =>
    hasExternalId db userId extKey ||
      kept.any (fun other => itemExternalIdKey other = some extKey) ||
      hasDedupKey db userId true (itemDedupKey item)
  | none =>
    hasDedupKey db userId false (itemDedupKey item) ||
      kept.any fun other =>
        itemExternalIdKey other = none && itemDedupKey other = itemDedupKey item

def keptItems (db : TransactionDb) (userId : Int) (items : List BulkCreateTransactionItemDTO) :
    List BulkCreateTransactionItemDTO :=
  select (blocked db userId) [] items

structure LoopKept (loop : ImportLoop) (kept : List BulkCreateTransactionItemDTO) : Prop where
  ext : ∀ key, key ∈ loop.seenExt ↔ ∃ other ∈ kept, itemExternalIdKey other = some key
  keys : ∀ key, key ∈ loop.seenKeys ↔
    ∃ other ∈ kept, itemExternalIdKey other = none ∧ itemDedupKey other = key

variable {db : TransactionDb} {userId : Int} {items committed : List BulkCreateTransactionItemDTO}
  {item : BulkCreateTransactionItemDTO} {key : ExternalIdKey} {rows : List NewTransaction}
  {copies : ReadCopies}

theorem existing_ext_iff (member : item ∈ items) (isKey : itemExternalIdKey item = some key) :
    key ∈ (lookupExisting db userId items).existingExt ↔ hasExternalId db userId key = true := by
  simp only [lookupExisting, findExistingExternalIds, mem_filter, mem_filterMap,
    and_iff_right_iff_imp]
  exact fun _ => ⟨item, member, isKey⟩

theorem legacy_keys_iff (member : item ∈ items) (isKey : itemExternalIdKey item = some key) :
    itemDedupKey item ∈ (lookupExisting db userId items).legacyKeys ↔
      hasDedupKey db userId true (itemDedupKey item) = true := by
  simp only [lookupExisting, findExistingDedupKeys, mem_filter, mem_map, and_iff_right_iff_imp]
  exact fun _ => ⟨item, ⟨member, by simp [isKey]⟩, rfl⟩

theorem existing_keys_iff (member : item ∈ items) (noKey : itemExternalIdKey item = none) :
    itemDedupKey item ∈ (lookupExisting db userId items).existingKeys ↔
      hasDedupKey db userId false (itemDedupKey item) = true := by
  simp only [lookupExisting, findExistingDedupKeys, mem_filter, mem_map, and_iff_right_iff_imp]
  exact fun _ => ⟨item, ⟨member, by simp [noKey]⟩, rfl⟩

theorem import_item_cases {db : TransactionDb} {userId : Int}
    {items kept : List BulkCreateTransactionItemDTO} {loop : ImportLoop}
    (loopKept : LoopKept loop kept) {item : BulkCreateTransactionItemDTO} (member : item ∈ items) :
    (blocked db userId kept item = true →
      importItem userId (lookupExisting db userId items) loop item = loop.skip) ∧
    (blocked db userId kept item = false →
      LoopKept (importItem userId (lookupExisting db userId items) loop item) (kept ++ [item]) ∧
      (importItem userId (lookupExisting db userId items) loop item).rowsToCreate =
        loop.rowsToCreate ++ [newRow userId item] ∧
      (importItem userId (lookupExisting db userId items) loop item).duplicatesSkipped =
        loop.duplicatesSkipped) := by
  cases kind : itemExternalIdKey item with
  | some extKey =>
    have decided : (extKey ∈ (lookupExisting db userId items).existingExt ||
        extKey ∈ loop.seenExt ||
        itemDedupKey item ∈ (lookupExisting db userId items).legacyKeys : Bool) =
          blocked db userId kept item := by
      rw [Bool.eq_iff_iff]
      simp [blocked, kind, existing_ext_iff member kind, legacy_keys_iff member kind, loopKept.ext]
    unfold importItem
    rw [kind]
    dsimp only
    rw [decided]
    constructor
    · intro isBlocked
      rw [if_pos isBlocked]
    · intro isFree
      rw [if_neg (by simp [isFree])]
      refine ⟨⟨?_, ?_⟩, rfl, rfl⟩
      · intro _
        simp only [ImportLoop.create, mem_cons, loopKept.ext, mem_append, not_mem_nil, or_false]
        constructor
        · rintro (rfl | ⟨other, otherIn, isKey⟩)
          · exact ⟨item, Or.inr rfl, kind⟩
          · exact ⟨other, Or.inl otherIn, isKey⟩
        · rintro ⟨other, otherIn | rfl, isKey⟩
          · exact Or.inr ⟨other, otherIn, isKey⟩
          · rw [kind] at isKey
            exact Or.inl (Option.some.inj isKey).symm
      · intro _
        simp only [ImportLoop.create, loopKept.keys, mem_append, mem_singleton]
        constructor
        · rintro ⟨other, otherIn, rest⟩
          exact ⟨other, Or.inl otherIn, rest⟩
        · rintro ⟨other, otherIn | rfl, noKey, same⟩
          · exact ⟨other, otherIn, noKey, same⟩
          · rw [kind] at noKey
            contradiction
  | none =>
    have decided : (itemDedupKey item ∈ (lookupExisting db userId items).existingKeys ||
        itemDedupKey item ∈ loop.seenKeys : Bool) = blocked db userId kept item := by
      rw [Bool.eq_iff_iff]
      simp [blocked, kind, existing_keys_iff member kind, loopKept.keys]
    unfold importItem
    rw [kind]
    dsimp only
    rw [decided]
    constructor
    · intro isBlocked
      rw [if_pos isBlocked]
    · intro isFree
      rw [if_neg (by simp [isFree])]
      refine ⟨⟨?_, ?_⟩, rfl, rfl⟩
      · intro _
        simp only [ImportLoop.create, loopKept.ext, mem_append, mem_singleton]
        constructor
        · rintro ⟨other, otherIn, isKey⟩
          exact ⟨other, Or.inl otherIn, isKey⟩
        · rintro ⟨other, otherIn | rfl, isKey⟩
          · exact ⟨other, otherIn, isKey⟩
          · rw [kind] at isKey
            contradiction
      · intro _
        simp only [ImportLoop.create, mem_cons, loopKept.keys, mem_append, not_mem_nil, or_false]
        constructor
        · rintro (rfl | ⟨other, otherIn, rest⟩)
          · exact ⟨item, Or.inr rfl, kind, rfl⟩
          · exact ⟨other, Or.inl otherIn, rest⟩
        · rintro ⟨other, otherIn | rfl, noKey, same⟩
          · exact Or.inr ⟨other, otherIn, noKey, same⟩
          · exact Or.inl same.symm

theorem import_loop_selects (db : TransactionDb) (userId : Int)
    (items rest : List BulkCreateTransactionItemDTO)
    (included : ∀ item ∈ rest, item ∈ items) {kept : List BulkCreateTransactionItemDTO}
    {loop : ImportLoop} (loopKept : LoopKept loop kept) :
    (rest.foldl (importItem userId (lookupExisting db userId items)) loop).rowsToCreate =
        loop.rowsToCreate ++ (select (blocked db userId) kept rest).map (newRow userId) ∧
      (rest.foldl (importItem userId (lookupExisting db userId items)) loop).duplicatesSkipped +
        (select (blocked db userId) kept rest).length = loop.duplicatesSkipped + rest.length := by
  induction rest generalizing kept loop with
  | nil => simp
  | cons item rest ih =>
    have cases := @import_item_cases db userId items kept loop loopKept item
      (included item mem_cons_self)
    have restIncluded : ∀ other ∈ rest, other ∈ items :=
      fun other member => included other (mem_cons_of_mem _ member)
    rw [foldl_cons]
    cases decision : blocked db userId kept item with
    | true =>
      rw [select_blocked _ decision, cases.1 decision]
      have skipped : LoopKept loop.skip kept := ⟨loopKept.ext, loopKept.keys⟩
      obtain ⟨rows, count⟩ := ih restIncluded skipped
      refine ⟨rows, ?_⟩
      rw [count, length_cons]
      simp only [ImportLoop.skip]
      omega
    | false =>
      obtain ⟨nextKept, nextRows, nextCount⟩ := cases.2 decision
      rw [select_kept _ decision]
      obtain ⟨rows, count⟩ := ih restIncluded nextKept
      rw [rows, nextRows]
      refine ⟨by simp, ?_⟩
      rw [nextCount] at count
      rw [length_cons, length_cons]
      omega

def numbered (start : Nat) : List NewTransaction → List Transaction
  | [] => []
  | row :: rows => row.toTransaction start :: numbered (start + 1) rows

theorem numbered_append (start : Nat) (first second : List NewTransaction) :
    numbered start (first ++ second) =
      numbered start first ++ numbered (start + first.length) second := by
  induction first generalizing start with
  | nil => simp [numbered]
  | cons row first ih =>
    rw [cons_append, numbered, numbered, ih, length_cons, cons_append]
    congr 3
    omega

theorem numbered_length (start : Nat) (rows : List NewTransaction) :
    (numbered start rows).length = rows.length := by
  induction rows generalizing start with
  | nil => rfl
  | cons row rows ih => simp [numbered, ih]

theorem numbered_inj {start : Nat} {first second : List NewTransaction}
    (same : numbered start first = numbered start second) : first = second := by
  induction first generalizing start second with
  | nil =>
    cases second with
    | nil => rfl
    | cons => contradiction
  | cons row first ih =>
    cases second with
    | nil => contradiction
    | cons other =>
      rw [numbered, numbered, List.cons.injEq] at same
      have sameRow : row = other := by
        cases row
        cases other
        simpa [NewTransaction.toTransaction] using same.1
      rw [sameRow, ih same.2]

/-- The database after rows were appended under consecutive ids. -/
def insertAll (db : TransactionDb) (rows : List NewTransaction) : TransactionDb where
  transactions := db.transactions ++ numbered db.nextId rows
  nextId := db.nextId + rows.length

theorem insert_all_append (db : TransactionDb) (first second : List NewTransaction) :
    insertAll (insertAll db first) second = insertAll db (first ++ second) := by
  simp [insertAll, numbered_append, Nat.add_assoc]

@[simp] theorem insert_all_nil (db : TransactionDb) : insertAll db [] = db := by
  simp [insertAll, numbered]

def SameSlot (first second : NewTransaction) : Prop :=
  first.externalId.isSome = true ∧ first.accountId = second.accountId ∧
    first.externalId = second.externalId

theorem slot_taken_mono {accountId : Int} {externalId : Option String}
    (taken : slotTaken db accountId externalId = true) :
    slotTaken (insertAll db rows) accountId externalId = true := by
  simp only [slotTaken, insertAll, Bool.and_eq_true, any_append, Bool.or_eq_true] at taken ⊢
  exact ⟨taken.1, Or.inl taken.2⟩

theorem any_numbered (start : Nat) (rows : List NewTransaction) (test : Transaction → Bool)
    (ignoresId : ∀ row first second, test (NewTransaction.toTransaction row first) =
      test (NewTransaction.toTransaction row second)) :
    (numbered start rows).any test = rows.any fun row => test (row.toTransaction 0) := by
  induction rows generalizing start with
  | nil => rfl
  | cons row rows ih =>
    rw [numbered, any_cons, any_cons, ih, ignoresId row start 0]

theorem slot_taken_insert (db : TransactionDb) (rows : List NewTransaction) (accountId : Int)
    (externalId : Option String) :
    slotTaken (insertAll db rows) accountId externalId =
      (slotTaken db accountId externalId || (externalId.isSome && rows.any fun row =>
        row.accountId = accountId && row.externalId = externalId)) := by
  unfold slotTaken insertAll
  rw [any_append, any_numbered _ _ _ (fun _ _ _ => rfl), Bool.and_or_distrib_left]
  rfl

/-- One step of the loop: an accepted row stands in front of the rows created after it. -/
theorem bulk_create_cons {next : TransactionDb} {row : NewTransaction} {transaction : Transaction}
    (created : createRow db row = .ok (next, transaction)) :
    bulkCreate db (row :: rows) =
      (bulkCreate next rows).map fun rest => (rest.1, transaction :: rest.2) := by
  rw [bulkCreate, created]
  change (bulkCreate next rows >>= fun rest => pure (rest.1, transaction :: rest.2)) = _
  cases bulkCreate next rows with
  | ok | error => rfl

theorem bulk_create_ok (free : ∀ row ∈ rows, slotTaken db row.accountId row.externalId = false)
    (distinct : rows.Pairwise fun first second => ¬ SameSlot first second) :
    bulkCreate db rows = .ok (insertAll db rows, numbered db.nextId rows) := by
  induction rows generalizing db with
  | nil => simp [bulkCreate, numbered]
  | cons row rows ih =>
    rw [pairwise_cons] at distinct
    have headFree := free row mem_cons_self
    have created : createRow db row = .ok (insertAll db [row], row.toTransaction db.nextId) := by
      unfold createRow
      rw [if_neg (by simp [headFree])]
      rfl
    have restFree : ∀ other ∈ rows,
        slotTaken (insertAll db [row]) other.accountId other.externalId = false := by
      intro other member
      rw [slot_taken_insert, free other (mem_cons_of_mem _ member)]
      have apart := distinct.1 other member
      by_contra taken
      apply apart
      simp only [any_cons, any_nil, Bool.or_false, Bool.false_or,
        Bool.and_eq_true, decide_eq_true_eq, Bool.not_eq_false] at taken
      exact ⟨by rw [taken.2.2]; exact taken.1, taken.2.1, taken.2.2⟩
    have rest := ih restFree distinct.2
    rw [bulk_create_cons created, rest]
    change Except.ok (insertAll (insertAll db [row]) rows, _) = _
    rw [insert_all_append]
    rfl

theorem bulk_create_error {row : NewTransaction} (member : row ∈ rows)
    (taken : slotTaken db row.accountId row.externalId = true) :
    ∃ failure, bulkCreate db rows = .error failure := by
  induction rows generalizing db with
  | nil => contradiction
  | cons head rows ih =>
    by_cases headTaken : slotTaken db head.accountId head.externalId = true
    · rw [bulkCreate, createRow, if_pos headTaken]
      exact ⟨_, rfl⟩
    · have created : createRow db head =
          .ok (insertAll db [head], head.toTransaction db.nextId) := by
        unfold createRow
        rw [if_neg headTaken]
        rfl
      rcases mem_cons.mp member with rfl | later
      · exact absurd taken headTaken
      · obtain ⟨failure, failed⟩ := ih later (slot_taken_mono taken)
        rw [bulk_create_cons created, failed]
        exact ⟨failure, rfl⟩

/-- Items as the handler builds them: an external id is never the empty text. -/
def ProperIds (items : List BulkCreateTransactionItemDTO) : Prop :=
  ∀ item ∈ items, item.externalId ≠ some ""

def itemRow (copies : ReadCopies) (userId : Int) (item : BulkCreateTransactionItemDTO) :
    NewTransaction :=
  resolveNames copies (newRow userId item)

def itemRows (copies : ReadCopies) (userId : Int) (items : List BulkCreateTransactionItemDTO) :
    List NewTransaction :=
  items.map (itemRow copies userId)

def withItems (copies : ReadCopies) (userId : Int) (db : TransactionDb)
    (items : List BulkCreateTransactionItemDTO) : TransactionDb :=
  insertAll db (itemRows copies userId items)

theorem with_items_append (copies : ReadCopies) (userId : Int) (db : TransactionDb)
    (first second : List BulkCreateTransactionItemDTO) :
    withItems copies userId (withItems copies userId db first) second =
      withItems copies userId db (first ++ second) := by
  simp [withItems, insert_all_append, itemRows]

def importedIds (copies : ReadCopies) (userId : Int) (db : TransactionDb)
    (items : List BulkCreateTransactionItemDTO) : List Nat :=
  (numbered db.nextId (itemRows copies userId items)).map Transaction.id

theorem proper_external_id (proper : item.externalId ≠ some "") :
    itemExternalIdKey item = item.externalId.map fun externalId =>
      { accountId := item.accountId, externalId := externalId } := by
  unfold itemExternalIdKey
  cases present : item.externalId with
  | none => rfl
  | some externalId =>
    have nonempty : externalId ≠ "" := by
      intro empty
      rw [present, empty] at proper
      contradiction
    simp [nonempty]

/-- Two kept items never want one slot of the index. -/
theorem kept_distinct (items : List BulkCreateTransactionItemDTO) (proper : ProperIds items)
    (kept : List BulkCreateTransactionItemDTO) :
    (itemRows copies userId (select (blocked db userId) kept items)).Pairwise
      (fun first second => ¬ SameSlot first second) ∧
    ∀ item ∈ select (blocked db userId) kept items, ∀ other ∈ kept, other.externalId ≠ some "" →
      ¬ SameSlot (itemRow copies userId other) (itemRow copies userId item) := by
  induction items generalizing kept with
  | nil => simp [itemRows]
  | cons item items ih =>
    have restProper : ProperIds items := fun other member =>
      proper other (mem_cons_of_mem _ member)
    have itemProper := proper item mem_cons_self
    cases decision : blocked db userId kept item with
    | true =>
      rw [select_blocked _ decision]
      exact ih restProper kept
    | false =>
      rw [select_kept _ decision]
      obtain ⟨apart, fromKept⟩ := ih restProper (kept ++ [item])
      refine ⟨?_, ?_⟩
      · unfold itemRows
        rw [map_cons, pairwise_cons]
        refine ⟨?_, apart⟩
        intro _ rowIn
        obtain ⟨other, otherIn, rfl⟩ := mem_map.mp rowIn
        exact fromKept other otherIn item (by simp) itemProper
      · intro chosen chosenIn other otherIn otherProper
        rcases mem_cons.mp chosenIn with rfl | later
        · rintro ⟨isSome, account, external⟩
          change other.externalId.isSome = true at isSome
          change other.accountId = chosen.accountId at account
          change other.externalId = chosen.externalId at external
          have sameKey : itemExternalIdKey other = itemExternalIdKey chosen := by
            rw [proper_external_id otherProper, proper_external_id itemProper, account, external]
          obtain ⟨text, isText⟩ := Option.isSome_iff_exists.mp isSome
          have chosenKey : itemExternalIdKey chosen =
              some { accountId := chosen.accountId, externalId := text } := by
            rw [proper_external_id itemProper, ← external, isText]
            rfl
          have isBlocked : blocked db userId kept chosen = true := by
            unfold blocked
            rw [chosenKey]
            simp only [Bool.or_eq_true, any_eq_true, decide_eq_true_eq]
            exact Or.inl (Or.inr ⟨other, otherIn, sameKey.trans chosenKey⟩)
          rw [decision] at isBlocked
          contradiction
        · exact fromKept chosen later other (mem_append_left _ otherIn) otherProper

/-- A row of another user holds the slot an item needs. -/
def clashes (db : TransactionDb) (item : BulkCreateTransactionItemDTO) : Bool :=
  slotTaken db item.accountId item.externalId

/-- The answer to a call that keeps these of its items. -/
def importResult (copies : ReadCopies) (userId : Int) (db : TransactionDb)
    (items kept : List BulkCreateTransactionItemDTO) : BulkCreateResultDTO where
  imported := kept.length
  duplicatesSkipped := items.length - kept.length
  errors := 0
  importedIds := importedIds copies userId db kept

theorem rows_to_insert (copies : ReadCopies) (db : TransactionDb) (userId : Int)
    (items : List BulkCreateTransactionItemDTO) :
    (items.foldl (importItem userId (lookupExisting db userId items)) {}).rowsToCreate.map
      (resolveNames copies) = itemRows copies userId (keptItems db userId items) := by
  have start : LoopKept {} [] := ⟨by simp, by simp⟩
  rw [(import_loop_selects db userId items items (fun _ member => member) start).1]
  simp [itemRows, itemRow, keptItems, Function.comp_def]

theorem bulk_import_ok (proper : ProperIds items)
    (free : ∀ item ∈ keptItems db userId items, clashes db item = false) :
    bulkImport copies db userId items = .ok (withItems copies userId db (keptItems db userId items),
        importResult copies userId db items (keptItems db userId items)) := by
  have start : LoopKept {} [] := ⟨by simp, by simp⟩
  obtain ⟨_, count⟩ := import_loop_selects db userId items items
    (fun _ member => member) start
  have rowsFree : ∀ row ∈ itemRows copies userId (keptItems db userId items),
      slotTaken db row.accountId row.externalId = false := by
    intro _ rowIn
    obtain ⟨item, itemIn, rfl⟩ := mem_map.mp rowIn
    exact free item itemIn
  have created := bulk_create_ok rowsFree (kept_distinct items proper []).1
  unfold bulkImport
  dsimp only
  rw [rows_to_insert, created]
  change Except.ok _ = Except.ok _
  have skipped : (items.foldl (importItem userId (lookupExisting db userId items))
      {}).duplicatesSkipped = items.length - (keptItems db userId items).length := by
    have bound := select_length_le (blocked db userId) [] items
    change _ = items.length - (select (blocked db userId) [] items).length
    simp only at count
    omega
  rw [skipped, numbered_length]
  simp [withItems, importResult, importedIds, itemRows]

theorem bulk_import_error {copies : ReadCopies} {db : TransactionDb} {userId : Int}
    {items : List BulkCreateTransactionItemDTO} {item : BulkCreateTransactionItemDTO}
    (member : item ∈ keptItems db userId items) (clash : clashes db item = true) :
    ∃ failure, bulkImport copies db userId items = .error failure := by
  have rowIn : itemRow copies userId item ∈ itemRows copies userId (keptItems db userId items) :=
    mem_map_of_mem member
  obtain ⟨failure, failed⟩ := bulk_create_error rowIn clash
  refine ⟨failure, ?_⟩
  unfold bulkImport
  dsimp only
  rw [rows_to_insert, failed]
  rfl

/-- An earlier committed item of the other kind has the fuzzy key of the item. -/
def cross (committed : List BulkCreateTransactionItemDTO)
    (item : BulkCreateTransactionItemDTO) : Bool :=
  committed.any fun other =>
    itemDedupKey other = itemDedupKey item &&
      (itemExternalIdKey other).isSome ≠ (itemExternalIdKey item).isSome

/-- A test that does not look at ids sees the stored rows and those of the items. -/
theorem any_with_items (copies : ReadCopies) (userId : Int) (db : TransactionDb)
    (committed : List BulkCreateTransactionItemDTO) (test : Transaction → Bool)
    (ignoresId : ∀ row first second, test (NewTransaction.toTransaction row first) =
      test (NewTransaction.toTransaction row second)) :
    (withItems copies userId db committed).transactions.any test =
      (db.transactions.any test || committed.any fun other =>
        test ((itemRow copies userId other).toTransaction 0)) := by
  unfold withItems insertAll itemRows
  rw [any_append, any_numbered _ _ _ ignoresId, any_map]
  rfl

theorem has_dedup_key_with_items (copies : ReadCopies) (userId : Int) (db : TransactionDb)
    (committed : List BulkCreateTransactionItemDTO) (onlyMissing : Bool) (key : DedupKey) :
    hasDedupKey (withItems copies userId db committed) userId onlyMissing key =
      (hasDedupKey db userId onlyMissing key || committed.any fun other =>
        (!onlyMissing || other.externalId.isNone) && itemDedupKey other = key) := by
  unfold hasDedupKey
  rw [any_with_items _ _ _ _ _ fun _ _ _ => rfl]
  congr 2
  funext other
  change (decide (userId = userId) && true && (!onlyMissing || other.externalId.isNone) &&
    decide (itemDedupKey other = key)) = _
  rw [decide_eq_true rfl, Bool.true_and, Bool.true_and]

theorem has_external_id_with_items (copies : ReadCopies) (userId : Int) (db : TransactionDb)
    (committed : List BulkCreateTransactionItemDTO) (key : ExternalIdKey) :
    hasExternalId (withItems copies userId db committed) userId key =
      (hasExternalId db userId key || committed.any fun other =>
        other.accountId = key.accountId && other.externalId = some key.externalId) := by
  unfold hasExternalId
  rw [any_with_items _ _ _ _ _ fun _ _ _ => rfl]
  congr 2
  funext other
  change (decide (userId = userId) && true && decide (other.accountId = key.accountId) &&
    decide (other.externalId = some key.externalId)) = _
  rw [decide_eq_true rfl, Bool.true_and, Bool.true_and]

theorem external_key_iff (proper : item.externalId ≠ some "") (key : ExternalIdKey) :
    itemExternalIdKey item = some key ↔
      item.accountId = key.accountId ∧ item.externalId = some key.externalId := by
  rw [proper_external_id proper]
  cases item.externalId with
  | none => simp
  | some =>
    cases key
    simp

theorem external_key_none_iff (proper : item.externalId ≠ some "") :
    itemExternalIdKey item = none ↔ item.externalId = none := by
  rw [proper_external_id proper]
  simp

theorem blocked_with_items (proper : ProperIds committed) (kept : List BulkCreateTransactionItemDTO)
    (item : BulkCreateTransactionItemDTO) :
    blocked (withItems copies userId db committed) userId kept item =
      (blocked db userId (committed ++ kept) item || cross committed item) := by
  have extAny : ∀ key, (committed.any fun other =>
      decide (other.accountId = key.accountId) && decide (other.externalId = some key.externalId)) =
        true ↔ ∃ other ∈ committed, itemExternalIdKey other = some key := by
    intro key
    simp only [any_eq_true, Bool.and_eq_true, decide_eq_true_eq]
    constructor
    · rintro ⟨other, member, same⟩
      exact ⟨other, member, (external_key_iff (proper other member) key).mpr same⟩
    · rintro ⟨other, member, same⟩
      exact ⟨other, member, (external_key_iff (proper other member) key).mp same⟩
  have plainAny : (committed.any fun other =>
      (!true || other.externalId.isNone) && decide (itemDedupKey other = itemDedupKey item)) =
        true ↔ ∃ other ∈ committed,
          itemExternalIdKey other = none ∧ itemDedupKey other = itemDedupKey item := by
    simp only [any_eq_true, Bool.not_true, Bool.false_or, Bool.and_eq_true,
      decide_eq_true_eq, Option.isNone_iff_eq_none]
    constructor
    · rintro ⟨other, member, noId, same⟩
      exact ⟨other, member, (external_key_none_iff (proper other member)).mpr noId, same⟩
    · rintro ⟨other, member, noKey, same⟩
      exact ⟨other, member, (external_key_none_iff (proper other member)).mp noKey, same⟩
  rw [Bool.eq_iff_iff]
  unfold blocked cross
  cases kind : itemExternalIdKey item with
  | some =>
    dsimp only
    rw [has_external_id_with_items, has_dedup_key_with_items]
    simp only [Bool.or_eq_true, extAny, plainAny, any_append, any_eq_true,
      Bool.and_eq_true, decide_eq_true_eq, Option.isSome_some]
    have otherKind : ∀ other : BulkCreateTransactionItemDTO,
        (itemExternalIdKey other).isSome ≠ true ↔ itemExternalIdKey other = none := by
      intro _
      simp
    simp only [otherKind]
    constructor
    · rintro (((inDb | inCommitted) | inKept) | legacyDb | ⟨other, member, noKey, same⟩)
      · exact Or.inl (Or.inl (Or.inl inDb))
      · exact Or.inl (Or.inl (Or.inr (Or.inl inCommitted)))
      · exact Or.inl (Or.inl (Or.inr (Or.inr inKept)))
      · exact Or.inl (Or.inr legacyDb)
      · exact Or.inr ⟨other, member, same, noKey⟩
    · rintro (((inDb | inCommitted | inKept) | legacyDb) | ⟨other, member, same, noKey⟩)
      · exact Or.inl (Or.inl (Or.inl inDb))
      · exact Or.inl (Or.inl (Or.inr inCommitted))
      · exact Or.inl (Or.inr inKept)
      · exact Or.inr (Or.inl legacyDb)
      · exact Or.inr (Or.inr ⟨other, member, noKey, same⟩)
  | none =>
    dsimp only
    rw [has_dedup_key_with_items]
    simp only [Bool.or_eq_true, any_append, any_eq_true, Bool.not_false,
      Bool.true_or, Bool.true_and, Bool.and_eq_true, decide_eq_true_eq, Option.isSome_none]
    constructor
    · rintro ((inDb | ⟨other, member, same⟩) | inKept)
      · exact Or.inl (Or.inl inDb)
      · cases otherKind : itemExternalIdKey other with
        | none => exact Or.inl (Or.inr (Or.inl ⟨other, member, otherKind, same⟩))
        | some => exact Or.inr ⟨other, member, same, by simp [otherKind]⟩
      · exact Or.inl (Or.inr (Or.inr inKept))
    · rintro ((inDb | ⟨other, member, _, same⟩ | inKept) | ⟨other, member, same, _⟩)
      · exact Or.inl (Or.inl inDb)
      · exact Or.inl (Or.inr ⟨other, member, same⟩)
      · exact Or.inr inKept
      · exact Or.inl (Or.inr ⟨other, member, same⟩)

theorem kept_after_commit (proper : ProperIds committed) (items : List BulkCreateTransactionItemDTO) :
    keptItems (withItems copies userId db committed) userId items =
      select (fun kept item => blocked db userId (committed ++ kept) item || cross committed item)
        [] items :=
  select_congr _ fun kept item _ => blocked_with_items proper kept item

/-- Without a crossing item the later call keeps what one long call keeps there. -/
theorem kept_after_commit_uncrossed (proper : ProperIds committed)
    (uncrossed : ∀ item ∈ select (blocked db userId) committed items, cross committed item = false) :
    keptItems (withItems copies userId db committed) userId items =
      select (blocked db userId) committed items := by
  have shifted := select_shift (blocked db userId) committed [] items
  rw [append_nil] at shifted
  rw [kept_after_commit proper, select_or_of_unused, shifted]
  rw [shifted]
  exact uncrossed

theorem clashes_with_items (copies : ReadCopies) (userId : Int) (db : TransactionDb)
    (committed : List BulkCreateTransactionItemDTO) (item : BulkCreateTransactionItemDTO) :
    clashes (withItems copies userId db committed) item = (clashes db item ||
      (item.externalId.isSome && committed.any fun other =>
        other.accountId = item.accountId && other.externalId = item.externalId)) := by
  unfold clashes withItems
  rw [slot_taken_insert]
  unfold itemRows
  rw [any_map]
  rfl

theorem kept_clash_iff (committedProper : ProperIds committed) (proper : ProperIds items)
    (kept : item ∈ keptItems (withItems copies userId db committed) userId items) :
    clashes (withItems copies userId db committed) item = clashes db item := by
  rw [clashes_with_items]
  have itemProper := proper item (mem_of_select _ kept)
  obtain ⟨_, _, free⟩ := (mem_select_iff _ _ _ _).mp kept
  rw [blocked_with_items committedProper, Bool.or_eq_false_iff] at free
  suffices none : (item.externalId.isSome && committed.any fun other =>
      decide (other.accountId = item.accountId) && decide (other.externalId = item.externalId)) =
        false by
    rw [none, Bool.or_false]
  rw [Bool.eq_false_iff]
  intro taken
  simp only [Bool.and_eq_true, any_eq_true, decide_eq_true_eq] at taken
  obtain ⟨isSome, other, otherIn, account, external⟩ := taken
  obtain ⟨text, isText⟩ := Option.isSome_iff_exists.mp isSome
  have itemKey : itemExternalIdKey item =
      some { accountId := item.accountId, externalId := text } :=
    (external_key_iff itemProper _).mpr ⟨rfl, isText⟩
  have otherKey : itemExternalIdKey other =
      some { accountId := item.accountId, externalId := text } :=
    (external_key_iff (committedProper other otherIn) _).mpr ⟨account, external.trans isText⟩
  have isBlocked := free.1
  unfold blocked at isBlocked
  rw [itemKey] at isBlocked
  simp only [Bool.or_eq_false_iff, any_append] at isBlocked
  have absent := isBlocked.1.2.1
  rw [Bool.eq_false_iff] at absent
  apply absent
  simp only [any_eq_true, decide_eq_true_eq]
  exact ⟨other, otherIn, otherKey⟩

/-- An item the import keeps, said from the database and the items before it: its
key is not stored, and no earlier item of its kind takes the key first. An
earlier item with the same external id takes it unless a legacy row matches it. -/
def Fresh (db : TransactionDb) (userId : Int) (before : List BulkCreateTransactionItemDTO)
    (item : BulkCreateTransactionItemDTO) : Prop :=
  match itemExternalIdKey item with
  | some key =>
    hasExternalId db userId key = false ∧ hasDedupKey db userId true (itemDedupKey item) = false ∧
      ∀ other ∈ before, itemExternalIdKey other = some key →
        hasDedupKey db userId true (itemDedupKey other) = true
  | none =>
    hasDedupKey db userId false (itemDedupKey item) = false ∧
      ∀ other ∈ before, itemExternalIdKey other = none → itemDedupKey other ≠ itemDedupKey item

def KeptAt (db : TransactionDb) (userId : Int) (items : List BulkCreateTransactionItemDTO)
    (position : Nat) (item : BulkCreateTransactionItemDTO) : Prop :=
  items[position]? = some item ∧ Fresh db userId (items.take position) item

theorem kept_items_append (db : TransactionDb) (userId : Int)
    (first second : List BulkCreateTransactionItemDTO) :
    keptItems db userId (first ++ second) = keptItems db userId first ++
      select (blocked db userId) (keptItems db userId first) second := by
  unfold keptItems
  rw [select_append, nil_append]

theorem kept_take_subset {position : Nat}
    (member : item ∈ keptItems db userId (items.take position)) :
    item ∈ keptItems db userId items := by
  have split := kept_items_append db userId (items.take position) (items.drop position)
  rw [take_append_drop] at split
  rw [split]
  exact mem_append_left _ member

theorem ext_kept_of_free (member : item ∈ items) (isKey : itemExternalIdKey item = some key)
    (newId : hasExternalId db userId key = false)
    (noLegacy : hasDedupKey db userId true (itemDedupKey item) = false) :
    ∃ other ∈ keptItems db userId items, itemExternalIdKey other = some key := by
  obtain ⟨position, found⟩ := mem_iff_getElem?.mp member
  cases decision : blocked db userId (keptItems db userId (items.take position)) item with
  | false =>
    refine ⟨item, (mem_select_iff _ _ _ _).mpr ⟨position, found, ?_⟩, isKey⟩
    exact decision
  | true =>
    unfold blocked at decision
    rw [isKey] at decision
    simp only [newId, noLegacy, Bool.false_or, Bool.or_false, any_eq_true,
      decide_eq_true_eq] at decision
    obtain ⟨other, otherIn, same⟩ := decision
    exact ⟨other, kept_take_subset otherIn, same⟩

theorem plain_kept_of_free (member : item ∈ items) (noKey : itemExternalIdKey item = none)
    (newKey : hasDedupKey db userId false (itemDedupKey item) = false) :
    ∃ other ∈ keptItems db userId items,
      itemExternalIdKey other = none ∧ itemDedupKey other = itemDedupKey item := by
  obtain ⟨position, found⟩ := mem_iff_getElem?.mp member
  cases decision : blocked db userId (keptItems db userId (items.take position)) item with
  | false =>
    refine ⟨item, (mem_select_iff _ _ _ _).mpr ⟨position, found, ?_⟩, noKey, rfl⟩
    exact decision
  | true =>
    unfold blocked at decision
    rw [noKey] at decision
    simp only [newKey, Bool.false_or, any_eq_true, Bool.and_eq_true, decide_eq_true_eq] at decision
    obtain ⟨other, otherIn, same⟩ := decision
    exact ⟨other, kept_take_subset otherIn, same⟩

theorem free_iff_fresh (before : List BulkCreateTransactionItemDTO)
    (item : BulkCreateTransactionItemDTO) :
    blocked db userId (keptItems db userId before) item = false ↔ Fresh db userId before item := by
  have keptFree : ∀ other ∈ keptItems db userId before,
      ∃ kept, blocked db userId kept other = false := by
    intro _ member
    obtain ⟨_, _, free⟩ := (mem_select_iff _ _ _ _).mp member
    exact ⟨_, free⟩
  unfold Fresh
  cases kind : itemExternalIdKey item with
  | some =>
    unfold blocked
    rw [kind]
    simp only [Bool.or_eq_false_iff, any_eq_false, decide_eq_true_eq]
    constructor
    · rintro ⟨⟨newId, unseen⟩, noLegacy⟩
      refine ⟨newId, noLegacy, ?_⟩
      intro _ member isKey
      by_contra otherLegacy
      obtain ⟨kept, keptIn, keptKey⟩ :=
        ext_kept_of_free member isKey newId (by simpa using otherLegacy)
      exact unseen kept keptIn keptKey
    · rintro ⟨newId, noLegacy, earlier⟩
      refine ⟨⟨newId, ?_⟩, noLegacy⟩
      intro other otherIn isKey
      obtain ⟨_, free⟩ := keptFree other otherIn
      unfold blocked at free
      rw [isKey] at free
      simp only [Bool.or_eq_false_iff] at free
      have legacy := earlier other (mem_of_select _ otherIn) isKey
      rw [free.2] at legacy
      contradiction
  | none =>
    unfold blocked
    rw [kind]
    simp only [Bool.or_eq_false_iff, any_eq_false, Bool.and_eq_true, decide_eq_true_eq, not_and]
    constructor
    · rintro ⟨newKey, unseen⟩
      refine ⟨newKey, ?_⟩
      intro _ member noKey same
      rw [← same] at newKey
      obtain ⟨kept, keptIn, keptKind, keptKey⟩ := plain_kept_of_free member noKey newKey
      exact unseen kept keptIn keptKind (keptKey.trans same)
    · rintro ⟨newKey, earlier⟩
      refine ⟨newKey, ?_⟩
      intro other otherIn noKey same
      exact earlier other (mem_of_select _ otherIn) noKey same

/-- What one long call keeps in the first chunks. -/
def wholeKept (db : TransactionDb) (userId : Int) (items : List BulkCreateTransactionItemDTO)
    (number : Nat) : List BulkCreateTransactionItemDTO :=
  keptItems db userId (items.take (bulkImportChunkSize * number))

/-- What one long call keeps in one chunk. -/
def chunkKept (db : TransactionDb) (userId : Int) (items : List BulkCreateTransactionItemDTO)
    (number : Nat) : List BulkCreateTransactionItemDTO :=
  select (blocked db userId) (wholeKept db userId items number) (chunk items number)

theorem take_next_chunk (items : List BulkCreateTransactionItemDTO) (number : Nat) :
    items.take (bulkImportChunkSize * (number + 1)) =
      items.take (bulkImportChunkSize * number) ++ chunk items number := by
  rw [Nat.mul_succ, take_add]
  rfl

theorem whole_kept_succ (db : TransactionDb) (userId : Int)
    (items : List BulkCreateTransactionItemDTO) (number : Nat) :
    wholeKept db userId items (number + 1) =
      wholeKept db userId items number ++ chunkKept db userId items number := by
  unfold wholeKept chunkKept
  rw [take_next_chunk, kept_items_append]
  rfl

theorem whole_kept_subset {db : TransactionDb} {userId : Int}
    {items : List BulkCreateTransactionItemDTO} {number : Nat}
    {item : BulkCreateTransactionItemDTO} (member : item ∈ wholeKept db userId items number) :
    item ∈ keptItems db userId items :=
  kept_take_subset member

theorem mem_kept_iff :
    item ∈ keptItems db userId items ↔ ∃ position, KeptAt db userId items position item := by
  unfold keptItems
  rw [mem_select_iff]
  apply exists_congr
  intro position
  exact and_congr_right fun _ => free_iff_fresh (items.take position) item

theorem mem_whole_kept_iff {number : Nat} : item ∈ wholeKept db userId items number ↔
      ∃ position, position / bulkImportChunkSize < number ∧
        KeptAt db userId items position item := by
  unfold wholeKept
  rw [mem_kept_iff]
  apply exists_congr
  intro position
  unfold KeptAt
  by_cases inside : position < bulkImportChunkSize * number
  · have number_bound : position / bulkImportChunkSize < number :=
      Nat.div_lt_of_lt_mul inside
    rw [List.getElem?_take_of_lt inside, take_take, Nat.min_eq_left (Nat.le_of_lt inside)]
    simp [number_bound]
  · have outside : ¬ position / bulkImportChunkSize < number := by
      rw [Nat.div_lt_iff_lt_mul (by decide), Nat.mul_comm]
      exact inside
    simp [outside, inside]

theorem mem_chunk_kept_iff {number : Nat} : item ∈ chunkKept db userId items number ↔
      ∃ position, position / bulkImportChunkSize = number ∧
        KeptAt db userId items position item := by
  have offset : ∀ inside, inside ≤ bulkImportChunkSize →
      wholeKept db userId items number ++ select (blocked db userId)
        (wholeKept db userId items number) ((chunk items number).take inside) =
      keptItems db userId (items.take (bulkImportChunkSize * number + inside)) := by
    intro _ bound
    rw [take_add, kept_items_append]
    unfold wholeKept chunk
    rw [take_take, Nat.min_eq_left bound]
  unfold chunkKept
  rw [mem_select_iff]
  constructor
  · rintro ⟨inside, found, free⟩
    have bound : inside < bulkImportChunkSize := by
      unfold chunk at found
      by_contra outside
      rw [List.getElem?_take_eq_none (Nat.le_of_not_lt outside)] at found
      contradiction
    rw [offset inside (Nat.le_of_lt bound), free_iff_fresh] at free
    refine ⟨bulkImportChunkSize * number + inside, ?_, ?_, free⟩
    · rw [Nat.mul_add_div (by decide), Nat.div_eq_of_lt bound, Nat.add_zero]
    · unfold chunk at found
      rw [List.getElem?_take_of_lt bound, List.getElem?_drop] at found
      exact found
  · rintro ⟨position, isNumber, found, fresh⟩
    have decompose := Nat.div_add_mod position bulkImportChunkSize
    rw [isNumber] at decompose
    have bound : position % bulkImportChunkSize < bulkImportChunkSize :=
      Nat.mod_lt _ (by decide)
    refine ⟨position % bulkImportChunkSize, ?_, ?_⟩
    · unfold chunk
      rw [List.getElem?_take_of_lt bound, List.getElem?_drop, decompose]
      exact found
    · rw [offset _ (Nat.le_of_lt bound), decompose, free_iff_fresh]
      exact fresh

end FinanceTracker.Transaction.Chunking
