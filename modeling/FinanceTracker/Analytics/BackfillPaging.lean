import FinanceTracker.Analytics.Backfill

/-!
# The paging of the backfill

The loop of `_backfill_transactions` against any source. Each request that does not end it finds
an id it has not seen, which bounds the requests by the ids there are.
-/

namespace FinanceTracker.Analytics.BackfillPaging

open TransactionStore Backfill List

/-- What the loop holds between two requests, with the rows it has handed on. -/
structure Paging where
  seenIds : Finset Int := ∅
  rows : List BackfillRow := []
  total : ℕ := 0
  skip : ℕ := 0
  running : Bool := true

/-- The answers of the endpoint, by the number of the request and its `skip`. -/
abbrev Source := ℕ → ℕ → Page

/-- The body of the loop for one answer. -/
def readPage (state : Paging) (page : Page) : Paging :=
  let newRows := page.items.filter fun row => row.id ∉ state.seenIds
  let seenIds := state.seenIds ∪ (newRows.map BackfillRow.id).toFinset
  let read := { state with seenIds, rows := state.rows ++ newRows, total := page.totalCount }
  if newRows = [] then { state with total := page.totalCount, running := false }
  else if page.items.length < pageSize then { read with running := false }
  else if page.totalCount ≤ seenIds.card then { read with running := false }
  else { read with skip := state.skip + pageSize }

def turn (state : Paging) (page : Page) : Paging :=
  if state.running then readPage state page else state

def paging (source : Source) : ℕ → Paging
  | 0 => {}
  | number + 1 =>
    let state := paging source number
    turn state (source number state.skip)

/-- The calls of `upsert_core`; a date that does not parse raises. -/
def upsertCalls (reads : BackfillReads) (userId : Int) : List BackfillRow → List (Int × CoreParams)
  | [] => []
  | row :: rows =>
    match reads.parseDate row.date with
    | none => []
    | some txDate =>
      (row.id, backfillParams reads userId row txDate) :: upsertCalls reads userId rows

def Readable (reads : BackfillReads) (source : Source) : Prop :=
  ∀ number skip, ∀ row ∈ (source number skip).items, (reads.parseDate row.date).isSome = true

/-- No answer names an id twice. -/
def Unrepeated (source : Source) : Prop :=
  ∀ number skip, ((source number skip).items.map BackfillRow.id).Nodup

/-- The source honours `skip` and `limit` over these rows and tells of no fewer. -/
structure Honours (source : Source) (rows : List BackfillRow) : Prop where
  distinct : (rows.map BackfillRow.id).Nodup
  items : ∀ number skip, (source number skip).items = (rows.drop skip).take pageSize
  total : ∀ number skip, rows.length ≤ (source number skip).totalCount

variable {source : Source} {state : Paging} {page : Page} {reads : BackfillReads} {number : ℕ}
  {rows : List BackfillRow} {userId : Int}

def Handed (state : Paging) : Prop :=
  state.seenIds = (state.rows.map BackfillRow.id).toFinset

theorem mem_new_rows {row : BackfillRow} :
    row ∈ page.items.filter (fun row => row.id ∉ state.seenIds) ↔
      row ∈ page.items ∧ row.id ∉ state.seenIds := by
  rw [mem_filter, decide_eq_true_iff]

theorem seen_new_ids (state : Paging) (page : Page) : state.seenIds ∪
        ((page.items.filter fun row => row.id ∉ state.seenIds).map BackfillRow.id).toFinset =
      state.seenIds ∪ (page.items.map BackfillRow.id).toFinset := by
  ext id
  simp only [Finset.mem_union, mem_toFinset, mem_map, mem_new_rows]
  by_cases before : id ∈ state.seenIds
  · simp [before]
  · simp only [before, false_or]
    constructor
    · intro ⟨row, ⟨inPage, _⟩, same⟩
      exact ⟨row, inPage, same⟩
    · intro ⟨row, inPage, same⟩
      exact ⟨row, ⟨inPage, same ▸ before⟩, same⟩

theorem read_page_seen : (readPage state page).seenIds =
    state.seenIds ∪ (page.items.map BackfillRow.id).toFinset := by
  rw [← seen_new_ids]
  unfold readPage
  dsimp only
  split
  next empty => rw [empty, map_nil, toFinset_nil, Finset.union_empty]
  next =>
    split
    · rfl
    · split
      · rfl
      · rfl

theorem read_page_rows : (readPage state page).rows =
    state.rows ++ page.items.filter fun row => row.id ∉ state.seenIds := by
  unfold readPage
  dsimp only
  split
  next empty => rw [empty, append_nil]
  next =>
    split
    · rfl
    · split
      · rfl
      · rfl

theorem zero_total_ends (zero : page.totalCount = 0) : (readPage state page).running = false := by
  unfold readPage
  dsimp only
  split
  · rfl
  · split
    · rfl
    · rw [zero, if_pos (Nat.zero_le _)]

theorem read_page_handed (handed : Handed state) : Handed (readPage state page) := by
  unfold Handed at handed ⊢
  rw [read_page_seen, read_page_rows, map_append, toFinset_append, ← handed, seen_new_ids]

/-- An answer after which the loop goes on holds a new id. -/
theorem read_page_grows (running : (readPage state page).running = true) :
    state.seenIds.card < (readPage state page).seenIds.card := by
  have found : page.items.filter (fun row => row.id ∉ state.seenIds) ≠ [] := by
    intro none
    unfold readPage at running
    rw [if_pos none] at running
    contradiction
  obtain ⟨row, member⟩ := exists_mem_of_ne_nil _ found
  obtain ⟨inPage, unseen⟩ := mem_new_rows.mp member
  rw [read_page_seen]
  apply Finset.card_lt_card
  apply Finset.ssubset_iff_subset_ne.mpr
  constructor
  · exact Finset.subset_union_left
  · intro same
    apply unseen
    rw [same]
    exact Finset.mem_union_right _ (mem_toFinset.mpr (mem_map_of_mem inPage))

theorem paging_next (running : (paging source number).running = true) : paging source (number + 1) =
      readPage (paging source number) (source number (paging source number).skip) :=
  if_pos running

theorem paging_ended (ended : (paging source number).running = false) :
    paging source (number + 1) = paging source number := by
  rw [paging, turn, ended]
  rfl

theorem paging_keeps (Inv : Paging → Prop) (start : Inv {})
    (keeps : ∀ state number, state.running = true → Inv state →
      Inv (readPage state (source number state.skip)))
    (number : ℕ) : Inv (paging source number) := by
  induction number with
  | zero => exact start
  | succ number ih =>
    cases running : (paging source number).running with
    | true =>
      rw [paging_next running]
      exact keeps _ number running ih
    | false =>
      rw [paging_ended running]
      exact ih

theorem paging_handed (number : ℕ) : Handed (paging source number) :=
  paging_keeps Handed rfl (fun _ _ _ handed => read_page_handed handed) number

theorem seen_within {ids : Finset Int}
    (within : ∀ number skip, ∀ row ∈ (source number skip).items, row.id ∈ ids) (number : ℕ) :
    (paging source number).seenIds ⊆ ids := by
  apply paging_keeps (fun state => state.seenIds ⊆ ids) (Finset.empty_subset ids)
  intro state number _ inIds
  rw [read_page_seen]
  apply Finset.union_subset inIds
  intro id member
  obtain ⟨row, inPage, same⟩ := mem_map.mp (mem_toFinset.mp member)
  rw [← same]
  exact within _ _ row inPage

theorem requests_le_seen (running : (paging source number).running = true) :
    number ≤ (paging source number).seenIds.card := by
  induction number with
  | zero => exact Nat.zero_le _
  | succ number ih =>
    cases before : (paging source number).running with
    | true =>
      rw [paging_next before] at running ⊢
      exact Nat.lt_of_le_of_lt (ih before) (read_page_grows running)
    | false =>
      rw [paging_ended before, before] at running
      contradiction

theorem paging_ends {ids : Finset Int}
    (within : ∀ number skip, ∀ row ∈ (source number skip).items, row.id ∈ ids) :
    (paging source (ids.card + 1)).running = false := by
  by_contra going
  have running := Bool.eq_true_of_not_eq_false going
  have many := requests_le_seen running
  have few := Finset.card_le_card (seen_within within (ids.card + 1))
  omega

theorem seen_mono (number later : ℕ) :
    (paging source number).seenIds ⊆ (paging source (number + later)).seenIds := by
  induction later with
  | zero => exact Finset.Subset.refl _
  | succ later ih =>
    apply Finset.Subset.trans ih
    rw [← Nat.add_assoc]
    cases running : (paging source (number + later)).running with
    | true =>
      rw [paging_next running, read_page_seen]
      exact Finset.subset_union_left
    | false => rw [paging_ended running]

theorem handed_on_once (unrepeated : Unrepeated source) (number : ℕ) :
    ((paging source number).rows.map BackfillRow.id).Nodup := by
  have both : Handed (paging source number) ∧
      ((paging source number).rows.map BackfillRow.id).Nodup := by
    apply paging_keeps (fun state => Handed state ∧ (state.rows.map BackfillRow.id).Nodup)
      ⟨rfl, nodup_nil⟩
    intro state number _ ⟨handed, once⟩
    refine ⟨read_page_handed handed, ?_⟩
    rw [read_page_rows, map_append]
    apply nodup_append'.mpr
    refine ⟨once, (unrepeated number state.skip).sublist (filter_sublist.map _), ?_⟩
    intro id before new
    obtain ⟨row, member, same⟩ := mem_map.mp new
    apply (mem_new_rows.mp member).2
    rw [handed, same]
    exact mem_toFinset.mpr before
  exact both.2

theorem upsert_calls_ids (readable : ∀ row ∈ rows, (reads.parseDate row.date).isSome = true) :
    (upsertCalls reads userId rows).map Prod.fst = rows.map BackfillRow.id := by
  induction rows with
  | nil => rfl
  | cons row rows ih =>
    obtain ⟨first, others⟩ := forall_mem_cons.mp readable
    cases parsed : reads.parseDate row.date with
    | none =>
      rw [parsed] at first
      contradiction
    | some txDate =>
      rw [upsertCalls, parsed]
      exact congrArg (row.id :: ·) (ih others)

theorem paging_readable (readable : Readable reads source) (number : ℕ) :
    ∀ row ∈ (paging source number).rows, (reads.parseDate row.date).isSome = true := by
  apply paging_keeps (fun state => ∀ row ∈ state.rows, (reads.parseDate row.date).isSome = true)
  · exact fun _ member => absurd member not_mem_nil
  · intro state number _ before row member
    rw [read_page_rows] at member
    rcases mem_append.mp member with earlier | new
    · exact before row earlier
    · exact readable _ _ row (mem_new_rows.mp new).1

/-- Before the end the rows up to `skip` are handed on, at the end all. -/
def Served (rows : List BackfillRow) (state : Paging) : Prop :=
  if state.running then state.skip ≤ rows.length ∧ state.rows = rows.take state.skip
  else state.rows = rows

theorem read_page_served (honours : Honours source rows) (handed : Handed state)
    (running : state.running = true) (served : Served rows state) :
    Served rows (readPage state (source number state.skip)) := by
  rw [Served, if_pos running] at served
  obtain ⟨bounded, taken⟩ := served
  have slice := honours.items number state.skip
  have total := honours.total number state.skip
  generalize source number state.skip = page at slice total ⊢
  have after : state.rows ++ page.items = rows.take (state.skip + pageSize) := by
    rw [take_add, taken, slice]
  have unseen : page.items.filter (fun row => row.id ∉ state.seenIds) = page.items := by
    apply filter_eq_self.mpr
    intro row member
    have apart : (state.rows ++ page.items).map BackfillRow.id |>.Nodup := by
      rw [after]
      exact honours.distinct.sublist ((take_sublist _ _).map _)
    rw [map_append] at apart
    rw [handed, decide_eq_true_iff, mem_toFinset]
    intro before
    exact disjoint_of_nodup_append apart before (mem_map_of_mem member)
  have sliced : page.items.length = min pageSize (rows.length - state.skip) := by
    rw [slice, length_take, length_drop]
  have counted : (state.seenIds ∪ (page.items.map BackfillRow.id).toFinset).card ≤
      state.skip + pageSize := by
    rw [handed, ← toFinset_append, ← map_append, after]
    apply (toFinset_card_le _).trans
    rw [length_map]
    exact length_take_le _ _
  have positive : 0 < pageSize := by decide
  unfold readPage
  rw [unseen]
  dsimp only
  by_cases empty : page.items = []
  · rw [if_pos empty, Served, if_neg Bool.false_ne_true, taken]
    rw [empty, length_nil] at sliced
    apply take_of_length_le
    omega
  rw [if_neg empty]
  by_cases short : page.items.length < pageSize
  · rw [if_pos short, Served, if_neg Bool.false_ne_true, after]
    apply take_of_length_le
    omega
  rw [if_neg short]
  by_cases full : page.totalCount ≤ (state.seenIds ∪ (page.items.map BackfillRow.id).toFinset).card
  · rw [if_pos full, Served, if_neg Bool.false_ne_true, after]
    apply take_of_length_le
    omega
  · rw [if_neg full, Served, if_pos running]
    refine ⟨?_, after⟩
    dsimp only
    omega

theorem honoured_rows (honours : Honours source rows)
    (ended : (paging source number).running = false) :
    (paging source number).rows = rows := by
  have served : Handed (paging source number) ∧ Served rows (paging source number) := by
    apply paging_keeps (fun state => Handed state ∧ Served rows state)
    · exact ⟨rfl, Nat.zero_le _, rfl⟩
    · intro state number running ⟨handed, served⟩
      exact ⟨read_page_handed handed, read_page_served honours handed running served⟩
  have all := served.2
  rw [Served, if_neg (Bool.eq_false_iff.mp ended)] at all
  exact all

def sampleRow (id : Int) : BackfillRow :=
  { id, accountId := 1, amount := "1", date := "2026-01-01" }

def sampleReads : BackfillReads where
  amount := fun _ => 1
  lower := String.toLower
  parseDate := fun _ => Library.Calendar.Date.ofFields 2026 1 1
  categoryNames := fun _ => none
  subcategoryNames := fun _ => none

end FinanceTracker.Analytics.BackfillPaging
