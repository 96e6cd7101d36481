import Mathlib.Data.List.Basic

/-!
# Keeping the items that earlier ones do not block

A list is read from the front and an item is kept unless the items kept before
it block it. Reading a list in two parts is reading the whole, as long as the
second part knows what the first kept.
-/

namespace FinanceTracker.Library.Selection

open List

variable {Item : Type*} (blocked : List Item → Item → Bool)

/-- The items kept from `items`, after `kept` were kept before. -/
def select (kept : List Item) : List Item → List Item
  | [] => []
  | item :: items =>
    if blocked kept item then select kept items
    else item :: select (kept ++ [item]) items

@[simp] theorem select_nil (kept : List Item) : select blocked kept [] = [] := rfl

variable {kept items : List Item} {item : Item}

theorem select_blocked (isBlocked : blocked kept item = true) (items : List Item) :
    select blocked kept (item :: items) = select blocked kept items := by
  rw [select, if_pos isBlocked]

theorem select_kept (isFree : blocked kept item = false) (items : List Item) :
    select blocked kept (item :: items) = item :: select blocked (kept ++ [item]) items := by
  rw [select, if_neg (by simp [isFree])]

theorem select_eq_nil (allBlocked : ∀ item ∈ items, blocked kept item = true) :
    select blocked kept items = [] := by
  induction items with
  | nil => rfl
  | cons item items ih =>
    rw [select_blocked blocked (allBlocked item mem_cons_self)]
    exact ih fun other member => allBlocked other (mem_cons_of_mem _ member)

theorem select_eq_nil_iff :
    select blocked kept items = [] ↔ ∀ item ∈ items, blocked kept item = true := by
  refine ⟨?_, select_eq_nil blocked⟩
  induction items with
  | nil => simp
  | cons item items ih =>
    intro none other member
    cases isBlocked : blocked kept item with
    | false =>
      rw [select_kept blocked isBlocked] at none
      contradiction
    | true =>
      rw [select_blocked blocked isBlocked] at none
      rcases mem_cons.mp member with rfl | later
      · exact isBlocked
      · exact ih none other later

theorem select_append (kept first second : List Item) : select blocked kept (first ++ second) =
      select blocked kept first ++ select blocked (kept ++ select blocked kept first) second := by
  induction first generalizing kept with
  | nil => simp
  | cons item first ih =>
    cases isBlocked : blocked kept item with
    | true =>
      rw [cons_append, select_blocked blocked isBlocked, select_blocked blocked isBlocked, ih]
    | false =>
      rw [cons_append, select_kept blocked isBlocked, select_kept blocked isBlocked, ih,
        cons_append, append_assoc, singleton_append]

/-- Reading one item more keeps it or not. -/
theorem select_length_succ (kept items : List Item) {position : Nat}
    (found : items[position]? = some item) :
    (select blocked kept (items.take (position + 1))).length =
      (select blocked kept (items.take position)).length +
        if blocked (kept ++ select blocked kept (items.take position)) item then 0 else 1 := by
  rw [take_add_one, found, select_append, length_append]
  congr 1
  change (select blocked _ [item]).length = _
  cases isBlocked : blocked (kept ++ select blocked kept (items.take position)) item with
  | true => rw [select_blocked blocked isBlocked, if_pos rfl, select_nil, length_nil]
  | false =>
    rw [select_kept blocked isBlocked, if_neg (by decide), select_nil, length_singleton]

/-- An item is kept exactly at a position where what was kept so far leaves it free. -/
theorem mem_select_iff (kept items : List Item) (item : Item) :
    item ∈ select blocked kept items ↔ ∃ position, items[position]? = some item ∧
      blocked (kept ++ select blocked kept (items.take position)) item = false := by
  induction items generalizing kept with
  | nil => simp
  | cons head items ih =>
    have later : ∀ next : List Item,
        (∀ position, next ++ select blocked next (items.take position) =
          kept ++ select blocked kept ((head :: items).take (position + 1))) →
        ((∃ position, items[position]? = some item ∧
            blocked (next ++ select blocked next (items.take position)) item = false) ↔
          ∃ position, (head :: items)[position + 1]? = some item ∧
            blocked (kept ++ select blocked kept ((head :: items).take (position + 1))) item =
              false) := by
      intro _ same
      constructor
      · rintro ⟨position, found, free⟩
        exact ⟨position, by simpa using found, by rw [← same]; exact free⟩
      · rintro ⟨position, found, free⟩
        exact ⟨position, by simpa using found, by rw [same]; exact free⟩
    have split : (∃ position, (head :: items)[position]? = some item ∧
          blocked (kept ++ select blocked kept ((head :: items).take position)) item = false) ↔
        (head = item ∧ blocked kept item = false) ∨
          ∃ position, (head :: items)[position + 1]? = some item ∧
            blocked (kept ++ select blocked kept ((head :: items).take (position + 1))) item =
              false := by
      constructor
      · rintro ⟨position, found, free⟩
        cases position with
        | zero => exact Or.inl ⟨by simpa using found, by simpa using free⟩
        | succ position => exact Or.inr ⟨position, found, free⟩
      · rintro (⟨rfl, free⟩ | ⟨position, found, free⟩)
        · exact ⟨0, by simp, by simpa using free⟩
        · exact ⟨position + 1, found, free⟩
    rw [split]
    cases isBlocked : blocked kept head with
    | true =>
      rw [select_blocked blocked isBlocked, ih, later kept fun position => by
        rw [take_succ_cons, select_blocked blocked isBlocked]]
      constructor
      · exact Or.inr
      · rintro (⟨rfl, free⟩ | rest)
        · rw [isBlocked] at free
          contradiction
        · exact rest
    | false =>
      rw [select_kept blocked isBlocked, mem_cons, ih,
        later (kept ++ [head]) fun position => by
          rw [take_succ_cons, select_kept blocked isBlocked]
          simp]
      constructor
      · rintro (rfl | rest)
        · exact Or.inl ⟨rfl, isBlocked⟩
        · exact Or.inr rest
      · rintro (⟨rfl, _⟩ | rest)
        · exact Or.inl rfl
        · exact Or.inr rest

theorem mem_of_select (isKept : item ∈ select blocked kept items) : item ∈ items := by
  obtain ⟨_, found, _⟩ := (mem_select_iff blocked kept items item).mp isKept
  exact mem_of_getElem? found

def SelectedAt (kept items : List Item) (position : Nat) (item : Item) : Prop :=
  items[position]? = some item ∧
    blocked (kept ++ select blocked kept (items.take position)) item = false

theorem selected_at_zero {head : Item} :
    SelectedAt blocked kept (head :: items) 0 item ↔ head = item ∧ blocked kept head = false := by
  unfold SelectedAt
  simp only [List.getElem?_cons_zero, Option.some.injEq, take_zero, select_nil, append_nil]
  constructor
  · rintro ⟨rfl, free⟩
    exact ⟨rfl, free⟩
  · rintro ⟨rfl, free⟩
    exact ⟨rfl, free⟩

theorem selected_at_succ {head : Item} {position : Nat} :
    SelectedAt blocked kept (head :: items) (position + 1) item ↔
      SelectedAt blocked (if blocked kept head then kept else kept ++ [head]) items position
        item := by
  unfold SelectedAt
  rw [List.getElem?_cons_succ, take_succ_cons]
  cases isBlocked : blocked kept head with
  | true => rw [select_blocked blocked isBlocked, if_pos rfl]
  | false =>
    rw [select_kept blocked isBlocked, if_neg (by decide), append_assoc,
      singleton_append]

/-- A relation between all kept items, said of their positions. -/
theorem select_pairwise_iff (related : Item → Item → Prop) (kept items : List Item) :
    (select blocked kept items).Pairwise related ↔
      ∀ early late first second, early < late → SelectedAt blocked kept items early first →
        SelectedAt blocked kept items late second → related first second := by
  induction items generalizing kept with
  | nil => simp [SelectedAt]
  | cons head items ih =>
    have later : (∀ early late first second, early < late →
          SelectedAt blocked kept (head :: items) (early + 1) first →
          SelectedAt blocked kept (head :: items) (late + 1) second → related first second) ↔
        (select blocked (if blocked kept head then kept else kept ++ [head])
          items).Pairwise related := by
      simp only [selected_at_succ]
      exact (ih _).symm
    have split : (∀ early late first second, early < late →
          SelectedAt blocked kept (head :: items) early first →
          SelectedAt blocked kept (head :: items) late second → related first second) ↔
        (blocked kept head = false → ∀ late second,
          SelectedAt blocked kept (head :: items) (late + 1) second → related head second) ∧
        ∀ early late first second, early < late →
          SelectedAt blocked kept (head :: items) (early + 1) first →
          SelectedAt blocked kept (head :: items) (late + 1) second → related first second := by
      constructor
      · intro all
        exact ⟨fun free late second => all 0 (late + 1) head second (Nat.succ_pos _)
            ((selected_at_zero blocked).mpr ⟨rfl, free⟩),
          fun early late first second before =>
            all (early + 1) (late + 1) first second (Nat.succ_lt_succ before)⟩
      · rintro ⟨fromHead, fromLater⟩ early late first second before isFirst isSecond
        cases late with
        | zero => exact absurd before (Nat.not_lt_zero _)
        | succ late =>
          cases early with
          | zero =>
            obtain ⟨rfl, free⟩ := (selected_at_zero blocked).mp isFirst
            exact fromHead free late second isSecond
          | succ early =>
            exact fromLater early late first second (Nat.lt_of_succ_lt_succ before) isFirst
              isSecond
    rw [split, later]
    cases isBlocked : blocked kept head with
    | true =>
      rw [select_blocked blocked isBlocked, if_pos rfl]
      simp
    | false =>
      rw [select_kept blocked isBlocked, if_neg (by decide), pairwise_cons]
      refine and_congr_left fun _ => ?_
      simp only [selected_at_succ, isBlocked, Bool.false_eq_true, if_false, true_implies]
      constructor
      · intro all late second isSecond
        exact all second ((mem_select_iff blocked _ _ _).mpr ⟨late, isSecond⟩)
      · intro all second member
        obtain ⟨late, isSecond⟩ := (mem_select_iff blocked _ _ _).mp member
        exact all late second isSecond

theorem select_congr {other : List Item → Item → Bool}
    (same : ∀ kept, ∀ item ∈ items, blocked kept item = other kept item) :
    select blocked kept items = select other kept items := by
  induction items generalizing kept with
  | nil => rfl
  | cons item items ih =>
    have rest : ∀ kept, select blocked kept items = select other kept items := fun kept =>
      ih fun earlier later member => same earlier later (mem_cons_of_mem _ member)
    unfold select
    rw [same kept item mem_cons_self, rest, rest]

/-- A second reason to block changes nothing when it applies to no kept item. -/
theorem select_or_of_unused (extra : Item → Bool)
    (unused : ∀ item ∈ select blocked kept items, extra item = false) :
    select (fun kept item => blocked kept item || extra item) kept items =
      select blocked kept items := by
  induction items generalizing kept with
  | nil => rfl
  | cons item items ih =>
    cases isBlocked : blocked kept item with
    | true =>
      rw [select_blocked blocked isBlocked] at unused ⊢
      rw [select_blocked _ (by simp [isBlocked])]
      exact ih unused
    | false =>
      rw [select_kept blocked isBlocked] at unused ⊢
      have free := unused item mem_cons_self
      rw [select_kept _ (by simp [isBlocked, free])]
      rw [ih fun other member => unused other (mem_cons_of_mem _ member)]

/-- Items kept earlier can be part of the reason or part of the list. -/
theorem select_shift (earlier kept items : List Item) :
    select (fun kept item => blocked (earlier ++ kept) item) kept items =
      select blocked (earlier ++ kept) items := by
  induction items generalizing kept with
  | nil => rfl
  | cons item items ih =>
    unfold select
    rw [ih kept, ih (kept ++ [item]), append_assoc]

theorem select_length_le (kept items : List Item) :
    (select blocked kept items).length ≤ items.length := by
  induction items generalizing kept with
  | nil => simp
  | cons item items ih =>
    cases isBlocked : blocked kept item with
    | true =>
      rw [select_blocked blocked isBlocked]
      exact Nat.le_succ_of_le (ih kept)
    | false =>
      rw [select_kept blocked isBlocked]
      exact Nat.succ_le_succ (ih _)

end FinanceTracker.Library.Selection
