import FinanceTracker.Library.KeyedRows
import Mathlib.Algebra.BigOperators.Group.Finset.Piecewise
import Mathlib.Algebra.GroupWithZero.Nat
import Mathlib.Algebra.Order.BigOperators.Group.List
import Mathlib.Algebra.Order.Group.Nat

/-!
# Counters

Python's `Counter`: a dict in insertion order whose missing keys count as zero.
-/

namespace FinanceTracker.Library.Counters

open KeyedRows

variable {Key Amount : Type*} [DecidableEq Key] [AddCommMonoid Amount]

abbrev Counter (Key Amount : Type*) := List (Key × Amount)

/-- `counter[key] += amount`. -/
def increase (counter : Counter Key Amount) (key : Key) (amount : Amount) : Counter Key Amount :=
  if key ∈ counter.map Prod.fst then
    replace Prod.fst counter key fun entry => (entry.1, entry.2 + amount)
  else counter ++ [(key, amount)]

def amountOf (counter : Counter Key Amount) (key : Key) : Amount :=
  ((lookup Prod.fst counter key).map Prod.snd).getD 0

def tally (items : List Key) : Counter Key ℕ :=
  items.foldl (fun counter item => increase counter item 1) []

theorem increase_keys (counter : Counter Key Amount) (key : Key) (amount : Amount) :
    (increase counter key amount).map Prod.fst =
      if key ∈ counter.map Prod.fst then counter.map Prod.fst
      else counter.map Prod.fst ++ [key] := by
  unfold increase
  split
  · exact replace_keys fun _ _ _ => rfl
  · rw [List.map_append, List.map_singleton]

variable {counter : Counter Key Amount} {items : List Key}

theorem mem_increase_keys {key other : Key} {amount : Amount} :
    other ∈ (increase counter key amount).map Prod.fst ↔
      other ∈ counter.map Prod.fst ∨ other = key := by
  rw [increase_keys]
  split
  · next stored =>
    constructor
    · exact Or.inl
    · rintro (present | rfl)
      · exact present
      · exact stored
  · rw [List.mem_append, List.mem_singleton]

theorem increase_distinct (distinct : DistinctKeys Prod.fst counter) (key : Key) (amount : Amount) :
    DistinctKeys Prod.fst (increase counter key amount) := by
  unfold DistinctKeys at distinct ⊢
  rw [increase_keys]
  split
  · exact distinct
  · next fresh =>
    rw [List.nodup_append]
    refine ⟨distinct, List.nodup_singleton key, ?_⟩
    rintro first firstIn second secondIn rfl
    rw [List.mem_singleton.mp secondIn] at firstIn
    exact fresh firstIn

/-- The sum of all amounts grows by what a key grows by. -/
theorem total_increase (distinct : DistinctKeys Prod.fst counter) (key : Key) (amount : Amount) :
    ((increase counter key amount).map Prod.snd).sum = (counter.map Prod.snd).sum + amount := by
  unfold increase
  split
  · next stored =>
    induction counter with
    | nil => contradiction
    | cons entry counter ih =>
      obtain ⟨headFresh, restDistinct⟩ := List.nodup_cons.mp distinct
      unfold replace at ih ⊢
      rw [List.map_cons, List.map_cons, List.sum_cons, List.map_cons, List.sum_cons]
      by_cases here : entry.1 = key
      · have others : (counter.map fun row =>
            if row.1 = key then (row.1, row.2 + amount) else row) = counter := by
          conv_rhs => rw [← List.map_id counter]
          apply List.map_congr_left
          intro row member
          rw [if_neg, id]
          rintro same
          exact headFresh (List.mem_map.mpr ⟨row, member, same.trans here.symm⟩)
        rw [if_pos here, others]
        exact add_right_comm _ _ _
      · have inRest : key ∈ counter.map Prod.fst := by
          rcases List.mem_cons.mp stored with same | inRest
          · exact absurd same.symm here
          · exact inRest
        rw [if_neg here, ih restDistinct inRest]
        exact (add_assoc _ _ _).symm
  · rw [List.map_append, List.sum_append, List.map_singleton, List.sum_singleton]

theorem amount_increase (counter : Counter Key Amount) (key other : Key) (amount : Amount) :
    amountOf (increase counter key amount) other =
      amountOf counter other + if other = key then amount else 0 := by
  unfold amountOf increase
  split
  · next stored =>
    have keeps : ∀ row ∈ counter, row.1 = key → (row.1, row.2 + amount).1 = row.1 := fun _ _ _ => rfl
    rw [lookup_replace keeps]
    by_cases here : other = key
    · cases found : lookup Prod.fst counter other with
      | none =>
        obtain ⟨entry, member, isKey⟩ := List.mem_map.mp stored
        exact absurd (isKey.trans here.symm) (lookup_none_iff.mp found entry member)
      | some => simp [here]
    · simp [here]
  · next absent =>
    have fresh : ∀ stored ∈ counter, stored.1 ≠ key := fun stored member isKey =>
      absent (isKey ▸ List.mem_map_of_mem member)
    rw [lookup_append fresh]
    by_cases here : other = key
    · rw [here, lookup_none_iff.mpr fresh]
      simp
    · simp [here]

section Accumulate

variable {Item : Type*} (keyOf : Item → Key) (amount : Item → Amount)

def accumulate (items : List Item) (counter : Counter Key Amount) : Counter Key Amount :=
  items.foldl (fun counter item => increase counter (keyOf item) (amount item)) counter

theorem amount_accumulate (items : List Item) (counter : Counter Key Amount) (key : Key) :
    amountOf (accumulate keyOf amount items counter) key =
      amountOf counter key + (items.map fun item => if key = keyOf item then amount item else 0).sum := by
  induction items generalizing counter with
  | nil => simp [accumulate]
  | cons item items ih =>
    rw [List.map_cons, List.sum_cons, ← add_assoc, ← amount_increase]
    exact ih _

theorem mem_accumulate_keys {items : List Item} {counter : Counter Key Amount} {key : Key} :
    key ∈ (accumulate keyOf amount items counter).map Prod.fst ↔
      key ∈ counter.map Prod.fst ∨ ∃ item ∈ items, key = keyOf item := by
  induction items generalizing counter with
  | nil => simp [accumulate]
  | cons item items ih =>
    have step : accumulate keyOf amount (item :: items) counter =
      accumulate keyOf amount items (increase counter (keyOf item) (amount item)) := rfl
    rw [step, ih, mem_increase_keys, or_assoc, List.exists_mem_cons_iff]

theorem accumulate_distinct (items : List Item) {counter : Counter Key Amount}
    (distinct : DistinctKeys Prod.fst counter) :
    DistinctKeys Prod.fst (accumulate keyOf amount items counter) := by
  induction items generalizing counter with
  | nil => exact distinct
  | cons item items ih => exact ih (increase_distinct distinct _ _)

theorem sum_over_keys {keys : List Key} (distinct : keys.Nodup) {items : List Item}
    (covered : ∀ item ∈ items, keyOf item ∈ keys) :
    (keys.map fun key => ((items.filter fun item => keyOf item = key).map amount).sum).sum =
      (items.map amount).sum := by
  induction items with
  | nil => simp
  | cons item items ih =>
    obtain ⟨here, rest⟩ := List.forall_mem_cons.mp covered
    have added (key : Key) :
        (((item :: items).filter fun item => keyOf item = key).map amount).sum =
          (if keyOf item = key then amount item else 0) +
            ((items.filter fun item => keyOf item = key).map amount).sum := by
      by_cases same : keyOf item = key
      · simp [same]
      · simp [same]
    have once : (keys.map fun key => if keyOf item = key then amount item else 0).sum =
        amount item := by
      rw [← List.sum_toFinset _ distinct, Finset.sum_ite_eq, if_pos (List.mem_toFinset.mpr here)]
    simp only [added, List.sum_map_add, once, ih rest, List.map_cons, List.sum_cons]

/-- What a key has counted, if it has, is the same in every order of the items. -/
theorem value_accumulate_perm {items others : List Item} (same : items.Perm others) {key : Key} :
    (lookup Prod.fst (accumulate keyOf amount items []) key).map Prod.snd =
      (lookup Prod.fst (accumulate keyOf amount others []) key).map Prod.snd := by
  have value (items : List Item) :
      (lookup Prod.fst (accumulate keyOf amount items []) key).map Prod.snd =
        if ∃ item ∈ items, key = keyOf item then
          some (items.map fun item => if key = keyOf item then amount item else 0).sum
        else none := by
    have sum := amount_accumulate keyOf amount items [] key
    have counted := @mem_accumulate_keys _ _ _ _ _ keyOf amount items [] key
    have start : amountOf ([] : Counter Key Amount) key = 0 := rfl
    rw [start, zero_add] at sum
    simp only [List.map_nil, List.not_mem_nil, false_or] at counted
    cases found : lookup Prod.fst (accumulate keyOf amount items []) key with
    | none =>
      rw [if_neg, Option.map_none]
      intro present
      obtain ⟨entry, member, isKey⟩ := List.mem_map.mp (counted.mpr present)
      exact lookup_none_iff.mp found entry member isKey
    | some entry =>
      obtain ⟨member, isKey⟩ := lookup_mem found
      rw [if_pos (counted.mp (isKey ▸ List.mem_map_of_mem member)), ← sum, amountOf, found]
      rfl
  rw [value, value, (same.map _).sum_eq]
  simp only [same.mem_iff]

end Accumulate

theorem tally_append (items : List Key) (item : Key) :
    tally (items ++ [item]) = increase (tally items) item 1 := by
  unfold tally
  rw [List.foldl_append]
  rfl

theorem tally_distinct (items : List Key) : DistinctKeys Prod.fst (tally items) := by
  induction items using List.reverseRecOn with
  | nil => exact List.nodup_nil
  | append_singleton items item ih =>
    rw [tally_append]
    exact increase_distinct ih item 1

theorem total_of_items {Item : Type*} {Count : Type*} [DecidableEq Count] (keyOf : Item → Count)
    (items : List Item) {counter : Counter Count ℕ} (distinct : DistinctKeys Prod.fst counter) :
    ((items.foldl (fun counter item => increase counter (keyOf item) 1) counter).map Prod.snd).sum =
      (counter.map Prod.snd).sum + items.length := by
  induction items generalizing counter with
  | nil => rfl
  | cons item items ih =>
    rw [List.foldl_cons, ih (increase_distinct distinct _ _), total_increase distinct, List.length_cons]
    omega

theorem mem_tally_keys {item : Key} : item ∈ (tally items).map Prod.fst ↔ item ∈ items := by
  induction items using List.reverseRecOn with
  | nil => rfl
  | append_singleton items last ih =>
    rw [tally_append, mem_increase_keys, ih, List.mem_append, List.mem_singleton]

theorem tally_same {item : Key} (same : ∀ other ∈ items, other = item) :
    tally items = if items = [] then [] else [(item, items.length)] := by
  induction items using List.reverseRecOn with
  | nil => rfl
  | append_singleton items last ih =>
    have front := ih fun other member => same other (List.mem_append_left _ member)
    have lastSame := same last (by simp)
    rw [tally_append, front, lastSame]
    split
    · next empty =>
      subst empty
      rfl
    · simp [increase, replace]

/-- Keys that are renamed apart are counted as before. -/
theorem tally_map {Name : Type*} [DecidableEq Name] (name : Key → Name) (items : List Key)
    (apart : ∀ first ∈ items, ∀ second ∈ items, name first = name second → first = second) :
    tally (items.map name) = (tally items).map fun entry => (name entry.1, entry.2) := by
  induction items using List.reverseRecOn with
  | nil => rfl
  | append_singleton items last ih =>
    have front := ih fun first firstIn second secondIn =>
      apart first (List.mem_append_left _ firstIn) second (List.mem_append_left _ secondIn)
    have isLast : last ∈ items ++ [last] := List.mem_append_right _ (List.mem_singleton_self last)
    have sameKey : ∀ entry ∈ tally items, name entry.1 = name last ↔ entry.1 = last := by
      intro entry member
      have stored : entry.1 ∈ items := mem_tally_keys.mp (List.mem_map_of_mem member)
      constructor
      · exact apart entry.1 (List.mem_append_left _ stored) last isLast
      · exact congrArg name
    have present : name last ∈ ((tally items).map fun entry => (name entry.1, entry.2)).map Prod.fst ↔
        last ∈ (tally items).map Prod.fst := by
      simp only [List.map_map, List.mem_map, Function.comp_apply]
      constructor
      · rintro ⟨entry, member, same⟩
        exact ⟨entry, member, (sameKey entry member).mp same⟩
      · rintro ⟨entry, member, same⟩
        exact ⟨entry, member, (sameKey entry member).mpr same⟩
    rw [List.map_append, List.map_singleton, tally_append, tally_append, front]
    unfold increase
    simp only [present]
    split
    · unfold replace
      rw [List.map_map, List.map_map]
      apply List.map_congr_left
      intro entry member
      by_cases same : entry.1 = last
      · simp [same]
      · have apartHere : name entry.1 ≠ name last := fun equal => same ((sameKey entry member).mp equal)
        simp [same, apartHere]
    · rw [List.map_append, List.map_singleton]

end FinanceTracker.Library.Counters
