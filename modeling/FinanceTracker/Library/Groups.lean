import FinanceTracker.Library.KeyedRows
import Mathlib.Data.List.Induction

/-!
# Groups

The values of a list grouped by their keys, as a dict of lists collects them: the first
value of a key opens its group. An item without a key is in no group.
-/

namespace FinanceTracker.Library.Groups

open KeyedRows List

variable {Item Key Value : Type} [DecidableEq Key]

def addToGroup (groups : List (Key × List Value)) (key : Key) (value : Value) :
    List (Key × List Value) :=
  if key ∈ groups.map Prod.fst then
    replace Prod.fst groups key fun group => (group.1, group.2 ++ [value])
  else groups ++ [(key, [value])]

def groupsOf (keyOf : Item → Option Key) (valueOf : Item → Value) (items : List Item) :
    List (Key × List Value) :=
  items.foldl (fun groups item =>
      match keyOf item with
      | none => groups
      | some key => addToGroup groups key (valueOf item))
    []

variable {keyOf : Item → Option Key} {valueOf : Item → Value} {items : List Item}

theorem mem_add_to_group {groups : List (Key × List Value)} {key other : Key} {value : Value}
    {values : List Value} : (other, values) ∈ addToGroup groups key value ↔
      (other ≠ key ∧ (other, values) ∈ groups) ∨
      (other = key ∧ ((∃ before, (key, before) ∈ groups ∧ values = before ++ [value]) ∨
        (key ∉ groups.map Prod.fst ∧ values = [value]))) := by
  unfold addToGroup
  split
  · next present =>
    rw [mem_replace]
    constructor
    · rintro (⟨member, different⟩ | ⟨⟨old, before⟩, member, rfl, changed⟩)
      · exact Or.inl ⟨different, member⟩
      · cases changed
        exact Or.inr ⟨rfl, Or.inl ⟨before, member, rfl⟩⟩
    · rintro (⟨different, member⟩ | ⟨rfl, ⟨before, member, rfl⟩ | ⟨absent, _⟩⟩)
      · exact Or.inl ⟨member, different⟩
      · exact Or.inr ⟨(other, before), member, rfl, rfl⟩
      · exact absurd present absent
  · next absent =>
    rw [mem_append, mem_singleton, Prod.mk.injEq]
    constructor
    · rintro (member | ⟨rfl, rfl⟩)
      · refine Or.inl ⟨?_, member⟩
        rintro rfl
        exact absent (mem_map_of_mem member)
      · exact Or.inr ⟨rfl, Or.inr ⟨absent, rfl⟩⟩
    · rintro (⟨_, member⟩ | ⟨rfl, ⟨before, member, _⟩ | ⟨_, rfl⟩⟩)
      · exact Or.inl member
      · exact absurd (mem_map_of_mem member) absent
      · exact Or.inr ⟨rfl, rfl⟩

theorem mem_groups_iff {key : Key} {values : List Value} :
    (key, values) ∈ groupsOf keyOf valueOf items ↔
      values ≠ [] ∧ values = (items.filter fun item => keyOf item = some key).map valueOf := by
  induction items using List.reverseRecOn generalizing key values with
  | nil => simp [groupsOf]
  | append_singleton items item ih =>
    unfold groupsOf at ih ⊢
    rw [foldl_append, foldl_cons, foldl_nil, filter_append, map_append]
    cases isKey : keyOf item with
    | none => simp [ih, isKey]
    | some itemKey =>
      have present : itemKey ∈ (items.foldl (fun groups item =>
          match keyOf item with
          | none => groups
          | some key => addToGroup groups key (valueOf item)) []).map Prod.fst ↔
          (items.filter fun item => keyOf item = some itemKey).map valueOf ≠ [] := by
        rw [mem_map]
        constructor
        · rintro ⟨⟨_, values⟩, member, rfl⟩
          obtain ⟨nonempty, rfl⟩ := ih.mp member
          exact nonempty
        · intro nonempty
          exact ⟨(itemKey, _), ih.mpr ⟨nonempty, rfl⟩, rfl⟩
      simp only
      rw [mem_add_to_group]
      by_cases here : key = itemKey
      · subst here
        rw [present]
        simp only [ne_eq, not_true_eq_false, false_and, true_and, false_or, ih, not_not,
          filter_cons, filter_nil, isKey, decide_true, if_true, map_cons, map_nil]
        constructor
        · rintro (⟨before, ⟨_, rfl⟩, rfl⟩ | ⟨empty, rfl⟩)
          · simp
          · simp [empty]
        · rintro ⟨_, rfl⟩
          by_cases empty : (items.filter fun item => keyOf item = some key).map valueOf = []
          · exact Or.inr ⟨empty, by rw [empty]; rfl⟩
          · exact Or.inl ⟨_, ⟨empty, rfl⟩, rfl⟩
      · have other : ¬some itemKey = some key := fun same => here (Option.some.inj same).symm
        simp [here, ih, isKey, other]

theorem shared_group_iff {Name : Type} [DecidableEq Name] {nameOf : Item → Name}
    (distinct : DistinctKeys nameOf items) {item : Item} (member : item ∈ items) :
    (∃ group ∈ groupsOf keyOf nameOf items, 1 < group.2.length ∧ nameOf item ∈ group.2) ↔
      ∃ key, keyOf item = some key ∧
        ∃ other ∈ items, keyOf other = some key ∧ nameOf other ≠ nameOf item := by
  have several (key : Key) (first : keyOf item = some key) :
      1 < ((items.filter fun item => keyOf item = some key).map nameOf).length ↔
        ∃ other ∈ items, keyOf other = some key ∧ nameOf other ≠ nameOf item := by
    rw [length_map, ← Nat.not_le, filter_at_most_one_iff distinct]
    constructor
    · intro apart
      by_contra none
      apply apart
      intro left leftIn right rightIn leftKey rightKey
      have same (other : Item) (otherIn : other ∈ items) (otherKey : keyOf other = some key) :
          nameOf other = nameOf item := by
        by_contra different
        exact none ⟨other, otherIn, otherKey, different⟩
      rw [same left leftIn (of_decide_eq_true leftKey), same right rightIn (of_decide_eq_true rightKey)]
    · rintro ⟨other, otherIn, otherKey, different⟩ all
      exact different (all other otherIn item member (decide_eq_true otherKey) (decide_eq_true first))
  constructor
  · rintro ⟨⟨key, values⟩, stored, long, inGroup⟩
    obtain ⟨_, rfl⟩ := mem_groups_iff.mp stored
    obtain ⟨found, isFound, sameName⟩ := mem_map.mp inGroup
    obtain ⟨foundIn, foundKey⟩ := mem_filter.mp isFound
    have isItem : found = item := inj_on_of_nodup_map distinct foundIn member sameName
    rw [isItem] at foundKey
    exact ⟨key, of_decide_eq_true foundKey, (several key (of_decide_eq_true foundKey)).mp long⟩
  · rintro ⟨key, isKey, others⟩
    have chosen : nameOf item ∈ (items.filter fun item => keyOf item = some key).map nameOf :=
      mem_map_of_mem (mem_filter.mpr ⟨member, decide_eq_true isKey⟩)
    exact ⟨(key, _), mem_groups_iff.mpr ⟨ne_nil_of_mem chosen, rfl⟩, (several key isKey).mpr others,
      chosen⟩

end FinanceTracker.Library.Groups
