import Mathlib.Data.List.Sort

/-!
# Sorting by a key

`sorted(items, key=...)` of Python. Items whose keys are distinct have one sorted
order, whatever order they came in.
-/

namespace FinanceTracker.Library.SortedBy

open List

variable {Item Other Key : Type*} [LinearOrder Key] (key : Item → Key)

def NotAfter (first second : Item) : Prop := key first ≤ key second

instance (first second : Item) : Decidable (NotAfter key first second) :=
  inferInstanceAs (Decidable (key first ≤ key second))

instance : Std.Total (NotAfter key) := ⟨fun first second => le_total (key first) (key second)⟩

instance : IsTrans Item (NotAfter key) := ⟨fun _ _ _ before after => le_trans before after⟩

def sortedBy (items : List Item) : List Item := items.insertionSort (NotAfter key)

theorem sorted_perm (items : List Item) : (sortedBy key items).Perm items :=
  perm_insertionSort _ items

theorem mem_sorted_iff {items : List Item} {item : Item} :
    item ∈ sortedBy key items ↔ item ∈ items := (sorted_perm key items).mem_iff

theorem sorted_length (items : List Item) : (sortedBy key items).length = items.length :=
  (sorted_perm key items).length_eq

theorem sorted_pairwise (items : List Item) : (sortedBy key items).Pairwise (NotAfter key) :=
  pairwise_insertionSort _ items

theorem sorted_of_pairwise {items : List Item} (ordered : items.Pairwise (NotAfter key)) :
    sortedBy key items = items := ordered.insertionSort_eq

theorem sorted_idempotent (items : List Item) :
    sortedBy key (sortedBy key items) = sortedBy key items :=
  sorted_of_pairwise key (sorted_pairwise key items)

theorem sorted_keys_nodup {items : List Item} (distinct : (items.map key).Nodup) :
    ((sortedBy key items).map key).Nodup :=
  ((sorted_perm key items).map key).nodup_iff.mpr distinct

variable {key}

theorem sorted_precedes [DecidableEq Item] {items : List Item} {first second : Item}
    (member : first ∈ items) (smaller : key first < key second) :
    (sortedBy key items).idxOf first < (sortedBy key items).idxOf second := by
  have inside := idxOf_lt_length_of_mem ((mem_sorted_iff key).mpr member)
  by_contra notBefore
  have secondInside : (sortedBy key items).idxOf second < (sortedBy key items).length := by omega
  have isFirst := getElem_idxOf inside
  have isSecond := getElem_idxOf secondInside
  have notAfter : key second ≤ key first := by
    rcases Nat.lt_or_eq_of_le (Nat.not_lt.mp notBefore) with earlier | same
    · have ordered := pairwise_iff_getElem.mp (sorted_pairwise key items) _ _ secondInside inside
        earlier
      rw [isFirst, isSecond] at ordered
      exact ordered
    · simp only [same, isFirst] at isSecond
      rw [isSecond]
  exact absurd smaller (not_lt.mpr notAfter)

theorem sorted_map {otherKey : Other → Key} {change : Item → Other}
    (keeps : ∀ item, otherKey (change item) = key item) (items : List Item) :
    sortedBy otherKey (items.map change) = (sortedBy key items).map change := by
  unfold sortedBy
  rw [map_insertionSort (NotAfter key) (NotAfter otherKey)]
  intro _ _ _ _
  simp only [NotAfter, keeps]

theorem sorted_eq_of_perm {items others : List Item} (distinct : (items.map key).Nodup)
    (same : items.Perm others) : sortedBy key items = sortedBy key others := by
  have both : (sortedBy key items).Perm (sortedBy key others) :=
    (sorted_perm key items).trans (same.trans (sorted_perm key others).symm)
  refine both.eq_of_pairwise ?_ (sorted_pairwise key items) (sorted_pairwise key others)
  intro _ second firstIn secondIn before after
  have inItems : second ∈ items := same.mem_iff.mpr ((mem_sorted_iff key).mp secondIn)
  exact inj_on_of_nodup_map distinct ((mem_sorted_iff key).mp firstIn) inItems
    (le_antisymm before after)

end FinanceTracker.Library.SortedBy
