import FinanceTracker.Library.Counters
import FinanceTracker.Library.SortedBy
import Mathlib.Data.Prod.Lex
import Mathlib.Tactic.Positivity

/-!
# Reciprocal rank fusion

`rrf_fuse` of the hybrid search, with exact scores. A score is a sum of one share for
each ranking that has the item, so it does not depend on the order of the rankings.
-/

namespace FinanceTracker.Analytics.RankFusion

open Library Counters KeyedRows SortedBy List

variable {Item : Type*} [DecidableEq Item]

/-- An item at its rank, counted from 1, of the list with the index. -/
structure Placement (Item : Type*) where
  item : Item
  listIdx : ℕ
  rank : ℕ

def placementsOf (ranking : List Item) (listIdx : ℕ) : List (Placement Item) :=
  (ranking.zipIdx 1).map fun entry => { item := entry.1, listIdx, rank := entry.2 }

/-- The steps of the two loops. -/
def placements (rankings : List (List Item)) : List (Placement Item) :=
  rankings.zipIdx.flatMap fun entry => placementsOf entry.1 entry.2

def noteSeen (firstSeen : List (Item × ℕ × ℕ)) (placement : Placement Item) :
    List (Item × ℕ × ℕ) :=
  if placement.item ∈ firstSeen.map Prod.fst then firstSeen
  else firstSeen ++ [(placement.item, placement.listIdx, placement.rank)]

def scores (rankings : List (List Item)) (k : ℕ) : Counter Item ℚ :=
  accumulate Placement.item (fun placement => 1 / ((k : ℚ) + placement.rank)) (placements rankings) []

def firstSeen (rankings : List (List Item)) : List (Item × ℕ × ℕ) :=
  (placements rankings).foldl noteSeen []

def scoreOf (rankings : List (List Item)) (k : ℕ) (item : Item) : ℚ :=
  amountOf (scores rankings k) item

def fusionKey (rankings : List (List Item)) (k : ℕ) (item : Item) : ℚ ×ₗ (ℕ ×ₗ ℕ) :=
  toLex (-scoreOf rankings k item,
    toLex (((lookup Prod.fst (firstSeen rankings) item).map Prod.snd).getD (0, 0)))

def rrfFuse (rankings : List (List Item)) (k : ℕ) : List Item :=
  sortedBy (fusionKey rankings k) ((scores rankings k).map Prod.fst)

/-- What a ranking adds to the score. -/
def share (k : ℕ) (item : Item) (ranking : List Item) : ℚ :=
  if item ∈ ranking then 1 / ((k : ℚ) + (ranking.idxOf item + 1)) else 0

variable {rankings : List (List Item)} {k : ℕ} {item other : Item}

theorem share_of_placements {ranking : List Item} (distinct : ranking.Nodup) (listIdx : ℕ) :
    ((placementsOf ranking listIdx).map fun placement =>
        if item = placement.item then 1 / ((k : ℚ) + placement.rank) else 0).sum =
      share k item ranking := by
  have from_start (start : ℕ) : ((ranking.zipIdx start).map fun entry =>
      if item = entry.1 then 1 / ((k : ℚ) + entry.2) else 0).sum =
        if item ∈ ranking then 1 / ((k : ℚ) + (ranking.idxOf item + start : ℕ)) else 0 := by
    induction ranking generalizing start with
    | nil => simp
    | cons head ranking ih =>
      obtain ⟨absent, rest⟩ := nodup_cons.mp distinct
      rw [zipIdx_cons, map_cons, sum_cons, ih rest]
      by_cases here : item = head
      · subst here
        simp [absent]
      · have shifted : (head :: ranking).idxOf item + start = ranking.idxOf item + (start + 1) := by
          rw [idxOf_cons_ne _ (Ne.symm here)]
          omega
        simp [here, shifted]
  have whole := from_start 1
  push_cast at whole
  rw [placementsOf, map_map]
  exact whole

theorem score_of_eq (distinct : ∀ ranking ∈ rankings, ranking.Nodup) :
    scoreOf rankings k item = (rankings.map (share k item)).sum := by
  have added (start : ℕ) : (((rankings.zipIdx start).flatMap fun entry =>
      placementsOf entry.1 entry.2).map fun placement =>
        if item = placement.item then 1 / ((k : ℚ) + placement.rank) else 0).sum =
      (rankings.map (share k item)).sum := by
    induction rankings generalizing start with
    | nil => rfl
    | cons ranking rankings ih =>
      rw [forall_mem_cons] at distinct
      rw [zipIdx_cons, flatMap_cons, map_append, sum_append, ih distinct.2,
        share_of_placements distinct.1, map_cons, sum_cons]
  rw [scoreOf, scores, amount_accumulate, placements, added 0]
  exact zero_add _

omit [DecidableEq Item] in
theorem placed_items (start : ℕ) : ((rankings.zipIdx start).flatMap fun entry =>
    placementsOf entry.1 entry.2).map Placement.item = rankings.flatten := by
  induction rankings generalizing start with
  | nil => rfl
  | cons ranking rankings ih =>
    have items : (placementsOf ranking start).map Placement.item = ranking := by
      rw [placementsOf, map_map]
      exact zipIdx_map_fst 1 ranking
    rw [zipIdx_cons, flatMap_cons, map_append, items, ih, flatten_cons]

theorem mem_scores : item ∈ (scores rankings k).map Prod.fst ↔ ∃ ranking ∈ rankings, item ∈ ranking := by
  rw [scores, mem_accumulate_keys, ← mem_flatten, ← placed_items 0, mem_map]
  simp [placements, eq_comm]

theorem scores_distinct : ((scores rankings k).map Prod.fst).Nodup :=
  accumulate_distinct _ _ _ nodup_nil

theorem share_nonneg (k : ℕ) (item : Item) (ranking : List Item) : 0 ≤ share k item ranking := by
  unfold share
  split
  · positivity
  · exact le_refl 0

/-- At least as good a place adds at least as much. -/
theorem share_le {ranking : List Item}
    (asGood : other ∈ ranking → item ∈ ranking ∧ ranking.idxOf item ≤ ranking.idxOf other) :
    share k other ranking ≤ share k item ranking := by
  by_cases present : other ∈ ranking
  · obtain ⟨alsoPresent, earlier⟩ := asGood present
    have ranks : (ranking.idxOf item : ℚ) ≤ ranking.idxOf other := by exact_mod_cast earlier
    rw [share, share, if_pos present, if_pos alsoPresent]
    gcongr
  · rw [share, if_neg present]
    exact share_nonneg k item ranking

theorem share_lt {ranking : List Item} (present : item ∈ ranking)
    (better : other ∈ ranking → ranking.idxOf item < ranking.idxOf other) :
    share k other ranking < share k item ranking := by
  rw [share, share, if_pos present]
  split
  · next alsoPresent =>
    have ranks : (ranking.idxOf item : ℚ) < ranking.idxOf other := by exact_mod_cast better alsoPresent
    gcongr
  · positivity

theorem score_lt (distinct : ∀ ranking ∈ rankings, ranking.Nodup)
    (asGood : ∀ ranking ∈ rankings, other ∈ ranking →
      item ∈ ranking ∧ ranking.idxOf item ≤ ranking.idxOf other)
    (better : ∃ ranking ∈ rankings, item ∈ ranking ∧
      (other ∈ ranking → ranking.idxOf item < ranking.idxOf other)) :
    scoreOf rankings k other < scoreOf rankings k item := by
  obtain ⟨ranking, member, present, earlier⟩ := better
  rw [score_of_eq distinct, score_of_eq distinct]
  apply sum_lt_sum
  · intro ranking member
    exact share_le (asGood ranking member)
  · exact ⟨ranking, member, share_lt present earlier⟩

theorem score_perm {permuted : List (List Item)} (same : rankings.Perm permuted)
    (distinct : ∀ ranking ∈ rankings, ranking.Nodup) :
    scoreOf permuted k item = scoreOf rankings k item := by
  rw [score_of_eq distinct, score_of_eq fun ranking member => distinct ranking (same.mem_iff.mpr member)]
  exact ((same.map (share k item)).sum_eq).symm

theorem score_le_of_precedes (present : item ∈ rrfFuse rankings k)
    (precedes : (rrfFuse rankings k).idxOf other < (rrfFuse rankings k).idxOf item) :
    scoreOf rankings k item ≤ scoreOf rankings k other := by
  by_contra larger
  have smallerKey : fusionKey rankings k item < fusionKey rankings k other := by
    apply Prod.Lex.left
    exact neg_lt_neg (not_le.mp larger)
  have swapped := sorted_precedes ((mem_sorted_iff _).mp present) smallerKey
  exact absurd precedes (Nat.not_lt.mpr swapped.le)

/-- The fused list has each ranked item once and nothing else, an item that dominates
another precedes it, and another order of the rankings swaps only items of one score. -/
theorem rrf_fuse_fair (distinct : ∀ ranking ∈ rankings, ranking.Nodup) :
    (rrfFuse rankings k).Nodup ∧
      (∀ item, item ∈ rrfFuse rankings k ↔ ∃ ranking ∈ rankings, item ∈ ranking) ∧
      (∀ item other, (∀ ranking ∈ rankings, other ∈ ranking →
          item ∈ ranking ∧ ranking.idxOf item ≤ ranking.idxOf other) →
        (∃ ranking ∈ rankings, item ∈ ranking ∧
          (other ∈ ranking → ranking.idxOf item < ranking.idxOf other)) →
        (rrfFuse rankings k).idxOf item < (rrfFuse rankings k).idxOf other) ∧
      ∀ permuted, rankings.Perm permuted → ∀ item other,
        item ∈ rrfFuse rankings k → other ∈ rrfFuse rankings k →
        (rrfFuse rankings k).idxOf item < (rrfFuse rankings k).idxOf other →
        (rrfFuse permuted k).idxOf other < (rrfFuse permuted k).idxOf item →
        scoreOf rankings k item = scoreOf rankings k other := by
  have members (rankings : List (List Item)) (item : Item) :
      item ∈ rrfFuse rankings k ↔ ∃ ranking ∈ rankings, item ∈ ranking := by
    rw [rrfFuse, mem_sorted_iff, mem_scores]
  refine ⟨?_, members rankings, ?_, ?_⟩
  · exact (sorted_perm _ _).nodup_iff.mpr scores_distinct
  · intro item other asGood better
    have ⟨ranking, member, present, _⟩ := better
    apply sorted_precedes (mem_scores.mpr ⟨ranking, member, present⟩)
    apply Prod.Lex.left
    exact neg_lt_neg (score_lt distinct asGood better)
  · intro permuted same item other present alsoPresent precedes turned
    obtain ⟨ranking, member, isItem⟩ := (members rankings item).mp present
    have presentThere := (members permuted item).mpr ⟨ranking, same.mem_iff.mp member, isItem⟩
    have back := score_le_of_precedes presentThere turned
    rw [score_perm same distinct, score_perm same distinct] at back
    exact le_antisymm back (score_le_of_precedes alsoPresent precedes)

/-- A search by text and one by meaning. -/
theorem two_searches_fuse :
    (rrfFuse [[1, 2, 3], [2, 4]] 60).idxOf 2 < (rrfFuse [[1, 2, 3], [2, 4]] 60).idxOf 3 :=
  (rrf_fuse_fair (by decide)).2.2.1 2 3 (by decide) ⟨[1, 2, 3], by decide⟩

/-- A prefix with an item has the earlier ones of the whole ranking before it. -/
theorem earlier_in_prefix {whole ranking : List Item} (start : ranking <+: whole)
    (present : other ∈ ranking) (earlier : whole.idxOf item < whole.idxOf other) :
    item ∈ ranking ∧ ranking.idxOf item < ranking.idxOf other := by
  obtain ⟨rest, isWhole⟩ := start
  rw [← isWhole, idxOf_append_of_mem present] at earlier
  by_cases here : item ∈ ranking
  · rw [idxOf_append_of_mem here] at earlier
    exact ⟨here, earlier⟩
  · rw [idxOf_append_of_notMem here] at earlier
    have inside := idxOf_lt_length_of_mem present
    omega

/-- Rankings that agree, some of them cut short, are fused to the longest of them. -/
theorem prefixes_fuse {whole : List Item} (distinct : whole.Nodup)
    (prefixes : ∀ ranking ∈ rankings, ranking <+: whole) (longest : whole ∈ rankings) :
    rrfFuse rankings k = whole := by
  have eachDistinct : ∀ ranking ∈ rankings, ranking.Nodup :=
    fun ranking member => distinct.sublist (prefixes ranking member).sublist
  have ordered : whole.Pairwise fun item other =>
      fusionKey rankings k item < fusionKey rankings k other := by
    apply pairwise_iff_getElem.mpr
    intro first second firstInside secondInside before
    have earlier : whole.idxOf whole[first] < whole.idxOf whole[second] := by
      rw [distinct.idxOf_getElem, distinct.idxOf_getElem]
      exact before
    apply Prod.Lex.left
    apply neg_lt_neg
    apply score_lt eachDistinct
    · intro ranking member present
      have found := earlier_in_prefix (prefixes ranking member) present earlier
      exact ⟨found.1, found.2.le⟩
    · exact ⟨whole, longest, getElem_mem firstInside, fun _ => earlier⟩
  have same : whole.Perm ((scores rankings k).map Prod.fst) := by
    apply (perm_ext_iff_of_nodup distinct scores_distinct).mpr
    intro item
    rw [mem_scores]
    constructor
    · exact fun present => ⟨whole, longest, present⟩
    · rintro ⟨ranking, member, present⟩
      exact (prefixes ranking member).mem present
  have keys : (whole.map (fusionKey rankings k)).Nodup :=
    pairwise_map.mpr (ordered.imp fun before => before.ne)
  rw [rrfFuse, ← sorted_eq_of_perm keys same]
  exact sorted_of_pairwise _ (ordered.imp fun before => before.le)

theorem prefixes_fuse_sample : rrfFuse [["a"], ["a", "b", "c"], ["a", "b"]] 60 = ["a", "b", "c"] :=
  prefixes_fuse (by decide) (by decide) (by decide)

end FinanceTracker.Analytics.RankFusion
