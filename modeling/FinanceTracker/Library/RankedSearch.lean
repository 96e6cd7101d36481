import Mathlib.Data.List.Sort
import Mathlib.Data.List.SplitBy

/-!
# Searching a ranking

The first eligible item of a list in a ranking is the best one. A ranking may be built in
steps: a sorted list is cut into groups by its first key, and each group is sorted again
by another key with a stable sort.
-/

namespace FinanceTracker.Library.RankedSearch

open List

variable {Item : Type*}

/-- An eligible item that comes before every other. -/
structure Best (before : Item → Item → Prop) (eligible : Item → Prop) (items : List Item)
    (item : Item) : Prop where
  member : item ∈ items
  isEligible : eligible item
  first : ∀ other ∈ items, eligible other → other = item ∨ before item other

section Best

variable {before : Item → Item → Prop} {eligible : Item → Prop} {items : List Item}
  {item other : Item}

theorem best_unique (asymmetric : ∀ first second, before first second → ¬ before second first)
    (best : Best before eligible items item) (same : Best before eligible items other) :
    item = other := by
  rcases best.first other same.member same.isEligible with isItem | before
  · exact isItem.symm
  · rcases same.first item best.member best.isEligible with isOther | after
    · exact isOther
    · exact absurd after (asymmetric item other before)

theorem best_of_find {test : Item → Bool} (ordered : items.Pairwise before)
    (found : items.find? test = some item) :
    Best before (fun item => test item = true) items item := by
  obtain ⟨isEligible, _, _, rfl, refused⟩ := List.find?_eq_some_iff_append.mp found
  refine ⟨mem_append_right _ mem_cons_self, isEligible, ?_⟩
  intro other member otherEligible
  rcases mem_append.mp member with inEarlier | inLater
  · have isRefused := refused other inEarlier
    rw [otherEligible] at isRefused
    contradiction
  · rcases mem_cons.mp inLater with isItem | inRest
    · exact Or.inl isItem
    · have tail := (pairwise_append.mp ordered).2.1
      exact Or.inr ((pairwise_cons.mp tail).1 other inRest)

theorem best_congr {others : List Item} {allowed : Item → Prop}
    (same : ∀ item, (item ∈ items ∧ eligible item) ↔ (item ∈ others ∧ allowed item)) :
    Best before eligible items item ↔ Best before allowed others item := by
  constructor
  · intro best
    have here := (same item).mp ⟨best.member, best.isEligible⟩
    refine ⟨here.1, here.2, fun other member isAllowed => ?_⟩
    have there := (same other).mpr ⟨member, isAllowed⟩
    exact best.first other there.1 there.2
  · intro best
    have here := (same item).mpr ⟨best.member, best.isEligible⟩
    refine ⟨here.1, here.2, fun other member isEligible => ?_⟩
    have there := (same other).mp ⟨member, isEligible⟩
    exact best.first other there.1 there.2

end Best

/-- A search for the first answer is a search for the first item that has one. -/
theorem find_some_eq {Answer : Type*} (answer : Item → Option Answer) (items : List Item) :
    items.findSome? answer = (items.find? fun item => (answer item).isSome).bind answer := by
  induction items with
  | nil => rfl
  | cons item items ih =>
    rw [List.findSome?_cons, List.find?_cons]
    cases isAnswer : answer item with
    | none => simpa [isAnswer] using ih
    | some => simp [isAnswer]

theorem find_some_flatten {Answer : Type*} (answer : Item → Option Answer)
    (groups : List (List Item)) :
    groups.flatten.findSome? answer = groups.findSome? fun group => group.findSome? answer := by
  induction groups with
  | nil => rfl
  | cons group groups ih =>
    rw [flatten_cons, List.findSome?_append, List.findSome?_cons, ih]
    cases group.findSome? answer <;> rfl

section Groups

variable {Key : Type*} [LinearOrder Key] {key : Item → Key}

theorem groups_rise {groups : List (List Item)}
    (ordered : groups.flatten.Pairwise fun first second => key first ≤ key second)
    (chain : groups.IsChain fun group next =>
      ∃ nonempty nextNonempty, key (group.getLast nonempty) ≠ key (next.head nextNonempty)) :
    groups.Pairwise fun group later => ∀ item ∈ group, ∀ other ∈ later, key item < key other := by
  induction groups with
  | nil => exact List.Pairwise.nil
  | cons group groups ih =>
    rw [flatten_cons, pairwise_append] at ordered
    obtain ⟨inGroup, inRest, across⟩ := ordered
    rw [pairwise_cons]
    refine ⟨?_, ih inRest (isChain_cons.mp chain).2⟩
    intro later isLater item isItem other isOther
    cases groups with
    | nil => cases isLater
    | cons next rest =>
      obtain ⟨nonempty, nextNonempty, differ⟩ := (isChain_cons.mp chain).1 next rfl
      have headMember : next.head nextNonempty ∈ (next :: rest).flatten := by
        rw [flatten_cons]
        exact mem_append_left _ (head_mem nextNonempty)
      have toLast : key item ≤ key (group.getLast nonempty) := by
        rw [pairwise_iff_getElem] at inGroup
        obtain ⟨index, inside, rfl⟩ := getElem_of_mem isItem
        rw [getLast_eq_getElem]
        rcases Nat.lt_or_ge index (group.length - 1) with early | late
        · exact inGroup index (group.length - 1) inside (by omega) early
        · have isLast : index = group.length - 1 := by omega
          simp only [isLast, le_refl]
      have step : key (group.getLast nonempty) < key (next.head nextNonempty) :=
        lt_of_le_of_ne (across _ (getLast_mem nonempty) _ headMember) differ
      have fromHead : key (next.head nextNonempty) ≤ key other := by
        have inFlat : other ∈ (next :: rest).flatten := mem_flatten.mpr ⟨later, isLater, isOther⟩
        have isCons : (next :: rest).flatten =
            next.head nextNonempty :: (next.tail ++ rest.flatten) := by
          rw [flatten_cons, ← cons_append, cons_head_tail]
        rw [isCons] at inRest inFlat
        rcases mem_cons.mp inFlat with isHead | inTail
        · rw [isHead]
        · exact (pairwise_cons.mp inRest).1 other inTail
      exact lt_of_le_of_lt toLast (lt_of_lt_of_le step fromHead)

theorem groups_apart {items : List Item}
    (ordered : items.Pairwise fun first second => key first ≤ key second) :
    (items.splitBy fun first second => key first = key second).Pairwise fun group later =>
      ∀ item ∈ group, ∀ other ∈ later, key item < key other := by
  apply groups_rise
  · rw [flatten_splitBy]
    exact ordered
  · apply (isChain_getLast_head_splitBy _ items).imp
    intro _ _ step
    obtain ⟨nonempty, nextNonempty, differ⟩ := step
    exact ⟨nonempty, nextNonempty, of_decide_eq_false differ⟩

theorem group_key {items group : List Item}
    (isGroup : group ∈ items.splitBy fun first second => key first = key second)
    {first second : Item} (firstMember : first ∈ group) (secondMember : second ∈ group) :
    key first = key second := by
  have chain := isChain_of_mem_splitBy isGroup
  simp only [decide_eq_true_eq] at chain
  have pairs : group.Pairwise fun first second => key first = key second := chain.pairwise
  obtain ⟨index, inside, rfl⟩ := getElem_of_mem firstMember
  obtain ⟨position, alsoInside, rfl⟩ := getElem_of_mem secondMember
  rw [pairwise_iff_getElem] at pairs
  rcases Nat.lt_trichotomy index position with early | rfl | late
  · exact pairs index position inside alsoInside early
  · rfl
  · exact (pairs position index alsoInside inside late).symm

end Groups

section Stable

variable {le : Item → Item → Bool} {before : Item → Item → Prop}

theorem pair_sublist {items : List Item} {first second : Item} (firstMember : first ∈ items)
    (secondMember : second ∈ items) (differ : first ≠ second) :
    List.Sublist [first, second] items ∨ List.Sublist [second, first] items := by
  induction items with
  | nil => cases firstMember
  | cons head items ih =>
    rcases mem_cons.mp firstMember with rfl | firstLater
    · rcases mem_cons.mp secondMember with rfl | secondLater
      · exact absurd rfl differ
      · exact Or.inl ((singleton_sublist.mpr secondLater).cons_cons first)
    · rcases mem_cons.mp secondMember with rfl | secondLater
      · exact Or.inr ((singleton_sublist.mpr firstLater).cons_cons second)
      · exact (ih firstLater secondLater).imp (·.cons head) (·.cons head)

theorem pair_one_way {items : List Item} (distinct : items.Nodup) {first second : Item}
    (forth : List.Sublist [first, second] items) : ¬ List.Sublist [second, first] items := by
  classical
  have ordered : items.Pairwise fun earlier later =>
      items.idxOf earlier < items.idxOf later := by
    rw [pairwise_iff_getElem]
    intro _ _ _ _ order
    rw [distinct.idxOf_getElem, distinct.idxOf_getElem]
    exact order
  intro back
  have rises := pairwise_iff_forall_sublist.mp ordered forth
  have falls := pairwise_iff_forall_sublist.mp ordered back
  omega

theorem merge_sort_keeps (trans : ∀ first second third, le first second → le second third →
      le first third) (total : ∀ first second, le first second || le second first)
    {items : List Item} (distinct : items.Nodup) (ordered : items.Pairwise before) :
    (items.mergeSort le).Pairwise fun first second =>
      le first second = true ∧ (le second first = true → before first second) := by
  have sortedDistinct : (items.mergeSort le).Nodup := (mergeSort_perm items le).nodup_iff.mpr distinct
  rw [pairwise_iff_forall_sublist]
  intro first second forth
  have sorted := pairwise_iff_forall_sublist.mp (pairwise_mergeSort trans total items) forth
  refine ⟨sorted, fun alsoBack => ?_⟩
  have differ : first ≠ second :=
    pairwise_iff_forall_sublist.mp sortedDistinct forth
  have members := forth.subset
  have firstMember : first ∈ items := mem_mergeSort.mp (members (by simp))
  have secondMember : second ∈ items := mem_mergeSort.mp (members (by simp))
  rcases pair_sublist firstMember secondMember differ with kept | turned
  · exact pairwise_iff_forall_sublist.mp ordered kept
  · exact absurd (pair_sublist_mergeSort trans total alsoBack turned)
      (pair_one_way sortedDistinct forth)

inductive FirstBest (le : Item → Item → Bool) (test : Item → Bool) : List Item → Item → Prop where
  | here {item : Item} {items : List Item} (eligible : test item = true)
      (first : ∀ other ∈ items, test other = true → le item other = true) :
      FirstBest le test (item :: items) item
  | later {head item : Item} {items : List Item} (best : FirstBest le test items item)
      (worse : test head = true → le head item = false) : FirstBest le test (head :: items) item

theorem first_best_mem {test : Item → Bool} {items : List Item} {item : Item}
    (best : FirstBest le test items item) : item ∈ items ∧ test item = true := by
  induction best with
  | here eligible => exact ⟨mem_cons_self, eligible⟩
  | later best worse ih => exact ⟨mem_cons_of_mem _ ih.1, ih.2⟩

theorem find_sorted_iff (trans : ∀ first second third, le first second → le second third →
      le first third) (total : ∀ first second, le first second || le second first)
    (test : Item → Bool) (items : List Item) (item : Item) :
    (items.mergeSort le).find? test = some item ↔ FirstBest le test items item := by
  induction items generalizing item with
  | nil =>
    constructor
    · intro found
      rw [mergeSort_nil] at found
      cases found
    · intro best
      cases best
  | cons head items ih =>
    obtain ⟨worse, rest, whole, without, isWorse⟩ := mergeSort_cons trans total head items
    have sorted := pairwise_mergeSort trans total (head :: items)
    rw [whole] at sorted ⊢
    rw [without] at ih
    rw [List.find?_append, List.find?_cons]
    have fromHead : ∀ other ∈ rest, le head other = true :=
      (pairwise_cons.mp (pairwise_append.mp sorted).2.1).1
    have inItems : ∀ other, other ∈ items ↔ other ∈ worse ++ rest := by
      intro _
      rw [← without, mem_mergeSort]
    cases found : worse.find? test with
    | some other =>
      -- the best of the tail precedes the head
      have best : FirstBest le test items other := (ih other).mp (by
        rw [List.find?_append, found]
        rfl)
      have notAfter : le head other = false := by
        simpa using isWorse other (mem_of_find?_eq_some found)
      rw [Option.some_or, Option.some.injEq]
      constructor
      · intro isItem
        rw [← isItem]
        exact .later best fun _ => notAfter
      · intro isBest
        cases isBest with
        | here eligible first =>
          have precedes := first other (first_best_mem best).1 (first_best_mem best).2
          rw [notAfter] at precedes
          contradiction
        | later tailBest =>
          have isFound := (ih item).mpr tailBest
          rw [List.find?_append, found] at isFound
          exact Option.some.inj isFound
    | none =>
      have isRefused := List.find?_eq_none.mp found
      have tailFound : (worse ++ rest).find? test = rest.find? test := by
        rw [List.find?_append, found]
        rfl
      rw [tailFound] at ih
      rw [Option.none_or]
      cases eligible : test head with
      | true =>
        rw [Option.some.injEq]
        constructor
        · intro isItem
          rw [← isItem]
          refine .here eligible fun other member isEligible => ?_
          rcases mem_append.mp ((inItems other).mp member) with inWorse | inRest
          · exact absurd isEligible (isRefused other inWorse)
          · exact fromHead other inRest
        · intro isBest
          cases isBest with
          | here => rfl
          | later tailBest notBefore =>
            have isFound := (ih item).mpr tailBest
            have precedes := fromHead item (mem_of_find?_eq_some isFound)
            rw [notBefore eligible] at precedes
            contradiction
      | false =>
        change rest.find? test = some item ↔ _
        rw [ih item]
        constructor
        · exact fun best => .later best fun isEligible => by
            rw [eligible] at isEligible
            contradiction
        · intro isBest
          cases isBest with
          | here isEligible =>
            rw [eligible] at isEligible
            contradiction
          | later tailBest => exact tailBest

variable {Key : Type*} [LinearOrder Key] {key : Item → Key}

def regrouped (key : Item → Key) (le : Item → Item → Bool) (items : List Item) : List (List Item) :=
  (items.splitBy fun first second => key first = key second).map fun group => group.mergeSort le

theorem regrouped_perm (items : List Item) : (regrouped key le items).flatten.Perm items := by
  have flat : (items.splitBy fun first second => key first = key second).flatten = items :=
    flatten_splitBy _ items
  have same : ∀ groups : List (List Item),
      (groups.map fun group => group.mergeSort le).flatten.Perm groups.flatten := by
    intro groups
    induction groups with
    | nil => exact List.Perm.refl _
    | cons group groups ih => exact (mergeSort_perm group le).append ih
  have sorted := same (items.splitBy fun first second => key first = key second)
  rw [flat] at sorted
  exact sorted

/-- Sorting the groups of a sorted list again gives the ranking by the key, then by the
second order, then by what the list was sorted by. -/
theorem regrouped_pairwise (trans : ∀ first second third, le first second → le second third →
      le first third) (total : ∀ first second, le first second || le second first)
    {items : List Item} (distinct : items.Nodup) (ordered : items.Pairwise before)
    (byKey : ∀ first second, before first second → key first ≤ key second) :
    (regrouped key le items).flatten.Pairwise fun first second =>
      key first < key second ∨ (key first = key second ∧ le first second = true ∧
        (le second first = true → before first second)) := by
  have keyed : items.Pairwise fun first second => key first ≤ key second :=
    ordered.imp fun {first second} => byKey first second
  have flat : (items.splitBy fun first second => key first = key second).flatten = items :=
    flatten_splitBy _ items
  unfold regrouped
  rw [pairwise_flatten]
  constructor
  · intro _ isSorted
    obtain ⟨group, isGroup, rfl⟩ := mem_map.mp isSorted
    have part : group.Sublist items := by
      rw [← flat]
      exact sublist_flatten_of_mem isGroup
    have within := merge_sort_keeps trans total (distinct.sublist part) (ordered.sublist part)
    apply within.imp_of_mem
    intro _ _ firstMember secondMember orderedPair
    exact Or.inr ⟨group_key isGroup (mem_mergeSort.mp firstMember)
      (mem_mergeSort.mp secondMember), orderedPair⟩
  · rw [pairwise_map]
    apply (groups_apart keyed).imp
    intro _ _ apart first firstMember second secondMember
    exact Or.inl (apart first (mem_mergeSort.mp firstMember) second
      (mem_mergeSort.mp secondMember))

end Stable

end FinanceTracker.Library.RankedSearch
