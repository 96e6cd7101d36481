import FinanceTracker.Library.Binary64
import FinanceTracker.Library.Counters
import FinanceTracker.Library.SortedBy
import FinanceTracker.Shared.BudgetPeriod
import FinanceTracker.Shared.TransactionEvents

/-!
# Breakdowns

The overview and the comparison of months of the query store, with amounts in whole cents, which
its rounding leaves alone. Elasticsearch filters, adds up and returns the largest buckets, no more
than asked for.
-/

namespace FinanceTracker.Analytics.Breakdown

open Library Binary64 Counters SortedBy Calendar Shared.BudgetPeriod List
open Shared.TransactionEvents (orNone)

/-- A transaction document, whose type is that of its event in lower case and whose `amount_abs`
is the size of its amount. -/
structure Doc where
  userId : ℤ
  accountId : ℤ
  isDeleted : Bool
  txDate : Date
  amount : ℤ
  eventType : String
  categoryId : Option ℤ
  categoryName : Option String
  subcategoryId : Option ℤ
  subcategoryName : Option String
  updatedAt : ℤ

def sumAbs (docs : List Doc) : ℤ := (docs.map fun doc => |doc.amount|).sum

def isIncome (txType : String) (amount : ℤ) : Bool :=
  txType == "income" || txType == "" && decide (0 < amount)

def isExpense (txType : String) (amount : ℤ) : Bool :=
  txType == "expense" || txType == "" && decide (amount < 0)

inductive Filter where
  | type (value : String)
  | negative
  | positive
  | all (filters : List Filter)
  | any (filters : List Filter)
  | mustNot (filters : List Filter)

def expenseFilter : Filter := .any [.type "expense", .all [.type "", .negative]]

def incomeFilter : Filter := .any [.type "income", .all [.type "", .positive]]

def otherFilter : Filter := .mustNot [incomeFilter, expenseFilter]

section Lower

-- `lower` is `str.lower`.
variable (lower : String → String)

def normalizeTxType (rawValue : Option String) : String := (rawValue.map lower).getD ""

mutual

def matchesFilter (doc : Doc) : Filter → Bool
  | .type value => lower doc.eventType == value
  | .negative => decide (doc.amount < 0)
  | .positive => decide (0 < doc.amount)
  | .all filters => matchesAll doc filters
  | .any filters => matchesAny doc filters
  | .mustNot filters => !matchesAny doc filters

def matchesAll (doc : Doc) : List Filter → Bool
  | [] => true
  | filter :: filters => matchesFilter doc filter && matchesAll doc filters

def matchesAny (doc : Doc) : List Filter → Bool
  | [] => false
  | filter :: filters => matchesFilter doc filter || matchesAny doc filters

end

def missingId : ℤ := -1

def bucketSize : ℕ := 200

def termsKeys (field : Doc → Option ℤ) (docs : List Doc) : List ℤ :=
  (docs.map fun doc => (field doc).getD missingId).dedup

def bucketOf (field : Doc → Option ℤ) (docs : List Doc) (key : ℤ) : List Doc :=
  docs.filter fun doc => (field doc).getD missingId = key

def terms (field : Doc → Option ℤ) (docs : List Doc) : List ℤ :=
  (sortedBy (fun key => -sumAbs (bucketOf field docs key)) (termsKeys field docs)).take bucketSize

def categoryKey (rawKey : ℤ) : Option ℤ := if rawKey = missingId then none else some rawKey

def topHitName (field : Doc → Option String) (docs : List Doc) : Option String :=
  ((sortedBy (fun doc => -doc.updatedAt) docs).head?.bind field).bind orNone

structure SubcategoryExpense where
  subcategoryId : Option ℤ
  subcategoryName : String
  amount : ℤ

structure CategoryExpense where
  categoryId : Option ℤ
  categoryName : String
  amount : ℤ
  subcategories : List SubcategoryExpense

def uncategorizedLabel : String := "Ukategoriseret"

def categoryName (docs : List Doc) : String :=
  (topHitName Doc.categoryName docs).getD uncategorizedLabel

def subcategoryExpenses (docs : List Doc) : List SubcategoryExpense :=
  sortedBy (fun expense => -expense.amount) ((terms Doc.subcategoryId docs).map fun key =>
    let bucket := bucketOf Doc.subcategoryId docs key
    { subcategoryId := categoryKey key
      subcategoryName := (topHitName Doc.subcategoryName bucket).getD "(Ingen underkategori)"
      amount := sumAbs bucket })

/-- The aggregation of `_category_breakdown_aggs` and `_buckets_to_category_expenses`. -/
def categoryExpenses (docs : List Doc) : List CategoryExpense :=
  sortedBy (fun expense => -expense.amount) ((terms Doc.categoryId docs).map fun key =>
    let bucket := bucketOf Doc.categoryId docs key
    { categoryId := categoryKey key
      categoryName := categoryName bucket
      amount := sumAbs bucket
      subcategories := subcategoryExpenses bucket })

def inPeriod (startDate endDate : Date) (docs : List Doc) : List Doc :=
  docs.filter fun doc => startDate ≤ doc.txDate ∧ doc.txDate ≤ endDate

/-- `_base_filters`. -/
def liveDocs (docs : List Doc) (userId accountId : ℤ) (startDate endDate : Date) : List Doc :=
  inPeriod startDate endDate (docs.filter fun doc =>
    doc.userId = userId ∧ doc.accountId = accountId ∧ doc.isDeleted = false)

def matching (filter : Filter) (docs : List Doc) : List Doc :=
  docs.filter fun doc => matchesFilter lower doc filter

def monthsInPeriod (startDate endDate : Date) : ℚ :=
  let months := max 1
    ((endDate.year - startDate.year) * 12 + (endDate.month - startDate.month) + 1)
  if months = 1 then max 1 ((endDate.toOrdinal - startDate.toOrdinal + 1 : ℤ) / 30) else months

structure FinancialOverview where
  totalIncome : ℤ
  totalExpenses : ℤ
  netChangeInPeriod : ℤ
  expensesByCategory : List CategoryExpense
  currentAccountBalance : ℤ
  averageMonthlyExpenses : ℤ

def financialOverview (docs : List Doc) (userId accountId : ℤ) (startDate endDate : Date) :
    FinancialOverview :=
  let found := liveDocs docs userId accountId startDate endDate
  let totalIncome := sumAbs (matching lower incomeFilter found)
  let totalExpenses := sumAbs (matching lower expenseFilter found)
  let otherRaw := ((matching lower otherFilter found).map Doc.amount).sum
  { totalIncome
    totalExpenses
    netChangeInPeriod := totalIncome - totalExpenses
    expensesByCategory := categoryExpenses (matching lower expenseFilter found)
    currentAccountBalance := totalIncome - totalExpenses + otherRaw
    averageMonthlyExpenses := roundHalfEven (totalExpenses / monthsInPeriod startDate endDate) }

structure CategoryDelta where
  categoryId : Option ℤ
  categoryName : String
  currentAmount : ℤ
  previousAmount : ℤ
  changeAmount : ℤ
  changePercent : Option ℚ

def bucketEntry (docs : List Doc) (categoryId : Option ℤ) : Option (String × ℤ) :=
  ((terms Doc.categoryId docs).find? fun key => categoryKey key = categoryId).map fun key =>
    (categoryName (bucketOf Doc.categoryId docs key), sumAbs (bucketOf Doc.categoryId docs key))

def categoryDelta (current previous : List Doc) (categoryId : Option ℤ) : CategoryDelta :=
  let entry := (bucketEntry current categoryId).or (bucketEntry previous categoryId)
  let currentAmount := ((bucketEntry current categoryId).map Prod.snd).getD 0
  let previousAmount := ((bucketEntry previous categoryId).map Prod.snd).getD 0
  let change := currentAmount - previousAmount
  { categoryId
    categoryName := (entry.map Prod.fst).getD uncategorizedLabel
    currentAmount
    previousAmount
    changeAmount := change
    changePercent :=
      if previousAmount = 0 then none
      else some (roundHalfEven ((change : ℚ) / previousAmount * 1000) / 10) }

structure MonthComparison where
  previousMonth : ℤ
  previousYear : ℤ
  totalCurrent : ℤ
  totalPrevious : ℤ
  deltas : List CategoryDelta

def previousMonth (year month : ℤ) : ℤ × ℤ :=
  if 1 < month then (year, month - 1) else (year - 1, 12)

def monthComparison (docs : List Doc) (userId accountId year month budgetStartDay : ℤ) :
    Option MonthComparison := do
  let before := previousMonth year month
  let (currentStart, currentEnd) ← budgetPeriod year month budgetStartDay
  let (previousStart, previousEnd) ← budgetPeriod before.1 before.2 budgetStartDay
  let found := liveDocs docs userId accountId previousStart currentEnd
  let current := matching lower expenseFilter (inPeriod currentStart currentEnd found)
  let previous := matching lower expenseFilter (inPeriod previousStart previousEnd found)
  let ids := ((terms Doc.categoryId current ++ terms Doc.categoryId previous).map categoryKey).dedup
  some
    { previousMonth := before.2
      previousYear := before.1
      totalCurrent := sumAbs current
      totalPrevious := sumAbs previous
      deltas := sortedBy (fun delta => -|delta.changeAmount|) (ids.map (categoryDelta current previous)) }

end Lower

def expensesOf (lower : String → String) (docs : List Doc) (userId accountId : ℤ)
    (startDate endDate : Date) : List Doc :=
  matching lower expenseFilter (liveDocs docs userId accountId startDate endDate)

def FewBuckets (field : Doc → Option ℤ) (docs : List Doc) : Prop :=
  (termsKeys field docs).length ≤ bucketSize

structure OverviewConserves (overview : FinancialOverview) : Prop where
  categories : overview.totalExpenses = (overview.expensesByCategory.map CategoryExpense.amount).sum
  subcategories : ∀ category ∈ overview.expensesByCategory,
    category.amount = (category.subcategories.map SubcategoryExpense.amount).sum

/-- The categories with expenses in one of the months, each once. -/
structure ComparisonConserves (current previous : List Doc) (comparison : MonthComparison) : Prop where
  once : (comparison.deltas.map CategoryDelta.categoryId).Nodup
  listed : ∀ id, id ∈ comparison.deltas.map CategoryDelta.categoryId ↔
    ∃ doc ∈ current ++ previous, categoryKey (doc.categoryId.getD missingId) = id
  changes : (comparison.deltas.map CategoryDelta.changeAmount).sum =
    comparison.totalCurrent - comparison.totalPrevious

variable {lower : String → String} {docs current previous : List Doc}
  {field : Doc → Option ℤ} {startDate endDate nextStart nextEnd : Date}
  {userId accountId year month budgetStartDay : ℤ}

theorem matches_kinds (doc : Doc) : matchesFilter lower doc incomeFilter =
        isIncome (normalizeTxType lower (some doc.eventType)) doc.amount ∧
      matchesFilter lower doc expenseFilter =
        isExpense (normalizeTxType lower (some doc.eventType)) doc.amount ∧
      matchesFilter lower doc otherFilter =
        !(matchesFilter lower doc incomeFilter || matchesFilter lower doc expenseFilter) := by
  simp [matchesFilter, matchesAny, matchesAll, incomeFilter, expenseFilter, otherFilter, isIncome,
    isExpense, normalizeTxType]

theorem not_income_and_expense (txType : String) (amount : ℤ) :
    ¬ (isIncome txType amount = true ∧ isExpense txType amount = true) := by
  simp only [isIncome, isExpense, Bool.or_eq_true, Bool.and_eq_true, beq_iff_eq, decide_eq_true_eq]
  rintro ⟨income | ⟨empty, _⟩, expense | ⟨alsoEmpty, _⟩⟩
  · rw [income] at expense
    contradiction
  · rw [income] at alsoEmpty
    contradiction
  · rw [empty] at expense
    contradiction
  · omega

theorem terms_perm (few : FewBuckets field docs) : (terms field docs).Perm (termsKeys field docs) := by
  rw [terms, take_of_length_le]
  · exact sorted_perm _ _
  · rw [sorted_length]
    exact few

theorem sum_terms (few : FewBuckets field docs) :
    ((terms field docs).map fun key => sumAbs (bucketOf field docs key)).sum = sumAbs docs := by
  rw [((terms_perm few).map _).sum_eq]
  apply sum_over_keys (fun doc => (field doc).getD missingId) (fun doc => |doc.amount|)
  · exact nodup_dedup _
  · exact fun doc member => mem_dedup.mpr (mem_map_of_mem member)

/-- Buckets beyond those returned are missing from the sum. -/
theorem many_buckets_lost (spent : ∀ doc ∈ docs, doc.amount ≠ 0) (many : ¬ FewBuckets field docs) :
    ((terms field docs).map fun key => sumAbs (bucketOf field docs key)).sum < sumAbs docs := by
  have ranked (keys : List ℤ) (isKeys : ∀ key ∈ keys, key ∈ termsKeys field docs) (some : keys ≠ []) :
      0 < (keys.map fun key => sumAbs (bucketOf field docs key)).sum := by
    apply sum_pos
    · intro sum member
      obtain ⟨key, isKey, rfl⟩ := mem_map.mp member
      obtain ⟨doc, inDocs, isDoc⟩ := mem_map.mp (mem_dedup.mp (isKeys key isKey))
      apply sum_pos
      · intro size sized
        obtain ⟨other, inBucket, rfl⟩ := mem_map.mp sized
        exact abs_pos.mpr (spent other (mem_of_mem_filter inBucket))
      · exact map_eq_nil_iff.not.mpr
          (ne_nil_of_mem (mem_filter.mpr ⟨inDocs, decide_eq_true isDoc⟩))
    · exact map_eq_nil_iff.not.mpr some
  have whole : ((termsKeys field docs).map fun key => sumAbs (bucketOf field docs key)).sum =
      sumAbs docs :=
    sum_over_keys (fun doc => (field doc).getD missingId) (fun doc => |doc.amount|)
      (nodup_dedup _) fun doc member => mem_dedup.mpr (mem_map_of_mem member)
  have sorted := sorted_perm (fun key => -sumAbs (bucketOf field docs key)) (termsKeys field docs)
  rw [← whole, ← (sorted.map _).sum_eq, ← take_append_drop bucketSize (sortedBy _ _),
    map_append, sum_append]
  apply lt_add_of_pos_right
  apply ranked
  · exact fun key member => sorted.mem_iff.mp (mem_of_mem_drop member)
  · rw [ne_eq, drop_eq_nil_iff, sorted_length]
    exact many

theorem overview_conserves
    (few : FewBuckets Doc.categoryId (expensesOf lower docs userId accountId startDate endDate))
    (fewBelow : ∀ key, FewBuckets Doc.subcategoryId
      (bucketOf Doc.categoryId (expensesOf lower docs userId accountId startDate endDate) key)) :
    OverviewConserves (financialOverview lower docs userId accountId startDate endDate) where
  categories := by
    change sumAbs (expensesOf lower docs userId accountId startDate endDate) = _
    rw [financialOverview, categoryExpenses, ((sorted_perm _ _).map _).sum_eq, map_map]
    exact (sum_terms few).symm
  subcategories := by
    intro category member
    obtain ⟨key, _, rfl⟩ := mem_map.mp ((mem_sorted_iff _).mp member)
    dsimp only
    rw [subcategoryExpenses, ((sorted_perm _ _).map _).sum_eq, map_map]
    exact (sum_terms (fewBelow key)).symm

theorem category_key_injective {key other : ℤ} (same : categoryKey key = categoryKey other) :
    key = other := by
  unfold categoryKey at same
  split at same
  · split at same
    · omega
    · contradiction
  · split at same
    · contradiction
    · exact Option.some.inj same

theorem entry_amount (few : FewBuckets Doc.categoryId docs) (id : Option ℤ) :
    ((bucketEntry docs id).map Prod.snd).getD 0 =
      sumAbs (docs.filter fun doc => categoryKey (doc.categoryId.getD missingId) = id) := by
  unfold bucketEntry
  cases found : (terms Doc.categoryId docs).find? fun key => categoryKey key = id with
  | none =>
    have empty : docs.filter (fun doc => categoryKey (doc.categoryId.getD missingId) = id) = [] := by
      rw [filter_eq_nil_iff]
      intro doc member
      apply List.find?_eq_none.mp found
      exact (terms_perm few).mem_iff.mpr (mem_dedup.mpr (mem_map_of_mem member))
    rw [empty]
    rfl
  | some key =>
    have isKey : categoryKey key = id := by simpa using List.find?_some found
    have bucket : bucketOf Doc.categoryId docs key =
        docs.filter fun doc => categoryKey (doc.categoryId.getD missingId) = id := by
      apply filter_congr
      intro doc _
      rw [← isKey]
      exact decide_eq_decide.mpr ⟨congrArg categoryKey, category_key_injective⟩
    rw [← bucket]
    rfl

def comparedIds (current previous : List Doc) : List (Option ℤ) :=
  ((terms Doc.categoryId current ++ terms Doc.categoryId previous).map categoryKey).dedup

theorem mem_compared_ids (few : FewBuckets Doc.categoryId current)
    (fewBefore : FewBuckets Doc.categoryId previous) {id : Option ℤ} :
    id ∈ comparedIds current previous ↔
      ∃ doc ∈ current ++ previous, categoryKey (doc.categoryId.getD missingId) = id := by
  simp only [comparedIds, mem_dedup, mem_map, mem_append, (terms_perm few).mem_iff,
    (terms_perm fewBefore).mem_iff, termsKeys]
  constructor
  · rintro ⟨_, ⟨doc, member, rfl⟩ | ⟨doc, member, rfl⟩, same⟩
    · exact ⟨doc, Or.inl member, same⟩
    · exact ⟨doc, Or.inr member, same⟩
  · rintro ⟨doc, member | member, same⟩
    · exact ⟨_, Or.inl ⟨doc, member, rfl⟩, same⟩
    · exact ⟨_, Or.inr ⟨doc, member, rfl⟩, same⟩

theorem sum_entries (few : FewBuckets Doc.categoryId docs) {ids : List (Option ℤ)} (distinct : ids.Nodup)
    (covered : ∀ doc ∈ docs, categoryKey (doc.categoryId.getD missingId) ∈ ids) :
    (ids.map fun id => ((bucketEntry docs id).map Prod.snd).getD 0).sum = sumAbs docs := by
  simp only [entry_amount few]
  exact sum_over_keys (fun doc : Doc => categoryKey (doc.categoryId.getD missingId))
    (fun doc => |doc.amount|) distinct covered

theorem period_months (period : budgetPeriod year month budgetStartDay = some (startDate, endDate)) :
    endDate.year * 12 + endDate.month = year * 12 + month ∧
      startDate.year * 12 + startDate.month + (if clampStartDay budgetStartDay = 1 then 0 else 1) =
        year * 12 + month := by
  obtain ⟨_, _, _, _, _, _⟩ := endDate.valid
  rcases budget_period_cases period with ⟨first, _, _, _, _, _, _⟩ | ⟨notFirst, start, _, _, _, _⟩
  · rw [if_pos first]
    omega
  · rw [if_neg notFirst]
    unfold prevMonth at start
    split at start
    · obtain ⟨startYear, startMonth⟩ := Prod.mk.inj start
      omega
    · obtain ⟨startYear, startMonth⟩ := Prod.mk.inj start
      omega

theorem previous_period_before {prevYear prevMonth : ℤ}
    (period : budgetPeriod year month budgetStartDay = some (nextStart, nextEnd))
    (before : budgetPeriod prevYear prevMonth budgetStartDay = some (startDate, endDate))
    (isPrevious : prevYear * 12 + prevMonth + 1 = year * 12 + month) :
    startDate ≤ nextStart ∧ endDate ≤ nextEnd := by
  obtain ⟨last, first⟩ := period_months period
  obtain ⟨lastBefore, firstBefore⟩ := period_months before
  obtain ⟨_, _, _, _, _, _⟩ := startDate.valid
  obtain ⟨_, _, _, _, _, _⟩ := nextStart.valid
  obtain ⟨_, _, _, _, _, _⟩ := endDate.valid
  obtain ⟨_, _, _, _, _, _⟩ := nextEnd.valid
  rw [date_le_iff, date_le_iff]
  omega

theorem in_period_live {outerStart outerEnd : Date} (after : outerStart ≤ startDate)
    (before : endDate ≤ outerEnd) :
    inPeriod startDate endDate (liveDocs docs userId accountId outerStart outerEnd) =
      liveDocs docs userId accountId startDate endDate := by
  unfold inPeriod liveDocs inPeriod
  rw [filter_filter]
  apply filter_congr
  intro doc _
  rw [date_le_iff] at after before
  rw [← Bool.decide_and]
  apply decide_eq_decide.mpr
  rw [date_le_iff, date_le_iff, date_le_iff, date_le_iff]
  omega

theorem deltas_conserve (few : FewBuckets Doc.categoryId current)
    (fewBefore : FewBuckets Doc.categoryId previous) {comparison : MonthComparison}
    (totalCurrent : comparison.totalCurrent = sumAbs current)
    (totalPrevious : comparison.totalPrevious = sumAbs previous)
    (deltas : comparison.deltas = sortedBy (fun delta => -|delta.changeAmount|)
      ((comparedIds current previous).map (categoryDelta current previous))) :
    ComparisonConserves current previous comparison := by
  have ids : (comparison.deltas.map CategoryDelta.categoryId).Perm (comparedIds current previous) := by
    have named : ((comparedIds current previous).map (categoryDelta current previous)).map
        CategoryDelta.categoryId = comparedIds current previous := by
      rw [map_map]
      exact map_id _
    rw [deltas]
    exact ((sorted_perm _ _).map _).trans (List.Perm.of_eq named)
  have distinct : (comparedIds current previous).Nodup := nodup_dedup _
  constructor
  · exact ids.nodup_iff.mpr distinct
  · intro id
    rw [ids.mem_iff, mem_compared_ids few fewBefore]
  · have covered (doc : Doc) (member : doc ∈ current ++ previous) :
        categoryKey (doc.categoryId.getD missingId) ∈ comparedIds current previous :=
      (mem_compared_ids few fewBefore).mpr ⟨doc, member, rfl⟩
    have difference (ids : List (Option ℤ)) (first second : Option ℤ → ℤ) :
        (ids.map fun id => first id - second id).sum = (ids.map first).sum - (ids.map second).sum := by
      induction ids with
      | nil => rfl
      | cons id ids ih =>
        simp only [map_cons, sum_cons, ih]
        omega
    rw [deltas, ((sorted_perm _ _).map _).sum_eq, map_map, totalCurrent, totalPrevious,
      ← sum_entries few distinct fun doc member => covered doc (mem_append_left _ member),
      ← sum_entries fewBefore distinct fun doc member => covered doc (mem_append_right _ member),
      ← difference]
    rfl

theorem comparison_conserves {comparison : MonthComparison}
    (compared : monthComparison lower docs userId accountId year month budgetStartDay =
      some comparison) :
    ∃ currentStart currentEnd previousStart previousEnd,
      budgetPeriod year month budgetStartDay = some (currentStart, currentEnd) ∧
      budgetPeriod comparison.previousYear comparison.previousMonth budgetStartDay =
        some (previousStart, previousEnd) ∧
      (FewBuckets Doc.categoryId (expensesOf lower docs userId accountId currentStart currentEnd) →
        FewBuckets Doc.categoryId
          (expensesOf lower docs userId accountId previousStart previousEnd) →
        ComparisonConserves (expensesOf lower docs userId accountId currentStart currentEnd)
          (expensesOf lower docs userId accountId previousStart previousEnd) comparison) := by
  unfold monthComparison at compared
  obtain ⟨⟨currentStart, currentEnd⟩, period, compared⟩ := Option.bind_eq_some_iff.mp compared
  obtain ⟨⟨previousStart, previousEnd⟩, before, compared⟩ := Option.bind_eq_some_iff.mp compared
  have isPrevious : (previousMonth year month).1 * 12 + (previousMonth year month).2 + 1 =
      year * 12 + month := by
    obtain ⟨_, _, _, _, _⟩ := (budget_period_isSome year month budgetStartDay).mp ⟨_, _, period⟩
    unfold previousMonth
    split
    · dsimp only
      omega
    · dsimp only
      omega
  obtain ⟨starts, ends⟩ := previous_period_before period before isPrevious
  dsimp only at compared
  rw [in_period_live starts (date_le_iff.mpr (by omega)),
    in_period_live (date_le_iff.mpr (by omega)) ends] at compared
  cases compared
  exact ⟨currentStart, currentEnd, previousStart, previousEnd, period, before,
    fun few fewBefore => deltas_conserve few fewBefore rfl rfl rfl⟩
/-- The kinds of a document exclude each other and leave none out; with no more buckets than are
returned, the overview and the comparison account for all expenses. -/
theorem breakdowns_conserve (lower : String → String) (docs : List Doc) (userId accountId : ℤ) :
    (∀ doc, (matchesFilter lower doc incomeFilter =
          isIncome (normalizeTxType lower (some doc.eventType)) doc.amount ∧
        matchesFilter lower doc expenseFilter =
          isExpense (normalizeTxType lower (some doc.eventType)) doc.amount ∧
        matchesFilter lower doc otherFilter =
          !(matchesFilter lower doc incomeFilter || matchesFilter lower doc expenseFilter)) ∧
      ¬ (matchesFilter lower doc incomeFilter = true ∧
        matchesFilter lower doc expenseFilter = true)) ∧
    (∀ startDate endDate,
      FewBuckets Doc.categoryId (expensesOf lower docs userId accountId startDate endDate) →
      (∀ key, FewBuckets Doc.subcategoryId
        (bucketOf Doc.categoryId (expensesOf lower docs userId accountId startDate endDate) key)) →
      OverviewConserves (financialOverview lower docs userId accountId startDate endDate)) ∧
    ∀ year month budgetStartDay comparison,
      monthComparison lower docs userId accountId year month budgetStartDay = some comparison →
      ∃ currentStart currentEnd previousStart previousEnd,
        budgetPeriod year month budgetStartDay = some (currentStart, currentEnd) ∧
        budgetPeriod comparison.previousYear comparison.previousMonth budgetStartDay =
          some (previousStart, previousEnd) ∧
        (FewBuckets Doc.categoryId (expensesOf lower docs userId accountId currentStart currentEnd) →
          FewBuckets Doc.categoryId
            (expensesOf lower docs userId accountId previousStart previousEnd) →
          ComparisonConserves (expensesOf lower docs userId accountId currentStart currentEnd)
            (expensesOf lower docs userId accountId previousStart previousEnd) comparison) := by
  refine ⟨fun doc => ⟨matches_kinds doc, ?_⟩, fun _ _ => overview_conserves,
    fun _ _ _ _ => comparison_conserves⟩
  rw [(matches_kinds doc).1, (matches_kinds doc).2.1]
  exact not_income_and_expense _ _

def march : Date := ⟨2026, 3, 4, by decide⟩

/-- An expense of one krone. -/
def sampleDoc (categoryId : ℤ) : Doc where
  userId := 1
  accountId := 1
  isDeleted := false
  txDate := march
  amount := -100
  eventType := "expense"
  categoryId := some categoryId
  categoryName := none
  subcategoryId := none
  subcategoryName := none
  updatedAt := 0

theorem expenses_of_samples (ids : List ℕ) : expensesOf String.toLower
    (ids.map fun number : ℕ => sampleDoc number) 1 1 march march =
      ids.map fun number : ℕ => sampleDoc number := by
  have kept (keep : Doc → Bool) (all : ∀ id, keep (sampleDoc id) = true) :
      (ids.map fun number : ℕ => sampleDoc number).filter keep =
        ids.map fun number : ℕ => sampleDoc number := by
    apply filter_eq_self.mpr
    intro doc member
    obtain ⟨number, _, rfl⟩ := mem_map.mp member
    exact all number
  have spent (id : ℤ) : matchesFilter String.toLower (sampleDoc id) expenseFilter = true := by
    have lowered : String.toLower "expense" = "expense" := by decide +kernel
    rw [(matches_kinds _).2.1]
    change isExpense (String.toLower "expense") (-100) = true
    rw [lowered]
    rfl
  rw [expensesOf, liveDocs, kept _ fun _ => rfl, inPeriod, kept _ fun _ => rfl, matching, kept _ spent]

theorem one_expense_conserved :
    OverviewConserves (financialOverview String.toLower [sampleDoc 1] 1 1 march march) := by
  have few (docs : List Doc) (short : docs.length ≤ 1) (field : Doc → Option ℤ) :
      FewBuckets field docs := by
    have shorter := (dedup_sublist (docs.map fun doc => (field doc).getD missingId)).length_le
    rw [length_map] at shorter
    exact (shorter.trans short).trans (by decide)
  have short : (expensesOf String.toLower [sampleDoc 1] 1 1 march march).length ≤ 1 :=
    ((length_filter_le _ _).trans (length_filter_le _ _)).trans (length_filter_le _ _)
  exact (breakdowns_conserve String.toLower [sampleDoc 1] 1 1).2.1 march march (few _ short _)
    fun _ => few _ ((length_filter_le _ _).trans short) _

/-- One of 201 categories is left out of the breakdown. -/
theorem many_categories_not_conserved : ¬ OverviewConserves (financialOverview String.toLower
    ((List.range 201).map fun number : ℕ => sampleDoc number) 1 1 march march) := by
  intro conserves
  have categories := conserves.categories
  rw [financialOverview, categoryExpenses, ((sorted_perm _ _).map _).sum_eq, map_map] at categories
  have expenses := expenses_of_samples (List.range 201)
  rw [expensesOf] at expenses
  rw [expenses] at categories
  apply absurd categories.symm
  apply ne_of_lt
  apply many_buckets_lost
  · intro doc member
    obtain ⟨number, _, rfl⟩ := mem_map.mp member
    exact (by decide : (-100 : ℤ) ≠ 0)
  · have keys : ((List.range 201).map fun number : ℕ => sampleDoc number).map
        (fun doc => doc.categoryId.getD missingId) = (List.range 201).map Int.ofNat := by
      rw [map_map]
      rfl
    have distinct := (nodup_range (n := 201)).map fun _ _ same => Int.ofNat.inj same
    rw [FewBuckets, termsKeys, keys, distinct.dedup, length_map, length_range]
    decide

end FinanceTracker.Analytics.Breakdown
