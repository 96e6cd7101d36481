import FinanceTracker.Analytics.RankFusion
import FinanceTracker.Library.DateText

/-!
# The search of the chat

The slots of an intent become filters in the dispatcher, parameters in `EsSearch` and a query in
the hybrid endpoint of analytics-service. The query embedding and Elasticsearch are parameters.
-/

namespace FinanceTracker.System.ChatSearch

open Library Calendar DateText KeyedRows Analytics.RankFusion List

/-- The slots with what `float` and `bool` make of them; an absent key is none. -/
structure SearchSlots where
  query : String := ""
  category : Option String := none
  amountMin : Option ℚ := none
  amountMax : Option ℚ := none
  isExpense : Option Bool := none

structure AmountFilter where
  gte : Option ℚ := none
  lte : Option ℚ := none

structure Filters where
  category : Option String := none
  amount : Option AmountFilter := none
  isExpense : Option Bool := none

def slotsToFilters (slots : SearchSlots) : Filters :=
  let filters : Filters := {}
  let filters := match slots.category with
    | some category => { filters with category := some category }
    | none => filters
  let filters := match slots.amountMax with
    | some most => { filters with amount := some { lte := some most } }
    | none => filters
  let filters := match slots.amountMin with
    | some least => { filters with amount := some { gte := some least } }
    | none => filters
  match slots.isExpense with
    | some isExpense => { filters with isExpense := some isExpense }
    | none => filters

structure SearchParams where
  startDate : String
  endDate : String
  categoryName : Option String
  amountMin : Option ℚ
  amountMax : Option ℚ
  txType : Option String

/-- `int(period[:4])` and `int(period[5:7])`. -/
def periodFields (period : List Char) : Option (ℕ × ℕ) := do
  let (century, rest) ← readTwoDigits period
  let (year, rest) ← readTwoDigits rest
  let (month, _) ← readTwoDigits rest.tail
  some (100 * century + year, month)

/-- `_translate`; `monthrange` knows twelve months. -/
def translate (period : List Char) (filters : Filters) : Option SearchParams := do
  let (year, month) ← periodFields period
  if month < 1 ∨ 12 < month then none
  else
    let lastDay := daysInMonth year month
    some
      { startDate := String.ofList (period ++ '-' :: twoDigits 1)
        endDate := String.ofList (period ++ '-' :: twoDigits lastDay.toNat)
        categoryName := filters.category
        amountMin := filters.amount.bind AmountFilter.gte
        amountMax := filters.amount.bind AmountFilter.lte
        txType := filters.isExpense.map fun value => if value then "expense" else "income" }

/-- A transaction document; the projection writes `amount_abs` beside the amount. -/
structure Doc where
  transactionId : Int
  userId : Int
  isDeleted : Bool
  txDate : Date
  amount : ℚ
  amountAbs : ℚ
  categoryName : Option String
  transactionType : String
  description : Option String
  absolute : amountAbs = |amount|

inductive Filter where
  | user (userId : Int)
  | live
  | txDate (gte lte : Date)
  | categoryName (name : String)
  | transactionType (txType : String)
  | amountAbs (gte lte : Option ℚ)

def Filter.Admits (doc : Doc) : Filter → Prop
  | .user userId => doc.userId = userId
  | .live => doc.isDeleted = false
  | .txDate gte lte => gte ≤ doc.txDate ∧ doc.txDate ≤ lte
  | .categoryName name => doc.categoryName = some name
  | .transactionType txType => doc.transactionType = txType
  | .amountAbs gte lte =>
    (∀ least ∈ gte, least ≤ doc.amountAbs) ∧ ∀ most ∈ lte, doc.amountAbs ≤ most

inductive EsQuery where
  | bm25 (query : String) (filters : List Filter)
  | knn (vector : List ℚ) (filters : List Filter)

def EsQuery.filters : EsQuery → List Filter
  | .bm25 _ filters => filters
  | .knn _ filters => filters

def Filtering (es : EsQuery → List Doc) : Prop :=
  ∀ query, ∀ doc ∈ es query, ∀ filter ∈ query.filters, filter.Admits doc

def embeddingDims : ℕ := 1024

def rrfK : ℕ := 60

def searchLimit : ℕ := 10

def queryFilters (userId : Int) (startDate endDate : Date) (params : SearchParams) : List Filter :=
  [.user userId, .live, .txDate startDate endDate] ++
    (params.categoryName.map Filter.categoryName).toList ++
    (params.txType.map Filter.transactionType).toList ++
    if params.amountMin.isSome ∨ params.amountMax.isSome then
      [.amountAbs params.amountMin params.amountMax]
    else []

/-- The two queries and their fusion; every ranked id has its source. -/
def hybridSearchTransactions (es : EsQuery → List Doc) (query : String)
    (queryVector : Option (List ℚ)) (filters : List Filter) : List Doc :=
  let responses := es (.bm25 query filters) ::
    (queryVector.map fun vector => es (.knn vector filters)).toList
  let rankings := responses.map fun hits => hits.map Doc.transactionId
  ((rrfFuse rankings rrfK).take searchLimit).filterMap
    (lookup Doc.transactionId responses.flatten)

/-- The checks of `HybridSearchRequest` and of the query service. -/
def hybridSearch (es : EsQuery → List Doc) (userId : Int) (query : String)
    (queryVector : Option (List ℚ)) (params : SearchParams) : Option (List Doc) := do
  let startDate ← readCalendarDate params.startDate
  let endDate ← readCalendarDate params.endDate
  if query.length < 1 ∨ 1000 < query.length ∨
      (∃ vector ∈ queryVector, vector.length ≠ embeddingDims) ∨
      (∃ least ∈ params.amountMin, least < 0) ∨ (∃ most ∈ params.amountMax, most < 0) ∨
      endDate < startDate then none
  else some (hybridSearchTransactions es query queryVector
    (queryFilters userId startDate endDate params))

structure TransactionItem where
  id : Int
  date : String
  amount : ℚ
  category : String
  description : String

def toItem (doc : Doc) : TransactionItem where
  id := doc.transactionId
  date := isoformat doc.txDate
  amount := doc.amount
  category := if doc.categoryName.getD "" = "" then "Ukategoriseret" else doc.categoryName.getD ""
  description := doc.description.getD ""

/-- `_dispatch_transaction_search`; none where a step raises. -/
def chatSearch (es : EsQuery → List Doc) (embedQuery : String → Option (List ℚ)) (userId : Int)
    (slots : SearchSlots) (period : List Char) : Option (List TransactionItem) := do
  let params ← translate period (slotsToFilters slots)
  let docs ← hybridSearch es userId slots.query (embedQuery slots.query) params
  some (docs.map toItem)

/-- `YYYY-MM` of the month of a day. -/
def periodText (day : Date) : List Char :=
  twoDigits (day.year.toNat / 100) ++ (twoDigits (day.year.toNat % 100) ++
    '-' :: twoDigits day.month.toNat)

structure Honoured (slots : SearchSlots) (day : Date) (doc : Doc) : Prop where
  month : doc.txDate.year = day.year ∧ doc.txDate.month = day.month
  category : ∀ name ∈ slots.category, doc.categoryName = some name
  atLeast : ∀ least ∈ slots.amountMin, least ≤ |doc.amount|
  atMost : ∀ most ∈ slots.amountMax, |doc.amount| ≤ most
  type : ∀ isExpense ∈ slots.isExpense,
    doc.transactionType = if isExpense then "expense" else "income"

def HonoursEverySlot (slots : SearchSlots) (day : Date) : Prop :=
  ∀ es embedQuery userId items, Filtering es →
    chatSearch es embedQuery userId slots (periodText day) = some items →
      ∀ item ∈ items, ∃ doc, item = toItem doc ∧ Honoured slots day doc

/-- Both bounds are given and the endpoint takes the request. -/
def BothBounds (slots : SearchSlots) : Prop :=
  slots.amountMax.isSome = true ∧ (∃ least ∈ slots.amountMin, 0 ≤ least) ∧
    1 ≤ slots.query.length ∧ slots.query.length ≤ 1000

def firstDay (day : Date) : Date where
  year := day.year
  month := day.month
  day := 1
  valid := by
    obtain ⟨low, high, first, last, _, _⟩ := day.valid
    refine ⟨low, high, first, last, Int.le_refl 1, ?_⟩
    omega

def lastDay (day : Date) : Date where
  year := day.year
  month := day.month
  day := daysInMonth day.year day.month
  valid := by
    obtain ⟨low, high, first, last, _, _⟩ := day.valid
    refine ⟨low, high, first, last, ?_, Int.le_refl _⟩
    omega

/-- The parameters with every slot but a bound that is overwritten. -/
def translated (slots : SearchSlots) (day : Date) : SearchParams where
  startDate := isoformat (firstDay day)
  endDate := isoformat (lastDay day)
  categoryName := slots.category
  amountMin := slots.amountMin
  amountMax := if slots.amountMin.isSome then none else slots.amountMax
  txType := slots.isExpense.map fun value => if value then "expense" else "income"

variable {slots : SearchSlots} {day : Date} {doc : Doc} {filters : List Filter}
  {es : EsQuery → List Doc} {params : SearchParams}

theorem slots_to_filters : (slotsToFilters slots).category = slots.category ∧
    (slotsToFilters slots).amount.bind AmountFilter.gte = slots.amountMin ∧
    (slotsToFilters slots).amount.bind AmountFilter.lte =
      (if slots.amountMin.isSome then none else slots.amountMax) ∧
    (slotsToFilters slots).isExpense = slots.isExpense := by
  obtain ⟨_, category, least, most, isExpense⟩ := slots
  cases category <;> cases least <;> cases most <;> cases isExpense <;>
    exact ⟨rfl, rfl, rfl, rfl⟩

theorem period_fields (day : Date) :
    periodFields (periodText day) = some (day.year.toNat, day.month.toNat) := by
  obtain ⟨low, high, first, last, _, _⟩ := day.valid
  unfold minYear at low
  unfold maxYear at high
  have century := @read_two_digits (day.year.toNat / 100) (by omega)
  have year := @read_two_digits (day.year.toNat % 100) (by omega)
  have month := @read_two_digits day.month.toNat (by omega) []
  rw [append_nil] at month
  unfold periodFields periodText
  simp only [century, year, Option.bind_eq_bind, Option.bind_some, tail_cons, month]
  congr 2
  omega

theorem translate_slots : translate (periodText day) (slotsToFilters slots) =
    some (translated slots day) := by
  obtain ⟨category, least, most, isExpense⟩ := @slots_to_filters slots
  obtain ⟨low, _, first, last, _, _⟩ := day.valid
  unfold minYear at low
  have year : (day.year.toNat : ℤ) = day.year := Int.toNat_of_nonneg (by omega)
  have month : (day.month.toNat : ℤ) = day.month := Int.toNat_of_nonneg (by omega)
  unfold translate
  rw [period_fields]
  simp only [Option.bind_eq_bind, Option.bind_some]
  rw [if_neg (by omega), year, month, category, least, most, isExpense]
  rfl

theorem of_month {date : Date} (after : firstDay day ≤ date) (before : date ≤ lastDay day) :
    date.year = day.year ∧ date.month = day.month := by
  rw [date_le_iff] at after before
  dsimp only [firstDay, lastDay] at after before
  omega

theorem hit_admitted (filtering : Filtering es) {query : String} {vector : Option (List ℚ)}
    (hit : doc ∈ hybridSearchTransactions es query vector filters) :
    ∀ filter ∈ filters, filter.Admits doc := by
  obtain ⟨id, _, source⟩ := mem_filterMap.mp hit
  obtain ⟨hits, answered, inHits⟩ := mem_flatten.mp (lookup_mem source).1
  rcases mem_cons.mp answered with isText | isVector
  · rw [isText] at inHits
    exact filtering _ doc inHits
  · obtain ⟨embedded, _, rfl⟩ := Option.mem_map.mp (Option.mem_toList.mp isVector)
    exact filtering _ doc inHits

theorem chat_search_translated (embedQuery : String → Option (List ℚ)) (userId : Int) :
    chatSearch es embedQuery userId slots (periodText day) =
      (hybridSearch es userId slots.query (embedQuery slots.query) (translated slots day)).map
        (List.map toItem) := by
  unfold chatSearch
  rw [translate_slots]
  simp only [Option.bind_eq_bind, Option.bind_some]
  cases hybridSearch es userId slots.query (embedQuery slots.query) (translated slots day) with
  | none | some docs => rfl

theorem hybrid_search_translated {query : String} {vector : Option (List ℚ)} {userId : Int} :
    hybridSearch es userId query vector (translated slots day) =
      if query.length < 1 ∨ 1000 < query.length ∨
          (∃ embedded ∈ vector, embedded.length ≠ embeddingDims) ∨
          (∃ least ∈ slots.amountMin, least < 0) ∨
          (∃ most ∈ (translated slots day).amountMax, most < 0) ∨ lastDay day < firstDay day then none
      else some (hybridSearchTransactions es query vector
        (queryFilters userId (firstDay day) (lastDay day) (translated slots day))) := by
  have start : readCalendarDate (translated slots day).startDate = some (firstDay day) :=
    read_isoformat (firstDay day)
  have last : readCalendarDate (translated slots day).endDate = some (lastDay day) :=
    read_isoformat (lastDay day)
  unfold hybridSearch
  rw [start, last]
  rfl

theorem honoured_of_admitted {userId : Int}
    (admitted : ∀ filter ∈ queryFilters userId (firstDay day) (lastDay day) (translated slots day),
      filter.Admits doc)
    (single : slots.amountMin = none ∨ slots.amountMax = none) : Honoured slots day doc where
  month := by
    have dates := admitted (.txDate (firstDay day) (lastDay day)) (by simp [queryFilters])
    exact of_month dates.1 dates.2
  category := fun name named =>
    admitted (.categoryName name) (by simp [queryFilters, translated, Option.mem_def.mp named])
  atLeast := by
    intro least given
    have bounds := admitted (.amountAbs (some least) none)
      (by simp [queryFilters, translated, Option.mem_def.mp given])
    rw [← doc.absolute]
    exact bounds.1 least rfl
  atMost := by
    intro most given
    rcases single with unbounded | unbounded
    · have bounds := admitted (.amountAbs none (some most))
        (by simp [queryFilters, translated, unbounded, Option.mem_def.mp given])
      rw [← doc.absolute]
      exact bounds.2 most rfl
    · rw [unbounded] at given
      contradiction
  type := by
    intro isExpense given
    exact admitted (.transactionType (if isExpense then "expense" else "income"))
      (by simp [queryFilters, translated, Option.mem_def.mp given])

/-- A transaction that every slot asks for but the upper bound. -/
def tooLarge (slots : SearchSlots) (day : Date) (least most : ℚ) : Doc where
  transactionId := 1
  userId := 1
  isDeleted := false
  txDate := firstDay day
  amount := |least| + |most| + 1
  amountAbs := |least| + |most| + 1
  categoryName := slots.category
  transactionType := if slots.isExpense.getD true then "expense" else "income"
  description := none
  absolute := (abs_of_nonneg (by positivity)).symm

theorem first_le_last (day : Date) : firstDay day ≤ lastDay day := by
  obtain ⟨_, _, _, _, _, _⟩ := day.valid
  rw [date_le_iff]
  dsimp only [firstDay, lastDay]
  omega

theorem too_large_found {least most : ℚ} (given : slots.amountMin = some least) :
    ∀ filter ∈ queryFilters 1 (firstDay day) (lastDay day) (translated slots day),
      filter.Admits (tooLarge slots day least most) := by
  have large : least ≤ |least| + |most| + 1 := by
    have self := le_abs_self least
    have other := abs_nonneg most
    linarith
  have self : firstDay day ≤ firstDay day := date_le_iff.mpr (by omega)
  intro filter member
  rcases mem_append.mp member with member | isAmount
  · rcases mem_append.mp member with member | isType
    · rcases mem_append.mp member with isBase | isCategory
      · rcases mem_cons.mp isBase with rfl | isBase
        · rfl
        rcases mem_cons.mp isBase with rfl | isDates
        · rfl
        rw [mem_singleton.mp isDates]
        exact ⟨self, first_le_last day⟩
      · obtain ⟨name, named, rfl⟩ := Option.mem_map.mp (Option.mem_toList.mp isCategory)
        exact named
    · obtain ⟨txType, typed, rfl⟩ := Option.mem_map.mp (Option.mem_toList.mp isType)
      obtain ⟨isExpense, asked, rfl⟩ := Option.mem_map.mp typed
      change (if slots.isExpense.getD true then _ else _) = _
      rw [asked]
      rfl
  · split at isAmount
    · have unbounded : (translated slots day).amountMax = none := by
        rw [translated, given]
        rfl
      rw [mem_singleton.mp isAmount, unbounded]
      constructor
      · intro bound isBound
        have same : some least = some bound := given.symm.trans isBound
        rw [← Option.some.inj same]
        exact large
      · exact fun _ none => absurd none (Option.not_mem_none _)
    · exact absurd isAmount not_mem_nil

/-- The lower bound takes the key of the upper one in the filters. -/
theorem both_bounds_exceeded (bounds : BothBounds slots) (day : Date) :
    ¬ HonoursEverySlot slots day := by
  intro honours
  obtain ⟨hasMost, ⟨least, given, nonneg⟩, queried, short⟩ := bounds
  obtain ⟨most, alsoGiven⟩ := Option.isSome_iff_exists.mp hasMost
  classical
  let doc := tooLarge slots day least most
  let es : EsQuery → List Doc := fun query =>
    if ∀ filter ∈ query.filters, filter.Admits doc then [doc] else []
  have filtering : Filtering es := by
    intro query found member
    by_cases passes : ∀ filter ∈ query.filters, filter.Admits doc
    · dsimp only [es] at member
      rw [if_pos passes] at member
      rw [mem_singleton.mp member]
      exact passes
    · dsimp only [es] at member
      rw [if_neg passes] at member
      contradiction
  have hits : es (.bm25 slots.query (queryFilters 1 (firstDay day) (lastDay day)
      (translated slots day))) = [doc] := if_pos (too_large_found given)
  have unbounded : (translated slots day).amountMax = none := by
    rw [translated, given]
    rfl
  have fused : rrfFuse [[(1 : ℤ)]] rrfK = [1] := by decide +kernel
  have searched : chatSearch es (fun _ => none) 1 slots (periodText day) = some [toItem doc] := by
    rw [chat_search_translated, hybrid_search_translated, if_neg, hybridSearchTransactions, hits]
    · change some ((((rrfFuse [[(1 : ℤ)]] rrfK).take searchLimit).filterMap _).map toItem) = _
      rw [fused]
      rfl
    · rw [unbounded]
      rintro (empty | long | ⟨_, none, _⟩ | ⟨bound, isBound, negative⟩ | ⟨_, none, _⟩ | wrong)
      · omega
      · omega
      · contradiction
      · rw [Option.mem_unique given isBound] at nonneg
        exact absurd negative (not_lt.mpr nonneg)
      · contradiction
      · exact first_le_last day wrong
  obtain ⟨found, same, honoured⟩ := honours es _ 1 _ filtering searched _ (mem_singleton_self _)
  have amount : doc.amount = found.amount := congrArg TransactionItem.amount same
  have bounded := honoured.atMost most alsoGiven
  rw [← amount, ← doc.absolute] at bounded
  have own := le_abs_self most
  have other := abs_nonneg least
  have small : |least| + |most| + 1 ≤ most := bounded
  linarith

/-- The search honours every slot unless both bounds are given. -/
theorem search_honours_iff (slots : SearchSlots) (day : Date) :
    HonoursEverySlot slots day ↔ ¬ BothBounds slots := by
  constructor
  · exact fun honours bounds => both_bounds_exceeded bounds day honours
  · intro single es embedQuery userId items filtering searched item member
    rw [chat_search_translated] at searched
    obtain ⟨docs, found, rfl⟩ := Option.map_eq_some_iff.mp searched
    obtain ⟨doc, inDocs, rfl⟩ := mem_map.mp member
    rw [hybrid_search_translated] at found
    split at found
    · contradiction
    next accepted =>
    simp only [not_or, not_exists, not_and, not_lt] at accepted
    obtain ⟨queried, short, _, nonneg, _⟩ := accepted
    cases found
    refine ⟨doc, rfl, honoured_of_admitted (hit_admitted filtering inDocs) ?_⟩
    cases least : slots.amountMin with
    | none => exact Or.inl rfl
    | some bound =>
      apply Or.inr
      apply Option.not_isSome_iff_eq_none.mp
      intro hasMost
      exact single ⟨hasMost, ⟨bound, least, nonneg bound least⟩, queried, short⟩

def boundedSlots : SearchSlots where
  query := "mad"
  amountMin := some 100
  amountMax := some 200

def april : Date := ⟨2026, 4, 1, by decide⟩

/-- A search between 100 and 200 kr. in April 2026. -/
theorem bounded_search_exceeds : ¬ HonoursEverySlot boundedSlots april := by
  have bounds : BothBounds boundedSlots := ⟨rfl, ⟨100, rfl, by norm_num⟩, by decide, by decide⟩
  exact both_bounds_exceeded bounds april

end FinanceTracker.System.ChatSearch
