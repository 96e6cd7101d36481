import FinanceTracker.Categorization.RuleLadder
import FinanceTracker.Categorization.UserRules

/-!
# The feedback loop

Whether the overlay answers a description with the subcategory to which the user has
corrected it. The learned pattern leaves out words without letters and sets single
spaces, so it need not occur in the description that it was learned from; and its
subcategory is looked up again by name.
-/

namespace FinanceTracker.Categorization.FeedbackLoop

open Library KeyedRows Substrings List
open Library.Texts (isSpace strip)
open LearnedRules (CategorizationRule CategoryCorrected CharTables
  Lesson RuleTable flush lessonOf maxPatternLength normalizeMerchantPattern retargeted transliterate)
open Matching
open RuleEngineProvider (Database Provider SubCategory Time
  normalizeForMatching)
open RuleLadder
open UserRules (flush_learns handle learn)

/-- The database with its constraints on the rules. -/
def stored (rules : RuleTable) (subcategories : List SubCategory) (categoryIds : List ℤ) :
    Database where
  rules := rules.rows
  nextId := rules.nextId
  subcategories := subcategories
  categoryIds := categoryIds

def lessonFor (tables : CharTables) (userId : ℤ) (description : String) (subcategoryId : ℤ) :
    Lesson where
  userId := userId
  pattern := normalizeMerchantPattern tables description
  subcategoryId := subcategoryId

structure Corrects (event : CategoryCorrected) (userId : ℤ) (description : String)
    (subcategoryId : ℤ) : Prop where
  user : event.userId = some userId
  target : event.subcategoryId = some subcategoryId
  text : event.description = some description

/-- No other active rule of the user matches the description. -/
def OnlyLesson (tables : CharTables) (database : Database) (lesson : Lesson) (evidence : Evidence) :
    Prop :=
  ∀ rule ∈ database.rules, rule.key ≠ lesson.key → ¬ RuleOccurs tables lesson.userId evidence rule

/-- The rebuilt overlay answers with the subcategory, whatever the global engine says. -/
def LoopCloses (tables : CharTables) (provider : Provider) (database : Database) (now : Time)
    (userId subcategoryId : ℤ) (evidence : Evidence) : Prop :=
  ∀ globalEngine, ∃ result,
    rebuiltEngine tables provider database now userId globalEngine evidence = some result ∧
      result.subcategoryId = subcategoryId

def NameIsOwn (database : Database) (subcategoryId : ℤ) : Prop :=
  ∃ subcategory categoryId,
    lookup SubCategory.id database.subcategories subcategoryId = some subcategory ∧
      idsOf (lookupOf database) subcategory.name = some (subcategoryId, categoryId)

section Learned

variable {tables : CharTables} {rules : RuleTable} {subcategories : List SubCategory}
  {categoryIds : List ℤ} {lesson : Lesson}

theorem learn_taxonomy (database : Database) (lesson : Lesson) :
    (learn database lesson).subcategories = database.subcategories ∧
      (learn database lesson).categoryIds = database.categoryIds := by
  unfold learn
  split <;> exact ⟨rfl, rfl⟩

theorem database_ext {database other : Database} (rows : database.rules = other.rules)
    (nextId : database.nextId = other.nextId)
    (subs : database.subcategories = other.subcategories)
    (categories : database.categoryIds = other.categoryIds) : database = other := by
  cases database
  cases other
  cases rows
  cases nextId
  cases subs
  cases categories
  rfl

theorem learn_stored (rules : RuleTable) (subcategories : List SubCategory)
    (categoryIds : List ℤ) (lesson : Lesson) : ∃ next : RuleTable,
    learn (stored rules subcategories categoryIds) lesson = stored next subcategories categoryIds ∧
      ∃ rule ∈ next.rows, rule.key = lesson.key ∧ rule.active = true ∧
        rule.matchesSubcategoryId = lesson.subcategoryId := by
  have learned := flush_learns rules (stored rules subcategories categoryIds) lesson rfl rfl
  obtain ⟨next, _, same⟩ := Option.map_eq_some_iff.mp learned
  have rows : next.rows = (learn (stored rules subcategories categoryIds) lesson).rules :=
    congrArg Prod.fst same
  have nextId : next.nextId = (learn (stored rules subcategories categoryIds) lesson).nextId :=
    congrArg Prod.snd same
  refine ⟨next, ?_, ?_⟩
  · have taxonomy := learn_taxonomy (stored rules subcategories categoryIds) lesson
    apply database_ext
    · exact rows.symm
    · exact nextId.symm
    · exact taxonomy.1
    · exact taxonomy.2
  · rw [rows]
    unfold learn
    split
    · next existing isFound =>
      have isKey : existing.key = lesson.key := by simpa using List.find?_some isFound
      refine ⟨retargeted existing lesson existing, ?_, isKey, ?_, ?_⟩
      · exact mem_replace.mpr (Or.inr ⟨existing, mem_of_find?_eq_some isFound, rfl, rfl⟩)
      · exact Library.Columns.write_column_alone _ _
      · exact Library.Columns.write_column_alone _ _
    · exact ⟨lesson.rule rules.nextId, mem_append_right _ (mem_singleton_self _), rfl, rfl,
        rfl⟩

theorem handle_learns {event : CategoryCorrected} {userId subcategoryId : ℤ} {description : String}
    (corrects : Corrects event userId description subcategoryId) (userPositive : 0 < userId)
    (learnable : normalizeMerchantPattern tables description ≠ "")
    (targetPositive : 0 < subcategoryId) {database : Database}
    (known : database.knows subcategoryId = true) :
    handle tables database event =
      learn database (lessonFor tables userId description subcategoryId) := by
  have taught : lessonOf tables event = some (lessonFor tables userId description subcategoryId) := by
    unfold lessonOf
    simp only [corrects.user, corrects.target, corrects.text, Option.getD_some]
    rw [if_neg]
    · rfl
    · rintro (isZero | isEmpty | isZero)
      · omega
      · exact learnable isEmpty
      · omega
  unfold handle
  rw [taught]
  exact if_pos known

theorem learned_rule_answers {next : RuleTable} {rule : CategorizationRule}
    (member : rule ∈ next.rows) (isKey : rule.key = lesson.key) (active : rule.active = true)
    (isTarget : rule.matchesSubcategoryId = lesson.subcategoryId) {evidence : Evidence}
    (only : OnlyLesson tables (stored next subcategories categoryIds) lesson evidence)
    (provider : Provider) (now : Time) :
    LoopCloses tables provider (stored next subcategories categoryIds) now lesson.userId
        lesson.subcategoryId evidence ↔
      occursIn (normalizeForMatching tables lesson.pattern)
          (normalizeForMatching tables evidence.description) = true ∧
        NameIsOwn (stored next subcategories categoryIds) lesson.subcategoryId := by
  have isUser : rule.userId = some lesson.userId := congrArg LearnedRules.RuleKey.userId isKey
  have isMerchant : rule.patternType = .merchant :=
    congrArg LearnedRules.RuleKey.patternType isKey
  have isPattern : rule.patternValue = lesson.pattern :=
    congrArg LearnedRules.RuleKey.patternValue isKey
  have onlyRule : ∀ other ∈ next.rows, RuleOccurs tables lesson.userId evidence other →
      other = rule := by
    intro other otherMember occurs
    by_cases otherKey : other.key = lesson.key
    · apply next.unique other otherMember rule member
      · rw [occurs.1]
        exact Option.some_ne_none _
      · rw [otherKey, isKey]
    · exact absurd occurs (only other otherMember otherKey)
  have ownName : NameIsOwn (stored next subcategories categoryIds) lesson.subcategoryId ↔
      ∃ ids, namedIds (stored next subcategories categoryIds) rule = some ids ∧
        ids.1 = lesson.subcategoryId := by
    unfold NameIsOwn namedIds
    rw [isTarget]
    constructor
    · rintro ⟨subcategory, categoryId, isStored, leads⟩
      refine ⟨(lesson.subcategoryId, categoryId), ?_, rfl⟩
      rw [isStored, Option.bind_some, leads]
    · rintro ⟨⟨id, categoryId⟩, leads, rfl⟩
      obtain ⟨subcategory, isStored, named⟩ := Option.bind_eq_some_iff.mp leads
      exact ⟨subcategory, categoryId, isStored, named⟩
  have distinct : DistinctKeys CategorizationRule.id
      (stored next subcategories categoryIds).rules := next.distinct
  rw [ownName]
  rcases rebuilt_answer provider now distinct evidence with
    ⟨best, isBest, answered⟩ | ⟨nothing, passed⟩
  · have isRule := onlyRule best isBest.member isBest.isEligible.1
    rw [isRule] at isBest answered
    have occurs := isBest.isEligible.1.2.2.2
    rw [isPattern] at occurs
    constructor
    · intro closes
      obtain ⟨_, isResult, target⟩ := closes fun _ => none
      rw [answered] at isResult
      obtain ⟨ids, isNamed, rfl⟩ := Option.map_eq_some_iff.mp isResult
      exact ⟨occurs, ids, isNamed, target⟩
    · rintro ⟨_, ids, isNamed, target⟩ globalEngine
      exact ⟨resultOf ids, by rw [answered, isNamed, Option.map_some], target⟩
  · constructor
    · intro closes
      obtain ⟨_, isResult, _⟩ := closes fun _ => none
      rw [passed] at isResult
      cases isResult
    · rintro ⟨occurs, ids, isNamed, _⟩
      refine absurd ?_ (nothing rule member)
      rw [← isPattern] at occurs
      exact ⟨⟨isUser, active, Or.inr isMerchant, occurs⟩, by rw [isNamed]; rfl⟩

end Learned

/-- The characters that the engine compares, and the words of them that are learned. -/
def normalText (tables : CharTables) (text : String) : List Char :=
  (tables.lower text).toList.flatMap transliterate

def learnedWords (tables : CharTables) (text : String) : List (List Char) :=
  ((normalText tables text).splitOnP isSpace).filter fun token => token.any tables.isAlpha

theorem unbroken_pattern_occurs {tables : CharTables} {description : String}
    (unbroken : [' '].intercalate (learnedWords tables description) <:+: normalText tables description)
    (settled : normalizeForMatching tables (normalizeMerchantPattern tables description) =
      normalizeMerchantPattern tables description) :
    occursIn (normalizeForMatching tables (normalizeMerchantPattern tables description))
      (normalizeForMatching tables description) = true := by
  rw [settled, occurs_iff]
  have cut : (normalizeMerchantPattern tables description).toList <:+:
      [' '].intercalate (learnedWords tables description) := by
    have front := dropWhile_suffix (l := String.toList (String.ofList
      (([' '].intercalate (learnedWords tables description)).take maxPatternLength))) isSpace
    have back := rdropWhile_prefix isSpace ((String.toList (String.ofList
      (([' '].intercalate (learnedWords tables description)).take maxPatternLength))).dropWhile isSpace)
    have taken := take_prefix maxPatternLength
      ([' '].intercalate (learnedWords tables description))
    unfold normalizeMerchantPattern strip
    rw [String.toList_ofList]
    apply List.IsInfix.trans back.isInfix
    apply List.IsInfix.trans front.isInfix
    rw [String.toList_ofList]
    exact taken.isInfix
  have isText : (normalizeForMatching tables description).toList = normalText tables description :=
    String.toList_ofList
  rw [isText]
  exact cut.trans unbroken

/-- After a correction has been processed, and where no other active rule of the user
matches, the rebuilt overlay answers the description with the corrected subcategory
exactly when the learned pattern occurs in the description as the engine compares them
and the name of the subcategory leads to that subcategory. -/
theorem feedback_loop_closes {tables : CharTables} (rules : RuleTable)
    {subcategories : List SubCategory} {categoryIds : List ℤ} {event : CategoryCorrected}
    {userId subcategoryId : ℤ} {evidence : Evidence}
    (corrects : Corrects event userId evidence.description subcategoryId)
    (userPositive : 0 < userId) (targetPositive : 0 < subcategoryId)
    (learnable : normalizeMerchantPattern tables evidence.description ≠ "")
    (known : (stored rules subcategories categoryIds).knows subcategoryId = true)
    (only : OnlyLesson tables (handle tables (stored rules subcategories categoryIds) event)
      (lessonFor tables userId evidence.description subcategoryId) evidence)
    (provider : Provider) (now : Time) :
    LoopCloses tables provider (handle tables (stored rules subcategories categoryIds) event) now
        userId subcategoryId evidence ↔
      occursIn (normalizeForMatching tables (normalizeMerchantPattern tables evidence.description))
          (normalizeForMatching tables evidence.description) = true ∧
        NameIsOwn (stored rules subcategories categoryIds) subcategoryId := by
  rw [handle_learns corrects userPositive learnable targetPositive known] at only ⊢
  obtain ⟨_, isNext, _, member, isKey, active, isTarget⟩ := learn_stored rules
    subcategories categoryIds (lessonFor tables userId evidence.description subcategoryId)
  rw [isNext] at only ⊢
  exact learned_rule_answers member isKey active isTarget only provider now

def lowercase : CharTables where
  lower := fun text => text
  isAlpha := Char.isAlpha

def noRules : RuleTable where
  rows := []
  nextId := 1
  fresh := fun _ member => absurd member List.not_mem_nil
  distinct := List.nodup_nil
  unique := fun _ member => absurd member List.not_mem_nil

def groceries : List SubCategory := [{ id := 3, name := "Dagligvarer", categoryId := 1 }]

def corrected (description : String) : CategoryCorrected where
  correlationId := "first"
  userId := some 7
  subcategoryId := some 3
  description := some description

def purchase (description : String) : Evidence where
  description := description
  amount := 120
  direction := .outgoing

theorem only_learned (description : String)
    (learnable : normalizeMerchantPattern lowercase description ≠ "") :
    OnlyLesson lowercase (handle lowercase (stored noRules groceries [1]) (corrected description))
      (lessonFor lowercase 7 description 3) (purchase description) := by
  rw [handle_learns ⟨rfl, rfl, rfl⟩ (by decide) learnable (by decide) (by decide)]
  intro rule member otherKey
  have isRule : rule = (lessonFor lowercase 7 description 3).rule 1 := mem_singleton.mp member
  rw [isRule] at otherKey
  exact absurd rfl otherKey

theorem netto_closes :
    LoopCloses lowercase { ttl := 60 }
      (handle lowercase (stored noRules groceries [1]) (corrected "netto nord 12345")) 0 7 3
      (purchase "netto nord 12345") := by
  have isPattern : normalizeMerchantPattern lowercase "netto nord 12345" = "netto nord" := by
    decide +kernel
  have learnable : normalizeMerchantPattern lowercase "netto nord 12345" ≠ "" := by
    rw [isPattern]
    decide
  have corrects : Corrects (corrected "netto nord 12345") 7
      (purchase "netto nord 12345").description 3 := ⟨rfl, rfl, rfl⟩
  have occurs : occursIn
      (normalizeForMatching lowercase (normalizeMerchantPattern lowercase "netto nord 12345"))
      (normalizeForMatching lowercase "netto nord 12345") = true := by
    apply unbroken_pattern_occurs
    · decide +kernel
    · rw [isPattern]
      decide +kernel
  have ownName : NameIsOwn (stored noRules groceries [1]) 3 :=
    ⟨_, 1, rfl, by decide +kernel⟩
  exact (feedback_loop_closes noRules corrects (by decide) (by decide) learnable (by decide)
    (only_learned "netto nord 12345" learnable) { ttl := 60 } 0).mpr ⟨occurs, ownName⟩

theorem rema_unanswered : rebuiltEngine lowercase { ttl := 60 }
    (handle lowercase (stored noRules groceries [1]) (corrected "rema 1000 nord")) 0 7
    (fun _ => none) (purchase "rema 1000 nord") = none := by
  decide +kernel

/-- The number between the words of the description is left out of the pattern. -/
theorem rema_does_not_close :
    ¬ ∀ (tables : CharTables) (rules : RuleTable) (subcategories : List SubCategory)
      (categoryIds : List ℤ) (event : CategoryCorrected) (userId subcategoryId : ℤ)
      (evidence : Evidence) (provider : Provider) (now : Time),
      Corrects event userId evidence.description subcategoryId → 0 < userId → 0 < subcategoryId →
      normalizeMerchantPattern tables evidence.description ≠ "" →
      (stored rules subcategories categoryIds).knows subcategoryId = true →
      OnlyLesson tables (handle tables (stored rules subcategories categoryIds) event)
        (lessonFor tables userId evidence.description subcategoryId) evidence →
      LoopCloses tables provider (handle tables (stored rules subcategories categoryIds) event) now
        userId subcategoryId evidence := by
  intro always
  have learnable : normalizeMerchantPattern lowercase "rema 1000 nord" ≠ "" := by
    decide +kernel
  have closes := always lowercase noRules groceries [1] (corrected "rema 1000 nord") 7 3
    (purchase "rema 1000 nord") { ttl := 60 } 0 ⟨rfl, rfl, rfl⟩ (by decide) (by decide) learnable
    (by decide) (only_learned _ learnable)
  obtain ⟨result, isResult, _⟩ := closes fun _ => none
  exact absurd (isResult.symm.trans rema_unanswered) (Option.some_ne_none result)

end FinanceTracker.Categorization.FeedbackLoop
