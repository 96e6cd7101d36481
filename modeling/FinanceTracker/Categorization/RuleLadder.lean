import FinanceTracker.Categorization.Matching
import FinanceTracker.Library.RankedSearch

/-!
# The ladder of a user's rules

What `get(user_id)` answers once the overlay has been rebuilt, against the ranking of the
user's rules. The overlay keeps of a rule's subcategory only its name, and a name may
belong to several subcategories, so the ladder is met where the name of the rule that
answers leads to that rule's own subcategory.
-/

namespace FinanceTracker.Categorization.RuleLadder

open Library KeyedRows LastWrite RankedSearch Substrings
open LearnedRules (CategorizationRule CharTables)
open Matching RuleEngineProvider

def normalLength (tables : CharTables) (rule : CategorizationRule) : ℕ :=
  (normalizeForMatching tables rule.patternValue).length

/-- Priority ascending, then normalised length and raw length descending, then id. -/
def Outranks (tables : CharTables) (rule other : CategorizationRule) : Prop :=
  rule.priority < other.priority ∨ rule.priority = other.priority ∧
    (normalLength tables other < normalLength tables rule ∨
      normalLength tables rule = normalLength tables other ∧
        (other.patternValue.length < rule.patternValue.length ∨
          rule.patternValue.length = other.patternValue.length ∧ rule.id < other.id))

/-- The subcategory of the rule with its category, where that exists. -/
def ownIds (database : Database) (rule : CategorizationRule) : Option (ℤ × ℤ) :=
  (lookup SubCategory.id database.subcategories rule.matchesSubcategoryId).bind fun subcategory =>
    if database.categoryIds.contains subcategory.categoryId then
      some (rule.matchesSubcategoryId, subcategory.categoryId)
    else none

def RuleOccurs (tables : CharTables) (userId : ℤ) (evidence : Evidence)
    (rule : CategorizationRule) : Prop :=
  rule.userId = some userId ∧ rule.active = true ∧
    (rule.patternType = .keyword ∨ rule.patternType = .merchant) ∧
    occursIn (normalizeForMatching tables rule.patternValue)
      (normalizeForMatching tables evidence.description) = true

def Eligible (tables : CharTables) (database : Database) (userId : ℤ) (evidence : Evidence)
    (rule : CategorizationRule) : Prop :=
  RuleOccurs tables userId evidence rule ∧ (ownIds database rule).isSome = true

def resultOf (ids : ℤ × ℤ) : CategorizationResult where
  categoryId := ids.2
  subcategoryId := ids.1

/-- The answer of the highest-ranked eligible rule, or of the global engine where there
is none. -/
def LadderAnswer (tables : CharTables) (database : Database) (userId : ℤ) (evidence : Evidence)
    (globalAnswer answer : Option CategorizationResult) : Prop :=
  (∃ rule, Best (Outranks tables) (Eligible tables database userId evidence) database.rules rule ∧
      answer = (ownIds database rule).map resultOf) ∨
    ((∀ rule ∈ database.rules, ¬ Eligible tables database userId evidence rule) ∧
      answer = globalAnswer)

/-- What `get` returns for the user when both the maps and the overlay have just been
read. -/
def rebuiltEngine (tables : CharTables) (provider : Provider) (database : Database) (now : Time)
    (userId : ℤ) (globalEngine : Evidence → Option CategorizationResult) :
    Evidence → Option CategorizationResult :=
  userEngine tables
    (buildEngines tables
      (applyReload provider database.subcategories database.categoryIds now)
      (findByUser database userId))
    globalEngine

/-- `_subcategory_lookup` after a reload. -/
def lookupOf (database : Database) : List (String × (ℤ × ℤ)) :=
  (database.subcategories.filter fun subcategory =>
    database.categoryIds.contains subcategory.categoryId).map fun subcategory =>
      (subcategory.name, (subcategory.id, subcategory.categoryId))

/-- Where the name of the rule's subcategory leads. -/
def namedIds (database : Database) (rule : CategorizationRule) : Option (ℤ × ℤ) :=
  (lookup SubCategory.id database.subcategories rule.matchesSubcategoryId).bind fun subcategory =>
    idsOf (lookupOf database) subcategory.name

def Answers (tables : CharTables) (database : Database) (userId : ℤ) (evidence : Evidence)
    (rule : CategorizationRule) : Prop :=
  RuleOccurs tables userId evidence rule ∧ (namedIds database rule).isSome = true

def NameLeadsHome (tables : CharTables) (database : Database) (userId : ℤ) (evidence : Evidence) :
    Prop :=
  ∀ rule, Best (Outranks tables) (Answers tables database userId evidence) database.rules rule →
    ∃ home, Best (Outranks tables) (Eligible tables database userId evidence) database.rules home ∧
      namedIds database rule = ownIds database home

theorem result_of_injective : Function.Injective resultOf := by
  intro ids other same
  have sameSubcategory : ids.1 = other.1 := congrArg CategorizationResult.subcategoryId same
  have sameCategory : ids.2 = other.2 := congrArg CategorizationResult.categoryId same
  exact Prod.ext sameSubcategory sameCategory

theorem outranks_asymm (tables : CharTables) (rule other : CategorizationRule)
    (above : Outranks tables rule other) : ¬ Outranks tables other rule := by
  unfold Outranks at above ⊢
  omega

section Taxonomy

variable {database : Database} {rule : CategorizationRule}

theorem own_name_known (isOwn : (ownIds database rule).isSome = true) :
    (namedIds database rule).isSome = true := by
  unfold ownIds at isOwn
  unfold namedIds
  cases isStored : lookup SubCategory.id database.subcategories rule.matchesSubcategoryId with
  | none =>
    rw [isStored] at isOwn
    cases isOwn
  | some subcategory =>
    rw [isStored, Option.bind_some] at isOwn
    rw [Option.bind_some, idsOf, Option.isSome_map, Option.isSome_iff_ne_none]
    intro unnamed
    have known : database.categoryIds.contains subcategory.categoryId = true := by
      by_contra unknown
      rw [if_neg unknown] at isOwn
      cases isOwn
    have entry : (subcategory.name, (subcategory.id, subcategory.categoryId)) ∈ lookupOf database :=
      List.mem_map.mpr ⟨subcategory, List.mem_filter.mpr ⟨(lookup_mem isStored).1, known⟩, rfl⟩
    exact last_of_none_iff Prod.fst |>.mp unnamed _ entry rfl

theorem named_own (names : DistinctKeys SubCategory.name database.subcategories)
    (categories : ∀ subcategory ∈ database.subcategories,
      database.categoryIds.contains subcategory.categoryId = true)
    (rule : CategorizationRule) : namedIds database rule = ownIds database rule := by
  unfold namedIds ownIds
  cases isStored : lookup SubCategory.id database.subcategories rule.matchesSubcategoryId with
  | none => rfl
  | some subcategory =>
    obtain ⟨member, isTarget⟩ := lookup_mem isStored
    rw [Option.bind_some, Option.bind_some, if_pos (categories subcategory member)]
    have entry : (subcategory.name, (subcategory.id, subcategory.categoryId)) ∈ lookupOf database :=
      List.mem_map.mpr ⟨subcategory,
        List.mem_filter.mpr ⟨member, categories subcategory member⟩, rfl⟩
    unfold idsOf
    cases isLast : lastOf Prod.fst (lookupOf database) subcategory.name with
    | none => exact absurd rfl (last_of_none_iff Prod.fst |>.mp isLast _ entry)
    | some =>
      obtain ⟨isEntry, sameName⟩ := last_of_mem Prod.fst isLast
      obtain ⟨other, isOther, rfl⟩ := List.mem_map.mp isEntry
      have same : other = subcategory :=
        List.inj_on_of_nodup_map names (List.mem_filter.mp isOther).1 member sameName
      rw [Option.map_some, same, isTarget]

theorem unique_names_lead_home {tables : CharTables} {userId : ℤ} {evidence : Evidence}
    (names : DistinctKeys SubCategory.name database.subcategories)
    (categories : ∀ subcategory ∈ database.subcategories,
      database.categoryIds.contains subcategory.categoryId = true) :
    NameLeadsHome tables database userId evidence := by
  intro rule best
  refine ⟨rule, (best_congr fun other => ?_).mp best, named_own names categories rule⟩
  unfold Answers Eligible
  rw [named_own names categories]

end Taxonomy

theorem comes_first_iff {rule other : CategorizationRule} :
    comesFirst rule other = true ↔ rule.priority < other.priority ∨ rule.priority = other.priority ∧
        (other.patternValue.length < rule.patternValue.length ∨
          rule.patternValue.length = other.patternValue.length ∧ rule.id ≤ other.id) := by
  unfold comesFirst
  simp only [Bool.or_eq_true, Bool.and_eq_true, decide_eq_true_eq]

theorem comes_first_trans (first second third : CategorizationRule)
    (before : comesFirst first second = true) (after : comesFirst second third = true) :
    comesFirst first third = true := by
  rw [comes_first_iff] at before after ⊢
  omega

theorem comes_first_total (first second : CategorizationRule) :
    (comesFirst first second || comesFirst second first) = true := by
  rw [Bool.or_eq_true, comes_first_iff, comes_first_iff]
  omega

section Overlay

variable (tables : CharTables) (provider : Provider) (evidence : Evidence)

def ruleAnswer (rule : CategorizationRule) : Option CategorizationResult :=
  if occursIn (normalizeForMatching tables rule.patternValue)
      (normalizeForMatching tables evidence.description) then
    (idsOf provider.subcategoryLookup (nameOf provider rule.matchesSubcategoryId)).map resultOf
  else none

def longerFirst (rule other : CategorizationRule) : Bool :=
  decide (normalLength tables other ≤ normalLength tables rule)

theorem longer_first_trans (first second third : CategorizationRule)
    (before : longerFirst tables first second = true)
    (after : longerFirst tables second third = true) : longerFirst tables first third = true := by
  unfold longerFirst at before after ⊢
  rw [decide_eq_true_eq] at before after ⊢
  omega

theorem longer_first_total (first second : CategorizationRule) :
    (longerFirst tables first second || longerFirst tables second first) = true := by
  unfold longerFirst
  rw [Bool.or_eq_true, decide_eq_true_eq, decide_eq_true_eq]
  omega

theorem keyword_match_group (group : List CategorizationRule) :
    keywordMatch tables (ruleEngine tables
        (group.map fun rule => (rule.patternValue, nameOf provider rule.matchesSubcategoryId))
        provider.subcategoryLookup) evidence =
      (group.mergeSort (longerFirst tables)).findSome? (ruleAnswer tables provider evidence) := by
  unfold keywordMatch ruleEngine
  rw [List.map_map, ← List.map_mergeSort, List.findSome?_map]
  · rfl
  · exact fun _ _ _ _ => rfl

theorem user_engine_eq (rules : List CategorizationRule)
    (globalEngine : Evidence → Option CategorizationResult) :
    userEngine tables (buildEngines tables provider rules) globalEngine evidence =
      ((regrouped CategorizationRule.priority (longerFirst tables)
          (rules.filter (isMatchable provider))).flatten.findSome?
        (ruleAnswer tables provider evidence)).or (globalEngine evidence) := by
  have overlay : userEngine tables (buildEngines tables provider rules) globalEngine evidence =
      ((buildEngines tables provider rules).findSome? fun engine =>
        keywordMatch tables engine evidence).or (globalEngine evidence) := by
    unfold userEngine
    split
    · next noEngines =>
      rw [noEngines]
      rfl
    · unfold tieredMatch
      rw [List.findSome?_append, List.findSome?_map]
      simp only [List.findSome?_cons, List.findSome?_nil]
      cases globalEngine evidence <;> rfl
  rw [overlay, find_some_flatten]
  unfold buildEngines regrouped
  rw [List.findSome?_map, List.findSome?_map]
  congr 2
  funext group
  exact keyword_match_group tables provider evidence group

end Overlay

section Ladder

variable {tables : CharTables} {database : Database} {userId : ℤ}

def overlayRules (tables : CharTables) (provider : Provider) (database : Database) (userId : ℤ) :
    List CategorizationRule :=
  (regrouped CategorizationRule.priority (longerFirst tables)
    ((findByUser database userId).filter (isMatchable provider))).flatten

theorem mem_overlay_rules {provider : Provider} {rule : CategorizationRule} :
    rule ∈ overlayRules tables provider database userId ↔
      rule ∈ database.rules ∧ rule.userId = some userId ∧ isMatchable provider rule = true := by
  unfold overlayRules findByUser
  rw [(regrouped_perm _).mem_iff, List.mem_filter, List.mem_mergeSort, List.mem_filter,
    decide_eq_true_eq, and_assoc]

theorem overlay_rules_ranked (provider : Provider)
    (distinct : DistinctKeys CategorizationRule.id database.rules) :
    (overlayRules tables provider database userId).Pairwise (Outranks tables) := by
  have distinctOwn : DistinctKeys CategorizationRule.id
      ((findByUser database userId).filter (isMatchable provider)) := by
    have sorted : ((findByUser database userId).map CategorizationRule.id).Perm
        ((database.rules.filter fun rule => rule.userId = some userId).map
          CategorizationRule.id) :=
      (List.mergeSort_perm _ _).map _
    have distinctSorted : ((findByUser database userId).map CategorizationRule.id).Nodup :=
      sorted.nodup_iff.mpr (distinct.sublist (List.filter_sublist.map _))
    exact distinctSorted.sublist (List.filter_sublist.map _)
  have ordered : ((findByUser database userId).filter (isMatchable provider)).Pairwise
      fun rule other => comesFirst rule other = true ∧ rule.id ≠ other.id := by
    have sorted := (List.pairwise_mergeSort comes_first_trans comes_first_total
      (database.rules.filter fun rule => rule.userId = some userId)).sublist
        (List.filter_sublist (p := isMatchable provider))
    exact sorted.and (List.pairwise_map.mp distinctOwn)
  have byPriority : ∀ rule other : CategorizationRule,
      comesFirst rule other = true ∧ rule.id ≠ other.id → rule.priority ≤ other.priority := by
    intro _ _ before
    have isFirst := comes_first_iff.mp before.1
    omega
  have ranked := regrouped_pairwise (longer_first_trans tables) (longer_first_total tables)
    distinctOwn.of_map ordered byPriority
  apply ranked.imp
  intro rule other ranking
  unfold Outranks
  rcases ranking with lower | ⟨samePriority, longer, before⟩
  · exact Or.inl lower
  · unfold longerFirst at longer before
    rw [decide_eq_true_eq] at longer before
    rcases Nat.lt_or_ge (normalLength tables other) (normalLength tables rule) with strictly | atMost
    · exact Or.inr ⟨samePriority, Or.inl strictly⟩
    · obtain ⟨isFirst, _⟩ := before atMost
      have first := comes_first_iff.mp isFirst
      omega

theorem name_by_id (subcategories : List SubCategory) (id : ℤ) :
    lookup Prod.fst (subcategories.map fun subcategory => (subcategory.id, subcategory.name)) id =
      (lookup SubCategory.id subcategories id).map fun subcategory =>
        (subcategory.id, subcategory.name) := by
  unfold lookup
  rw [List.find?_map]
  rfl

theorem reloaded_matchable (provider : Provider) (now : Time) (rule : CategorizationRule) :
    isMatchable (applyReload provider database.subcategories database.categoryIds now) rule = true ↔
      (rule.active = true ∧ (rule.patternType = .keyword ∨ rule.patternType = .merchant)) ∧
        (lookup SubCategory.id database.subcategories rule.matchesSubcategoryId).isSome = true := by
  unfold isMatchable applyReload
  rw [name_by_id, Option.isSome_map]
  simp only [Bool.and_eq_true, Bool.or_eq_true, decide_eq_true_eq]

theorem reloaded_answer (provider : Provider) (now : Time) (evidence : Evidence)
    {rule : CategorizationRule}
    (stored : (lookup SubCategory.id database.subcategories rule.matchesSubcategoryId).isSome =
      true) :
    ruleAnswer tables (applyReload provider database.subcategories database.categoryIds now)
        evidence rule =
      if occursIn (normalizeForMatching tables rule.patternValue)
          (normalizeForMatching tables evidence.description) then
        (namedIds database rule).map resultOf
      else none := by
  obtain ⟨_, isStored⟩ := Option.isSome_iff_exists.mp stored
  unfold ruleAnswer namedIds nameOf applyReload
  rw [name_by_id, isStored]
  rfl

theorem answers_iff (provider : Provider) (now : Time) (evidence : Evidence)
    (rule : CategorizationRule) :
    (rule ∈ overlayRules tables
          (applyReload provider database.subcategories database.categoryIds now) database userId ∧
        (ruleAnswer tables (applyReload provider database.subcategories database.categoryIds now)
          evidence rule).isSome = true) ↔
      rule ∈ database.rules ∧ Answers tables database userId evidence rule := by
  rw [mem_overlay_rules, reloaded_matchable]
  constructor
  · intro ⟨⟨member, isUser, ⟨active, isType⟩, stored⟩, answers⟩
    rw [reloaded_answer provider now evidence stored] at answers
    split at answers
    · next occurs =>
      rw [Option.isSome_map] at answers
      exact ⟨member, ⟨isUser, active, isType, occurs⟩, answers⟩
    · cases answers
  · intro ⟨member, ⟨isUser, active, isType, occurs⟩, named⟩
    have stored : (lookup SubCategory.id database.subcategories
        rule.matchesSubcategoryId).isSome = true := by
      unfold namedIds at named
      cases isStored : lookup SubCategory.id database.subcategories rule.matchesSubcategoryId with
      | none =>
        rw [isStored] at named
        cases named
      | some => rfl
    refine ⟨⟨member, isUser, ⟨active, isType⟩, stored⟩, ?_⟩
    rw [reloaded_answer provider now evidence stored, if_pos occurs, Option.isSome_map]
    exact named

/-- The overlay answers from the highest-ranked rule whose name leads to a subcategory, and
leaves the rest to the global engine. -/
theorem rebuilt_answer (provider : Provider) (now : Time)
    (distinct : DistinctKeys CategorizationRule.id database.rules) (evidence : Evidence) :
    (∃ rule, Best (Outranks tables) (Answers tables database userId evidence) database.rules rule ∧
      ∀ globalEngine, rebuiltEngine tables provider database now userId globalEngine evidence =
        (namedIds database rule).map resultOf) ∨
    ((∀ rule ∈ database.rules, ¬ Answers tables database userId evidence rule) ∧
      ∀ globalEngine, rebuiltEngine tables provider database now userId globalEngine evidence =
        globalEngine evidence) := by
  let reloaded := applyReload provider database.subcategories database.categoryIds now
  let answer := ruleAnswer tables reloaded evidence
  have engine : ∀ globalEngine,
      rebuiltEngine tables provider database now userId globalEngine evidence =
        (((overlayRules tables reloaded database userId).find? fun rule =>
          (answer rule).isSome).bind answer).or (globalEngine evidence) := by
    intro _
    unfold rebuiltEngine
    rw [user_engine_eq, find_some_eq]
    rfl
  cases found : (overlayRules tables reloaded database userId).find? fun rule =>
      (answer rule).isSome with
  | none =>
    refine Or.inr ⟨fun rule member answers => ?_, fun globalEngine => ?_⟩
    · have isAnswer := (answers_iff provider now evidence rule).mpr ⟨member, answers⟩
      exact List.find?_eq_none.mp found rule isAnswer.1 isAnswer.2
    · rw [engine, found]
      rfl
  | some rule =>
    have best := best_of_find (overlay_rules_ranked reloaded distinct) found
    have isBest : Best (Outranks tables) (Answers tables database userId evidence)
        database.rules rule :=
      (best_congr (answers_iff provider now evidence)).mp best
    refine Or.inl ⟨rule, isBest, fun globalEngine => ?_⟩
    have isMember := mem_overlay_rules.mp best.member
    have stored := ((reloaded_matchable provider now rule).mp isMember.2.2).2
    have isAnswer : answer rule = (namedIds database rule).map resultOf := by
      unfold answer
      rw [reloaded_answer provider now evidence stored, if_pos isBest.isEligible.1.2.2.2]
    have present : (answer rule).isSome = true := best.isEligible
    rw [engine, found, Option.bind_some, Option.or_of_isSome present, isAnswer]

/-- The engine of the user answers what the ladder says, whatever the global engine
answers, exactly when the name of the rule that answers leads to the subcategory at the
top of the ladder. -/
theorem overlay_implements_ladder
    (distinct : DistinctKeys CategorizationRule.id database.rules) (provider : Provider)
    (now : Time) (evidence : Evidence) :
    (∀ globalEngine, LadderAnswer tables database userId evidence (globalEngine evidence)
        (rebuiltEngine tables provider database now userId globalEngine evidence)) ↔
      NameLeadsHome tables database userId evidence := by
  rcases rebuilt_answer provider now distinct evidence with ⟨rule, best, answered⟩ | ⟨none, passed⟩
  · obtain ⟨_, isNamed⟩ := Option.isSome_iff_exists.mp best.isEligible.2
    constructor
    · intro ladder _ otherBest
      rw [best_unique (outranks_asymm tables) otherBest best]
      rcases ladder fun _ => none with ⟨home, homeBest, isAnswer⟩ | ⟨_, isNone⟩
      · refine ⟨home, homeBest, ?_⟩
        rw [answered] at isAnswer
        exact Option.map_injective result_of_injective isAnswer
      · rw [answered, isNamed] at isNone
        cases isNone
    · intro leads _
      obtain ⟨home, homeBest, same⟩ := leads rule best
      exact Or.inl ⟨home, homeBest, by rw [answered, same]⟩
  · constructor
    · intro _ rule best
      exact absurd best.isEligible (none rule best.member)
    · intro _ globalEngine
      refine Or.inr ⟨fun rule member eligible => ?_, passed globalEngine⟩
      exact none rule member ⟨eligible.1, own_name_known eligible.2⟩

end Ladder

def plainText : CharTables where
  lower := fun text => text
  isAlpha := Char.isAlpha

def nettoKeyword : CategorizationRule where
  id := 1
  userId := some 7
  priority := 50
  patternType := .keyword
  patternValue := "netto"
  matchesSubcategoryId := 3
  active := true

def oneName : Database where
  rules := [nettoKeyword]
  nextId := 2
  subcategories := [{ id := 3, name := "Andet", categoryId := 1 }]
  categoryIds := [1]

def nettoPurchase : Evidence where
  description := "netto nord"
  amount := 120
  direction := .outgoing

theorem one_rule : DistinctKeys CategorizationRule.id oneName.rules := List.nodup_singleton _

def foreignRule : CategorizationRule :=
  { nettoKeyword with id := 2, userId := some 8, priority := 20 }

def twoOwners : Database := { oneName with rules := [foreignRule, nettoKeyword] }

theorem single_name_ladder : NameLeadsHome plainText oneName 7 nettoPurchase ∧
    ∀ globalEngine, LadderAnswer plainText oneName 7 nettoPurchase (globalEngine nettoPurchase)
      (rebuiltEngine plainText { ttl := 60 } oneName 0 7 globalEngine nettoPurchase) := by
  have leads : NameLeadsHome plainText oneName 7 nettoPurchase :=
    unique_names_lead_home (List.nodup_singleton _) (by decide)
  exact ⟨leads, (overlay_implements_ladder one_rule { ttl := 60 } 0 nettoPurchase).mpr leads⟩

def sharedName : Database where
  rules := [nettoKeyword]
  nextId := 2
  subcategories := [{ id := 3, name := "Andet", categoryId := 1 },
    { id := 4, name := "Andet", categoryId := 2 }]
  categoryIds := [1, 2]

theorem shared_name_leaves_ladder :
    ¬ ∀ (tables : CharTables) (database : Database) (provider : Provider) (now : Time) (userId : ℤ)
      (evidence : Evidence) (globalEngine : Evidence → Option CategorizationResult),
      DistinctKeys CategorizationRule.id database.rules →
      DistinctKeys (fun subcategory => (subcategory.categoryId, subcategory.name))
        database.subcategories →
      LadderAnswer tables database userId evidence (globalEngine evidence)
        (rebuiltEngine tables provider database now userId globalEngine evidence) := by
  intro always
  have answer : rebuiltEngine plainText { ttl := 60 } sharedName 0 7 (fun _ => none) nettoPurchase =
      some { categoryId := 2, subcategoryId := 4 } := by
    decide +kernel
  rcases always plainText sharedName { ttl := 60 } 0 7 nettoPurchase (fun _ => none)
      (List.nodup_singleton _) (by unfold DistinctKeys; decide) with ⟨rule, best, isAnswer⟩ | ⟨_, isNone⟩
  · have isRule : rule = nettoKeyword := List.mem_singleton.mp best.member
    rw [answer, isRule] at isAnswer
    exact absurd isAnswer (by decide)
  · rw [answer] at isNone
    cases isNone

end FinanceTracker.Categorization.RuleLadder
