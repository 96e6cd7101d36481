import FinanceTracker.Library.Counters
import FinanceTracker.Library.DateText
import FinanceTracker.Library.JsonText
import FinanceTracker.Library.Sha256

/-!
# Reconciliation of Postgres and Elasticsearch

`reconcile` on two lists of facts, and the pages of `load_elasticsearch`. Amounts are whole
cents, as both loaders quantize them, with the sign that a decimal zero keeps. The digest of a
JSON payload is a parameter.
-/

namespace FinanceTracker.Transaction.Reconciliation

open Library Counters DateText IntText Json KeyedRows JsonText Sha256 SortedBy List

structure Amount where
  negative : Bool
  cents : ℕ
  deriving DecidableEq

def Amount.value (amount : Amount) : ℤ := if amount.negative then -amount.cents else amount.cents

/-- Decimals are compared by their value, so a zero without its sign stands for both. -/
def Amount.plain (amount : Amount) : Amount :=
  { amount with negative := amount.negative && amount.cents ≠ 0 }

/-- `format(amount.quantize(CENT), "f")`. -/
def Amount.text (amount : Amount) : String :=
  String.ofList ((if amount.negative then ['-'] else []) ++
    (Nat.toDigits 10 (amount.cents / 100) ++ '.' :: twoDigits (amount.cents % 100)))

structure TransactionFact where
  transactionId : ℤ
  userId : ℤ
  accountId : ℤ
  categoryId : Option ℤ
  txDate : String
  amount : Amount
  deriving DecidableEq

def TransactionFact.plain (fact : TransactionFact) : TransactionFact :=
  { fact with amount := fact.amount.plain }

def canonical (fact : TransactionFact) : JsonValue :=
  .obj
    [("transaction_id", .int fact.transactionId), ("user_id", .int fact.userId),
      ("account_id", .int fact.accountId),
      ("category_id", (fact.categoryId.map JsonValue.int).getD .null),
      ("tx_date", .str fact.txDate), ("amount", .str fact.amount.text)]

def ids (facts : List TransactionFact) : List ℤ := facts.map TransactionFact.transactionId

def factOf (facts : List TransactionFact) (id : ℤ) : Option TransactionFact :=
  lookup TransactionFact.transactionId facts id

def unique (source : String) (result : List TransactionFact) :
    List TransactionFact → Except String (List TransactionFact)
  | [] => .ok result
  | row :: rows =>
    if row.transactionId ∈ ids result then
      .error (source ++ " contains duplicate transaction_id " ++ intText row.transactionId)
    else unique source (result ++ [row]) rows

def groupKeys (fact : TransactionFact) : List String :=
  ["global", "user:" ++ intText fact.userId, "account:" ++ intText fact.accountId,
    "category:" ++ (fact.categoryId.map intText).getD "None",
    "month:" ++ String.ofList (fact.txDate.toList.take 7)]

def groupEntries (fact : TransactionFact) : List (String × ℕ × ℤ) :=
  (groupKeys fact).map fun key => (key, 1, fact.amount.value)

def aggregates (facts : List TransactionFact) : Counter String (ℕ × ℤ) :=
  accumulate Prod.fst Prod.snd (facts.flatMap groupEntries) []

/-- A sum that starts at zero is never a negative zero. -/
def groupOf (facts : List TransactionFact) (key : String) : Option (ℕ × String) :=
  ((lookup Prod.fst (aggregates facts) key).map Prod.snd).map fun total =>
    (total.1, (Amount.mk (decide (total.2 < 0)) total.2.natAbs).text)

structure Report where
  postgresCount : ℕ
  elasticsearchCount : ℕ
  missing : List ℤ
  extra : List ℤ
  fieldMismatches : List (ℤ × JsonValue × JsonValue)
  groupMismatches : List (String × Option (ℕ × String) × Option (ℕ × String))
  postgresHash : String
  elasticsearchHash : String

def Report.reconciled (report : Report) : Bool :=
  report.missing.isEmpty && report.extra.isEmpty && report.fieldMismatches.isEmpty &&
    report.groupMismatches.isEmpty

def fieldMismatches (source projected : List TransactionFact) : List (ℤ × JsonValue × JsonValue) :=
  (sortedBy (fun id => id) (ids source)).filterMap fun id => do
    let stored ← factOf source id
    let found ← factOf projected id
    if stored.plain = found.plain then none else some (id, canonical stored, canonical found)

def groupMismatches (source projected : List TransactionFact) :
    List (String × Option (ℕ × String) × Option (ℕ × String)) :=
  let keys := ((aggregates source ++ aggregates projected).map Prod.fst).dedup
  (sortedBy (fun key => key) keys).filterMap fun key =>
    if groupOf source key = groupOf projected key then none
    else some (key, groupOf source key, groupOf projected key)

def payload (facts : List TransactionFact) : JsonValue :=
  .arr ((sortedBy TransactionFact.transactionId facts).map canonical)

section Report

variable (digest : JsonValue → String)

def hash (facts : List TransactionFact) : String := digest (payload facts)

def idsWithout (facts others : List TransactionFact) : List ℤ :=
  sortedBy (fun id => id) ((ids facts).filter (· ∉ ids others))

def reconcile (source projected : List TransactionFact) : Except String Report := do
  let _ ← unique "Postgres" [] source
  let _ ← unique "Elasticsearch" [] projected
  .ok
    { postgresCount := source.length
      elasticsearchCount := projected.length
      missing := idsWithout source projected
      extra := idsWithout projected source
      fieldMismatches := fieldMismatches source projected
      groupMismatches := groupMismatches source projected
      postgresHash := hash digest source
      elasticsearchHash := hash digest projected }

def groupJson : Option (ℕ × String) → JsonValue
  | some (count, amount) => .obj [("count", .int count), ("amount", .str amount)]
  | none => .null

def reportHash (report : Report) : String :=
  digest (.obj
    [("schema_version", .str "transaction-es-reconciliation-v1"),
      ("postgres_count", .int report.postgresCount),
      ("elasticsearch_count", .int report.elasticsearchCount),
      ("missing_in_elasticsearch", .arr (report.missing.map JsonValue.int)),
      ("extra_in_elasticsearch", .arr (report.extra.map JsonValue.int)),
      ("field_mismatches", .arr (report.fieldMismatches.map fun (id, stored, found) =>
        .obj [("transaction_id", .int id), ("postgres", stored), ("elasticsearch", found)])),
      ("group_mismatches", .obj (report.groupMismatches.map fun (key, stored, found) =>
        (key, .obj [("postgres", groupJson stored), ("elasticsearch", groupJson found)]))),
      ("postgres_hash", .str report.postgresHash),
      ("elasticsearch_hash", .str report.elasticsearchHash),
      ("reconciled", .bool report.reconciled)])

end Report

/-- An answer to a search: a hit is none where a field is missing or does not convert, and
`sorted` tells whether the last one carries its sort values. -/
structure SearchPage where
  exact : Bool
  total : ℤ
  hits : List (Option TransactionFact)
  sorted : Bool

inductive Loaded where
  | waiting
  | raised
  | returned (rows : List TransactionFact)

def loadPages (expectedTotal : Option ℤ) (rows : List TransactionFact) : List SearchPage → Loaded
  | [] => .waiting
  | page :: pages =>
    let expected := expectedTotal.getD page.total
    if page.exact = false ∨ page.total ≠ expected then .raised
    else if page.hits = [] then if expected = rows.length then .returned rows else .raised
    else
      match page.hits.mapM id with
      | none => .raised
      | some facts =>
        if page.sorted then loadPages (some expected) (rows ++ facts) pages else .raised

def loadElasticsearch (pages : List SearchPage) : Loaded := loadPages none [] pages

def Distinct (facts : List TransactionFact) : Prop := (ids facts).Nodup

/-- Whatever the order, by the equality of facts. -/
def SameFacts (source projected : List TransactionFact) : Prop :=
  ∀ fact, fact ∈ source.map TransactionFact.plain ↔ fact ∈ projected.map TransactionFact.plain

structure Exact (source projected : List TransactionFact) (report : Report) : Prop where
  reconciled : report.reconciled = true ↔ SameFacts source projected
  hashes : report.reconciled = true → report.postgresHash = report.elasticsearchHash
  missing : ∀ id, id ∈ report.missing ↔ id ∈ ids source ∧ id ∉ ids projected
  extra : ∀ id, id ∈ report.extra ↔ id ∈ ids projected ∧ id ∉ ids source
  mismatches : ∀ id, id ∈ report.fieldMismatches.map Prod.fst ↔
    ∃ stored ∈ source, ∃ found ∈ projected, stored.transactionId = id ∧ found.transactionId = id ∧
      stored.plain ≠ found.plain

def ReconcilesExactly (digest : JsonValue → String) (source projected : List TransactionFact) : Prop :=
  ((∃ message, reconcile digest source projected = .error message) ↔
      ¬ (Distinct source ∧ Distinct projected)) ∧
    ∀ report, reconcile digest source projected = .ok report → Exact source projected report

def SignedZero (source projected : List TransactionFact) : Prop :=
  Distinct source ∧ Distinct projected ∧ SameFacts source projected ∧
    ∃ stored ∈ source, ∃ found ∈ projected, stored.transactionId = found.transactionId ∧
      stored.amount.cents = 0 ∧ stored.amount.negative ≠ found.amount.negative

variable {source projected facts others : List TransactionFact} {fact stored found : TransactionFact}

theorem unique_distinct {name : String} (result : List TransactionFact) (distinct : Distinct (result ++ facts)) :
    unique name result facts = .ok (result ++ facts) := by
  induction facts generalizing result with
  | nil => rw [unique, append_nil]
  | cons row rows ih =>
    have fresh : row.transactionId ∉ ids result := by
      intro before
      rw [Distinct, ids, map_append] at distinct
      exact disjoint_of_nodup_append distinct before (by simp)
    rw [unique, if_neg fresh, ih _ (by rwa [append_assoc]), append_assoc]
    rfl

theorem unique_repeated {name : String} {result : List TransactionFact} (distinct : Distinct result)
    (repeated : ¬ Distinct (result ++ facts)) : ∃ message, unique name result facts = .error message := by
  induction facts generalizing result with
  | nil =>
    rw [append_nil] at repeated
    exact absurd distinct repeated
  | cons row rows ih =>
    rw [unique]
    split
    · exact ⟨_, rfl⟩
    · next fresh =>
      apply ih
      · rw [Distinct, ids, map_append]
        exact nodup_append'.mpr ⟨distinct, nodup_singleton _,  disjoint_singleton.mpr fresh⟩
      · rwa [append_assoc]

theorem reconcile_distinct (digest : JsonValue → String) (first : Distinct source) (second : Distinct projected) :
    reconcile digest source projected = .ok
      { postgresCount := source.length
        elasticsearchCount := projected.length
        missing := idsWithout source projected
        extra := idsWithout projected source
        fieldMismatches := fieldMismatches source projected
        groupMismatches := groupMismatches source projected
        postgresHash := hash digest source
        elasticsearchHash := hash digest projected } := by
  rw [reconcile, unique_distinct [] first, unique_distinct [] second]
  rfl

theorem reconcile_raises_iff (digest : JsonValue → String) :
    (∃ message, reconcile digest source projected = .error message) ↔
      ¬ (Distinct source ∧ Distinct projected) := by
  constructor
  · intro ⟨message, raised⟩ ⟨first, second⟩
    rw [reconcile_distinct digest first second] at raised
    contradiction
  · intro repeated
    by_cases first : Distinct source
    · obtain ⟨message, raised⟩ := @unique_repeated projected "Elasticsearch" [] nodup_nil
        fun second => repeated ⟨first, second⟩
      rw [reconcile, unique_distinct [] first, raised]
      exact ⟨message, rfl⟩
    · obtain ⟨message, raised⟩ := @unique_repeated source "Postgres" [] nodup_nil first
      rw [reconcile, raised]
      exact ⟨message, rfl⟩

theorem mem_without {id : ℤ} :
    id ∈ idsWithout source projected ↔ id ∈ ids source ∧ id ∉ ids projected := by
  rw [idsWithout, mem_sorted_iff, mem_filter, decide_eq_true_iff]

theorem fact_of_iff (distinct : Distinct facts) {id : ℤ} :
    factOf facts id = some fact ↔ fact ∈ facts ∧ fact.transactionId = id :=
  lookup_iff distinct

theorem mem_mismatches (first : Distinct source) (second : Distinct projected) {id : ℤ} :
    id ∈ (fieldMismatches source projected).map Prod.fst ↔
      ∃ stored ∈ source, ∃ found ∈ projected, stored.transactionId = id ∧
        found.transactionId = id ∧ stored.plain ≠ found.plain := by
  simp only [fieldMismatches, mem_map, mem_filterMap, mem_sorted_iff,
    Option.bind_eq_bind, Option.bind_eq_some_iff, fact_of_iff first, fact_of_iff second]
  constructor
  · rintro ⟨_, ⟨wanted, _, stored, ⟨inSource, isStored⟩, found, ⟨inProjected, isFound⟩, told⟩, rfl⟩
    split at told
    · contradiction
    · next differ =>
      cases told
      exact ⟨stored, inSource, found, inProjected, isStored, isFound, differ⟩
  · intro differing
    obtain ⟨stored, inSource, found, inProjected, isStored, isFound, differ⟩ := differing
    refine ⟨_, ⟨id, ?_, stored, ⟨inSource, isStored⟩, found, ⟨inProjected, isFound⟩,
      if_neg differ⟩, rfl⟩
    rw [← isStored]
    exact mem_map_of_mem inSource

theorem same_facts_iff : SameFacts source projected ↔
    (∀ stored ∈ source, ∃ found ∈ projected, found.plain = stored.plain) ∧
      ∀ found ∈ projected, ∃ stored ∈ source, stored.plain = found.plain := by
  simp only [SameFacts, mem_map]
  constructor
  · intro same
    exact ⟨fun stored member => (same _).mp ⟨stored, member, rfl⟩,
      fun found member => (same _).mpr ⟨found, member, rfl⟩⟩
  · intro ⟨forth, back⟩ fact
    constructor
    · rintro ⟨stored, member, rfl⟩
      exact forth stored member
    · rintro ⟨found, member, rfl⟩
      exact back found member

theorem id_of_plain (same : stored.plain = found.plain) : stored.transactionId = found.transactionId := by
  have ids := congrArg TransactionFact.transactionId same
  exact ids

theorem without_empty_iff : idsWithout source projected = [] ↔
    ∀ stored ∈ source, ∃ found ∈ projected, found.transactionId = stored.transactionId := by
  rw [eq_nil_iff_forall_not_mem]
  constructor
  · intro none stored member
    by_contra unknown
    apply none stored.transactionId
    rw [mem_without]
    exact ⟨mem_map_of_mem member, fun known => unknown (mem_map.mp known)⟩
  · intro known id member
    obtain ⟨present, absent⟩ := mem_without.mp member
    obtain ⟨stored, inSource, rfl⟩ := mem_map.mp present
    exact absent (mem_map.mpr (known stored inSource))

theorem no_mismatch_iff (first : Distinct source) (second : Distinct projected) :
    fieldMismatches source projected = [] ↔ ∀ stored ∈ source, ∀ found ∈ projected,
      found.transactionId = stored.transactionId → found.plain = stored.plain := by
  rw [← map_eq_nil_iff (f := Prod.fst), eq_nil_iff_forall_not_mem]
  simp only [mem_mismatches first second]
  constructor
  · intro noMismatch stored inSource found inProjected same
    by_contra differ
    exact noMismatch _ ⟨stored, inSource, found, inProjected, rfl, same, Ne.symm differ⟩
  · intro agree id ⟨stored, inSource, found, inProjected, isStored, isFound, differ⟩
    exact differ (agree stored inSource found inProjected (isFound.trans isStored.symm)).symm

theorem differences_iff (first : Distinct source) (second : Distinct projected) :
    (idsWithout source projected = [] ∧ idsWithout projected source = [] ∧
      fieldMismatches source projected = []) ↔ SameFacts source projected := by
  rw [same_facts_iff, without_empty_iff, without_empty_iff, no_mismatch_iff first second]
  constructor
  · intro ⟨known, alsoKnown, agree⟩
    constructor
    · intro stored member
      obtain ⟨found, inProjected, same⟩ := known stored member
      exact ⟨found, inProjected, agree stored member found inProjected same⟩
    · intro found member
      obtain ⟨stored, inSource, same⟩ := alsoKnown found member
      exact ⟨stored, inSource, (agree stored inSource found member same.symm).symm⟩
  · intro ⟨forth, back⟩
    refine ⟨fun stored member => ?_, fun found member => ?_, fun stored inSource found inProjected same => ?_⟩
    · obtain ⟨found, inProjected, same⟩ := forth stored member
      exact ⟨found, inProjected, id_of_plain same⟩
    · obtain ⟨stored, inSource, same⟩ := back found member
      exact ⟨stored, inSource, id_of_plain same⟩
    · obtain ⟨other, otherIn, agrees⟩ := forth stored inSource
      have isFound := inj_on_of_nodup_map second otherIn inProjected
        ((id_of_plain agrees).trans same.symm)
      rw [← isFound]
      exact agrees

theorem plain_value (amount : Amount) : amount.plain.value = amount.value := by
  obtain ⟨negative, cents⟩ := amount
  cases negative with
  | false => rfl
  | true =>
    by_cases zero : cents = 0
    · subst zero
      rfl
    · simp [Amount.plain, Amount.value, zero]

theorem plain_entries (fact : TransactionFact) : groupEntries fact.plain = groupEntries fact := by
  unfold groupEntries
  rw [show fact.plain.amount.value = fact.amount.value from plain_value fact.amount]
  rfl

theorem plain_distinct (distinct : Distinct facts) : (facts.map TransactionFact.plain).Nodup := by
  apply List.Nodup.of_map TransactionFact.transactionId
  rw [map_map]
  exact distinct

/-- Exact sums do not depend on the order of the rows. -/
theorem group_of_same (first : Distinct source) (second : Distinct projected)
    (same : SameFacts source projected) (key : String) : groupOf source key = groupOf projected key := by
  have entries (facts : List TransactionFact) : facts.flatMap groupEntries =
      (facts.map TransactionFact.plain).flatMap groupEntries := by
    rw [flatMap_map]
    exact flatMap_congr fun fact _ => (plain_entries fact).symm
  have permuted : (source.flatMap groupEntries).Perm (projected.flatMap groupEntries) := by
    rw [entries source, entries projected]
    apply List.Perm.flatMap_right
    exact (perm_ext_iff_of_nodup (plain_distinct first) (plain_distinct second)).mpr same
  unfold groupOf aggregates
  rw [value_accumulate_perm _ _ permuted]

theorem reconciled_iff (digest : JsonValue → String) (first : Distinct source) (second : Distinct projected)
    {report : Report} (told : reconcile digest source projected = .ok report) :
    report.reconciled = true ↔ SameFacts source projected := by
  rw [reconcile_distinct digest first second] at told
  cases told
  rw [← differences_iff first second]
  simp only [Report.reconciled, Bool.and_eq_true, List.isEmpty_iff]
  constructor
  · intro ⟨⟨⟨missing, extra⟩, mismatches⟩, _⟩
    exact ⟨missing, extra, mismatches⟩
  · intro none
    have same := (differences_iff first second).mp none
    refine ⟨⟨⟨none.1, none.2.1⟩, none.2.2⟩, ?_⟩
    apply List.eq_nil_iff_forall_not_mem.mpr
    intro mismatch member
    obtain ⟨key, _, told⟩ := List.mem_filterMap.mp member
    rw [if_pos (group_of_same first second same key)] at told
    contradiction

theorem same_facts_mem (same : SameFacts source projected) (first : Distinct source)
    (second : Distinct projected) (unsigned : ¬ SignedZero source projected) (fact : TransactionFact) :
    fact ∈ source ↔ fact ∈ projected := by
  have equal (stored found : TransactionFact) (inSource : stored ∈ source)
      (inProjected : found ∈ projected) (agrees : found.plain = stored.plain) : stored = found := by
    have amounts : found.amount.plain = stored.amount.plain :=
      congrArg TransactionFact.amount agrees
    have cents : found.amount.plain.cents = stored.amount.plain.cents := by rw [amounts]
    have signs : found.amount.plain.negative = stored.amount.plain.negative := by rw [amounts]
    dsimp only [Amount.plain] at cents signs
    have negative : stored.amount.negative = found.amount.negative := by
      by_contra differ
      by_cases zero : stored.amount.cents = 0
      · exact unsigned ⟨first, second, same, stored, inSource, found, inProjected,
          (id_of_plain agrees).symm, zero, differ⟩
      · rw [cents, decide_eq_true zero, Bool.and_true, Bool.and_true] at signs
        exact differ signs.symm
    obtain ⟨_, _, _, _, _, _, _⟩ := stored
    obtain ⟨_, _, _, _, _, _, _⟩ := found
    simp_all [TransactionFact.plain]
  obtain ⟨forth, back⟩ := same_facts_iff.mp same
  constructor
  · intro member
    obtain ⟨found, inProjected, agrees⟩ := forth fact member
    rw [equal fact found member inProjected agrees]
    exact inProjected
  · intro member
    obtain ⟨stored, inSource, agrees⟩ := back fact member
    rw [← equal stored fact inSource member agrees.symm]
    exact inSource

theorem hash_same (digest : JsonValue → String) (first : Distinct source) (second : Distinct projected)
    (same : ∀ fact, fact ∈ source ↔ fact ∈ projected) : hash digest source = hash digest projected := by
  have permuted := (perm_ext_iff_of_nodup (List.Nodup.of_map _ first)
    (List.Nodup.of_map _ second)).mpr same
  rw [hash, hash, payload, payload, sorted_eq_of_perm first permuted]

theorem text_sign (amount : Amount) :
    amount.text.toList.head? = some '-' ↔ amount.negative = true := by
  obtain ⟨negative, cents⟩ := amount
  rw [Amount.text, String.toList_ofList]
  cases negative with
  | true => exact ⟨fun _ => rfl, fun _ => rfl⟩
  | false =>
    have digits := digits_ascii (cents / 100)
    cases written : Nat.toDigits 10 (cents / 100) with
    | nil => exact absurd written Nat.toDigits_ne_nil
    | cons first rest =>
      rw [written] at digits
      constructor
      · intro isMinus
        rw [Option.some.inj isMinus] at digits
        exact absurd (digits '-' mem_cons_self) (by decide)
      · exact fun wrong => absurd wrong Bool.false_ne_true

theorem payload_differs (signed : SignedZero source projected) : payload source ≠ payload projected := by
  obtain ⟨_, second, _, stored, inSource, found, inProjected, sameId, zero, differ⟩ := signed
  intro same
  have lists := JsonValue.arr.inj same
  have written : canonical stored ∈
      (sortedBy TransactionFact.transactionId projected).map canonical := by
    rw [← lists]
    exact mem_map_of_mem ((mem_sorted_iff _).mpr inSource)
  obtain ⟨other, inSorted, sameText⟩ := mem_map.mp written
  simp only [canonical, JsonValue.obj.injEq, List.cons.injEq, Prod.mk.injEq, JsonValue.int.injEq,
    JsonValue.str.injEq, true_and, and_true] at sameText
  have isFound : other = found := inj_on_of_nodup_map second ((mem_sorted_iff _).mp inSorted)
    inProjected (sameText.1.trans sameId)
  rw [isFound] at sameText
  have signs := text_sign found.amount
  rw [sameText.2.2.2.2.2, text_sign] at signs
  exact differ (Bool.eq_iff_iff.mpr signs)

theorem loaded_total {pages : List SearchPage} {rows loaded : List TransactionFact} {total : ℤ}
    (returned : loadPages (some total) rows pages = .returned loaded) : total = loaded.length := by
  induction pages generalizing rows with
  | nil => contradiction
  | cons page pages ih =>
    rw [loadPages] at returned
    dsimp only [Option.getD_some] at returned
    split at returned
    · contradiction
    split at returned
    · split at returned
      · next all =>
        cases returned
        exact all
      · contradiction
    split at returned
    · contradiction
    split at returned
    · exact ih returned
    · contradiction

theorem load_elasticsearch_total {pages : List SearchPage} {loaded : List TransactionFact}
    (returned : loadElasticsearch pages = .returned loaded) :
    ∃ first rest, pages = first :: rest ∧ first.total = loaded.length := by
  cases pages with
  | nil => contradiction
  | cons first rest =>
    refine ⟨first, rest, rfl, ?_⟩
    have isLoad : loadPages (some first.total) [] (first :: rest) = .returned loaded := by
      rw [← returned]
      rfl
    exact loaded_total isLoad

/-- Reconciliation is exact unless a zero has two signs, and a load is never short. -/
theorem reconciliation_exact_iff (digest : JsonValue → String) (source projected : List TransactionFact)
    (noCollision : hash digest source = hash digest projected → payload source = payload projected) :
    (ReconcilesExactly digest source projected ↔ ¬ SignedZero source projected) ∧
      ∀ pages loaded, loadElasticsearch pages = .returned loaded →
        ∃ first rest, pages = first :: rest ∧ first.total = loaded.length := by
  refine ⟨?_, fun _ _ => load_elasticsearch_total⟩
  constructor
  · intro ⟨_, exact⟩ signed
    have told := reconcile_distinct digest signed.1 signed.2.1
    have isExact := exact _ told
    have same := isExact.hashes (isExact.reconciled.mpr signed.2.2.1)
    exact payload_differs signed (noCollision same)
  · intro unsigned
    refine ⟨reconcile_raises_iff digest, fun report told => ?_⟩
    have distinct : Distinct source ∧ Distinct projected := by
      by_contra repeated
      obtain ⟨message, raised⟩ := (reconcile_raises_iff digest).mpr repeated
      rw [told] at raised
      contradiction
    obtain ⟨first, second⟩ := distinct
    have reconciled := reconciled_iff digest first second told
    have built := told
    rw [reconcile_distinct digest first second] at built
    cases built
    exact
      { reconciled := reconciled
        hashes := fun isReconciled => hash_same digest first second
          (same_facts_mem (reconciled.mp isReconciled) first second unsigned)
        missing := fun _ => mem_without
        extra := fun _ => mem_without
        mismatches := fun _ => mem_mismatches first second }

def zeroFact (negative : Bool) : TransactionFact where
  transactionId := 1
  userId := 1
  accountId := 1
  categoryId := none
  txDate := "2026-01-01"
  amount := ⟨negative, 0⟩

def sha256Digest (value : JsonValue) : String :=
  hexdigest (String.ofList ((dumpsAscii value).getD [])).toUTF8

theorem one_zero_reconciles : ReconcilesExactly sha256Digest [zeroFact false] [zeroFact false] := by
  apply (reconciliation_exact_iff sha256Digest [zeroFact false] [zeroFact false] fun _ => rfl).1.mpr
  intro ⟨_, _, _, stored, inSource, found, inProjected, _, _, differ⟩
  rw [mem_singleton.mp inSource, mem_singleton.mp inProjected] at differ
  exact differ rfl

/-- A zero of Postgres and a negative zero of Elasticsearch. -/
theorem signed_zero_hashes_differ :
    ¬ ReconcilesExactly sha256Digest [zeroFact false] [zeroFact true] := by
  intro ⟨_, exact⟩
  have distinct (negative : Bool) : Distinct [zeroFact negative] := nodup_singleton _
  have told := reconcile_distinct sha256Digest (distinct false) (distinct true)
  have same := (exact _ told).hashes ((reconciled_iff sha256Digest (distinct false) (distinct true)
    told).mpr fun _ => Iff.rfl)
  have differ : hash sha256Digest [zeroFact false] ≠ hash sha256Digest [zeroFact true] := by
    decide +kernel
  exact differ same

end FinanceTracker.Transaction.Reconciliation
