import FinanceTracker.Reclassification.Contracts

/-!
# The aggregator

`scripts/tax07_reclassification.py` on a directory of files. A report and the mapping are
the JSON of their files; a value that Python cannot take where the script reads it is
malformed. `floatStr` is the text that `str` gives a float that was read from a literal.
The approval checklist of the summary is constant and left out.
-/

namespace FinanceTracker.Reclassification.Aggregate

open Library
open Library.Binary64 (roundHalfEven)
open Library Counters Json KeyedRows Sha256 SortedBy Contracts

def expectedServices : List String :=
  ["categorization-service", "transaction-service", "budget-service"]

def writableSourceKinds : String → Option (List String)
  | "categorization-service" => some ["categorization_result", "system_rule"]
  | "transaction-service" => some ["transaction"]
  | "budget-service" => some ["legacy_budget", "monthly_budget_line"]
  | _ => none

def terminalDispositions : List String := dispositions.map Disposition.value

inductive AggregateError where
  | missingMapping
  | malformed
  | notAnObject (filename : String)
  | duplicateShard (service : String)
  | shardMismatch
  | unsupportedSchema
  | mixedMapping
  | invalidMappingHash
  | mixedRuns
  | baselineCount
  | baselineDiffers
  | nonTerminalRow
  | untracedDelta
  | totalsDiffer
  | duplicateIdentity (service : String) (identity : String × String)
  | targetOutsideMapping (service : String) (identity : String × String)
  deriving DecidableEq

def orRaise {Value : Type} (failure : AggregateError) : Option Value → Except AggregateError Value
  | none => .error failure
  | some value => .ok value

def given {Value : Type} : Option Value → Except AggregateError Value := orRaise .malformed

/-- `if not condition: raise failure`. -/
def check (condition : Prop) [Decidable condition] (failure : AggregateError) :
    Except AggregateError Unit :=
  if condition then .ok () else .error failure

variable {Value : Type} {failure : AggregateError} {value : Option Value} {result : Value}

theorem or_raise_eq_ok : orRaise failure value = .ok result ↔ value = some result := by
  cases value <;> simp [orRaise]

theorem given_eq_ok :
    given value = .ok result ↔ value = some result := or_raise_eq_ok

theorem check_eq_ok {condition : Prop} [Decidable condition] {done : Unit} :
    check condition failure = .ok done ↔ condition := by
  unfold check
  split
  · next holds => exact iff_of_true rfl holds
  · next fails => exact iff_of_false (fun returned => by cases returned) fails

def strGet (entries : JsonObject) (key : String) (default : JsonValue) : Except AggregateError String :=
  given (strOf (getD entries key default))

/-- `entries[key]`. -/
def item (entries : JsonObject) (key : String) : Except AggregateError JsonValue :=
  given (Json.get entries key)

def itemsOf (value : JsonValue) : Except AggregateError (List JsonValue) := given (iterate value)

def objectOf (value : JsonValue) : Except AggregateError JsonObject := given (asObject (some value))

def rowsOf (report : JsonObject) : Except AggregateError (List JsonObject) := do
  let rows ← itemsOf (getD report "rows" (.arr []))
  rows.mapM objectOf

def numberOf : JsonValue → Option ℤ
  | .int value => some value
  | .bool value => some (if value then 1 else 0)
  | _ => none

/-- `first == second` of two ids. -/
def sameId (first second : JsonValue) : Bool :=
  match first, second with
  | .null, .null => true
  | .str first, .str second => first = second
  | _, _ => (numberOf first).isSome && numberOf first = numberOf second

def isNull : JsonValue → Bool
  | .null => true
  | _ => false

def amountOfRow (row : JsonObject) : Except AggregateError ℚ :=
  given ((strOf (getD row "amount" .null)).bind decimalValue)

abbrev Directory := List (String × ByteArray)

def readFile (directory : Directory) (filename : String) : Option ByteArray :=
  (lookup Prod.fst directory filename).map Prod.snd

def isShard (filename : String) : Bool := "-service.json".toList.isSuffixOf filename.toList

/-- `sorted(input_dir.glob("*-service.json"))`. -/
def shardFiles (directory : Directory) : Directory :=
  sortedBy Prod.fst (directory.filter fun file => isShard file.1)

/-- A report with the digest of its file. -/
structure Shard where
  service : String
  report : JsonObject
  sha256 : String

structure FileManifest where
  filename : String
  sha256 : String
  rowCount : ℕ

def load (file : String × ByteArray) : Except AggregateError (JsonObject × String) := do
  let value ← given (loads file.2)
  let report ← orRaise (.notAnObject file.1) (asObject (some value))
  .ok (report, hexdigest file.2)

def loadShard (shards : List Shard) (file : String × ByteArray) :
    Except AggregateError (Shard × FileManifest) := do
  let (report, digest) ← load file
  let service ← strGet report "source_service" (.str "")
  check (service ∉ shards.map Shard.service) (.duplicateShard service)
  let rows ← itemsOf (getD report "rows" (.arr []))
  .ok (⟨service, report, digest⟩, ⟨file.1, digest, rows.length⟩)

def loadShards (files : Directory) : Except AggregateError (List Shard × List FileManifest) :=
  files.foldlM (fun loaded file => do
      let (shard, manifest) ← loadShard loaded.1 file
      .ok (loaded.1 ++ [shard], loaded.2 ++ [manifest]))
    ([], [])

/-- `set(reports) == EXPECTED_SERVICES`. -/
def AllShards (shards : List Shard) : Prop :=
  (∀ service ∈ expectedServices, service ∈ shards.map Shard.service) ∧
    ∀ service ∈ shards.map Shard.service, service ∈ expectedServices

instance (shards : List Shard) : Decidable (AllShards shards) := inferInstanceAs (Decidable (_ ∧ _))

def findEntry (legacyId : JsonValue) : List JsonValue → Except AggregateError (Option JsonObject)
  | [] => .ok none
  | value :: values => do
    let entry ← objectOf value
    let entryId ← item entry "legacy_id"
    if sameId entryId legacyId then .ok (some entry) else findEntry legacyId values

def targetPair (value : JsonValue) : Except AggregateError (String × String) := do
  let target ← objectOf value
  let key ← given (strField target "key")
  let publicId ← given (strField target "public_id")
  .ok (key, publicId)

def allowedTargets (mapping : JsonObject) (row : JsonObject) :
    Except AggregateError (List (String × String)) := do
  let legacySubcategoryId := getD row "legacy_subcategory_id" .null
  let legacyCategoryId := getD row "legacy_category_id" .null
  let collection := if isNull legacySubcategoryId then "categories" else "subcategories"
  let legacyId := if isNull legacySubcategoryId then legacyCategoryId else legacySubcategoryId
  let values ← item mapping collection
  let entries ← itemsOf values
  match ← findEntry legacyId entries with
  | none => .ok []
  | some entry => do
    let targets ← item entry "targets"
    (← itemsOf targets).mapM targetPair

structure Candidate where
  sourceKind : String
  sourceId : String
  legacyCategoryId : JsonValue
  legacySubcategoryId : JsonValue
  disposition : String
  reasonCode : String
  targetKey : String
  targetPublicId : String

def Candidate.asDict (candidate : Candidate) : JsonObject :=
  [("source_kind", .str candidate.sourceKind), ("source_id", .str candidate.sourceId),
    ("legacy_category_id", candidate.legacyCategoryId),
    ("legacy_subcategory_id", candidate.legacySubcategoryId),
    ("disposition", .str candidate.disposition), ("reason_code", .str candidate.reasonCode),
    ("target_key", .str candidate.targetKey), ("target_public_id", .str candidate.targetPublicId)]

def Candidate.identity (candidate : Candidate) : String ×ₗ String :=
  toLex (candidate.sourceKind, candidate.sourceId)

/-- What becomes of a row that is no error. -/
inductive Selected where
  | candidate (candidate : Candidate)
  | excluded (reason : String)

def selectRow (service : String) (kinds : List String) (mapping row : JsonObject)
    (identity : String × String) : Except AggregateError Selected := do
  let disposition ← strGet row "disposition" (.str "")
  if identity.1 ∉ kinds then .ok (.excluded "source_kind_not_writable")
  else if disposition ∉ ["safe_one_to_one", "evidence_proposal"] then
    .ok (.excluded ("disposition:" ++ disposition))
  else if !truthy (getD row "target_key" .null) || !truthy (getD row "target_public_id" .null) then
    .ok (.excluded "target_not_resolved")
  else do
    let key ← given (strOf (getD row "target_key" .null))
    let publicId ← given (strOf (getD row "target_public_id" .null))
    let allowed ← allowedTargets mapping row
    check ((key, publicId) ∈ allowed) (.targetOutsideMapping service identity)
    let reasonCode ← given (strField row "reason_code")
    .ok (.candidate
      { sourceKind := identity.1
        sourceId := identity.2
        legacyCategoryId := getD row "legacy_category_id" .null
        legacySubcategoryId := getD row "legacy_subcategory_id" .null
        disposition
        reasonCode
        targetKey := key
        targetPublicId := publicId })

structure Selection where
  candidates : List Candidate := []
  exclusions : Counter String ℕ := []
  identities : List (String × String) := []

def Selection.add (selection : Selection) (identity : String × String) : Selected → Selection
  | .candidate candidate =>
    { selection with
      candidates := selection.candidates ++ [candidate]
      identities := selection.identities ++ [identity] }
  | .excluded reason =>
    { selection with
      exclusions := increase selection.exclusions reason 1
      identities := selection.identities ++ [identity] }

def selectNext (service : String) (kinds : List String) (mapping : JsonObject) (selection : Selection)
    (row : JsonObject) : Except AggregateError Selection := do
  let sourceKind ← strGet row "source_kind" (.str "")
  let sourceId ← strGet row "source_id" (.str "")
  check ((sourceKind, sourceId) ∉ selection.identities)
    (.duplicateIdentity service (sourceKind, sourceId))
  let selected ← selectRow service kinds mapping row (sourceKind, sourceId)
  .ok (selection.add (sourceKind, sourceId) selected)

structure ExecutionSummary where
  candidateCount : ℕ
  excludedCount : ℕ
  exclusions : Counter String ℕ
  sha256 : String

def manifestDict (shard : Shard) (candidates : List Candidate) :
    Except AggregateError JsonObject := do
  let runId ← item shard.report "run_id"
  let mappingVersion ← item shard.report "mapping_version"
  let mappingSha256 ← item shard.report "mapping_sha256"
  .ok [("schema_version", .str executionSchemaVersion), ("run_id", runId),
    ("source_service", .str shard.service), ("mapping_version", mappingVersion),
    ("mapping_sha256", mappingSha256), ("source_report_sha256", .str shard.sha256),
    ("rows", .arr ((sortedBy Candidate.identity candidates).map fun candidate =>
      .obj candidate.asDict))]

def executionManifest (mapping : JsonObject) (shard : Shard) :
    Except AggregateError (ByteArray × ExecutionSummary) := do
  let kinds ← given (writableSourceKinds shard.service)
  let rows ← rowsOf shard.report
  let selection ← rows.foldlM (selectNext shard.service kinds mapping) {}
  let manifest ← manifestDict shard selection.candidates
  let payload ← given (canonicalJson (.obj manifest))
  .ok (payload,
    { candidateCount := selection.candidates.length
      excludedCount := (selection.exclusions.map Prod.snd).sum
      exclusions := sortedBy Prod.fst selection.exclusions
      sha256 := hexdigest payload })

def executionManifests (shards : List Shard) (mapping : JsonObject) :
    Except AggregateError (List (String × ByteArray × ExecutionSummary)) :=
  (sortedBy Shard.service shards).mapM fun shard => do
    let manifest ← executionManifest mapping shard
    .ok (shard.service, manifest)

/-- `entries[first][second]...`. -/
def path (value : JsonValue) : List String → Except AggregateError JsonValue
  | [] => .ok value
  | key :: keys => do path (← item (← objectOf value) key) keys

def intAt (value : JsonValue) (keys : List String) : Except AggregateError ℤ := do
  given (intOf (← path value keys))

def amountAt (floatStr : String → String) (value : JsonValue) (keys : List String) :
    Except AggregateError ℚ := do
  match ← path value keys with
  | .float literal => given (decimalValue (floatStr literal))
  | other => given ((strOf other).bind decimalValue)

/-- `quantize(Decimal("0.01"))`. -/
def quantizeCents (value : ℚ) : ℚ := roundHalfEven (value * 100) / 100

def sourceCounts (rows : List JsonObject) : Except AggregateError (Counter ℤ ℕ) :=
  rows.foldlM (fun counts row => do
      let categoryId ← given (intOf (← item row "legacy_category_id"))
      .ok (increase counts categoryId 1))
    []

def sourceAmounts (rows : List JsonObject) : Except AggregateError (Counter ℤ ℚ) :=
  rows.foldlM (fun amounts row => do
      let categoryId ← given (intOf (← item row "legacy_category_id"))
      let amount ← given ((strOf (← item row "amount")).bind decimalValue)
      .ok (increase amounts categoryId amount))
    []

/-- The count and the amount of a category in the baseline; later buckets replace earlier ones. -/
def bucketOf (floatStr : String → String) (buckets : List (ℤ × JsonValue)) (categoryId : ℤ) :
    Except AggregateError (ℤ × ℚ) :=
  match lookup Prod.fst buckets.reverse categoryId with
  | none => .ok (0, 0)
  | some bucket => do
    let count ← intAt bucket.2 ["doc_count"]
    let amount ← amountAt floatStr bucket.2 ["amount", "value"]
    .ok (count, quantizeCents amount)

def categoryIds : List ℤ := (List.range 10).map fun index => (index : ℤ) + 1

def validateAnalyticsBaseline (floatStr : String → String) (transactionRows : List JsonObject)
    (baseline : JsonValue) : Except AggregateError Unit := do
  let hits ← intAt baseline ["hits", "total", "value"]
  let buckets ← (← itemsOf (← path baseline ["aggregations", "by_category", "buckets"])).mapM
    fun bucket => do .ok (← intAt bucket ["key"], bucket)
  let sourceRows := transactionRows.filter fun row => hasText row "source_kind" "transaction"
  check (hits = sourceRows.length) .baselineCount
  let counts ← sourceCounts sourceRows
  let amounts ← sourceAmounts sourceRows
  let agrees ← categoryIds.mapM fun categoryId => do
    let (esCount, esAmount) ← bucketOf floatStr buckets categoryId
    .ok (((amountOf counts categoryId : ℕ) : ℤ) = esCount ∧ amountOf amounts categoryId = esAmount : Bool)
  check (false ∉ agrees) .baselineDiffers

def checkBaseline (floatStr : String → String) (transactionRows : List JsonObject) :
    Option JsonValue → Except AggregateError Unit
  | none => .ok ()
  | some baseline => validateAnalyticsBaseline floatStr transactionRows baseline

structure Totals where
  counts : Counter String ℕ := []
  amounts : Counter String ℚ := []

def addToTotals (totals : Totals) (row : JsonObject) : Except AggregateError Totals := do
  let disposition ← strGet row "disposition" (.str "")
  let reason ← strGet row "reason_code" (.str "")
  check (disposition ∈ terminalDispositions ∧ reason ≠ "") .nonTerminalRow
  let counts := increase totals.counts disposition 1
  if isNull (getD row "amount" .null) then .ok { totals with counts }
  else do
    let amount ← amountOfRow row
    .ok ⟨counts, increase totals.amounts disposition amount⟩

def specialTargets : List (String × String) :=
  [("investment", "investment"), ("cash_withdrawal", "cash"), ("own_accounts_savings", "savings"),
    ("unknown_transfer", "unknown_transfer"), ("person_transfer", "unknown_transfer")]

structure Analytics where
  before : Counter String ℚ := []
  after : Counter String ℚ := []
  traces : Counter (String × String × String × String) ℚ := []

def beforeGroup (row : JsonObject) : String :=
  match numberOf (getD row "legacy_category_id" .null) with
  | none => "own_account"
  | some category =>
    if 1 ≤ category ∧ category < 9 then "expense" else if category = 9 then "income" else "own_account"

def afterGroup (row : JsonObject) : String :=
  match (asStr (getD row "target_key" .null)).bind fun target => lookup Prod.fst specialTargets target with
  | some special => special.2
  | none =>
    if truthy (getD row "changes_category_type" .null) then "own_account" else beforeGroup row

def addToAnalytics (analytics : Analytics) (row : JsonObject) : Except AggregateError Analytics := do
  if hasText row "source_kind" "transaction" = false ∨ isNull (getD row "amount" .null) then
    .ok analytics
  else do
    let amount ← amountOfRow row
    let moved : Analytics :=
      { analytics with
        before := increase analytics.before (beforeGroup row) amount
        after := increase analytics.after (afterGroup row) amount }
    if beforeGroup row = afterGroup row then .ok moved
    else do
      let reason ← strGet row "reason_code" (.str "")
      let disposition ← strGet row "disposition" (.str "")
      check (reason ≠ "" ∧ truthy (getD row "target_key" .null) = true) .untracedDelta
      .ok { moved with
        traces := increase moved.traces (beforeGroup row, afterGroup row, disposition, reason) amount }

def analyticsGroups : List String :=
  ["expense", "income", "investment", "cash", "savings", "own_account", "unknown_transfer"]

structure Summary where
  runId : String
  mappingVersion : String
  mappingSha256 : String
  capturedAt : String
  counts : Counter String ℕ
  amounts : List (String × String)
  analytics : List (String × String × String × String)
  analyticsTraces : List ((String × String × String × String) × String)
  snapshots : List (String × JsonValue)
  detailManifests : List FileManifest
  executionManifests : List (String × ExecutionSummary)

/-- The single value of the reports; none where they differ. -/
def common (values : List String) : Option String :=
  match values.dedup with
  | [value] => some value
  | _ => none

def capturedAt (report : JsonObject) : Except AggregateError String := do
  strGet (← objectOf (getD report "snapshot" (.obj []))) "captured_at" .null

def groupTotals (analytics : Analytics) (group : String) : String × String × String × String :=
  let before := amountOf analytics.before group
  let after := amountOf analytics.after group
  (group, formatCents before, formatCents after, formatCents (after - before))

/-- The order of the traces in the summary: tuples of strings. -/
def traceKey (trace : (String × String × String × String) × ℚ) : String ×ₗ String ×ₗ String ×ₗ String :=
  toLex (trace.1.1, toLex (trace.1.2.1, toLex (trace.1.2.2.1, trace.1.2.2.2)))

structure Inputs where
  mappingBytes : ByteArray
  mapping : JsonValue
  shards : List Shard
  detailManifests : List FileManifest

def readInputs (directory : Directory) : Except AggregateError Inputs := do
  let mappingBytes ← orRaise .missingMapping (readFile directory "taxonomy-mapping.json")
  let mapping ← given (loads mappingBytes)
  let (shards, detailManifests) ← loadShards (shardFiles directory)
  check (AllShards shards) .shardMismatch
  .ok { mappingBytes, mapping, shards, detailManifests }

structure Boundary where
  runId : String
  mappingVersion : String
  mappingSha256 : String
  capturedAt : String

/-- What the reports must agree on. -/
def boundaryOf (inputs : Inputs) : Except AggregateError Boundary := do
  let reports := inputs.shards.map Shard.report
  let schemaVersions ← reports.mapM fun report => strGet report "schema_version" .null
  let mappingVersions ← reports.mapM fun report => strGet report "mapping_version" .null
  let mappingHashes ← reports.mapM fun report => strGet report "mapping_sha256" .null
  let runIds ← reports.mapM fun report => strGet report "run_id" .null
  let captured ← reports.mapM capturedAt
  check (common schemaVersions = some Contracts.schemaVersion) .unsupportedSchema
  let mappingVersion ← orRaise .mixedMapping (common mappingVersions)
  let mappingSha256 ← orRaise .mixedMapping (common mappingHashes)
  check (mappingSha256 = hexdigest inputs.mappingBytes) .invalidMappingHash
  let runId ← orRaise .mixedRuns (common runIds)
  let capturedAt ← orRaise .mixedRuns (common captured)
  .ok { runId, mappingVersion, mappingSha256, capturedAt }

def totalsOf (floatStr : String → String) (inputs : Inputs) (baseline : Option JsonValue) :
    Except AggregateError (Totals × Analytics) := do
  let transactionShard ← given (lookup Shard.service inputs.shards "transaction-service")
  let transactionRows ← rowsOf transactionShard.report
  checkBaseline floatStr transactionRows baseline
  let rows ← (inputs.shards.map Shard.report).mapM rowsOf
  let totals ← rows.flatten.foldlM addToTotals {}
  let analytics ← transactionRows.foldlM addToAnalytics {}
  check ((analytics.before.map Prod.snd).sum = (analytics.after.map Prod.snd).sum) .totalsDiffer
  .ok (totals, analytics)

def snapshotsOf (inputs : Inputs) : Except AggregateError (List (String × JsonValue)) :=
  (sortedBy Shard.service inputs.shards).mapM fun shard => do
    let snapshot ← item shard.report "snapshot"
    .ok (shard.service, snapshot)

def aggregate (floatStr : String → String) (directory : Directory) (baseline : Option JsonValue) :
    Except AggregateError Summary := do
  let inputs ← readInputs directory
  let boundary ← boundaryOf inputs
  let (totals, analytics) ← totalsOf floatStr inputs baseline
  let snapshots ← snapshotsOf inputs
  let mapping ← objectOf inputs.mapping
  let executions ← executionManifests inputs.shards mapping
  .ok
    { runId := boundary.runId
      mappingVersion := boundary.mappingVersion
      mappingSha256 := boundary.mappingSha256
      capturedAt := boundary.capturedAt
      counts := sortedBy Prod.fst totals.counts
      amounts := (sortedBy Prod.fst totals.amounts).map fun entry => (entry.1, formatCents entry.2)
      analytics := analyticsGroups.map (groupTotals analytics)
      analyticsTraces := (sortedBy traceKey analytics.traces).map fun entry =>
        (entry.1, formatCents entry.2)
      snapshots
      detailManifests := inputs.detailManifests
      executionManifests := executions.map fun entry => (entry.1, entry.2.2) }

/-- `reports[service] = report`. -/
def setShard (shards : List Shard) (shard : Shard) : List Shard :=
  if shard.service ∈ shards.map Shard.service then
    replace Shard.service shards shard.service fun _ => shard
  else shards ++ [shard]

def readShard (mappingDigest : String) (shards : List Shard) (file : String × ByteArray) :
    Except AggregateError (List Shard) := do
  let (report, digest) ← load file
  let service ← strGet report "source_service" (.str "")
  check (hasText report "mapping_sha256" mappingDigest = true) .invalidMappingHash
  .ok (setShard shards ⟨service, report, digest⟩)

def writeExecutionManifests (directory : Directory) :
    Except AggregateError (List (String × ByteArray)) := do
  let mappingBytes ← orRaise .missingMapping (readFile directory "taxonomy-mapping.json")
  let mapping ← given (loads mappingBytes)
  let shards ← (shardFiles directory).foldlM (readShard (hexdigest mappingBytes)) []
  check (AllShards shards) .shardMismatch
  let registry ← objectOf mapping
  let executions ← executionManifests shards registry
  .ok (executions.map fun entry => (entry.1, entry.2.1))

end FinanceTracker.Reclassification.Aggregate
