import FinanceTracker.Library.Binary64
import FinanceTracker.Library.ColumnTypes
import FinanceTracker.Library.Counters
import FinanceTracker.Library.JsonRoundTrip
import FinanceTracker.Library.Sha256
import Mathlib.Data.Prod.Lex

/-!
# The reclassification contracts

`contracts/reclassification.py`: the mapping registry, the report that each service
writes and the execution manifest, with their canonical JSON. A file is its bytes.
The texts that Python gives a float, a list or a dict are not modelled, and no field
is read from one.
-/

namespace FinanceTracker.Reclassification.Contracts

open Library
open Library.Binary64 (roundHalfEven)
open Library ColumnTypes Counters
open Library.DecimalText (Decimal Decimal.ofText Decimal.finiteValue)
open Library IntText Json JsonText KeyedRows Sha256 SortedBy
open Library.Texts (intOfText)

def schemaVersion : String := "tax07-report-v1"

def executionSchemaVersion : String := "tax10-execution-v1"

inductive Disposition where
  | safeOneToOne
  | evidenceProposal
  | manualReview
  | protectedRow
  | unresolved
  deriving DecidableEq

def Disposition.value : Disposition → String
  | .safeOneToOne => "safe_one_to_one"
  | .evidenceProposal => "evidence_proposal"
  | .manualReview => "manual_review"
  | .protectedRow => "protected"
  | .unresolved => "unresolved"

def dispositions : List Disposition :=
  [.safeOneToOne, .evidenceProposal, .manualReview, .protectedRow, .unresolved]

/-- `Disposition(value)`; none where it raises. -/
def Disposition.ofValue (value : String) : Option Disposition :=
  dispositions.find? fun disposition => disposition.value = value

theorem disposition_of_value (disposition : Disposition) :
    Disposition.ofValue disposition.value = some disposition := by
  cases disposition <;> decide

theorem disposition_value_injective {first second : Disposition}
    (same : first.value = second.value) : first = second := by
  have read := disposition_of_value first
  rw [same, disposition_of_value] at read
  exact (Option.some.inj read).symm

structure MappingTarget where
  key : String
  publicId : String
  deriving DecidableEq

structure MappingEntry where
  legacyId : ℤ
  disposition : Disposition
  reasonCode : String
  targets : List MappingTarget
  deriving DecidableEq

structure MappingRegistry where
  mappingVersion : String
  taxonomyVersion : String
  categories : List MappingEntry
  subcategories : List MappingEntry
  deriving DecidableEq

def MappingRegistry.category (registry : MappingRegistry) (legacyId : ℤ) : Option MappingEntry :=
  lookup MappingEntry.legacyId registry.categories legacyId

def MappingRegistry.subcategory (registry : MappingRegistry) (legacyId : ℤ) : Option MappingEntry :=
  lookup MappingEntry.legacyId registry.subcategories legacyId

structure SnapshotBoundary where
  capturedAt : String
  tableCounts : List (String × ℕ)
  referenceHistograms : List (String × Counter String ℕ)
  outboxMaxId : Option String
  inboxMaxId : Option ℤ

structure ReportRow where
  sourceKind : String
  sourceId : String
  legacyCategoryId : Option ℤ
  legacySubcategoryId : Option ℤ
  disposition : Disposition
  reasonCode : String
  targetKey : Option String := none
  targetPublicId : Option String := none
  amount : Option String := none
  changesCategoryType : Bool := false
  evidence : List String := []

structure DetailManifest where
  filename : String
  sha256 : String
  rowCount : ℤ

structure ServiceReport where
  runId : String
  sourceService : String
  mappingVersion : String
  mappingSha256 : String
  snapshot : SnapshotBoundary
  rows : List ReportRow
  schemaVersion : String := Contracts.schemaVersion
  detail : Option DetailManifest := none
  counts : List (String × ℕ) := []
  amounts : List (String × String) := []

/-- The key of the tables of rows: tuples of strings are compared by their first difference. -/
def ReportRow.identity (row : ReportRow) : String ×ₗ String := toLex (row.sourceKind, row.sourceId)

/-- The value of `Decimal(text)`; none where it raises or is not a finite number. -/
def decimalValue (text : String) : Option ℚ := (Decimal.ofText text).bind Decimal.finiteValue

/-- `format(value, ".2f")`. -/
def formatCents (value : ℚ) : String := centsText (roundHalfEven (value * 100))

def dispositionCounts (rows : List ReportRow) : Counter Disposition ℕ :=
  rows.foldl (fun counts row => increase counts row.disposition 1)
    (dispositions.map fun disposition => (disposition, 0))

/-- The totals of the amounts; sums stay within the 28 digits of the context. -/
def dispositionAmounts (rows : List ReportRow) : Option (Counter Disposition ℚ) :=
  rows.foldlM (fun totals row =>
      match row.amount with
      | none => some totals
      | some amount => (decimalValue amount).map fun value => increase totals row.disposition value)
    (dispositions.map fun disposition => (disposition, 0))

/-- `report.normalized()`; none where an amount is no decimal. -/
def ServiceReport.normalized (report : ServiceReport) : Option ServiceReport :=
  let rows := sortedBy ReportRow.identity report.rows
  (dispositionAmounts rows).map fun totals =>
    { report with
      rows
      counts := (dispositionCounts rows).map fun entry => (entry.1.value, entry.2)
      amounts := totals.map fun entry => (entry.1.value, formatCents entry.2) }

structure ExecutionRow where
  sourceKind : String
  sourceId : String
  legacyCategoryId : Option ℤ
  legacySubcategoryId : Option ℤ
  disposition : Disposition
  reasonCode : String
  targetKey : String
  targetPublicId : String
  deriving DecidableEq

structure ExecutionManifest where
  runId : String
  sourceService : String
  mappingVersion : String
  mappingSha256 : String
  sourceReportSha256 : String
  rows : List ExecutionRow
  schemaVersion : String := executionSchemaVersion
  deriving DecidableEq

def ExecutionRow.identity (row : ExecutionRow) : String ×ₗ String :=
  toLex (row.sourceKind, row.sourceId)

def ExecutionManifest.normalized (manifest : ExecutionManifest) : ExecutionManifest :=
  { manifest with rows := sortedBy ExecutionRow.identity manifest.rows }

def optional {Value : Type} (json : Value → JsonValue) : Option Value → JsonValue
  | none => .null
  | some value => json value

/-- The bytes of a value; none where `json.dumps` raises. -/
def canonicalJson (value : JsonValue) : Option ByteArray :=
  (dumps value).map fun text => (String.ofList (text ++ ['\n'])).toUTF8

/-- `json.loads(path.read_text())`. -/
def readJson (file : ByteArray) : Option JsonValue := loads file

def countsDict (counts : List (String × ℕ)) : JsonObject :=
  counts.map fun entry => (entry.1, .int entry.2)

/-- `asdict(snapshot)`, as the other `asDict` below. -/
def SnapshotBoundary.asDict (snapshot : SnapshotBoundary) : JsonObject :=
  [("captured_at", .str snapshot.capturedAt),
    ("table_counts", .obj (countsDict snapshot.tableCounts)),
    ("reference_histograms",
      .obj (snapshot.referenceHistograms.map fun entry => (entry.1, .obj (countsDict entry.2)))),
    ("outbox_max_id", optional .str snapshot.outboxMaxId),
    ("inbox_max_id", optional .int snapshot.inboxMaxId)]

def ReportRow.asDict (row : ReportRow) : JsonObject :=
  [("source_kind", .str row.sourceKind), ("source_id", .str row.sourceId),
    ("legacy_category_id", optional .int row.legacyCategoryId),
    ("legacy_subcategory_id", optional .int row.legacySubcategoryId),
    ("disposition", .str row.disposition.value), ("reason_code", .str row.reasonCode),
    ("target_key", optional .str row.targetKey),
    ("target_public_id", optional .str row.targetPublicId), ("amount", optional .str row.amount),
    ("changes_category_type", .bool row.changesCategoryType),
    ("evidence", .arr (row.evidence.map .str))]

def DetailManifest.asDict (detail : DetailManifest) : JsonObject :=
  [("filename", .str detail.filename), ("sha256", .str detail.sha256),
    ("row_count", .int detail.rowCount)]

def ServiceReport.asDict (report : ServiceReport) : JsonObject :=
  [("run_id", .str report.runId), ("source_service", .str report.sourceService),
    ("mapping_version", .str report.mappingVersion), ("mapping_sha256", .str report.mappingSha256),
    ("snapshot", .obj report.snapshot.asDict),
    ("rows", .arr (report.rows.map fun row => .obj row.asDict)),
    ("schema_version", .str report.schemaVersion),
    ("detail", optional (fun detail => .obj detail.asDict) report.detail),
    ("counts", .obj (countsDict report.counts)),
    ("amounts", .obj (report.amounts.map fun entry => (entry.1, .str entry.2)))]

/-- `report_bytes(report)`; none where it raises. -/
def reportBytes (report : ServiceReport) : Option ByteArray :=
  report.normalized.bind fun normalized => canonicalJson (.obj normalized.asDict)

def ExecutionRow.asDict (row : ExecutionRow) : JsonObject :=
  [("source_kind", .str row.sourceKind), ("source_id", .str row.sourceId),
    ("legacy_category_id", optional .int row.legacyCategoryId),
    ("legacy_subcategory_id", optional .int row.legacySubcategoryId),
    ("disposition", .str row.disposition.value), ("reason_code", .str row.reasonCode),
    ("target_key", .str row.targetKey), ("target_public_id", .str row.targetPublicId)]

def ExecutionManifest.asDict (manifest : ExecutionManifest) : JsonObject :=
  [("run_id", .str manifest.runId), ("source_service", .str manifest.sourceService),
    ("mapping_version", .str manifest.mappingVersion),
    ("mapping_sha256", .str manifest.mappingSha256),
    ("source_report_sha256", .str manifest.sourceReportSha256),
    ("rows", .arr (manifest.rows.map fun row => .obj row.asDict)),
    ("schema_version", .str manifest.schemaVersion)]

def executionManifestBytes (manifest : ExecutionManifest) : Option ByteArray :=
  canonicalJson (.obj manifest.normalized.asDict)

def MappingTarget.asDict (target : MappingTarget) : JsonObject :=
  [("key", .str target.key), ("public_id", .str target.publicId)]

def MappingEntry.asDict (entry : MappingEntry) : JsonObject :=
  [("legacy_id", .int entry.legacyId), ("disposition", .str entry.disposition.value),
    ("reason_code", .str entry.reasonCode),
    ("targets", .arr (entry.targets.map fun target => .obj target.asDict))]

def MappingRegistry.asPayload (registry : MappingRegistry) : JsonObject :=
  [("mapping_version", .str registry.mappingVersion),
    ("taxonomy_version", .str registry.taxonomyVersion),
    ("categories", .arr (registry.categories.map fun entry => .obj entry.asDict)),
    ("subcategories", .arr (registry.subcategories.map fun entry => .obj entry.asDict))]

/-- `registry.sha256`; none where it raises. -/
def MappingRegistry.sha256 (registry : MappingRegistry) : Option String :=
  (canonicalJson (.obj registry.asPayload)).map hexdigest

/-- `str(value)`; none for a float, a list and a dict. -/
def strOf : JsonValue → Option String
  | .null => some "None"
  | .bool true => some "True"
  | .bool false => some "False"
  | .int value => some (intText value)
  | .str text => some text
  | _ => none

/-- `int(value)`; none where it raises and for a float. -/
def intOf : JsonValue → Option ℤ
  | .bool true => some 1
  | .bool false => some 0
  | .int value => some value
  | .str text => intOfText text
  | _ => none

def strField (entries : JsonObject) (key : String) : Option String :=
  (Json.get entries key).bind strOf

/-- `int(entries[key]) if entries.get(key) is not None else None`; the outer none is a raise. -/
def optionalIntField (entries : JsonObject) (key : String) : Option (Option ℤ) :=
  match Json.get entries key with
  | none => some none
  | some .null => some none
  | some value => (intOf value).map some

/-- The items that a `for` takes from a value. -/
def iterate : JsonValue → Option (List JsonValue)
  | .arr items => some items
  | .obj entries => some (entries.map fun entry => .str entry.1)
  | .str text => some (text.toList.map fun char => .str (String.singleton char))
  | _ => none

def asStr : JsonValue → Option String
  | .str text => some text
  | _ => none

/-- Whether `entries.get(key)` is the text. -/
def hasText (entries : JsonObject) (key text : String) : Bool :=
  (Json.get entries key).bind asStr = some text

def readExecutionRow (value : JsonValue) : Option ExecutionRow := do
  let entries ← asObject (some value)
  let sourceKind ← strField entries "source_kind"
  let sourceId ← strField entries "source_id"
  let legacyCategoryId ← optionalIntField entries "legacy_category_id"
  let legacySubcategoryId ← optionalIntField entries "legacy_subcategory_id"
  let disposition ← (Json.get entries "disposition").bind fun given =>
    (asStr given).bind Disposition.ofValue
  let reasonCode ← strField entries "reason_code"
  let targetKey ← strField entries "target_key"
  let targetPublicId ← strField entries "target_public_id"
  some
    { sourceKind, sourceId, legacyCategoryId, legacySubcategoryId, disposition, reasonCode,
      targetKey, targetPublicId }

def readExecutionManifest (entries : JsonObject) : Option ExecutionManifest := do
  let rows ← ((Json.get entries "rows").bind iterate).bind fun items => items.mapM readExecutionRow
  let runId ← strField entries "run_id"
  let sourceService ← strField entries "source_service"
  let mappingVersion ← strField entries "mapping_version"
  let mappingSha256 ← strField entries "mapping_sha256"
  let sourceReportSha256 ← strField entries "source_report_sha256"
  let schemaVersion ← strField entries "schema_version"
  some
    { runId, sourceService, mappingVersion, mappingSha256, sourceReportSha256, rows, schemaVersion }

inductive ManifestError where
  | unreadable
  | unsupportedSchema
  | anotherService
  | malformed
  | duplicateIdentity
  | notExecutable
  deriving DecidableEq

def ExecutionRow.Executable (row : ExecutionRow) : Prop :=
  (row.disposition = .safeOneToOne ∨ row.disposition = .evidenceProposal) ∧ row.reasonCode ≠ "" ∧
    row.targetKey ≠ "" ∧ row.targetPublicId ≠ ""

instance (row : ExecutionRow) : Decidable row.Executable := inferInstanceAs (Decidable (_ ∧ _))

def loadExecutionManifest (file : ByteArray) (expectedService : String) :
    Except ManifestError ExecutionManifest :=
  match asObject (readJson file) with
  | none => .error .unreadable
  | some entries =>
    if hasText entries "schema_version" executionSchemaVersion = false then .error .unsupportedSchema
    else if hasText entries "source_service" expectedService = false then .error .anotherService
    else
      match (readExecutionManifest entries).map ExecutionManifest.normalized with
      | none => .error .malformed
      | some manifest =>
        if ¬(manifest.rows.map ExecutionRow.identity).Nodup then .error .duplicateIdentity
        else if ¬∀ row ∈ manifest.rows, row.Executable then .error .notExecutable
        else .ok manifest

def readTarget (value : JsonValue) : Option MappingTarget := do
  let entries ← asObject (some value)
  let key ← strField entries "key"
  let publicId ← strField entries "public_id"
  some { key, publicId }

def readEntry (value : JsonValue) : Option MappingEntry := do
  let entries ← asObject (some value)
  let legacyId ← (Json.get entries "legacy_id").bind intOf
  let disposition ← (Json.get entries "disposition").bind fun given =>
    (asStr given).bind Disposition.ofValue
  let reasonCode ← strField entries "reason_code"
  let targets ← ((Json.get entries "targets").bind iterate).bind fun items => items.mapM readTarget
  some { legacyId, disposition, reasonCode, targets }

def readRegistry (entries : JsonObject) : Option MappingRegistry := do
  let mappingVersion ← strField entries "mapping_version"
  let taxonomyVersion ← strField entries "taxonomy_version"
  let categories ← ((Json.get entries "categories").bind iterate).bind fun items => items.mapM readEntry
  let subcategories ←
    ((Json.get entries "subcategories").bind iterate).bind fun items => items.mapM readEntry
  some { mappingVersion, taxonomyVersion, categories, subcategories }

/-- The legacy ids are those from one to the count. -/
def Covers (entries : List MappingEntry) (count : ℕ) : Prop :=
  (∀ entry ∈ entries, 1 ≤ entry.legacyId ∧ entry.legacyId ≤ count) ∧
    ∀ index < count, (index : ℤ) + 1 ∈ entries.map MappingEntry.legacyId

instance (entries : List MappingEntry) (count : ℕ) : Decidable (Covers entries count) :=
  inferInstanceAs (Decidable (_ ∧ _))

/-- `load_mapping(path)`; none where it raises. -/
def loadMapping (file : ByteArray) : Option MappingRegistry := do
  let entries ← asObject (readJson file)
  let registry ← readRegistry entries
  if Covers registry.categories 10 ∧ Covers registry.subcategories 41 then some registry else none

end FinanceTracker.Reclassification.Contracts
