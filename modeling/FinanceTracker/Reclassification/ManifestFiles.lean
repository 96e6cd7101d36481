import FinanceTracker.Reclassification.Manifests

/-!
# Execution manifests as files

`load_execution_manifest` on any file. `str` and `int` also meet floats, lists and
dicts there, and what they give for one is left open. A written manifest is read back,
its bytes do not depend on the order of its rows, and a file with a repeated identity
or with a row that is not executable is refused, but for the values without content
that `str` turns into a text.
-/

namespace FinanceTracker.Reclassification.ManifestFiles

open Library Library IntText Json JsonText JsonRoundTrip SortedBy List Contracts Manifests

/-- `str` and `int` on the values of JSON, with what is known of them. -/
structure Coercions where
  str : JsonValue → String
  int : JsonValue → Option ℤ
  str_known : ∀ {value text}, strOf value = some text → str value = text
  /-- No float, list or dict has the empty text. -/
  str_filled : ∀ {value}, strOf value = none → str value ≠ ""
  int_known : ∀ {value number}, intOf value = some number → int value = some number

section Reader

variable (python : Coercions)

/-- `str(entries[key])`; none where the key is missing. -/
def strField (entries : JsonObject) (key : String) : Option String :=
  (Json.get entries key).map python.str

def optionalIntField (entries : JsonObject) (key : String) : Option (Option ℤ) :=
  match Json.get entries key with
  | none => some none
  | some .null => some none
  | some value => (python.int value).map some

def dispositionField (entries : JsonObject) : Option Disposition :=
  (Json.get entries "disposition").bind fun given => (asStr given).bind Disposition.ofValue

def readRow (value : JsonValue) : Option ExecutionRow := do
  let entries ← asObject (some value)
  let sourceKind ← strField python entries "source_kind"
  let sourceId ← strField python entries "source_id"
  let legacyCategoryId ← optionalIntField python entries "legacy_category_id"
  let legacySubcategoryId ← optionalIntField python entries "legacy_subcategory_id"
  let disposition ← dispositionField entries
  let reasonCode ← strField python entries "reason_code"
  let targetKey ← strField python entries "target_key"
  let targetPublicId ← strField python entries "target_public_id"
  some
    { sourceKind, sourceId, legacyCategoryId, legacySubcategoryId, disposition, reasonCode,
      targetKey, targetPublicId }

def rowValues (entries : JsonObject) : Option (List JsonValue) :=
  (Json.get entries "rows").bind iterate

def readManifest (entries : JsonObject) : Option ExecutionManifest := do
  let values ← rowValues entries
  let rows ← values.mapM (readRow python)
  let runId ← strField python entries "run_id"
  let sourceService ← strField python entries "source_service"
  let mappingVersion ← strField python entries "mapping_version"
  let mappingSha256 ← strField python entries "mapping_sha256"
  let sourceReportSha256 ← strField python entries "source_report_sha256"
  let schemaVersion ← strField python entries "schema_version"
  some
    { runId, sourceService, mappingVersion, mappingSha256, sourceReportSha256, rows, schemaVersion }

def loadManifest (file : ByteArray) (expectedService : String) :
    Except ManifestError ExecutionManifest :=
  match asObject (readJson file) with
  | none => .error .unreadable
  | some entries =>
    if hasText entries "schema_version" executionSchemaVersion = false then .error .unsupportedSchema
    else if hasText entries "source_service" expectedService = false then .error .anotherService
    else
      match (readManifest python entries).map ExecutionManifest.normalized with
      | none => .error .malformed
      | some manifest =>
        if ¬(manifest.rows.map ExecutionRow.identity).Nodup then .error .duplicateIdentity
        else if ¬∀ row ∈ manifest.rows, row.Executable then .error .notExecutable
        else .ok manifest

end Reader

section Fields

variable {python : Coercions} {entries : JsonObject} {key : String}

theorem str_field_known {text : String} (read : Contracts.strField entries key = some text) :
    strField python entries key = some text := by
  obtain ⟨_, found, known⟩ := Option.bind_eq_some_iff.mp read
  rw [strField, found, Option.map_some, python.str_known known]

theorem int_field_known {id : Option ℤ} (read : Contracts.optionalIntField entries key = some id) :
    optionalIntField python entries key = some id := by
  unfold Contracts.optionalIntField at read
  unfold optionalIntField
  cases found : Json.get entries key with
  | none => simpa [found] using read
  | some value =>
    cases value with
    | null => simpa [found] using read
    | bool _ | int _ | float _ | str _ | arr _ | obj _ =>
      simp only [found] at read
      obtain ⟨number, known, same⟩ := Option.map_eq_some_iff.mp read
      exact Option.map_eq_some_iff.mpr ⟨number, python.int_known known, same⟩

theorem int_text_filled (value : ℤ) : intText value ≠ "" := by
  have digits := Nat.toDigits_ne_nil (b := 10) (n := value.natAbs)
  unfold intText signedDigits
  split <;> simp [digits]

theorem str_empty_iff {value : JsonValue} : python.str value = "" ↔ value = .str "" := by
  constructor
  · intro empty
    cases known : strOf value with
    | none => exact absurd empty (python.str_filled known)
    | some =>
      rw [python.str_known known] at empty
      subst empty
      cases value with
      | null => exact absurd known (by decide)
      | bool given => cases given <;> exact absurd known (by decide)
      | int given => exact absurd (Option.some.inj known) (int_text_filled given)
      | float => exact absurd known (by simp [strOf])
      | str => rw [Option.some.inj known]
      | arr => exact absurd known (by simp [strOf])
      | obj => exact absurd known (by simp [strOf])
  · rintro rfl
    exact python.str_known rfl

end Fields

section Rows

variable {python : Coercions} {value : JsonValue} {row : ExecutionRow}

theorem read_row_iff : readRow python value = some row ↔ ∃ entries, value = .obj entries ∧
    strField python entries "source_kind" = some row.sourceKind ∧
    strField python entries "source_id" = some row.sourceId ∧
    optionalIntField python entries "legacy_category_id" = some row.legacyCategoryId ∧
    optionalIntField python entries "legacy_subcategory_id" = some row.legacySubcategoryId ∧
    dispositionField entries = some row.disposition ∧
    strField python entries "reason_code" = some row.reasonCode ∧
    strField python entries "target_key" = some row.targetKey ∧
    strField python entries "target_public_id" = some row.targetPublicId := by
  unfold readRow
  simp only [Option.bind_eq_bind, Option.bind_eq_some_iff, as_object_iff, Option.some.injEq]
  constructor
  · rintro ⟨entries, isObject, kind, kindRead, id, idRead, category, categoryRead, subcategory,
      subcategoryRead, disposition, dispositionRead, reason, reasonRead, target, targetRead, publicId,
      publicIdRead, rfl⟩
    exact ⟨entries, isObject, kindRead, idRead, categoryRead, subcategoryRead, dispositionRead,
      reasonRead, targetRead, publicIdRead⟩
  · rintro ⟨entries, isObject, kind, id, category, subcategory, disposition, reason, target, publicId⟩
    exact ⟨entries, isObject, _, kind, _, id, _, category, _, subcategory, _, disposition, _, reason,
      _, target, _, publicId, rfl⟩

theorem read_row_known (read : readExecutionRow value = some row) : readRow python value = some row := by
  unfold readExecutionRow at read
  simp only [Option.bind_eq_bind, Option.bind_eq_some_iff, as_object_iff, Option.some.injEq] at read
  obtain ⟨entries, isObject, kind, kindRead, id, idRead, category, categoryRead, subcategory,
    subcategoryRead, disposition, dispositionRead, reason, reasonRead, target, targetRead, publicId,
    publicIdRead, rfl⟩ := read
  have dispositionKnown : dispositionField entries = some disposition := by
    unfold dispositionField
    simp only [Option.bind_eq_some_iff]
    exact dispositionRead
  exact read_row_iff.mpr ⟨entries, isObject, str_field_known kindRead, str_field_known idRead,
    int_field_known categoryRead, int_field_known subcategoryRead, dispositionKnown,
    str_field_known reasonRead, str_field_known targetRead, str_field_known publicIdRead⟩

end Rows

theorem map_read_iff {Value Item : Type} {read : Value → Option Item} {values : List Value}
    {items : List Item} :
    values.mapM read = some items ↔ List.Forall₂ (fun value item => read value = some item) values items := by
  induction values generalizing items with
  | nil => simp [eq_comm]
  | cons value values ih =>
    rw [mapM_cons]
    simp only [Option.bind_eq_bind, Option.bind_eq_some_iff, Option.pure_def, Option.some.injEq]
    constructor
    · rintro ⟨item, here, rest, there, rfl⟩
      exact .cons here (ih.mp there)
    · intro both
      cases both with
      | cons here there => exact ⟨_, here, _, ih.mpr there, rfl⟩

section Manifests

variable {python : Coercions} {entries : JsonObject} {manifest : ExecutionManifest}

theorem read_manifest_iff : readManifest python entries = some manifest ↔
    ∃ values, rowValues entries = some values ∧ values.mapM (readRow python) = some manifest.rows ∧
      strField python entries "run_id" = some manifest.runId ∧
      strField python entries "source_service" = some manifest.sourceService ∧
      strField python entries "mapping_version" = some manifest.mappingVersion ∧
      strField python entries "mapping_sha256" = some manifest.mappingSha256 ∧
      strField python entries "source_report_sha256" = some manifest.sourceReportSha256 ∧
      strField python entries "schema_version" = some manifest.schemaVersion := by
  unfold readManifest
  simp only [Option.bind_eq_bind, Option.bind_eq_some_iff, Option.some.injEq]
  constructor
  · rintro ⟨values, given, rows, rowsRead, runId, runIdRead, service, serviceRead, version, versionRead,
      sha, shaRead, report, reportRead, schema, schemaRead, rfl⟩
    exact ⟨values, given, rowsRead, runIdRead, serviceRead, versionRead, shaRead, reportRead, schemaRead⟩
  · rintro ⟨values, given, rowsRead, runId, service, version, sha, report, schema⟩
    exact ⟨values, given, _, rowsRead, _, runId, _, service, _, version, _, sha, _, report, _, schema,
      rfl⟩

theorem read_manifest_known (read : readExecutionManifest entries = some manifest) :
    readManifest python entries = some manifest := by
  unfold readExecutionManifest at read
  simp only [Option.bind_eq_bind, Option.bind_eq_some_iff, Option.some.injEq] at read
  obtain ⟨rows, ⟨values, given, rowsRead⟩, runId, runIdRead, service, serviceRead, version, versionRead,
    sha, shaRead, report, reportRead, schema, schemaRead, rfl⟩ := read
  have known : values.mapM (readRow python) = some rows :=
    map_read_iff.mpr ((map_read_iff.mp rowsRead).imp fun _ _ => read_row_known)
  exact read_manifest_iff.mpr ⟨values, Option.bind_eq_some_iff.mpr given, known,
    str_field_known runIdRead, str_field_known serviceRead, str_field_known versionRead,
    str_field_known shaRead, str_field_known reportRead, str_field_known schemaRead⟩

/-- A file that loads whatever `str` and `int` give for the values left open. -/
theorem load_known {file : ByteArray} {service : String}
    (loaded : loadExecutionManifest file service = .ok manifest) :
    loadManifest python file service = .ok manifest := by
  unfold loadExecutionManifest at loaded
  unfold loadManifest
  cases isObject : asObject (readJson file) with
  | none => simp [isObject] at loaded
  | some entries =>
    simp only [isObject] at loaded
    dsimp only
    by_cases schema : hasText entries "schema_version" executionSchemaVersion = false
    · simp [schema] at loaded
    · by_cases belongs : hasText entries "source_service" service = false
      · simp [schema, belongs] at loaded
      · rw [if_neg schema, if_neg belongs] at loaded ⊢
        cases read : readExecutionManifest entries with
        | none => simp [read] at loaded
        | some given =>
          rw [read_manifest_known read]
          rw [read] at loaded
          exact loaded

end Manifests

def rowsOfFile (file : ByteArray) : Option (List JsonValue) :=
  (asObject (readJson file)).bind rowValues

def rowIdentity (python : Coercions) (value : JsonValue) : Option (String ×ₗ String) := do
  let entries ← asObject (some value)
  let sourceKind ← strField python entries "source_kind"
  let sourceId ← strField python entries "source_id"
  some (toLex (sourceKind, sourceId))

def Repeated (python : Coercions) (values : List JsonValue) : Prop :=
  ¬(values.filterMap (rowIdentity python)).Nodup

/-- The field is there and not empty: no null, false or zero and no empty text, list or dict. -/
def filled (entries : JsonObject) (key : String) : Bool := (Json.get entries key).any truthy

/-- The disposition of the row is one that is executed. -/
def Allowed (entries : JsonObject) : Prop :=
  dispositionField entries = some .safeOneToOne ∨ dispositionField entries = some .evidenceProposal

/-- The fields that an executable row must have filled. -/
def filledKeys : List String := ["reason_code", "target_key", "target_public_id"]

def ExecutableValue (value : JsonValue) : Prop :=
  ∃ entries, value = .obj entries ∧ Allowed entries ∧ ∀ key ∈ filledKeys, filled entries key = true

/-- Some field to be filled is empty and yet no empty text, so that its text is not empty. -/
def Disguised (value : JsonValue) : Prop :=
  ∃ entries, value = .obj entries ∧ ∃ key ∈ filledKeys, ∃ field,
    Json.get entries key = some field ∧ truthy field = false ∧ field ≠ .str ""

/-- A row with every field there, its ids numbers, its disposition allowed and no empty text. -/
def RowLoads (python : Coercions) (value : JsonValue) : Prop :=
  ∃ entries, value = .obj entries ∧
    (∀ key ∈ ["source_kind", "source_id"], (Json.get entries key).isSome = true) ∧
    (∀ key ∈ ["legacy_category_id", "legacy_subcategory_id"],
      (optionalIntField python entries key).isSome = true) ∧
    Allowed entries ∧
    ∀ key ∈ filledKeys, ∃ field, Json.get entries key = some field ∧ field ≠ .str ""

def headerKeys : List String :=
  ["run_id", "source_service", "mapping_version", "mapping_sha256", "source_report_sha256",
    "schema_version"]

/-- The file is one of the service's in every respect that the reader checks. -/
def Loads (python : Coercions) (file : ByteArray) (service : String) : Prop :=
  ∃ entries values, asObject (readJson file) = some entries ∧ rowValues entries = some values ∧
    hasText entries "schema_version" executionSchemaVersion = true ∧
    hasText entries "source_service" service = true ∧
    (∀ key ∈ headerKeys, (Json.get entries key).isSome = true) ∧
    (values.filterMap (rowIdentity python)).Nodup ∧ ∀ value ∈ values, RowLoads python value

section RowSpecs

variable {python : Coercions}

theorem str_field_isSome (python : Coercions) {entries : JsonObject} {key : String} :
    (strField python entries key).isSome = (Json.get entries key).isSome := by
  unfold strField
  rw [Option.isSome_map]

theorem str_field_filled (python : Coercions) {entries : JsonObject} {key : String} :
    (∃ text, strField python entries key = some text ∧ text ≠ "") ↔
      ∃ field, Json.get entries key = some field ∧ field ≠ .str "" := by
  unfold strField
  constructor
  · rintro ⟨text, read, filled⟩
    obtain ⟨field, found, rfl⟩ := Option.map_eq_some_iff.mp read
    exact ⟨field, found, fun empty => filled (str_empty_iff.mpr empty)⟩
  · rintro ⟨field, found, filled⟩
    exact ⟨python.str field, by rw [found, Option.map_some], fun empty => filled (str_empty_iff.mp empty)⟩

theorem row_loads_iff {value : JsonValue} :
    RowLoads python value ↔ ∃ row, readRow python value = some row ∧ row.Executable := by
  simp only [RowLoads, filledKeys, forall_mem_cons, not_mem_nil, false_imp_iff, implies_true,
    and_true, ← str_field_isSome python, ← str_field_filled python, read_row_iff,
    Option.isSome_iff_exists]
  constructor
  · rintro ⟨entries, isObject, ⟨⟨kind, kindRead⟩, ⟨id, idRead⟩⟩,
      ⟨⟨category, categoryRead⟩, ⟨subcategory, subcategoryRead⟩⟩, allowed, ⟨reason, reasonRead, hasReason⟩,
      ⟨target, targetRead, hasTarget⟩, ⟨publicId, publicIdRead, hasPublicId⟩⟩
    have executed : ∃ disposition, dispositionField entries = some disposition ∧
        (disposition = .safeOneToOne ∨ disposition = .evidenceProposal) := by
      rcases allowed with safe | proposed
      · exact ⟨_, safe, .inl rfl⟩
      · exact ⟨_, proposed, .inr rfl⟩
    obtain ⟨disposition, dispositionRead, isExecuted⟩ := executed
    exact ⟨⟨kind, id, category, subcategory, disposition, reason, target, publicId⟩,
      ⟨entries, isObject, kindRead, idRead, categoryRead, subcategoryRead, dispositionRead, reasonRead,
        targetRead, publicIdRead⟩, isExecuted, hasReason, hasTarget, hasPublicId⟩
  · rintro ⟨row, ⟨entries, isObject, kind, id, category, subcategory, disposition, reason, target,
      publicId⟩, executed, hasReason, hasTarget, hasPublicId⟩
    have allowed : Allowed entries := by
      unfold Allowed
      rw [disposition]
      exact executed.imp (congrArg some) (congrArg some)
    exact ⟨entries, isObject, ⟨⟨_, kind⟩, ⟨_, id⟩⟩, ⟨⟨_, category⟩, ⟨_, subcategory⟩⟩, allowed,
      ⟨_, reason, hasReason⟩, ⟨_, target, hasTarget⟩, ⟨_, publicId, hasPublicId⟩⟩

theorem row_identity_read {value : JsonValue} {row : ExecutionRow}
    (read : readRow python value = some row) : rowIdentity python value = some row.identity := by
  obtain ⟨_, rfl, kind, id, _⟩ := read_row_iff.mp read
  simp [rowIdentity, asObject, kind, id, ExecutionRow.identity]

theorem row_identities_read {values : List JsonValue} {rows : List ExecutionRow}
    (read : List.Forall₂ (fun value row => readRow python value = some row) values rows) :
    values.filterMap (rowIdentity python) = rows.map ExecutionRow.identity := by
  induction read with
  | nil => rfl
  | cons here _ ih => rw [filterMap_cons_some (row_identity_read here), ih, map_cons]

theorem rows_load_iff {values : List JsonValue} : (∀ value ∈ values, RowLoads python value) ↔
    ∃ rows, values.mapM (readRow python) = some rows ∧ ∀ row ∈ rows, row.Executable := by
  simp only [row_loads_iff, map_read_iff]
  induction values with
  | nil => simp
  | cons value values ih =>
    rw [forall_mem_cons, ih]
    constructor
    · rintro ⟨⟨row, read, executable⟩, rows, restRead, restExecutable⟩
      exact ⟨row :: rows, .cons read restRead, forall_mem_cons.mpr ⟨executable, restExecutable⟩⟩
    · rintro ⟨rows, read, executable⟩
      cases read with
      | cons here there =>
        obtain ⟨first, rest⟩ := forall_mem_cons.mp executable
        exact ⟨⟨_, here, first⟩, _, there, rest⟩

end RowSpecs

theorem header_read_iff {python : Coercions} {entries : JsonObject} {rows : List ExecutionRow} :
    (∃ manifest, readManifest python entries = some manifest ∧ manifest.rows = rows) ↔
      ∃ values, rowValues entries = some values ∧ values.mapM (readRow python) = some rows ∧
        ∀ key ∈ headerKeys, (Json.get entries key).isSome = true := by
  simp only [headerKeys, forall_mem_cons, not_mem_nil, false_imp_iff, implies_true, and_true,
    ← str_field_isSome python, read_manifest_iff, Option.isSome_iff_exists]
  constructor
  · rintro ⟨manifest, ⟨values, given, read, runId, service, version, sha, report, schema⟩, rfl⟩
    exact ⟨values, given, read, ⟨_, runId⟩, ⟨_, service⟩, ⟨_, version⟩, ⟨_, sha⟩, ⟨_, report⟩, ⟨_, schema⟩⟩
  · rintro ⟨values, given, read, ⟨runId, runIdRead⟩, ⟨service, serviceRead⟩, ⟨version, versionRead⟩,
      ⟨sha, shaRead⟩, ⟨report, reportRead⟩, ⟨schema, schemaRead⟩⟩
    exact ⟨⟨runId, service, version, sha, report, rows, schema⟩, ⟨values, given, read, runIdRead,
      serviceRead, versionRead, shaRead, reportRead, schemaRead⟩, rfl⟩

variable {file : ByteArray} {service : String}

theorem load_ok_iff {python : Coercions} :
    (∃ manifest, loadManifest python file service = .ok manifest) ↔
      ∃ entries manifest, asObject (readJson file) = some entries ∧
        hasText entries "schema_version" executionSchemaVersion = true ∧
        hasText entries "source_service" service = true ∧ readManifest python entries = some manifest ∧
        (manifest.rows.map ExecutionRow.identity).Nodup ∧ ∀ row ∈ manifest.rows, row.Executable := by
  have sorted (manifest : ExecutionManifest) :
      (manifest.normalized.rows.map ExecutionRow.identity).Nodup ↔
        (manifest.rows.map ExecutionRow.identity).Nodup :=
    ((sorted_perm _ _).map _).nodup_iff
  have members (manifest : ExecutionManifest) : (∀ row ∈ manifest.normalized.rows, row.Executable) ↔
      ∀ row ∈ manifest.rows, row.Executable := by
    simp only [ExecutionManifest.normalized, mem_sorted_iff]
  unfold loadManifest
  cases isObject : asObject (readJson file) with
  | none => simp
  | some entries =>
    dsimp only
    constructor
    · rintro ⟨loaded, ok⟩
      split at ok
      · contradiction
      · next schema =>
        split at ok
        · contradiction
        · next belongs =>
          split at ok
          · contradiction
          · next normalized read =>
            obtain ⟨manifest, known, rfl⟩ := Option.map_eq_some_iff.mp read
            split at ok
            · contradiction
            · next distinct =>
              split at ok
              · contradiction
              · next executable =>
                exact ⟨entries, manifest, rfl, by simpa using schema, by simpa using belongs,
                  known, (sorted manifest).mp (not_not.mp distinct),
                  (members manifest).mp (not_not.mp executable)⟩
    · rintro ⟨same, manifest, given, schema, belongs, read, distinct, executable⟩
      cases given
      refine ⟨manifest.normalized, ?_⟩
      rw [schema, belongs, read, if_neg (by decide), if_neg (by decide), Option.map_some]
      dsimp only
      rw [if_neg (not_not.mpr ((sorted manifest).mpr distinct)),
        if_neg (not_not.mpr ((members manifest).mpr executable))]

theorem loads_iff {python : Coercions} :
    (∃ manifest, loadManifest python file service = .ok manifest) ↔ Loads python file service := by
  rw [load_ok_iff]
  unfold Loads
  simp only [rows_load_iff]
  constructor
  · rintro ⟨entries, manifest, isObject, schema, belongs, read, distinct, executable⟩
    obtain ⟨values, given, rowsRead, header⟩ := header_read_iff.mp ⟨manifest, read, rfl⟩
    have identities := row_identities_read (map_read_iff.mp rowsRead)
    exact ⟨entries, values, isObject, given, schema, belongs, header, identities ▸ distinct,
      manifest.rows, rowsRead, executable⟩
  · rintro ⟨entries, values, isObject, given, schema, belongs, header, distinct, rows, rowsRead,
      executable⟩
    obtain ⟨manifest, read, rfl⟩ := header_read_iff.mpr ⟨values, given, rowsRead, header⟩
    have identities := row_identities_read (map_read_iff.mp rowsRead)
    exact ⟨entries, manifest, isObject, schema, belongs, read, identities ▸ distinct, executable⟩

def Refused (python : Coercions) (file : ByteArray) (service : String) : Prop :=
  ∃ error, loadManifest python file service = .error error

theorem refused_iff {python : Coercions} :
    Refused python file service ↔ ¬Loads python file service := by
  rw [← loads_iff]
  unfold Refused
  cases loadManifest python file service with
  | error | ok => simp

theorem executable_of_loads {python : Coercions} {value : JsonValue} (loads : RowLoads python value)
    (shown : ¬Disguised value) : ExecutableValue value := by
  obtain ⟨entries, isObject, _, _, allowed, fields⟩ := loads
  refine ⟨entries, isObject, allowed, ?_⟩
  intro key member
  obtain ⟨field, found, nonempty⟩ := fields key member
  have content : truthy field = true := by
    by_contra empty
    exact shown ⟨entries, isObject, key, member, field, found, eq_false_of_ne_true empty, nonempty⟩
  rw [filled, found, Option.any_some, content]

theorem disguised_not_executable {value : JsonValue} (disguised : Disguised value) :
    ¬ExecutableValue value := by
  obtain ⟨_, rfl, key, member, _, found, empty, _⟩ := disguised
  rintro ⟨same, isObject, _, fields⟩
  cases isObject
  have content := fields key member
  rw [filled, found, Option.any_some, empty] at content
  contradiction

/-- A file with a repeated identity or a row that is not executable is refused, unless nothing
is wrong with it but a field whose empty value `str` gives a text. -/
theorem bad_rows_refused_iff {python : Coercions} {values : List JsonValue}
    (given : rowsOfFile file = some values) (service : String) :
    ((Repeated python values ∨ ∃ value ∈ values, ¬ExecutableValue value) →
        Refused python file service) ↔
      ¬(Loads python file service ∧ ∃ value ∈ values, Disguised value) := by
  rw [refused_iff]
  constructor
  · rintro refuses ⟨loads, value, member, disguised⟩
    exact refuses (.inr ⟨value, member, disguised_not_executable disguised⟩) loads
  · intro noDisguise bad loads
    obtain ⟨entries, same, isObject, sameGiven, _, _, _, distinct, rows⟩ := loads
    have isSame : same = values := by
      rw [rowsOfFile, isObject, Option.bind_some, sameGiven] at given
      exact Option.some.inj given
    subst isSame
    rcases bad with repeated | ⟨value, member, notExecutable⟩
    · exact repeated distinct
    · have loads : Loads python file service :=
        ⟨entries, same, isObject, sameGiven, ‹_›, ‹_›, ‹_›, distinct, rows⟩
      by_cases disguised : Disguised value
      · exact noDisguise ⟨loads, value, member, disguised⟩
      · exact notExecutable (executable_of_loads (rows value member) disguised)

def ShortIds (row : ExecutionRow) : Prop :=
  ShortInts (Contracts.optional .int row.legacyCategoryId) ∧
    ShortInts (Contracts.optional .int row.legacySubcategoryId)

theorem json_written {value : JsonValue} (short : ShortInts value) :
    ∃ file, canonicalJson value = some file := by
  obtain ⟨_, dumped⟩ := dumps_some short
  exact ⟨_, by rw [canonicalJson, dumped, Option.map_some]⟩

theorem manifest_written {manifest : ExecutionManifest} (short : ∀ row ∈ manifest.rows, ShortIds row) :
    ∃ file, executionManifestBytes manifest = some file := by
  have row (row : ExecutionRow) (ids : ShortIds row) : ShortInts (.obj row.asDict) :=
    ⟨trivial, trivial, ids.1, ids.2, trivial, trivial, trivial, trivial, trivial⟩
  have rows : ShortInts (.arr (manifest.normalized.rows.map fun row => .obj row.asDict)) := by
    rw [ShortInts, short_items_iff]
    intro _ member
    obtain ⟨given, isRow, rfl⟩ := mem_map.mp member
    exact row given (short given ((mem_sorted_iff _).mp isRow))
  exact json_written ⟨trivial, trivial, trivial, trivial, trivial, rows, trivial, trivial⟩

/-- The rows of a manifest can be written in any order. -/
theorem bytes_of_perm {manifest : ExecutionManifest} {rows : List ExecutionRow}
    (distinct : (manifest.rows.map ExecutionRow.identity).Nodup) (same : manifest.rows.Perm rows) :
    executionManifestBytes { manifest with rows } = executionManifestBytes manifest := by
  unfold executionManifestBytes ExecutionManifest.normalized
  rw [sorted_eq_of_perm distinct same]

/-- Written manifests are read back and do not depend on the order of their rows, and a file with
a repeated identity or a row that is not executable is refused but for disguised fields. -/
theorem execution_manifest_files (python : Coercions) :
    (∀ (manifest : ExecutionManifest) (file : ByteArray),
      manifest.schemaVersion = executionSchemaVersion →
      (manifest.rows.map ExecutionRow.identity).Nodup → (∀ row ∈ manifest.rows, row.Executable) →
      executionManifestBytes manifest = some file →
      loadManifest python file manifest.sourceService = .ok manifest.normalized) ∧
    (∀ (manifest : ExecutionManifest) (rows : List ExecutionRow),
      (manifest.rows.map ExecutionRow.identity).Nodup → manifest.rows.Perm rows →
      executionManifestBytes { manifest with rows } = executionManifestBytes manifest) ∧
    ∀ (file : ByteArray) (values : List JsonValue) (service : String),
      rowsOfFile file = some values →
      (((Repeated python values ∨ ∃ value ∈ values, ¬ExecutableValue value) →
          Refused python file service) ↔
        ¬(Loads python file service ∧ ∃ value ∈ values, Disguised value)) := by
  refine ⟨?_, fun _ _ => bytes_of_perm, fun _ _ service given => bad_rows_refused_iff given service⟩
  intro _ _ schema distinct executable written
  exact load_known (load_written schema distinct executable written)

/-- `str` and `int` where no float, list or dict is read. -/
def plainCoercions : Coercions where
  str value := (strOf value).getD "[]"
  int := intOf
  str_known known := by rw [known, Option.getD_some]
  str_filled unknown := by
    rw [unknown, Option.getD_none]
    decide
  int_known known := known

def investmentRow : ExecutionRow :=
  { sourceKind := "transaction", sourceId := "1", legacyCategoryId := some 7
    legacySubcategoryId := some 30, disposition := .evidenceProposal
    reasonCode := "constrained_rule_match", targetKey := "investment"
    targetPublicId := "018f0000-0000-7000-8000-000000000001" }

def investmentManifest : ExecutionManifest :=
  { runId := "run-1", sourceService := "transaction-service", mappingVersion := "v1"
    mappingSha256 := "mapping-hash", sourceReportSha256 := "report-hash", rows := [investmentRow] }

theorem investment_manifest_loads : ∃ file, executionManifestBytes investmentManifest = some file ∧
    loadManifest plainCoercions file "transaction-service" = .ok investmentManifest := by
  have short : ∀ row ∈ investmentManifest.rows, ShortIds row := by
    intro _ member
    rw [mem_singleton.mp member]
    exact ⟨(rfl : (writeInt 7).isSome = true), (rfl : (writeInt 30).isSome = true)⟩
  obtain ⟨file, written⟩ := manifest_written short
  exact ⟨file, written,
    (execution_manifest_files plainCoercions).1 investmentManifest file rfl (by decide) (by decide) written⟩

section Bytes

variable {first second : ExecutionManifest} {file : ByteArray}

/-- A file has one manifest, whichever service asks for it. -/
theorem loads_same {service other : String} (loaded : loadExecutionManifest file service = .ok first)
    (again : loadExecutionManifest file other = .ok second) : first = second := by
  unfold loadExecutionManifest at loaded again
  cases isObject : asObject (readJson file) with
  | none => simp [isObject] at loaded
  | some entries =>
    cases read : (readExecutionManifest entries).map ExecutionManifest.normalized with
    | none =>
      simp only [isObject, read] at loaded
      split_ifs at loaded
    | some manifest =>
      simp only [isObject, read] at loaded again
      split_ifs at loaded again
      rw [← Except.ok.inj loaded, ← Except.ok.inj again]

/-- What the manifests are that are written and read. -/
structure Executes (manifest : ExecutionManifest) : Prop where
  schema : manifest.schemaVersion = executionSchemaVersion
  distinct : (manifest.rows.map ExecutionRow.identity).Nodup
  executable : ∀ row ∈ manifest.rows, row.Executable

/-- The bytes of a manifest, and with them its hash, stand for it up to the order of its rows. -/
theorem manifest_bytes_agree_iff (executes : Executes first) (alsoExecutes : Executes second)
    (written : executionManifestBytes first = some file) :
    executionManifestBytes second = some file ↔
      first.rows.Perm second.rows ∧ second = { first with rows := second.rows } := by
  constructor
  · intro alsoWritten
    have loaded := load_written executes.schema executes.distinct executes.executable written
    have again := load_written alsoExecutes.schema alsoExecutes.distinct alsoExecutes.executable
      alsoWritten
    have same : first.normalized = second.normalized := loads_same loaded again
    have rows : sortedBy ExecutionRow.identity first.rows =
        sortedBy ExecutionRow.identity second.rows := congrArg ExecutionManifest.rows same
    have sorted := sorted_perm ExecutionRow.identity first.rows
    rw [rows] at sorted
    exact ⟨sorted.symm.trans (sorted_perm _ _),
      congrArg (fun manifest => { manifest with rows := second.rows }) same.symm⟩
  · rintro ⟨same, isSecond⟩
    rw [isSecond, bytes_of_perm executes.distinct same, written]

end Bytes

theorem manifest_bytes_agree_iff_runs : ∃ file, executionManifestBytes investmentManifest = some file ∧
    executionManifestBytes { investmentManifest with runId := "run-2" } ≠ some file := by
  have short : ∀ row ∈ investmentManifest.rows, ShortIds row := by
    intro _ member
    rw [mem_singleton.mp member]
    exact ⟨(rfl : (writeInt 7).isSome = true), (rfl : (writeInt 30).isSome = true)⟩
  obtain ⟨file, written⟩ := manifest_written short
  refine ⟨file, written, fun same => ?_⟩
  have agree := (manifest_bytes_agree_iff ⟨rfl, by decide, by decide⟩ ⟨rfl, by decide, by decide⟩
    written).mp same
  exact absurd agree.2 (by decide)

def nullTargetRow : JsonObject :=
  [("source_kind", .str "transaction"), ("source_id", .str "1"), ("legacy_category_id", .int 7),
    ("legacy_subcategory_id", .int 30), ("disposition", .str "evidence_proposal"),
    ("reason_code", .str "constrained_rule_match"), ("target_key", .null),
    ("target_public_id", .str "018f0000-0000-7000-8000-000000000001")]

def nullTargetFile : JsonObject :=
  [("run_id", .str "run-1"), ("source_service", .str "transaction-service"),
    ("mapping_version", .str "v1"), ("mapping_sha256", .str "mapping-hash"),
    ("source_report_sha256", .str "report-hash"), ("rows", .arr [.obj nullTargetRow]),
    ("schema_version", .str executionSchemaVersion)]

theorem null_target_row_keys : (nullTargetRow.map Prod.fst).Nodup := by decide +kernel

theorem null_target_file_keys : (nullTargetFile.map Prod.fst).Nodup := by decide +kernel

/-- The row as it is read from the file. -/
def nullTargetValue : JsonValue := .obj (sortedBy Prod.fst (sortEntries nullTargetRow))

theorem null_target_disguised : Disguised nullTargetValue := by
  refine ⟨_, rfl, "target_key", by decide, .null, ?_, rfl, fun same => by cases same⟩
  rw [get_sorted null_target_row_keys]
  rfl

theorem null_target_row_loads (python : Coercions) : RowLoads python nullTargetValue := by
  have fields (key : String) : Json.get (sortedBy Prod.fst (sortEntries nullTargetRow)) key =
      (Json.get nullTargetRow key).map sortKeys := get_sorted null_target_row_keys key
  have categoryId := optional_int_field_sorted null_target_row_keys "legacy_category_id"
  have subcategoryId := optional_int_field_sorted null_target_row_keys "legacy_subcategory_id"
  refine ⟨_, rfl, ?_, ?_, ?_, ?_⟩
  · intro key _
    rw [fields, Option.isSome_map]
    revert key
    decide
  · rw [forall_mem_cons, forall_mem_singleton]
    exact ⟨Option.isSome_of_mem (int_field_known (categoryId.trans rfl)),
      Option.isSome_of_mem (int_field_known (subcategoryId.trans rfl))⟩
  · right
    unfold dispositionField
    rw [fields]
    rfl
  · simp only [filledKeys, forall_mem_cons, not_mem_nil, false_imp_iff, implies_true, and_true,
      fields]
    have given {text : String} (content : text ≠ "") : JsonValue.str text ≠ .str "" :=
      fun same => content (JsonValue.str.inj same)
    exact ⟨⟨_, rfl, given (by decide)⟩, ⟨_, rfl, fun same => by cases same⟩, ⟨_, rfl, given (by decide)⟩⟩

/-- The file of a manifest whose only row has no target key loads. -/
theorem null_target_loads : ∃ file, canonicalJson (.obj nullTargetFile) = some file ∧
    rowsOfFile file = some [nullTargetValue] ∧ ¬ExecutableValue nullTargetValue ∧
    ∃ manifest, loadManifest plainCoercions file "transaction-service" = .ok manifest := by
  have plain : Plain (.obj nullTargetFile) :=
    ⟨null_target_file_keys, trivial, trivial, trivial, trivial, trivial,
      ⟨⟨null_target_row_keys, trivial, trivial, trivial, trivial, trivial, trivial, trivial, trivial, trivial⟩,
        trivial⟩, trivial, trivial⟩
  have short : ShortInts (.obj nullTargetFile) :=
    ⟨trivial, trivial, trivial, trivial, trivial,
      ⟨⟨trivial, trivial, (rfl : (writeInt 7).isSome = true), (rfl : (writeInt 30).isSome = true), trivial,
        trivial, trivial, trivial, trivial⟩, trivial⟩, trivial, trivial⟩
  obtain ⟨file, written⟩ := json_written short
  have read := canonical_read plain written
  rw [sort_keys_obj] at read
  have isObject : asObject (readJson file) =
      some (sortedBy Prod.fst (sortEntries nullTargetFile)) := by rw [read, asObject]
  have fields (key : String) : Json.get (sortedBy Prod.fst (sortEntries nullTargetFile)) key =
      (Json.get nullTargetFile key).map sortKeys := get_sorted null_target_file_keys key
  have rows : rowValues (sortedBy Prod.fst (sortEntries nullTargetFile)) = some [nullTargetValue] := by
    have given : Json.get nullTargetFile "rows" = some (.arr [.obj nullTargetRow]) := rfl
    unfold rowValues
    rw [items_field_sorted null_target_file_keys "rows" given]
    simp only [map_cons, map_nil, sort_keys_obj, nullTargetValue]
  have loads : Loads plainCoercions file "transaction-service" := by
    refine ⟨_, _, isObject, rows, ?_, ?_, ?_, ?_, ?_⟩
    · rw [has_text_sorted null_target_file_keys]
      decide
    · rw [has_text_sorted null_target_file_keys]
      decide
    · intro key _
      rw [fields, Option.isSome_map]
      revert key
      decide
    · rw [filterMap_cons]
      split <;> simp
    · exact forall_mem_singleton.mpr (null_target_row_loads plainCoercions)
  refine ⟨file, written, ?_, disguised_not_executable null_target_disguised, loads_iff.mpr loads⟩
  rw [rowsOfFile, isObject, Option.bind_some, rows]

end FinanceTracker.Reclassification.ManifestFiles
