import FinanceTracker.Reclassification.Contracts

/-!
# The files of a reclassification

What the contracts write, they read back: the registry of a mapping file and the
normalised manifest of an execution file.
-/

namespace FinanceTracker.Reclassification.Manifests

open Library Library Json JsonText JsonRoundTrip KeyedRows SortedBy Contracts

theorem str_of_sort_keys (value : JsonValue) : strOf (sortKeys value) = strOf value := by
  cases value <;> rfl

theorem int_of_sort_keys (value : JsonValue) : intOf (sortKeys value) = intOf value := by
  cases value <;> rfl

theorem as_str_sort_keys (value : JsonValue) : asStr (sortKeys value) = asStr value := by
  cases value <;> rfl

section Fields

variable {entries : JsonObject} (distinct : (entries.map Prod.fst).Nodup) (key : String)

include distinct

theorem str_field_sorted :
    strField (sortedBy Prod.fst (sortEntries entries)) key = strField entries key := by
  unfold strField
  rw [get_sorted distinct]
  cases Json.get entries key with
  | none => rfl
  | some value => exact str_of_sort_keys value

theorem has_text_sorted (text : String) :
    hasText (sortedBy Prod.fst (sortEntries entries)) key text = hasText entries key text := by
  unfold hasText
  rw [get_sorted distinct]
  cases Json.get entries key with
  | none => rfl
  | some => simp only [Option.map_some, Option.bind_some, as_str_sort_keys]

theorem optional_int_field_sorted :
    optionalIntField (sortedBy Prod.fst (sortEntries entries)) key = optionalIntField entries key := by
  unfold optionalIntField
  rw [get_sorted distinct]
  cases Json.get entries key with
  | none => rfl
  | some value => cases value <;> rfl

theorem disposition_field_sorted :
    ((Json.get (sortedBy Prod.fst (sortEntries entries)) key).bind fun given =>
        (asStr given).bind Disposition.ofValue) =
      (Json.get entries key).bind fun given => (asStr given).bind Disposition.ofValue := by
  rw [get_sorted distinct]
  cases Json.get entries key with
  | none => rfl
  | some => simp only [Option.map_some, Option.bind_some, as_str_sort_keys]

theorem int_field_sorted : (Json.get (sortedBy Prod.fst (sortEntries entries)) key).bind intOf =
      (Json.get entries key).bind intOf := by
  rw [get_sorted distinct]
  cases Json.get entries key with
  | none => rfl
  | some value => exact int_of_sort_keys value

theorem items_field_sorted {items : List JsonValue} (found : Json.get entries key = some (.arr items)) :
    (Json.get (sortedBy Prod.fst (sortEntries entries)) key).bind iterate =
      some (items.map sortKeys) := by
  rw [get_sorted distinct, found, Option.map_some, sortKeys, sort_items_map]
  rfl

end Fields

theorem sort_keys_obj (entries : JsonObject) :
    sortKeys (.obj entries) = .obj (sortedBy Prod.fst (sortEntries entries)) := by
  rw [sortKeys]

variable {Item : Type} {file : ByteArray}

theorem map_read_back {Value : Type} {write : Item → Value} {read : Value → Option Item}
    (reads : ∀ item, read (write item) = some item) (items : List Item) :
    (items.map write).mapM read = some items := by
  induction items with
  | nil => rfl
  | cons item items ih =>
    rw [List.map_cons, List.mapM_cons, reads item, ih]
    rfl

theorem canonical_read {value : JsonValue} (plain : Plain value)
    (written : canonicalJson value = some file) : readJson file = some (sortKeys value) := by
  unfold canonicalJson at written
  obtain ⟨_, dumped, rfl⟩ := Option.map_eq_some_iff.mp written
  unfold readJson
  rw [loads_text, String.toList_ofList]
  exact read_dumps plain dumped

variable (entry : MappingEntry) (manifest : ExecutionManifest) (registry : MappingRegistry)
  (row : ExecutionRow) (target : MappingTarget)

theorem execution_row_keys : (row.asDict.map Prod.fst).Nodup := by
  simp [ExecutionRow.asDict]

theorem execution_manifest_keys : (manifest.asDict.map Prod.fst).Nodup := by
  simp [ExecutionManifest.asDict]

theorem plain_list {write : Item → JsonObject} (plain : ∀ item, Plain (.obj (write item)))
    (items : List Item) : Plain (.arr (items.map fun item => .obj (write item))) := by
  rw [Plain, plain_items_iff]
  intro _ member
  obtain ⟨item, _, rfl⟩ := List.mem_map.mp member
  exact plain item

theorem plain_optional {Value : Type} (json : Value → JsonValue) (plain : ∀ value, Plain (json value))
    (given : Option Value) : Plain (Contracts.optional json given) := by
  cases given with
  | none => trivial
  | some value => exact plain value

theorem execution_row_plain : Plain (.obj row.asDict) := by
  have ints := plain_optional JsonValue.int fun _ => trivial
  exact ⟨execution_row_keys row, trivial, trivial, ints row.legacyCategoryId,
    ints row.legacySubcategoryId, trivial, trivial, trivial, trivial, trivial⟩

theorem execution_manifest_plain : Plain (.obj manifest.asDict) := by
  have rows := plain_list execution_row_plain manifest.rows
  exact ⟨execution_manifest_keys manifest, trivial, trivial, trivial, trivial, trivial, rows, trivial,
    trivial⟩

theorem optional_int_read {entries : JsonObject} {key : String} {given : Option ℤ}
    (found : Json.get entries key = some (Contracts.optional .int given)) :
    optionalIntField entries key = some given := by
  unfold optionalIntField
  rw [found]
  cases given <;> rfl

theorem execution_row_read_back : readExecutionRow (sortKeys (.obj row.asDict)) = some row := by
  have distinct := execution_row_keys row
  have categoryId : optionalIntField row.asDict "legacy_category_id" = some row.legacyCategoryId :=
    optional_int_read rfl
  have subcategoryId : optionalIntField row.asDict "legacy_subcategory_id" =
      some row.legacySubcategoryId :=
    optional_int_read rfl
  have disposition : ((Json.get row.asDict "disposition").bind fun given =>
      (asStr given).bind Disposition.ofValue) = some row.disposition :=
    disposition_of_value row.disposition
  unfold readExecutionRow
  rw [sort_keys_obj]
  simp only [asObject, Option.bind_eq_bind, Option.bind_some, str_field_sorted distinct,
    optional_int_field_sorted distinct, disposition_field_sorted distinct, categoryId, subcategoryId,
    disposition]
  rfl

theorem list_read_back {write : Item → JsonObject} {read : JsonValue → Option Item}
    (reads : ∀ item, read (sortKeys (.obj (write item))) = some item) {entries : JsonObject}
    (distinct : (entries.map Prod.fst).Nodup) (key : String) (items : List Item)
    (found : Json.get entries key = some (.arr (items.map fun item => .obj (write item)))) :
    (((Json.get (sortedBy Prod.fst (sortEntries entries)) key).bind iterate).bind fun values =>
      values.mapM read) = some items := by
  rw [items_field_sorted distinct key found, Option.bind_some, List.map_map]
  exact map_read_back reads items

theorem execution_manifest_read_back :
    readExecutionManifest (sortedBy Prod.fst (sortEntries manifest.asDict)) = some manifest := by
  have distinct := execution_manifest_keys manifest
  have rows := list_read_back execution_row_read_back distinct "rows" manifest.rows rfl
  unfold readExecutionManifest
  simp only [Option.bind_eq_bind, Option.bind_some, str_field_sorted distinct, rows]
  rfl

theorem load_written {manifest : ExecutionManifest}
    (schema : manifest.schemaVersion = executionSchemaVersion)
    (distinct : (manifest.rows.map ExecutionRow.identity).Nodup)
    (executable : ∀ row ∈ manifest.rows, row.Executable)
    (written : executionManifestBytes manifest = some file) :
    loadExecutionManifest file manifest.sourceService = .ok manifest.normalized := by
  have read := canonical_read (execution_manifest_plain manifest.normalized) written
  have keys := execution_manifest_keys manifest.normalized
  have schemaText : hasText manifest.normalized.asDict "schema_version" executionSchemaVersion = true := by
    simp [hasText, Json.get, lookup, ExecutionManifest.asDict, ExecutionManifest.normalized, asStr,
      schema]
  have serviceText : hasText manifest.normalized.asDict "source_service" manifest.sourceService =
      true := by
    simp [hasText, Json.get, lookup, ExecutionManifest.asDict, ExecutionManifest.normalized, asStr]
  have again : manifest.normalized.normalized = manifest.normalized := by
    unfold ExecutionManifest.normalized
    rw [sorted_idempotent]
  have distinctSorted : (manifest.normalized.rows.map ExecutionRow.identity).Nodup :=
    sorted_keys_nodup _ distinct
  have executableSorted : ∀ row ∈ manifest.normalized.rows, row.Executable :=
    fun row member => executable row ((mem_sorted_iff _).mp member)
  unfold loadExecutionManifest
  rw [read, sort_keys_obj]
  simp only [asObject, has_text_sorted keys, schemaText, serviceText, Bool.true_eq_false, if_false,
    execution_manifest_read_back, Option.map_some, again]
  rw [if_neg (not_not.mpr distinctSorted), if_neg (not_not.mpr executableSorted)]

theorem normalized_bytes :
    executionManifestBytes manifest.normalized = executionManifestBytes manifest := by
  unfold executionManifestBytes ExecutionManifest.normalized
  rw [sorted_idempotent]

theorem target_keys : (target.asDict.map Prod.fst).Nodup := by
  simp [MappingTarget.asDict]

theorem entry_keys : (entry.asDict.map Prod.fst).Nodup := by
  simp [MappingEntry.asDict]

theorem registry_keys : (registry.asPayload.map Prod.fst).Nodup := by
  simp [MappingRegistry.asPayload]

theorem target_plain : Plain (.obj target.asDict) :=
  ⟨target_keys target, trivial, trivial, trivial⟩

theorem entry_plain : Plain (.obj entry.asDict) :=
  ⟨entry_keys entry, trivial, trivial, trivial, plain_list target_plain entry.targets, trivial⟩

def registryObject (registry : MappingRegistry) : JsonObject :=
  sortedBy Prod.fst (sortEntries registry.asPayload)

theorem registry_plain : Plain (.obj registry.asPayload) :=
  ⟨registry_keys registry, trivial, trivial, plain_list entry_plain registry.categories,
    plain_list entry_plain registry.subcategories, trivial⟩

theorem target_read_back : readTarget (sortKeys (.obj target.asDict)) = some target := by
  have distinct := target_keys target
  unfold readTarget
  rw [sort_keys_obj]
  simp only [asObject, Option.bind_eq_bind, Option.bind_some, str_field_sorted distinct]
  rfl

theorem entry_read_back : readEntry (sortKeys (.obj entry.asDict)) = some entry := by
  have distinct := entry_keys entry
  have disposition : ((Json.get entry.asDict "disposition").bind fun given =>
      (asStr given).bind Disposition.ofValue) = some entry.disposition :=
    disposition_of_value entry.disposition
  have legacyId : (Json.get entry.asDict "legacy_id").bind intOf = some entry.legacyId := rfl
  have targets := list_read_back target_read_back distinct "targets" entry.targets rfl
  unfold readEntry
  rw [sort_keys_obj]
  simp only [asObject, Option.bind_eq_bind, Option.bind_some, int_field_sorted distinct,
    disposition_field_sorted distinct, str_field_sorted distinct, legacyId, disposition, targets]
  rfl

theorem registry_read_back : readRegistry (registryObject registry) = some registry := by
  have distinct := registry_keys registry
  have categories := list_read_back entry_read_back distinct "categories" registry.categories rfl
  have subcategories := list_read_back entry_read_back distinct "subcategories" registry.subcategories rfl
  unfold readRegistry registryObject
  simp only [Option.bind_eq_bind, Option.bind_some, str_field_sorted distinct, categories,
    subcategories]
  rfl

theorem registry_file_loads {registry : MappingRegistry}
    (written : canonicalJson (.obj registry.asPayload) = some file) :
    readJson file = some (.obj (registryObject registry)) := by
  have read := canonical_read (registry_plain registry) written
  rw [sort_keys_obj] at read
  exact read

theorem load_mapping_written {registry : MappingRegistry}
    (categories : Covers registry.categories 10) (subcategories : Covers registry.subcategories 41)
    (written : canonicalJson (.obj registry.asPayload) = some file) :
    loadMapping file = some registry := by
  unfold loadMapping
  rw [registry_file_loads written]
  simp only [asObject, Option.bind_eq_bind, Option.bind_some, registry_read_back]
  rw [if_pos ⟨categories, subcategories⟩]

end FinanceTracker.Reclassification.Manifests
