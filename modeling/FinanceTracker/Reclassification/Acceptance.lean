import FinanceTracker.Reclassification.AcceptedReports

/-!
# What the aggregator accepts

Reports of one run over one mapping are accepted, where every row is explained and
every row to be written has a target that the mapping allows.
-/

namespace FinanceTracker.Reclassification.Acceptance

open Library Library Counters Json JsonText JsonRoundTrip KeyedRows Runs Sha256 SortedBy Contracts
  Aggregate Manifests ReportFiles Selection AcceptedReports

/-- A row that the aggregator takes: it is explained, its amount is a number, it stays in its
group, and the mapping allows its target. The ids are of a size that Python writes. -/
structure Acceptable (registry : MappingRegistry) (service : String) (kinds : List String)
    (row : ReportRow) : Prop where
  explained : row.reasonCode ≠ ""
  amount : ∃ text value, row.amount = some text ∧ decimalValue text = some value
  unmoved : beforeGroup (rowObject row) = afterGroup (rowObject row)
  selected : (selectRow service kinds (registryObject registry) (rowObject row) (pairOf row)).isOk = true
  categoryId : ∀ id, row.legacyCategoryId = some id → (writeInt id).isSome = true
  subcategoryId : ∀ id, row.legacySubcategoryId = some id → (writeInt id).isSome = true

section Row

variable {registry : MappingRegistry} {service : String} {kinds : List String} {row : ReportRow}

theorem select_row_returns (acceptable : Acceptable registry service kinds row) :
    ∃ selected, selectRow service kinds (registryObject registry) (rowObject row)
      (row.sourceKind, row.sourceId) = .ok selected := by
  have selected := acceptable.selected
  rw [pairOf] at selected
  revert selected
  cases selectRow service kinds (registryObject registry) (rowObject row)
      (row.sourceKind, row.sourceId) with
  | error => exact nofun
  | ok selected => exact fun _ => ⟨selected, rfl⟩

theorem amount_of_row (acceptable : Acceptable registry service kinds row) :
    ∃ amount, amountOfRow (rowObject row) = .ok amount := by
  obtain ⟨text, value, isText, isValue⟩ := acceptable.amount
  have amount := get_d_sorted (report_row_keys row) "amount" .null rfl
  rw [optional_sorted (fun _ => rfl)] at amount
  unfold amountOfRow rowObject
  rw [amount, isText, Contracts.optional, strOf, Option.bind_some]
  exact ⟨value, given_eq_ok.mpr isValue⟩

theorem totals_returns (acceptable : Acceptable registry service kinds row) (totals : Totals) :
    ∃ next, addToTotals totals (rowObject row) = .ok next := by
  have keys := report_row_keys row
  have disposition := str_get_sorted keys "disposition" (.str "") rfl
  have reason := str_get_sorted keys "reason_code" (.str "") rfl
  have terminal : row.disposition.value ∈ terminalDispositions :=
    List.mem_map_of_mem (by cases row.disposition <;> decide)
  unfold addToTotals
  rw [rowObject, disposition, ok_bind, reason, ok_bind]
  have checked : check (row.disposition.value ∈ terminalDispositions ∧ row.reasonCode ≠ "")
      AggregateError.nonTerminalRow = .ok () := check_eq_ok.mpr ⟨terminal, acceptable.explained⟩
  rw [checked, ok_bind]
  split
  · exact ⟨_, rfl⟩
  · obtain ⟨amount, isAmount⟩ := amount_of_row acceptable
    exact ⟨_, bind_eq_ok.mpr ⟨amount, isAmount, rfl⟩⟩

/-- The groups before and after have one total. -/
structure Balanced (analytics : Analytics) : Prop where
  before : DistinctKeys Prod.fst analytics.before
  after : DistinctKeys Prod.fst analytics.after
  totals : (analytics.before.map Prod.snd).sum = (analytics.after.map Prod.snd).sum

theorem analytics_returns (acceptable : Acceptable registry service kinds row) {analytics : Analytics}
    (balanced : Balanced analytics) :
    ∃ next, addToAnalytics analytics (rowObject row) = .ok next ∧ Balanced next := by
  unfold addToAnalytics
  split
  · exact ⟨analytics, rfl, balanced⟩
  · obtain ⟨amount, isAmount⟩ := amount_of_row acceptable
    rw [isAmount, ok_bind, if_pos acceptable.unmoved]
    refine ⟨_, rfl, increase_distinct balanced.before _ _, increase_distinct balanced.after _ _, ?_⟩
    simp only [total_increase balanced.before, total_increase balanced.after, balanced.totals]

end Row

section Rows

variable {registry : MappingRegistry} {service : String} {kinds : List String}

theorem selection_returns {rows : List ReportRow}
    (acceptable : ∀ row ∈ rows, Acceptable registry service kinds row) (distinct : (rows.map pairOf).Nodup) :
    ∃ selection, (rows.map rowObject).foldlM (selectNext service kinds (registryObject registry)) {} =
      .ok selection := by
  have steps : ∀ before row after (selection : Selection), rows = before ++ row :: after →
      selection.identities = before.map pairOf →
        ∃ next, selectNext service kinds (registryObject registry) selection (rowObject row) = .ok next ∧
          next.identities = (before ++ [row]).map pairOf := by
    intro _ row _ selection whole identities
    have keys := report_row_keys row
    have kind : strGet (rowObject row) "source_kind" (.str "") = .ok row.sourceKind :=
      str_get_sorted keys "source_kind" (.str "") rfl
    have id : strGet (rowObject row) "source_id" (.str "") = .ok row.sourceId :=
      str_get_sorted keys "source_id" (.str "") rfl
    have fresh : (row.sourceKind, row.sourceId) ∉ selection.identities := by
      intro stored
      rw [identities] at stored
      rw [whole, List.map_append, List.nodup_append] at distinct
      exact distinct.2.2 _ stored _ List.mem_cons_self rfl
    have here := acceptable row (whole ▸ List.mem_append_right _ List.mem_cons_self)
    obtain ⟨selected, isSelected⟩ := select_row_returns here
    refine ⟨selection.add (row.sourceKind, row.sourceId) selected, bind_eq_ok.mpr ⟨_, kind,
      bind_eq_ok.mpr ⟨_, id, bind_eq_ok.mpr ⟨(), check_eq_ok.mpr fresh,
        bind_eq_ok.mpr ⟨selected, isSelected, rfl⟩⟩⟩⟩, ?_⟩
    rw [List.map_append, ← identities]
    cases selected <;> rfl
  rw [List.foldlM_map]
  have started : ({} : Selection).identities = ([] : List ReportRow).map pairOf := rfl
  obtain ⟨selection, returned, _⟩ := fold_returns steps started
  exact ⟨selection, returned⟩

theorem execution_row_short {row : ReportRow} {executed : ExecutionRow}
    (acceptable : Acceptable registry service kinds row) (carries : Carries kinds row executed) :
    ShortInts (.obj executed.asDict) := by
  have ids (id : Option ℤ) (short : ∀ value, id = some value → (writeInt value).isSome = true) :
      ShortInts (Contracts.optional .int id) := by
    cases id with
    | none => trivial
    | some value => exact short value rfl
  have categoryId := ids executed.legacyCategoryId (carries.legacyCategoryId ▸ acceptable.categoryId)
  have subcategoryId :=
    ids executed.legacySubcategoryId (carries.legacySubcategoryId ▸ acceptable.subcategoryId)
  exact ⟨trivial, trivial, categoryId, subcategoryId, trivial, trivial, trivial, trivial, trivial⟩

theorem manifest_written (digest : String) {report : ServiceReport}
    (acceptable : ∀ row ∈ report.rows, Acceptable registry service kinds row) :
    ∃ file, executionManifestBytes (manifestOf kinds service report digest) = some file := by
  have rows : ShortInts (.arr ((manifestOf kinds service report digest).normalized.rows.map fun row =>
      .obj row.asDict)) := by
    rw [ShortInts, short_items_iff]
    intro _ member
    obtain ⟨_, stored, rfl⟩ := List.mem_map.mp member
    obtain ⟨row, inReport, found⟩ := List.mem_filterMap.mp ((mem_sorted_iff _).mp stored)
    exact execution_row_short (acceptable row inReport) (carries_iff.mp found)
  have short : ShortInts (.obj (manifestOf kinds service report digest).normalized.asDict) :=
    ⟨trivial, trivial, trivial, trivial, trivial, rows, trivial, trivial⟩
  obtain ⟨_, written⟩ := dumps_some short
  unfold executionManifestBytes canonicalJson
  rw [written]
  exact ⟨_, rfl⟩

theorem execution_manifest_returns (digest : String) {report : ServiceReport}
    (isKinds : writableSourceKinds service = some kinds)
    (distinct : (report.rows.map pairOf).Nodup)
    (acceptable : ∀ row ∈ report.rows, Acceptable registry service kinds row) :
    ∃ result, executionManifest (registryObject registry) ⟨service, reportObject report, digest⟩ =
      .ok result := by
  obtain ⟨selection, selects⟩ := selection_returns acceptable distinct
  obtain ⟨file, written⟩ := manifest_written digest acceptable
  have candidates : selection.candidates =
      (report.rows.filterMap (executionRow kinds)).map candidateOf := (select_rows selects).candidates
  have isDict := manifest_dict_object report service digest selection.candidates
  rw [candidates] at isDict
  rw [manifest_dict_bytes kinds service report digest isDict] at written
  rw [← candidates] at isDict written
  unfold executionManifest
  dsimp only
  exact ⟨_, bind_eq_ok.mpr ⟨kinds, given_eq_ok.mpr isKinds, bind_eq_ok.mpr ⟨_, rows_of_report report,
    bind_eq_ok.mpr ⟨selection, selects, bind_eq_ok.mpr ⟨_, isDict, bind_eq_ok.mpr ⟨file,
      given_eq_ok.mpr written, rfl⟩⟩⟩⟩⟩⟩

end Rows

/-- Reports of the three services that agree on their run and mapping, with rows that are taken. -/
structure OneRun (registry : MappingRegistry) (boundary : Boundary) (files : List ReportFile) :
    Prop where
  services : files.map (fun given => given.report.sourceService) =
    ["budget-service", "categorization-service", "transaction-service"]
  schema : ∀ given ∈ files, given.report.schemaVersion = Contracts.schemaVersion
  runId : ∀ given ∈ files, given.report.runId = boundary.runId
  mappingVersion : ∀ given ∈ files, given.report.mappingVersion = boundary.mappingVersion
  mappingSha256 : ∀ given ∈ files, given.report.mappingSha256 = boundary.mappingSha256
  capturedAt : ∀ given ∈ files, given.report.snapshot.capturedAt = boundary.capturedAt
  distinct : ∀ given ∈ files, (given.report.rows.map pairOf).Nodup
  acceptable : ∀ given ∈ files, ∃ kinds, writableSourceKinds given.report.sourceService = some kinds ∧
    ∀ row ∈ given.report.rows, Acceptable registry given.report.sourceService kinds row

theorem common_same {values : List String} {value : String} (some : values ≠ [])
    (same : ∀ other ∈ values, other = value) : common values = .some value := by
  unfold common
  have distinct := values.nodup_dedup
  have all : ∀ other ∈ values.dedup, other = value :=
    fun other member => same other (List.mem_dedup.mp member)
  cases deduplicated : values.dedup with
  | nil => exact absurd ((List.dedup_eq_nil values).mp deduplicated) some
  | cons first rest =>
    rw [deduplicated] at all distinct
    obtain ⟨isFirst, others⟩ := List.forall_mem_cons.mp all
    cases rest with
    | nil => rw [isFirst]
    | cons second =>
      rw [isFirst, others second List.mem_cons_self] at distinct
      exact absurd List.mem_cons_self (List.nodup_cons.mp distinct).1

theorem captured_of_report (report : ServiceReport) :
    Aggregate.capturedAt (reportObject report) = .ok report.snapshot.capturedAt := by
  have snapshot := get_d_sorted (report_keys report) "snapshot" (.obj []) rfl
  have keys : (report.snapshot.asDict.map Prod.fst).Nodup := by simp [SnapshotBoundary.asDict]
  rw [sort_keys_obj] at snapshot
  unfold Aggregate.capturedAt reportObject
  rw [snapshot]
  simp only [objectOf, asObject, given, orRaise, ok_bind]
  exact str_get_sorted keys "captured_at" .null rfl

section OneRun

variable {registry : MappingRegistry} {boundary : Boundary} {files : List ReportFile}
  (oneRun : OneRun registry boundary files)

include oneRun

theorem files_some : files ≠ [] := by
  rintro rfl
  exact absurd oneRun.services (by simp)

variable {inputs : Inputs} {shards : List Shard} {directory : Directory} {mappingFile : ByteArray}

theorem common_of_reports (shards : inputs.shards = files.map ReportFile.shard)
    (change : JsonObject → Except AggregateError String) (value : ServiceReport → String)
    {agreed : String} (changes : ∀ report, change (reportObject report) = .ok (value report))
    (agree : ∀ given ∈ files, value given.report = agreed) :
    ∃ values, (inputs.shards.map Shard.report).mapM change = .ok values ∧
      common values = some agreed := by
  refine ⟨_, reports_read change value changes shards, common_same ?_ ?_⟩
  · intro none
    exact files_some oneRun (List.map_eq_nil_iff.mp none)
  · intro _ member
    obtain ⟨given, isFile, rfl⟩ := List.mem_map.mp member
    exact agree given isFile

theorem boundary_returns (shards : inputs.shards = files.map ReportFile.shard)
    (hash : boundary.mappingSha256 = hexdigest inputs.mappingBytes) :
    boundaryOf inputs = .ok boundary := by
  have field (key : String) (value : ServiceReport → String)
      (found : ∀ report : ServiceReport, Json.get report.asDict key = some (.str (value report)))
      (report : ServiceReport) : strGet (reportObject report) key .null = .ok (value report) :=
    str_get_sorted (report_keys report) key .null (found report)
  obtain ⟨schemas, isSchemas, schema⟩ := common_of_reports oneRun shards
    (fun report => strGet report "schema_version" .null) ServiceReport.schemaVersion
    (field "schema_version" ServiceReport.schemaVersion fun _ => rfl) oneRun.schema
  obtain ⟨versions, isVersions, version⟩ := common_of_reports oneRun shards
    (fun report => strGet report "mapping_version" .null) ServiceReport.mappingVersion
    (field "mapping_version" ServiceReport.mappingVersion fun _ => rfl) oneRun.mappingVersion
  obtain ⟨hashes, isHashes, sha⟩ := common_of_reports oneRun shards
    (fun report => strGet report "mapping_sha256" .null) ServiceReport.mappingSha256
    (field "mapping_sha256" ServiceReport.mappingSha256 fun _ => rfl) oneRun.mappingSha256
  obtain ⟨runIds, isRunIds, runId⟩ := common_of_reports oneRun shards
    (fun report => strGet report "run_id" .null) ServiceReport.runId
    (field "run_id" ServiceReport.runId fun _ => rfl) oneRun.runId
  obtain ⟨captured, isCaptured, capturedAt⟩ := common_of_reports oneRun shards
    Aggregate.capturedAt (fun report => report.snapshot.capturedAt) captured_of_report oneRun.capturedAt
  exact bind_eq_ok.mpr ⟨schemas, isSchemas, bind_eq_ok.mpr ⟨versions, isVersions,
    bind_eq_ok.mpr ⟨hashes, isHashes, bind_eq_ok.mpr ⟨runIds, isRunIds,
      bind_eq_ok.mpr ⟨captured, isCaptured, bind_eq_ok.mpr ⟨(), check_eq_ok.mpr schema,
        bind_eq_ok.mpr ⟨_, or_raise_eq_ok.mpr version, bind_eq_ok.mpr ⟨_, or_raise_eq_ok.mpr sha,
          bind_eq_ok.mpr ⟨(), check_eq_ok.mpr hash, bind_eq_ok.mpr ⟨_, or_raise_eq_ok.mpr runId,
            bind_eq_ok.mpr ⟨_, or_raise_eq_ok.mpr capturedAt, rfl⟩⟩⟩⟩⟩⟩⟩⟩⟩⟩⟩

theorem shard_services : (files.map ReportFile.shard).map Shard.service =
    ["budget-service", "categorization-service", "transaction-service"] := by
  rw [List.map_map]
  exact oneRun.services

theorem totals_of_run (floatStr : String → String)
    (shards : inputs.shards = files.map ReportFile.shard) :
    ∃ result, totalsOf floatStr inputs none = .ok result := by
  have named : "transaction-service" ∈ inputs.shards.map Shard.service := by
    rw [shards, shard_services oneRun]
    decide
  obtain ⟨shard, found⟩ : ∃ shard, lookup Shard.service inputs.shards "transaction-service" = some shard := by
    rw [← Option.ne_none_iff_exists']
    intro absent
    obtain ⟨shard, stored, isService⟩ := List.mem_map.mp named
    exact lookup_none_iff.mp absent shard stored isService
  have stored := (lookup_mem found).1
  rw [shards] at stored
  obtain ⟨given, isFile, rfl⟩ := List.mem_map.mp stored
  obtain ⟨_, _, acceptable⟩ := oneRun.acceptable given isFile
  have read := reports_read rowsOf (fun report => report.rows.map rowObject) rows_of_report shards
  have flat : (files.map fun given => given.report.rows.map rowObject).flatten =
      (files.flatMap fun given => given.report.rows).map rowObject := by
    rw [List.map_flatMap, List.flatMap_def]
  obtain ⟨totals, isTotals, _⟩ :
      ∃ totals, (files.map fun given => given.report.rows.map rowObject).flatten.foldlM addToTotals {} =
        .ok totals ∧ True := by
    rw [flat, List.foldlM_map]
    refine @fold_returns _ _ _ _ (fun _ _ => True) _ ?_ _ trivial
    intro _ row _ totals whole _
    obtain ⟨other, otherFile, inRows⟩ : ∃ other ∈ files, row ∈ other.report.rows :=
      List.mem_flatMap.mp (whole ▸ List.mem_append_right _ List.mem_cons_self)
    obtain ⟨_, _, others⟩ := oneRun.acceptable other otherFile
    obtain ⟨next, returned⟩ := totals_returns (others row inRows) totals
    exact ⟨next, returned, trivial⟩
  have started : Balanced {} := ⟨List.nodup_nil, List.nodup_nil, rfl⟩
  obtain ⟨analytics, isAnalytics, balanced⟩ :
      ∃ analytics, (given.report.rows.map rowObject).foldlM addToAnalytics {} = .ok analytics ∧
        Balanced analytics := by
    rw [List.foldlM_map]
    refine @fold_returns _ _ _ _ (fun _ analytics => Balanced analytics) _ ?_ _ started
    intro _ row _ _ whole balanced
    exact analytics_returns (acceptable row (whole ▸ List.mem_append_right _ List.mem_cons_self)) balanced
  have ownRows : rowsOf given.shard.report = .ok (given.report.rows.map rowObject) := by
    simp only [ReportFile.shard]
    exact rows_of_report given.report
  exact ⟨_, bind_eq_ok.mpr ⟨_, given_eq_ok.mpr found, bind_eq_ok.mpr ⟨_, ownRows,
    bind_eq_ok.mpr ⟨(), rfl, bind_eq_ok.mpr ⟨_, read, bind_eq_ok.mpr ⟨totals, isTotals,
      bind_eq_ok.mpr ⟨analytics, isAnalytics, bind_eq_ok.mpr ⟨(), check_eq_ok.mpr balanced.totals,
        rfl⟩⟩⟩⟩⟩⟩⟩⟩

omit oneRun in
theorem snapshots_of_run (shards : inputs.shards = files.map ReportFile.shard) :
    ∃ snapshots, snapshotsOf inputs = .ok snapshots := by
  refine map_m_returns fun shard member => ?_
  rw [mem_sorted_iff, shards] at member
  obtain ⟨given, _, rfl⟩ := List.mem_map.mp member
  have snapshot : item given.shard.report "snapshot" =
      .ok (sortKeys (.obj given.report.snapshot.asDict)) := by
    simp only [ReportFile.shard, item, reportObject]
    rw [get_sorted (report_keys given.report)]
    rfl
  exact ⟨_, bind_eq_ok.mpr ⟨_, snapshot, rfl⟩⟩

theorem executions_of_run (same : shards = files.map ReportFile.shard) :
    ∃ executions, executionManifests shards (registryObject registry) = .ok executions := by
  refine map_m_returns fun shard member => ?_
  rw [mem_sorted_iff, same] at member
  obtain ⟨given, isFile, rfl⟩ := List.mem_map.mp member
  obtain ⟨_, isKinds, acceptable⟩ := oneRun.acceptable given isFile
  obtain ⟨result, returned⟩ := execution_manifest_returns (hexdigest given.bytes) isKinds
    (oneRun.distinct given isFile) acceptable
  exact ⟨_, bind_eq_ok.mpr ⟨result, returned, rfl⟩⟩

omit oneRun in
theorem load_shard_returns {given : ReportFile}
    (fresh : given.shard.service ∉ shards.map Shard.service) :
    ∃ manifest, loadShard shards given.file = .ok (given.shard, manifest) := by
  have rows : itemsOf (getD (reportObject given.report) "rows" (.arr [])) =
      .ok (given.report.rows.map fun row => .obj (rowObject row)) := by
    rw [stored_rows]
    rfl
  exact ⟨_, bind_eq_ok.mpr ⟨_, load_report_file given, bind_eq_ok.mpr ⟨_,
    service_of_report given.report (.str ""), bind_eq_ok.mpr ⟨(), check_eq_ok.mpr fresh,
      bind_eq_ok.mpr ⟨_, rows, rfl⟩⟩⟩⟩⟩

theorem load_shards_return : ∃ loaded, loadShards (files.map ReportFile.file) = .ok loaded ∧
    ShardsOf files loaded := by
  have distinct : ((files.map ReportFile.shard).map Shard.service).Nodup := by
    rw [shard_services oneRun]
    decide
  unfold loadShards
  rw [List.foldlM_map]
  refine @fold_returns _ _ _ _ ShardsOf files ?_ ([], []) ⟨rfl, List.nodup_nil⟩
  rintro before given after ⟨shards, manifests⟩ whole ⟨rfl, _⟩
  obtain ⟨_, isLoaded⟩ := load_shard_returns (fresh_service distinct whole)
  refine ⟨_, bind_eq_ok.mpr ⟨_, isLoaded, rfl⟩, by rw [List.map_append]; rfl, ?_⟩
  rw [whole, List.append_cons, List.map_append, List.map_append] at distinct
  have front := distinct.of_append_left
  rw [List.map_append] at front
  exact front

theorem inputs_return {mapping : JsonValue}
    (stored : readFile directory "taxonomy-mapping.json" = some mappingFile)
    (isMapping : loads mappingFile = some mapping)
    (shards : shardFiles directory = files.map ReportFile.file) :
    ∃ inputs, readInputs directory = .ok inputs ∧ inputs.mappingBytes = mappingFile ∧
      inputs.mapping = mapping ∧ inputs.shards = files.map ReportFile.shard := by
  obtain ⟨loaded, isLoaded, same, _⟩ := load_shards_return oneRun
  have all : AllShards loaded.1 := by
    unfold AllShards
    rw [same, shard_services oneRun]
    decide
  exact ⟨_, bind_eq_ok.mpr ⟨_, or_raise_eq_ok.mpr stored, bind_eq_ok.mpr ⟨_, given_eq_ok.mpr isMapping,
    bind_eq_ok.mpr ⟨_, shards ▸ isLoaded, bind_eq_ok.mpr ⟨(), check_eq_ok.mpr all, rfl⟩⟩⟩⟩, rfl, rfl,
    same⟩

theorem run_accepted (floatStr : String → String)
    (stored : readFile directory "taxonomy-mapping.json" = some mappingFile)
    (isMapping : loads mappingFile = some (.obj (registryObject registry)))
    (hash : boundary.mappingSha256 = hexdigest mappingFile)
    (shards : shardFiles directory = files.map ReportFile.file) :
    ∃ summary, aggregate floatStr directory none = .ok summary := by
  obtain ⟨inputs, isInputs, bytes, mapping, same⟩ := inputs_return oneRun stored isMapping shards
  have isBoundary := boundary_returns oneRun same (hash.trans (congrArg hexdigest bytes.symm))
  obtain ⟨totals, isTotals⟩ := totals_of_run oneRun floatStr same
  obtain ⟨snapshots, isSnapshots⟩ := snapshots_of_run same
  obtain ⟨executions, isExecutions⟩ := executions_of_run oneRun same
  have isObject : objectOf inputs.mapping = .ok (registryObject registry) := by
    rw [mapping]
    rfl
  exact ⟨_, bind_eq_ok.mpr ⟨inputs, isInputs, bind_eq_ok.mpr ⟨boundary, isBoundary,
    bind_eq_ok.mpr ⟨totals, isTotals, bind_eq_ok.mpr ⟨snapshots, isSnapshots,
      bind_eq_ok.mpr ⟨_, isObject, bind_eq_ok.mpr ⟨executions, isExecutions, rfl⟩⟩⟩⟩⟩⟩⟩

end OneRun

end FinanceTracker.Reclassification.Acceptance
