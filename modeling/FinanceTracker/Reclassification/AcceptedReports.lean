import FinanceTracker.Reclassification.Selection

/-!
# Reports that are accepted

What it means for the files of reports that the aggregator accepts them: the execution
manifests are written, and each of them is the manifest of a report.
-/

namespace FinanceTracker.Reclassification.AcceptedReports

open Library List Library Json Runs Sha256 SortedBy Contracts Aggregate Manifests ReportFiles
  Selection

structure ReportFile where
  filename : String
  bytes : ByteArray
  report : ServiceReport
  holds : Json.loads bytes = some (.obj (reportObject report))

def ReportFile.file (given : ReportFile) : String × ByteArray := (given.filename, given.bytes)

def ReportFile.shard (given : ReportFile) : Shard :=
  ⟨given.report.sourceService, reportObject given.report, hexdigest given.bytes⟩

theorem load_report_file (given : ReportFile) :
    load given.file = .ok (reportObject given.report, hexdigest given.bytes) := by
  unfold load
  rw [ReportFile.file, given.holds]
  rfl

theorem service_of_report (report : ServiceReport) (default : JsonValue) :
    strGet (reportObject report) "source_service" default = .ok report.sourceService :=
  str_get_sorted (report_keys report) "source_service" default rfl

theorem mapping_hash_of_report (report : ServiceReport) (default : JsonValue) :
    strGet (reportObject report) "mapping_sha256" default = .ok report.mappingSha256 :=
  str_get_sorted (report_keys report) "mapping_sha256" default rfl

theorem load_shard_ok {shards : List Shard} {given : ReportFile} {result : Shard × FileManifest}
    (returned : loadShard shards given.file = .ok result) :
    result.1 = given.shard ∧ given.shard.service ∉ shards.map Shard.service := by
  unfold loadShard at returned
  obtain ⟨_, loaded, returned⟩ := bind_eq_ok.mp returned
  cases (load_report_file given).symm.trans loaded
  obtain ⟨_, isService, returned⟩ := bind_eq_ok.mp returned
  cases (service_of_report given.report _).symm.trans isService
  obtain ⟨_, fresh, returned⟩ := bind_eq_ok.mp returned
  obtain ⟨_, returned⟩ := rest_ok returned
  cases returned
  exact ⟨rfl, check_eq_ok.mp fresh⟩

/-- The shards of the files read so far, each of its own service. -/
def ShardsOf (before : List ReportFile) (loaded : List Shard × List FileManifest) : Prop :=
  loaded.1 = before.map ReportFile.shard ∧ (loaded.1.map Shard.service).Nodup

theorem load_shards_ok {files : List ReportFile} {shards : List Shard} {manifests : List FileManifest}
    (returned : loadShards (files.map ReportFile.file) = .ok (shards, manifests)) :
    shards = files.map ReportFile.shard ∧ (shards.map Shard.service).Nodup := by
  unfold loadShards at returned
  rw [foldlM_map] at returned
  refine @fold_ok_keeps _ _ _ _ ShardsOf files ?_ ([], []) _ ⟨rfl, nodup_nil⟩ returned
  rintro before loaded given next _ ⟨same, distinct⟩ step
  obtain ⟨_, isLoaded, step⟩ := bind_eq_ok.mp step
  obtain ⟨isShard, fresh⟩ := load_shard_ok isLoaded
  cases step
  unfold ShardsOf
  rw [isShard]
  constructor
  · rw [same, map_append, map_singleton]
  · rw [map_append, nodup_append]
    refine ⟨distinct, nodup_singleton _, ?_⟩
    rintro first firstIn second secondIn rfl
    rw [map_singleton, mem_singleton] at secondIn
    rw [secondIn] at firstIn
    exact fresh firstIn

theorem set_fresh {shards : List Shard} {shard : Shard}
    (fresh : shard.service ∉ shards.map Shard.service) : setShard shards shard = shards ++ [shard] :=
  if_neg fresh

theorem fresh_service {files before after : List ReportFile} {given : ReportFile}
    (distinct : ((files.map ReportFile.shard).map Shard.service).Nodup)
    (whole : files = before ++ given :: after) :
    given.shard.service ∉ (before.map ReportFile.shard).map Shard.service := by
  rw [whole, map_append, map_append, nodup_append] at distinct
  intro stored
  exact distinct.2.2 _ stored _ (by simp) rfl

theorem read_shards {digest : String} {files : List ReportFile}
    (hashes : ∀ given ∈ files, given.report.mappingSha256 = digest)
    (distinct : ((files.map ReportFile.shard).map Shard.service).Nodup) :
    (files.map ReportFile.file).foldlM (readShard digest) [] = .ok (files.map ReportFile.shard) := by
  rw [foldlM_map]
  have steps : ∀ before given after (shards : List Shard), files = before ++ given :: after →
      shards = before.map ReportFile.shard → ∃ next, readShard digest shards given.file = .ok next ∧
        next = (before ++ [given]).map ReportFile.shard := by
    rintro before given after _ whole rfl
    have member : given ∈ files := whole ▸ mem_append_right _ mem_cons_self
    have hashText : hasText (reportObject given.report) "mapping_sha256" digest = true := by
      unfold reportObject
      rw [has_text_sorted (report_keys given.report)]
      exact decide_eq_true (congrArg some (hashes given member))
    refine ⟨before.map ReportFile.shard ++ [given.shard], ?_, by rw [map_append]; rfl⟩
    unfold readShard
    rw [load_report_file, ok_bind]
    simp only [service_of_report, ok_bind]
    exact bind_eq_ok.mpr ⟨(), check_eq_ok.mpr hashText,
      congrArg Except.ok (set_fresh (fresh_service distinct whole))⟩
  obtain ⟨_, returned, rfl⟩ := fold_returns steps rfl
  exact returned

section Loops

variable {Error Item Value State : Type} {items : List Item} {change : Item → Except Error Value}
  {values : List Value}

theorem fold_steps {step : State → Item → Except Error State} {Fits : Item → Prop}
    (fits : ∀ {state next : State} {item : Item}, step state item = .ok next → Fits item)
    {state final : State} (returned : items.foldlM step state = .ok final) :
    ∀ item ∈ items, Fits item := by
  induction items generalizing state with
  | nil => exact fun item member => by cases member
  | cons item items ih =>
    rw [foldlM_cons] at returned
    obtain ⟨_, here, returned⟩ := bind_eq_ok.mp returned
    exact forall_mem_cons.mpr ⟨fits here, ih returned⟩

theorem map_m_cons {item : Item} : (item :: items).mapM change = .ok values ↔
      ∃ value rest, change item = .ok value ∧ items.mapM change = .ok rest ∧ values = value :: rest := by
  rw [mapM_cons]
  constructor
  · intro returned
    obtain ⟨value, here, returned⟩ := bind_eq_ok.mp returned
    obtain ⟨rest, later, returned⟩ := bind_eq_ok.mp returned
    cases returned
    exact ⟨value, rest, here, later, rfl⟩
  · rintro ⟨value, rest, here, later, rfl⟩
    exact bind_eq_ok.mpr ⟨value, here, bind_eq_ok.mpr ⟨rest, later, rfl⟩⟩

theorem map_m_mem (returned : items.mapM change = .ok values) :
    ∀ value ∈ values, ∃ item ∈ items, change item = .ok value := by
  induction items generalizing values with
  | nil =>
    cases returned
    exact fun value member => by cases member
  | cons item items ih =>
    obtain ⟨_, _, here, later, rfl⟩ := map_m_cons.mp returned
    rw [forall_mem_cons]
    refine ⟨⟨item, mem_cons_self, here⟩, fun other member => ?_⟩
    obtain ⟨found, stored, made⟩ := ih later other member
    exact ⟨found, mem_cons_of_mem _ stored, made⟩

theorem map_m_returns (returns : ∀ item ∈ items, ∃ value, change item = .ok value) :
    ∃ values, items.mapM change = .ok values := by
  induction items with
  | nil => exact ⟨[], rfl⟩
  | cons item items ih =>
    obtain ⟨⟨value, here⟩, later⟩ := forall_mem_cons.mp returns
    obtain ⟨rest, returned⟩ := ih later
    exact ⟨value :: rest, map_m_cons.mpr ⟨value, rest, here, returned, rfl⟩⟩

theorem map_m_keys {Key : Type} {keyOf : Value → Key} {nameOf : Item → Key}
    (keeps : ∀ {item : Item} {value : Value}, change item = .ok value → keyOf value = nameOf item)
    (returned : items.mapM change = .ok values) :
    values.map keyOf = items.map nameOf := by
  induction items generalizing values with
  | nil =>
    cases returned
    rfl
  | cons item items ih =>
    obtain ⟨_, _, here, later, rfl⟩ := map_m_cons.mp returned
    rw [map_cons, map_cons, keeps here, ih later]

end Loops

theorem totals_reason {totals next : Totals} {row : ReportRow}
    (returned : addToTotals totals (rowObject row) = .ok next) : row.reasonCode ≠ "" := by
  have keys := report_row_keys row
  unfold addToTotals at returned
  obtain ⟨_, returned⟩ := rest_ok returned
  obtain ⟨_, isReason, returned⟩ := bind_eq_ok.mp returned
  cases (str_get_sorted keys "reason_code" _ rfl).symm.trans isReason
  obtain ⟨_, checked, _⟩ := bind_eq_ok.mp returned
  exact (check_eq_ok.mp checked).2

theorem common_all {values : List String} {value : String} (same : common values = some value) :
    ∀ other ∈ values, other = value := by
  intro other member
  unfold common at same
  split at same
  · next single isSingle =>
    cases same
    have stored : other ∈ values.dedup := mem_dedup.mpr member
    rw [isSingle] at stored
    exact mem_singleton.mp stored
  · contradiction

/-- What the aggregator and the writer of the manifests have in common. -/
structure Accepted (directory : Directory) (files : List ReportFile) (registry : JsonObject)
    (executions : List (String × ByteArray × ExecutionSummary)) : Prop where
  executed : executionManifests (files.map ReportFile.shard) registry = .ok executions
  explained : ∀ given ∈ files, ∀ row ∈ given.report.rows, row.reasonCode ≠ ""
  written : writeExecutionManifests directory =
    .ok (executions.map fun entry => (entry.1, entry.2.1))

variable {inputs : Inputs} {floatStr : String → String} {baseline : Option JsonValue}

theorem inputs_ok {directory : Directory} {files : List ReportFile}
    (shards : shardFiles directory = files.map ReportFile.file)
    (returned : readInputs directory = .ok inputs) :
    readFile directory "taxonomy-mapping.json" = some inputs.mappingBytes ∧
      loads inputs.mappingBytes = some inputs.mapping ∧
      inputs.shards = files.map ReportFile.shard ∧ (inputs.shards.map Shard.service).Nodup ∧
      AllShards inputs.shards := by
  unfold readInputs at returned
  obtain ⟨_, isFile, returned⟩ := bind_eq_ok.mp returned
  obtain ⟨_, isMapping, returned⟩ := bind_eq_ok.mp returned
  obtain ⟨⟨_, _⟩, isLoaded, returned⟩ := bind_eq_ok.mp returned
  obtain ⟨_, all, returned⟩ := bind_eq_ok.mp returned
  cases returned
  rw [shards] at isLoaded
  obtain ⟨same, distinct⟩ := load_shards_ok isLoaded
  exact ⟨or_raise_eq_ok.mp isFile, given_eq_ok.mp isMapping, same, distinct, check_eq_ok.mp all⟩

theorem reports_read {Value : Type} (change : JsonObject → Except AggregateError Value)
    (value : ServiceReport → Value)
    (changes : ∀ report, change (reportObject report) = .ok (value report))
    {files : List ReportFile} (shards : inputs.shards = files.map ReportFile.shard) :
    (inputs.shards.map Shard.report).mapM change = .ok (files.map fun given => value given.report) := by
  have reports : inputs.shards.map Shard.report =
      files.map fun given => reportObject given.report := by
    rw [shards, map_map]
    rfl
  have read : ∀ files : List ReportFile,
      (files.map fun given => reportObject given.report).mapM change =
        .ok (files.map fun given => value given.report) := by
    intro files
    induction files with
    | nil => rfl
    | cons given files ih =>
      rw [map_cons, mapM_cons, changes, ok_bind, ih]
      rfl
  rw [reports]
  exact read files

theorem boundary_hash {boundary : Boundary} {files : List ReportFile}
    (shards : inputs.shards = files.map ReportFile.shard)
    (returned : boundaryOf inputs = .ok boundary) :
    ∀ given ∈ files, given.report.mappingSha256 = hexdigest inputs.mappingBytes := by
  unfold boundaryOf at returned
  obtain ⟨_, returned⟩ := rest_ok returned
  obtain ⟨_, returned⟩ := rest_ok returned
  obtain ⟨hashes, isHashes, returned⟩ := bind_eq_ok.mp returned
  obtain ⟨_, returned⟩ := rest_ok returned
  obtain ⟨_, returned⟩ := rest_ok returned
  obtain ⟨_, returned⟩ := rest_ok returned
  obtain ⟨_, returned⟩ := rest_ok returned
  obtain ⟨_, isHash, returned⟩ := bind_eq_ok.mp returned
  obtain ⟨_, sameHash, _⟩ := bind_eq_ok.mp returned
  have values : hashes = files.map fun given => given.report.mappingSha256 := by
    have read := reports_read (fun report => strGet report "mapping_sha256" .null)
      ServiceReport.mappingSha256 (fun report => mapping_hash_of_report report .null) shards
    exact Except.ok.inj (isHashes.symm.trans read)
  intro _ member
  rw [values] at isHash
  exact (common_all (or_raise_eq_ok.mp isHash) _ (mem_map_of_mem member)).trans
    (check_eq_ok.mp sameHash)

theorem totals_explained {files : List ReportFile} {result : Totals × Analytics}
    (shards : inputs.shards = files.map ReportFile.shard)
    (returned : totalsOf floatStr inputs baseline = .ok result) :
    ∀ given ∈ files, ∀ row ∈ given.report.rows, row.reasonCode ≠ "" := by
  unfold totalsOf at returned
  obtain ⟨_, returned⟩ := rest_ok returned
  obtain ⟨_, returned⟩ := rest_ok returned
  obtain ⟨_, returned⟩ := rest_ok returned
  obtain ⟨rows, isRows, returned⟩ := bind_eq_ok.mp returned
  obtain ⟨_, isTotals, _⟩ := bind_eq_ok.mp returned
  have values : rows = files.map fun given => given.report.rows.map rowObject := by
    have read := reports_read rowsOf (fun report => report.rows.map rowObject) rows_of_report shards
    exact Except.ok.inj (isRows.symm.trans read)
  rw [values] at isTotals
  have flat : (files.map fun given => given.report.rows.map rowObject).flatten =
      (files.flatMap fun given => given.report.rows).map rowObject := by
    rw [map_flatMap, flatMap_def]
  rw [flat, foldlM_map] at isTotals
  have explained := fold_steps (fun {_ _ _} step => totals_reason step) isTotals
  intro given member row rowIn
  exact explained row (mem_flatMap.mpr ⟨given, member, rowIn⟩)

theorem accepted_files {directory : Directory} {summary : Summary} {files : List ReportFile}
    (shards : shardFiles directory = files.map ReportFile.file)
    (accepted : aggregate floatStr directory baseline = .ok summary) :
    ∃ registry executions, Accepted directory files registry executions := by
  unfold aggregate at accepted
  obtain ⟨_, isInputs, accepted⟩ := bind_eq_ok.mp accepted
  obtain ⟨_, isBoundary, accepted⟩ := bind_eq_ok.mp accepted
  obtain ⟨⟨_, _⟩, isTotals, accepted⟩ := bind_eq_ok.mp accepted
  obtain ⟨_, accepted⟩ := rest_ok accepted
  obtain ⟨registry, isRegistry, accepted⟩ := bind_eq_ok.mp accepted
  obtain ⟨executions, executed, _⟩ := bind_eq_ok.mp accepted
  obtain ⟨isFile, isMapping, isShards, distinct, all⟩ := inputs_ok shards isInputs
  have hashes := boundary_hash isShards isBoundary
  rw [isShards] at distinct all executed
  refine ⟨registry, executions, executed, totals_explained isShards isTotals, ?_⟩
  unfold writeExecutionManifests
  refine bind_eq_ok.mpr ⟨_, or_raise_eq_ok.mpr isFile, bind_eq_ok.mpr ⟨_, given_eq_ok.mpr isMapping, ?_⟩⟩
  rw [shards]
  exact bind_eq_ok.mpr ⟨_, read_shards hashes distinct, bind_eq_ok.mpr ⟨(), check_eq_ok.mpr all,
    bind_eq_ok.mpr ⟨registry, isRegistry, bind_eq_ok.mpr ⟨executions, executed, rfl⟩⟩⟩⟩

structure MadeOf (given : ReportFile) (kinds : List String) (file : String × ByteArray) : Prop where
  service : file.1 = given.report.sourceService
  writable : writableSourceKinds given.report.sourceService = some kinds
  distinct : (given.report.rows.map pairOf).Nodup
  loads : loadExecutionManifest file.2 given.report.sourceService =
    .ok (manifestOf kinds given.report.sourceService given.report (hexdigest given.bytes)).normalized
  reproduces : executionManifestBytes
    (manifestOf kinds given.report.sourceService given.report (hexdigest given.bytes)).normalized =
      some file.2

section Accepted

variable {directory : Directory} {files : List ReportFile} {registry : JsonObject}
  {executions : List (String × ByteArray × ExecutionSummary)}
  (accepted : Accepted directory files registry executions)

include accepted

theorem executed_services : executions.map Prod.fst =
    (sortedBy Shard.service (files.map ReportFile.shard)).map Shard.service := by
  refine map_m_keys ?_ accepted.executed
  intro _ _ returned
  obtain ⟨_, same⟩ := rest_ok returned
  cases same
  rfl

theorem made_of_report {entry : String × ByteArray × ExecutionSummary} (member : entry ∈ executions) :
    ∃ given ∈ files, ∃ kinds, MadeOf given kinds (entry.1, entry.2.1) := by
  obtain ⟨_, stored, returned⟩ := map_m_mem accepted.executed entry member
  obtain ⟨_, executed, same⟩ := bind_eq_ok.mp returned
  cases same
  obtain ⟨given, isFile, rfl⟩ := mem_map.mp ((mem_sorted_iff _).mp stored)
  obtain ⟨kinds, writable, written, distinct⟩ := execution_manifest_written executed
  obtain ⟨loads, reproduces⟩ :=
    manifest_round_trip distinct (accepted.explained given isFile) written
  exact ⟨given, isFile, kinds, rfl, writable, distinct, loads, reproduces⟩

end Accepted

end FinanceTracker.Reclassification.AcceptedReports
