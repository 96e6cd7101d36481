import FinanceTracker.Reclassification.ReportFiles

/-!
# The rows that are selected

The execution manifest that the aggregator makes of a report: its rows are those of the
report with a writable kind, a safe or evidenced disposition and a target.
-/

namespace FinanceTracker.Reclassification.Selection

open Library List Library Json JsonRoundTrip Runs SortedBy Contracts Aggregate Manifests ReportFiles

def executionRow (kinds : List String) (row : ReportRow) : Option ExecutionRow :=
  match row.targetKey, row.targetPublicId with
  | some targetKey, some targetPublicId =>
    if row.sourceKind ∈ kinds ∧
      (row.disposition = .safeOneToOne ∨ row.disposition = .evidenceProposal) ∧
      targetKey ≠ "" ∧ targetPublicId ≠ "" then
      some
        { sourceKind := row.sourceKind
          sourceId := row.sourceId
          legacyCategoryId := row.legacyCategoryId
          legacySubcategoryId := row.legacySubcategoryId
          disposition := row.disposition
          reasonCode := row.reasonCode
          targetKey
          targetPublicId }
    else none
  | _, _ => none

/-- What the row of a manifest has of the row of the report. -/
structure Carries (kinds : List String) (row : ReportRow) (executed : ExecutionRow) : Prop where
  kind : executed.sourceKind = row.sourceKind
  writable : row.sourceKind ∈ kinds
  sourceId : executed.sourceId = row.sourceId
  legacyCategoryId : executed.legacyCategoryId = row.legacyCategoryId
  legacySubcategoryId : executed.legacySubcategoryId = row.legacySubcategoryId
  disposition : executed.disposition = row.disposition
  executable : row.disposition = .safeOneToOne ∨ row.disposition = .evidenceProposal
  reasonCode : executed.reasonCode = row.reasonCode
  targetKey : row.targetKey = some executed.targetKey ∧ executed.targetKey ≠ ""
  targetPublicId : row.targetPublicId = some executed.targetPublicId ∧ executed.targetPublicId ≠ ""

theorem carries_iff {kinds : List String} {row : ReportRow} {executed : ExecutionRow} :
    executionRow kinds row = some executed ↔ Carries kinds row executed := by
  constructor
  · intro selected
    unfold executionRow at selected
    split at selected
    · next targetKey targetPublicId key publicId =>
      split at selected
      · next conditions =>
        rw [← Option.some.inj selected]
        obtain ⟨writable, executable, keyGiven, publicIdGiven⟩ := conditions
        exact ⟨rfl, writable, rfl, rfl, rfl, rfl, executable, rfl, ⟨key, keyGiven⟩,
          ⟨publicId, publicIdGiven⟩⟩
      · contradiction
    · contradiction
  · intro carries
    unfold executionRow
    rw [carries.targetKey.1, carries.targetPublicId.1]
    refine (if_pos ⟨carries.writable, carries.executable, carries.targetKey.2,
      carries.targetPublicId.2⟩).trans ?_
    simp only [← carries.kind, ← carries.sourceId, ← carries.legacyCategoryId,
      ← carries.legacySubcategoryId, ← carries.disposition, ← carries.reasonCode]

def candidateOf (row : ExecutionRow) : Candidate where
  sourceKind := row.sourceKind
  sourceId := row.sourceId
  legacyCategoryId := Contracts.optional .int row.legacyCategoryId
  legacySubcategoryId := Contracts.optional .int row.legacySubcategoryId
  disposition := row.disposition.value
  reasonCode := row.reasonCode
  targetKey := row.targetKey
  targetPublicId := row.targetPublicId

theorem truthy_optional {text : Option String} :
    truthy (Contracts.optional .str text) = true ↔ ∃ value, text = some value ∧ value ≠ "" := by
  cases text with
  | none | some => simp [Contracts.optional, truthy]

theorem executable_value {disposition : Disposition} :
    disposition.value ∈ ["safe_one_to_one", "evidence_proposal"] ↔
      disposition = .safeOneToOne ∨ disposition = .evidenceProposal := by
  cases disposition <;> decide

section Row

variable {service : String} {kinds : List String} {mapping : JsonObject}

theorem select_row_object {row : ReportRow} {identity : String × String} {selected : Selected}
    (isIdentity : identity = (row.sourceKind, row.sourceId))
    (returned : selectRow service kinds mapping (rowObject row) identity = .ok selected) :
    (∃ executed, executionRow kinds row = some executed ∧
      selected = .candidate (candidateOf executed)) ∨
    (executionRow kinds row = none ∧ ∃ reason, selected = .excluded reason) := by
  have distinct := report_row_keys row
  have disposition := str_get_sorted distinct "disposition" (.str "") rfl
  have targetKey := get_d_sorted distinct "target_key" .null rfl
  have targetPublicId := get_d_sorted distinct "target_public_id" .null rfl
  have categoryId := get_d_sorted distinct "legacy_category_id" .null rfl
  have subcategoryId := get_d_sorted distinct "legacy_subcategory_id" .null rfl
  have reasonCode : strField (rowObject row) "reason_code" = some row.reasonCode :=
    (str_field_sorted distinct "reason_code").trans rfl
  rw [optional_sorted (fun _ => rfl)] at targetKey targetPublicId categoryId subcategoryId
  have notExecuted (fails : ∀ executed, ¬Carries kinds row executed) : executionRow kinds row = none :=
    Option.eq_none_iff_forall_ne_some.mpr fun executed found => fails executed (carries_iff.mp found)
  unfold selectRow at returned
  obtain ⟨_, isDisposition, returned⟩ := bind_eq_ok.mp returned
  cases disposition.symm.trans isDisposition
  split at returned
  · next notWritable =>
    cases returned
    rw [isIdentity] at notWritable
    exact Or.inr ⟨notExecuted fun executed carries => notWritable carries.writable, _, rfl⟩
  split at returned
  · next notExecutable =>
    cases returned
    exact Or.inr ⟨notExecuted fun executed carries =>
      notExecutable (executable_value.mpr carries.executable), _, rfl⟩
  split at returned
  · next noTarget =>
    cases returned
    refine Or.inr ⟨notExecuted fun executed carries => ?_, _, rfl⟩
    simp only [rowObject, targetKey, targetPublicId, Bool.or_eq_true, Bool.not_eq_true',
      Bool.eq_false_iff, ne_eq, truthy_optional] at noTarget
    rcases noTarget with noKey | noPublicId
    · exact noKey ⟨_, carries.targetKey⟩
    · exact noPublicId ⟨_, carries.targetPublicId⟩
  next writable executable target =>
    simp only [rowObject, targetKey, targetPublicId, Bool.or_eq_true, Bool.not_eq_true',
      Bool.eq_false_iff, ne_eq, not_or, not_not, truthy_optional] at target
    obtain ⟨⟨key, isKey, keyGiven⟩, publicId, isPublicId, publicIdGiven⟩ := target
    obtain ⟨_, readKey, returned⟩ := bind_eq_ok.mp returned
    obtain ⟨_, readPublicId, returned⟩ := bind_eq_ok.mp returned
    obtain ⟨_, returned⟩ := rest_ok returned
    obtain ⟨_, returned⟩ := rest_ok returned
    obtain ⟨_, isReason, returned⟩ := bind_eq_ok.mp returned
    rw [given_eq_ok, rowObject, targetKey, isKey] at readKey
    rw [given_eq_ok, rowObject, targetPublicId, isPublicId] at readPublicId
    rw [given_eq_ok, reasonCode] at isReason
    cases readKey
    cases readPublicId
    cases isReason
    cases returned
    refine Or.inl ⟨⟨row.sourceKind, row.sourceId, row.legacyCategoryId, row.legacySubcategoryId,
      row.disposition, row.reasonCode, key, publicId⟩, carries_iff.mpr ?_, ?_⟩
    · rw [isIdentity] at writable
      exact ⟨rfl, not_not.mp writable, rfl, rfl, rfl, rfl,
        executable_value.mp (not_not.mp executable), rfl, ⟨isKey, keyGiven⟩,
        ⟨isPublicId, publicIdGiven⟩⟩
    · rw [isIdentity, rowObject, categoryId, subcategoryId]
      rfl

def pairOf (row : ReportRow) : String × String := (row.sourceKind, row.sourceId)

/-- What the loop has after the rows. -/
structure Selects (kinds : List String) (selection : Selection) (rows : List ReportRow)
    (final : Selection) : Prop where
  candidates : final.candidates =
    selection.candidates ++ (rows.filterMap (executionRow kinds)).map candidateOf
  identities : final.identities = selection.identities ++ rows.map pairOf
  distinct : selection.identities.Nodup → final.identities.Nodup

theorem select_next {row : ReportRow} {selection final : Selection}
    (returned : selectNext service kinds mapping selection (rowObject row) = .ok final) :
    Selects kinds selection [row] final := by
  have keys := report_row_keys row
  unfold selectNext at returned
  obtain ⟨_, isKind, returned⟩ := bind_eq_ok.mp returned
  obtain ⟨_, isId, returned⟩ := bind_eq_ok.mp returned
  cases (str_get_sorted keys "source_kind" _ rfl).symm.trans isKind
  cases (str_get_sorted keys "source_id" _ rfl).symm.trans isId
  obtain ⟨_, fresh, returned⟩ := bind_eq_ok.mp returned
  rw [check_eq_ok] at fresh
  obtain ⟨_, isSelected, returned⟩ := bind_eq_ok.mp returned
  cases returned
  have distinct : selection.identities.Nodup →
      (selection.identities ++ [(row.sourceKind, row.sourceId)]).Nodup := by
    intro distinct
    rw [nodup_append]
    refine ⟨distinct, nodup_singleton _, ?_⟩
    rintro first firstIn second secondIn rfl
    rw [mem_singleton.mp secondIn] at firstIn
    exact fresh firstIn
  rcases select_row_object rfl isSelected with ⟨executed, found, rfl⟩ | ⟨none, reason, rfl⟩
  · exact ⟨by rw [filterMap_cons_some found]; rfl, rfl, distinct⟩
  · exact ⟨by rw [filterMap_cons_none none]; simp [Selection.add], rfl, distinct⟩

theorem select_rows {rows : List ReportRow} {selection final : Selection}
    (returned : (rows.map rowObject).foldlM (selectNext service kinds mapping) selection = .ok final) :
    Selects kinds selection rows final := by
  induction rows generalizing selection with
  | nil =>
    cases returned
    exact ⟨by simp, by simp, id⟩
  | cons row rows ih =>
    rw [map_cons, foldlM_cons] at returned
    obtain ⟨_, step, returned⟩ := bind_eq_ok.mp returned
    have here := select_next step
    have later := ih returned
    refine ⟨?_, ?_, fun distinct => later.distinct (here.distinct distinct)⟩
    · have both : (row :: rows).filterMap (executionRow kinds) =
          [row].filterMap (executionRow kinds) ++ rows.filterMap (executionRow kinds) := by
        rw [← filterMap_append]
        rfl
      rw [later.candidates, here.candidates, both, map_append, append_assoc]
    · rw [later.identities, here.identities]
      simp

end Row

def manifestOf (kinds : List String) (service : String) (report : ServiceReport) (digest : String) :
    ExecutionManifest where
  runId := report.runId
  sourceService := service
  mappingVersion := report.mappingVersion
  mappingSha256 := report.mappingSha256
  sourceReportSha256 := digest
  rows := report.rows.filterMap (executionRow kinds)

theorem candidate_dicts (rows : List ExecutionRow) :
    ((sortedBy Candidate.identity (rows.map candidateOf)).map fun candidate =>
      JsonValue.obj candidate.asDict) =
      (sortedBy ExecutionRow.identity rows).map fun row => .obj row.asDict := by
  have sorted : sortedBy Candidate.identity (rows.map candidateOf) =
      (sortedBy ExecutionRow.identity rows).map candidateOf := sorted_map (fun _ => rfl) rows
  rw [sorted, map_map]
  rfl

theorem manifest_dict_object (report : ServiceReport) (service digest : String)
    (candidates : List Candidate) :
    manifestDict ⟨service, reportObject report, digest⟩ candidates =
      .ok [("schema_version", .str executionSchemaVersion), ("run_id", .str report.runId),
        ("source_service", .str service), ("mapping_version", .str report.mappingVersion),
        ("mapping_sha256", .str report.mappingSha256), ("source_report_sha256", .str digest),
        ("rows", .arr ((sortedBy Candidate.identity candidates).map fun candidate =>
          .obj candidate.asDict))] := by
  have keys := report_keys report
  have runId : item (reportObject report) "run_id" = .ok (.str report.runId) :=
    str_item_sorted keys "run_id" rfl
  have version : item (reportObject report) "mapping_version" = .ok (.str report.mappingVersion) :=
    str_item_sorted keys "mapping_version" rfl
  have sha : item (reportObject report) "mapping_sha256" = .ok (.str report.mappingSha256) :=
    str_item_sorted keys "mapping_sha256" rfl
  unfold manifestDict
  rw [runId, ok_bind, version, ok_bind, sha, ok_bind]

theorem manifest_dict_bytes (kinds : List String) (service : String) (report : ServiceReport)
    (digest : String) {dict : JsonObject}
    (isDict : manifestDict ⟨service, reportObject report, digest⟩
      ((report.rows.filterMap (executionRow kinds)).map candidateOf) = .ok dict) :
    executionManifestBytes (manifestOf kinds service report digest) = canonicalJson (.obj dict) := by
  rw [manifest_dict_object, candidate_dicts] at isDict
  have same : dict.Perm (manifestOf kinds service report digest).normalized.asDict := by
    rw [← Except.ok.inj isDict]
    exact (perm_append_singleton _ _).symm
  unfold executionManifestBytes canonicalJson
  rw [dumps_eq_of_perm (execution_manifest_keys _) same.symm]

variable {report : ServiceReport} {digest : String}

theorem execution_manifest_written {mapping : JsonObject} {service : String}
    {result : ByteArray × ExecutionSummary}
    (returned : executionManifest mapping ⟨service, reportObject report, digest⟩ = .ok result) :
    ∃ kinds, writableSourceKinds service = some kinds ∧
      executionManifestBytes (manifestOf kinds service report digest) = some result.1 ∧
      (report.rows.map pairOf).Nodup := by
  unfold executionManifest at returned
  obtain ⟨kinds, isKinds, returned⟩ := bind_eq_ok.mp returned
  obtain ⟨rows, isRows, returned⟩ := bind_eq_ok.mp returned
  cases (rows_of_report report).symm.trans isRows
  obtain ⟨selection, selects, returned⟩ := bind_eq_ok.mp returned
  obtain ⟨_, isDict, returned⟩ := bind_eq_ok.mp returned
  obtain ⟨_, isBytes, returned⟩ := bind_eq_ok.mp returned
  cases returned
  have selected := select_rows selects
  have candidates : selection.candidates =
      (report.rows.filterMap (executionRow kinds)).map candidateOf := selected.candidates
  have identities : selection.identities = report.rows.map pairOf := selected.identities
  rw [candidates] at isDict
  rw [given_eq_ok] at isBytes
  exact ⟨kinds, given_eq_ok.mp isKinds,
    (manifest_dict_bytes kinds service report digest isDict).trans isBytes,
    identities ▸ selected.distinct nodup_nil⟩

theorem manifest_identities {kinds : List String} {service : String}
    (distinct : (report.rows.map pairOf).Nodup) :
    ((manifestOf kinds service report digest).rows.map ExecutionRow.identity).Nodup := by
  have pairs : (report.rows.filterMap (executionRow kinds)).Pairwise
      fun first second => first.identity ≠ second.identity := by
    rw [pairwise_filterMap]
    refine (pairwise_map.mp distinct).imp ?_
    intro _ _ apart firstExecuted isFirst secondExecuted isSecond same
    have firstCarries := carries_iff.mp isFirst
    have secondCarries := carries_iff.mp isSecond
    have both : (firstExecuted.sourceKind, firstExecuted.sourceId) =
        (secondExecuted.sourceKind, secondExecuted.sourceId) := same
    rw [firstCarries.kind, firstCarries.sourceId, secondCarries.kind, secondCarries.sourceId] at both
    exact apart both
  exact pairwise_map.mpr pairs

theorem manifest_executable {kinds : List String} {service : String}
    (explained : ∀ row ∈ report.rows, row.reasonCode ≠ "") :
    ∀ executed ∈ (manifestOf kinds service report digest).rows, executed.Executable := by
  intro _ member
  obtain ⟨row, stored, found⟩ := mem_filterMap.mp member
  have carries := carries_iff.mp found
  refine ⟨carries.disposition ▸ carries.executable, ?_, carries.targetKey.2, carries.targetPublicId.2⟩
  rw [carries.reasonCode]
  exact explained row stored

theorem manifest_round_trip {kinds : List String} {service : String} {file : ByteArray}
    (distinct : (report.rows.map pairOf).Nodup)
    (explained : ∀ row ∈ report.rows, row.reasonCode ≠ "")
    (written : executionManifestBytes (manifestOf kinds service report digest) = some file) :
    loadExecutionManifest file service = .ok (manifestOf kinds service report digest).normalized ∧
      executionManifestBytes (manifestOf kinds service report digest).normalized = some file :=
  ⟨load_written rfl (manifest_identities distinct) (manifest_executable explained) written,
    (normalized_bytes _).trans written⟩

theorem excluded_not_carried {kinds : List String} {service : String}
    (distinct : (report.rows.map pairOf).Nodup) {row : ReportRow} (stored : row ∈ report.rows)
    (excluded : row.disposition ≠ .safeOneToOne ∧ row.disposition ≠ .evidenceProposal) :
    ∀ executed ∈ (manifestOf kinds service report digest).rows,
      (executed.sourceKind, executed.sourceId) ≠ pairOf row := by
  intro _ member same
  obtain ⟨other, otherStored, found⟩ := mem_filterMap.mp member
  have carries := carries_iff.mp found
  rw [carries.kind, carries.sourceId] at same
  have isRow : other = row := inj_on_of_nodup_map distinct otherStored stored same
  rw [isRow] at carries
  exact carries.executable.elim excluded.1 excluded.2

end FinanceTracker.Reclassification.Selection
