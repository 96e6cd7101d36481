import FinanceTracker.Reclassification.Aggregate
import FinanceTracker.Reclassification.Manifests
import FinanceTracker.Library.Runs

/-!
# The files of the reports

What a service writes of its report and what the aggregator reads of the file.
-/

namespace FinanceTracker.Reclassification.ReportFiles

open Library Library Counters Json JsonText JsonRoundTrip KeyedRows
open Library.Runs (fold_some_keeps)
open Library.SortedBy Contracts Aggregate Manifests

/-- The keys of the dicts of a snapshot are distinct. -/
structure PlainSnapshot (snapshot : SnapshotBoundary) : Prop where
  tables : (snapshot.tableCounts.map Prod.fst).Nodup
  histograms : (snapshot.referenceHistograms.map Prod.fst).Nodup
  references : ∀ entry ∈ snapshot.referenceHistograms, (entry.2.map Prod.fst).Nodup

theorem counts_plain {counts : List (String × ℕ)} (distinct : (counts.map Prod.fst).Nodup) :
    Plain (.obj (countsDict counts)) := by
  have keys : (countsDict counts).map Prod.fst = counts.map Prod.fst := by
    simp [countsDict, Function.comp_def]
  refine ⟨by rw [keys]; exact distinct, plain_entries_iff.mpr ?_⟩
  intro _ member
  obtain ⟨_, _, rfl⟩ := List.mem_map.mp member
  trivial

theorem snapshot_plain {snapshot : SnapshotBoundary} (plain : PlainSnapshot snapshot) :
    Plain (.obj snapshot.asDict) := by
  have keys : (snapshot.asDict.map Prod.fst).Nodup := by simp [SnapshotBoundary.asDict]
  have histograms : Plain (.obj (snapshot.referenceHistograms.map fun entry =>
      (entry.1, .obj (countsDict entry.2)))) := by
    refine ⟨by simpa [Function.comp_def] using plain.histograms, plain_entries_iff.mpr ?_⟩
    intro _ member
    obtain ⟨histogram, stored, rfl⟩ := List.mem_map.mp member
    exact counts_plain (plain.references histogram stored)
  have outbox := plain_optional JsonValue.str (fun _ => trivial) snapshot.outboxMaxId
  have inbox := plain_optional JsonValue.int (fun _ => trivial) snapshot.inboxMaxId
  exact ⟨keys, trivial, counts_plain plain.tables, histograms, outbox, inbox, trivial⟩

theorem report_row_keys (row : ReportRow) : (row.asDict.map Prod.fst).Nodup := by
  simp [ReportRow.asDict]

theorem report_row_plain (row : ReportRow) : Plain (.obj row.asDict) := by
  have ints := plain_optional JsonValue.int fun _ => trivial
  have texts := plain_optional JsonValue.str fun _ => trivial
  have evidence : Plain (.arr (row.evidence.map .str)) := by
    rw [Plain, plain_items_iff]
    intro _ member
    obtain ⟨_, _, rfl⟩ := List.mem_map.mp member
    trivial
  exact ⟨report_row_keys row, trivial, trivial, ints row.legacyCategoryId,
    ints row.legacySubcategoryId, trivial, trivial, texts row.targetKey, texts row.targetPublicId,
    texts row.amount, trivial, evidence, trivial⟩

theorem detail_plain (detail : DetailManifest) : Plain (.obj detail.asDict) :=
  ⟨by simp [DetailManifest.asDict], trivial, trivial, trivial, trivial⟩

theorem report_keys (report : ServiceReport) : (report.asDict.map Prod.fst).Nodup := by
  simp [ServiceReport.asDict]

/-- The keys of the totals of a report are the five dispositions. -/
structure PlainTotals (report : ServiceReport) : Prop where
  counts : (report.counts.map Prod.fst).Nodup
  amounts : (report.amounts.map Prod.fst).Nodup

variable {report : ServiceReport} {rows : List ReportRow}

theorem report_plain (snapshot : PlainSnapshot report.snapshot) (totals : PlainTotals report) :
    Plain (.obj report.asDict) := by
  have rows := plain_list report_row_plain report.rows
  have detail := plain_optional (fun detail => .obj detail.asDict) detail_plain report.detail
  have amounts : Plain (.obj (report.amounts.map fun entry => (entry.1, .str entry.2))) := by
    refine ⟨by simpa [Function.comp_def] using totals.amounts, plain_entries_iff.mpr ?_⟩
    intro _ member
    obtain ⟨_, _, rfl⟩ := List.mem_map.mp member
    trivial
  exact ⟨report_keys report, trivial, trivial, trivial, trivial, snapshot_plain snapshot, rows, trivial,
    detail, counts_plain totals.counts, amounts, trivial⟩

theorem disposition_keys_distinct {Amount : Type} {counter : Counter Disposition Amount}
    (distinct : (counter.map Prod.fst).Nodup) :
    (counter.map fun entry => entry.1.value).Nodup := by
  have values : (counter.map fun entry => entry.1.value) =
      (counter.map Prod.fst).map Disposition.value := by simp [Function.comp_def]
  rw [values]
  exact distinct.map fun _ _ same => disposition_value_injective same

theorem counts_distinct (rows : List ReportRow) :
    DistinctKeys Prod.fst (dispositionCounts rows) := by
  have kept : ∀ (rows : List ReportRow) (counts : Counter Disposition ℕ),
      DistinctKeys Prod.fst counts →
        DistinctKeys Prod.fst (rows.foldl (fun counts row => increase counts row.disposition 1) counts) := by
    intro rows
    induction rows with
    | nil => exact fun _ distinct => distinct
    | cons row rows ih => exact fun _ distinct => ih _ (increase_distinct distinct _ _)
  exact kept rows _ (by simp [DistinctKeys, dispositions])

theorem amounts_distinct {totals : Counter Disposition ℚ}
    (summed : dispositionAmounts rows = some totals) : DistinctKeys Prod.fst totals := by
  unfold dispositionAmounts at summed
  refine fold_some_keeps ?_ (by simp [DistinctKeys, dispositions]) summed
  intro _ _ _ distinct step
  split at step
  · rw [← Option.some.inj step]
    exact distinct
  · obtain ⟨_, _, rfl⟩ := Option.map_eq_some_iff.mp step
    exact increase_distinct distinct _ _

structure Normalizes (report normalized : ServiceReport) : Prop where
  runId : normalized.runId = report.runId
  sourceService : normalized.sourceService = report.sourceService
  mappingVersion : normalized.mappingVersion = report.mappingVersion
  mappingSha256 : normalized.mappingSha256 = report.mappingSha256
  snapshot : normalized.snapshot = report.snapshot
  rows : normalized.rows = sortedBy ReportRow.identity report.rows
  schemaVersion : normalized.schemaVersion = report.schemaVersion
  detail : normalized.detail = report.detail
  counts : normalized.counts =
    (dispositionCounts normalized.rows).map fun entry => (entry.1.value, entry.2)
  totals : PlainTotals normalized

theorem normalizes {normalized : ServiceReport} (isNormal : report.normalized = some normalized) :
    Normalizes report normalized := by
  unfold ServiceReport.normalized at isNormal
  obtain ⟨_, summed, rfl⟩ := Option.map_eq_some_iff.mp isNormal
  refine ⟨rfl, rfl, rfl, rfl, rfl, rfl, rfl, rfl, rfl, ?_, ?_⟩
  · rw [List.map_map]
    exact disposition_keys_distinct (counts_distinct _)
  · rw [List.map_map]
    exact disposition_keys_distinct (amounts_distinct summed)

def reportObject (report : ServiceReport) : JsonObject := sortedBy Prod.fst (sortEntries report.asDict)

theorem report_file_loads {file : ByteArray} (snapshot : PlainSnapshot report.snapshot)
    (written : reportBytes report = some file) :
    ∃ normalized, Normalizes report normalized ∧ loads file = some (.obj (reportObject normalized)) := by
  unfold reportBytes at written
  obtain ⟨normalized, isNormal, written⟩ := Option.bind_eq_some_iff.mp written
  have same := normalizes isNormal
  have plain : Plain (.obj normalized.asDict) := by
    refine report_plain ?_ same.totals
    rw [same.snapshot]
    exact snapshot
  have read := canonical_read plain written
  rw [sort_keys_obj] at read
  exact ⟨normalized, same, read⟩

theorem disposition_counts_short (short : (writeInt rows.length).isSome = true) :
    ∀ entry ∈ dispositionCounts rows, (writeInt entry.2).isSome = true := by
  intro entry member
  have started : DistinctKeys Prod.fst (dispositions.map fun disposition => (disposition, 0)) := by
    simp [DistinctKeys, dispositions]
  have total := total_of_items ReportRow.disposition rows started
  have none : ((dispositions.map fun disposition => (disposition, 0)).map Prod.snd).sum = 0 := by decide
  have bound : entry.2 ≤ ((dispositionCounts rows).map Prod.snd).sum :=
    List.le_sum_of_mem (List.mem_map_of_mem member)
  rw [none, Nat.zero_add] at total
  exact short_of_le (bound.trans total.le) short

theorem disposition_amounts_some {rows : List ReportRow}
    (amounts : ∀ row ∈ rows, ∀ amount, row.amount = some amount → (decimalValue amount).isSome = true) :
    ∃ totals, dispositionAmounts rows = some totals := by
  unfold dispositionAmounts
  generalize dispositions.map (fun disposition => (disposition, (0 : ℚ))) = totals
  induction rows generalizing totals with
  | nil => exact ⟨totals, rfl⟩
  | cons row rows ih =>
    obtain ⟨here, later⟩ := List.forall_mem_cons.mp amounts
    rw [List.foldlM_cons]
    cases given : row.amount with
    | none => exact ih later totals
    | some amount =>
      obtain ⟨_, isValue⟩ := Option.isSome_iff_exists.mp (here amount given)
      dsimp only
      rw [isValue]
      exact ih later _

/-- Python writes every number of the report. -/
structure ShortReport (report : ServiceReport) : Prop where
  snapshot : ShortInts (.obj report.snapshot.asDict)
  rows : ∀ row ∈ report.rows, ShortInts (.obj row.asDict)
  rowCount : (writeInt report.rows.length).isSome = true
  detail : report.detail = none

theorem report_written (short : ShortReport report)
    (amounts : ∀ row ∈ report.rows, ∀ amount, row.amount = some amount →
      (decimalValue amount).isSome = true) : ∃ file, reportBytes report = some file := by
  obtain ⟨_, summed⟩ := @disposition_amounts_some (sortedBy ReportRow.identity report.rows)
    fun row member => amounts row ((mem_sorted_iff _).mp member)
  obtain ⟨normalized, isNormal⟩ : ∃ normalized, report.normalized = some normalized := by
    unfold ServiceReport.normalized
    dsimp only
    rw [summed]
    exact ⟨_, rfl⟩
  have same := normalizes isNormal
  have rows : ShortInts (.arr (normalized.rows.map fun row => .obj row.asDict)) := by
    rw [ShortInts, short_items_iff]
    intro _ member
    obtain ⟨row, stored, rfl⟩ := List.mem_map.mp member
    rw [same.rows, mem_sorted_iff] at stored
    exact short.rows row stored
  have rowCount : (writeInt normalized.rows.length).isSome = true := by
    rw [same.rows, sorted_length]
    exact short.rowCount
  have counts : ShortInts (.obj (countsDict normalized.counts)) := by
    rw [ShortInts, short_entries_iff]
    intro _ member
    obtain ⟨_, inCounts, rfl⟩ := List.mem_map.mp member
    rw [same.counts] at inCounts
    obtain ⟨original, stored, rfl⟩ := List.mem_map.mp inCounts
    exact disposition_counts_short rowCount original stored
  have amounts : ShortInts (.obj (normalized.amounts.map fun entry => (entry.1, .str entry.2))) := by
    rw [ShortInts, short_entries_iff]
    intro _ member
    obtain ⟨_, _, rfl⟩ := List.mem_map.mp member
    trivial
  have snapshot : ShortInts (.obj normalized.snapshot.asDict) := by
    rw [same.snapshot]
    exact short.snapshot
  have detail : ShortInts (Contracts.optional (fun detail : DetailManifest => .obj detail.asDict)
      normalized.detail) := by
    rw [same.detail, short.detail]
    trivial
  have all : ShortInts (.obj normalized.asDict) :=
    ⟨trivial, trivial, trivial, trivial, snapshot, rows, trivial, detail, counts, amounts, trivial⟩
  obtain ⟨_, written⟩ := dumps_some all
  unfold reportBytes canonicalJson
  rw [isNormal, Option.bind_some, written]
  exact ⟨_, rfl⟩

section Fields

variable {entries : JsonObject} (distinct : (entries.map Prod.fst).Nodup) (key : String)

include distinct

theorem get_d_sorted {value : JsonValue} (default : JsonValue) (found : Json.get entries key = some value) :
    getD (sortedBy Prod.fst (sortEntries entries)) key default = sortKeys value := by
  unfold getD
  rw [get_sorted distinct, found]
  rfl

theorem str_get_sorted {text : String} (default : JsonValue)
    (found : Json.get entries key = some (.str text)) :
    strGet (sortedBy Prod.fst (sortEntries entries)) key default = .ok text := by
  unfold strGet
  rw [get_d_sorted distinct key default found]
  rfl

theorem str_item_sorted {text : String} (found : Json.get entries key = some (.str text)) :
    item (sortedBy Prod.fst (sortEntries entries)) key = .ok (.str text) := by
  unfold item
  rw [get_sorted distinct, found]
  rfl

end Fields

theorem optional_sorted {Value : Type} {json : Value → JsonValue}
    (scalar : ∀ value, sortKeys (json value) = json value) (given : Option Value) :
    sortKeys (Contracts.optional json given) = Contracts.optional json given := by
  cases given with
  | none => rfl
  | some value => exact scalar value

def rowObject (row : ReportRow) : JsonObject := sortedBy Prod.fst (sortEntries row.asDict)

theorem stored_rows (report : ServiceReport) :
    getD (reportObject report) "rows" (.arr []) =
      .arr (report.rows.map fun row => .obj (rowObject row)) := by
  refine (get_d_sorted (report_keys report) "rows" _ rfl).trans ?_
  rw [sortKeys, sort_items_map, List.map_map]
  congr 1

theorem rows_of_report (report : ServiceReport) :
    rowsOf (reportObject report) = .ok (report.rows.map rowObject) := by
  unfold rowsOf
  rw [stored_rows]
  have objects : ∀ rows : List ReportRow, (rows.map fun row => JsonValue.obj (rowObject row)).mapM objectOf =
      Except.ok (rows.map rowObject) := by
    intro rows
    induction rows with
    | nil => rfl
    | cons row rows ih =>
      rw [List.map_cons, List.mapM_cons, ih]
      rfl
  exact objects report.rows

end FinanceTracker.Reclassification.ReportFiles
