import AuditReport.Contract.Batch
import AuditReport.Proofs.Diagnostic.Merge

/-!
# The canonical form of the combined reports

However the reports of contracts are spread over paths, their combination has one report a path.
Its records, their order and its counts are told here by the given reports alone.
-/
namespace AuditReport

namespace FileReport

structure Canonical (given : List FileReport) (r : FileReport) : Prop where
  nodup : r.records.Nodup
  mem_records : ∀ m, m ∈ r.records ↔ ∃ s ∈ given, s.path = r.path ∧ m ∈ s.records
  ascending : r.records.Pairwise fun a b => a.compare b ≤ 0
  /-- Records at one place stand in the order in which the given reports first tell them. -/
  stable : r.records.Pairwise fun a b => a.compare b = 0 →
    (recordsOn r.path given).idxOf a < (recordsOn r.path given).idxOf b
  errors : r.errors = r.records.countP fun m => m.fatal || m.severity == 2
  counted : r.errors + r.warnings = r.records.length
  fixableErrors : r.fixableErrors =
    ((given.filter fun s => s.path = r.path).map (·.fixableErrors)).sum
  fixableWarnings : r.fixableWarnings =
    ((given.filter fun s => s.path = r.path).map (·.fixableWarnings)).sum

theorem errorCount_add_warningCount (rs : List Record) :
    errorCount rs + warningCount rs = rs.length := by
  rw [List.length_eq_countP_add_countP Record.isError (l := rs), errorCount, warningCount]
  simp

theorem merged_canonical (given : List FileReport) (path : String) :
    (merged given path).Canonical given where
  nodup := nodup_firstSeen _
  mem_records _ := mem_merged_records
  ascending := firstSeen_sortRecords_ascending _
  stable := firstSeen_sortRecords_stable _
  errors := rfl
  counted := by
    have h := errorCount_add_warningCount (merged given path).records
    change (errorCount (merged given path).records : Int) +
      warningCount (merged given path).records = _
    omega
  fixableErrors := rfl
  fixableWarnings := rfl

end FileReport

/-- What makes reports the canonical form of the given ones: one a path that is given, in the order
in which the paths first come, each canonical. -/
structure CanonicalForm (given rs : List FileReport) : Prop where
  nodup_paths : (rs.map (·.path)).Nodup
  mem_paths : ∀ p, p ∈ rs.map (·.path) ↔ p ∈ given.map (·.path)
  ordered : (rs.map (·.path)).Pairwise fun p q =>
    (given.map (·.path)).idxOf p < (given.map (·.path)).idxOf q
  canonical : ∀ r ∈ rs, r.Canonical given

theorem combinedReports_canonicalForm (contracts : List ContractReport) :
    CanonicalForm (contracts.flatMap (·.reports)) (combinedReports contracts) := by
  have hpaths := FileReport.map_path_combine (contracts.flatMap (·.reports))
  constructor
  · rw [combinedReports, hpaths]
    exact nodup_firstSeen _
  · intro p
    rw [combinedReports, hpaths, mem_firstSeen]
  · rw [combinedReports, hpaths]
    exact firstSeen_pairwise_idxOf _
  · intro r hr
    rw [FileReport.eq_merged_of_mem_combine hr]
    exact FileReport.merged_canonical _ _

end AuditReport
