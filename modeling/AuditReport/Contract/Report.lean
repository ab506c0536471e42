import AuditReport.Config.Options
import AuditReport.Contract.View
import AuditReport.Diagnostic.Merge

/-!
# Reports of one contract

Every group of findings becomes a file report. Findings that can be ignored and records that the
filter drops are left out.
-/
namespace AuditReport

/-- What a record says: the head of a description, and its tail where the style has room. -/
def Description.message (d : Description) (spaceLimited : Bool) : String :=
  if spaceLimited then d.head else Text.strip (d.head ++ " " ++ d.tail)

namespace ContractView

def record (v : ContractView) (f : Finding) (spaceLimited : Bool) (format name : Option String) :
    Noted Record := do
  let span ← v.resolve f format name
  return {
    ruleId := Text.orDefault f.swcId missingId
    message := f.description.message spaceLimited
    severity := (Level.ofEngine f.severity).toInt
    engineSeverity := f.severity
    line := span.start.line
    column := span.start.column
    endLine := span.stop.map (·.line)
    endColumn := span.stop.map (·.column)
    fatal := false }

/-- The record of a finding, unless the finding or the record is left out. -/
def record? (v : ContractView) (filter : Filter) (spaceLimited : Bool) (format name : Option String)
    (f : Finding) : Noted (Option Record) := do
  if ← v.canIgnore f format name then return none
  let r ← v.record f spaceLimited format name
  return if filter.keeps r then some r else none

def fileReport (v : ContractView) (filter : Filter) (spaceLimited : Bool) (g : FindingGroup) :
    Noted FileReport := do
  let found ← Noted.each (v.record? filter spaceLimited g.format (some g.source)) g.findings
  let records := found.filterMap id
  return ⟨g.source, errorCount records, warningCount records, 0, 0, records⟩

end ContractView

structure ContractReport where
  name : String
  sourcePath : String
  reports : List FileReport
  logs : List LogLine
  deriving DecidableEq, Repr, Inhabited

namespace ContractReport

def resultReports (v : ContractView) (config : ReportConfig) (r : AnalysisResult) :
    Noted (List FileReport) := do
  let groups ← r.group
  Noted.each (v.fileReport config.filter config.spaceLimited) groups

def ofResults (a : Artifact) (results : List AnalysisResult) (config : ReportConfig) :
    Noted ContractReport := do
  let v ← ContractView.ofArtifact a
  let reports ← Noted.each (resultReports v config) results
  return ⟨a.name, a.sourcePath, reports.flatten, results.flatMap (·.info.logs)⟩

end ContractReport
end AuditReport
