import AuditReport.Diagnostic.Order
import AuditReport.Table

/-!
# Merging file reports

Reports on the same path become one: the counts are added and the records sorted. Paths come in the
order of their first report. Afterwards every record is kept once, at its first place, and errors
and warnings are counted anew.
-/
namespace AuditReport
namespace FileReport

/-- The report with the counts added and the records appended of another one. -/
def add (r s : FileReport) : FileReport :=
  { r with
    errors := r.errors + s.errors
    warnings := r.warnings + s.warnings
    fixableErrors := r.fixableErrors + s.fixableErrors
    fixableWarnings := r.fixableWarnings + s.fixableWarnings
    records := r.records ++ s.records }

/-- Adds a report to the one on its path, or puts it last. -/
def addTo : List FileReport → FileReport → List FileReport
  | [], s => [s]
  | r :: rs, s => if r.path = s.path then r.add s :: rs else r :: addTo rs s

def sorted (r : FileReport) : FileReport :=
  { r with records := sortRecords r.records }

def mergeByPath (rs : List FileReport) : List FileReport :=
  (rs.foldl addTo []).map sorted

end FileReport

/-- The first of equal items, in order, leaving out what was seen before. -/
def firstSeenFrom {α : Type} [DecidableEq α] (seen : List α) : List α → List α
  | [] => []
  | a :: as => if a ∈ seen then firstSeenFrom seen as else a :: firstSeenFrom (a :: seen) as

def firstSeen {α : Type} [DecidableEq α] (as : List α) : List α :=
  firstSeenFrom [] as

namespace FileReport

def dedupe (r : FileReport) : FileReport :=
  r.withRecords (firstSeen r.records)

/-- Reports of any number of batches as one report a path, with every record once. -/
def combine (rs : List FileReport) : List FileReport :=
  (mergeByPath rs).map dedupe

end FileReport
end AuditReport
