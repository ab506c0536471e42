import AuditReport.Diagnostic.Model

/-!
# The order of records

Records are ordered by where they start, then by where they end; one without an end, or with half of
one, comes before those with an end. Records at the same place keep their order.
-/
namespace AuditReport

/-- The sign of the difference tells the order: lines first, then columns. -/
def comparePlaces (line₁ column₁ line₂ column₂ : Int) : Int :=
  if line₁ = line₂ then column₁ - column₂ else line₁ - line₂

namespace Record

/-- The end of a record, (-1, -1) unless both of its fields are there. -/
def endPlace (r : Record) : Int × Int :=
  match r.endLine, r.endColumn with
  | some l, some c => (l, c)
  | _, _ => (-1, -1)

def compare (a b : Record) : Int :=
  let first := comparePlaces a.line a.column b.line b.column
  if first = 0 then
    comparePlaces a.endPlace.1 a.endPlace.2 b.endPlace.1 b.endPlace.2
  else first

end Record

/-- The records in order; the sort is stable. -/
def sortRecords (rs : List Record) : List Record :=
  rs.mergeSort fun a b => a.compare b ≤ 0

end AuditReport
