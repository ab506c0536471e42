import AuditReport.Contract.Batch

/-!
# Results by contract

Results come as one result, as a list, or keyed by the names of contracts. Without names they belong
to the one contract of the build.
-/
namespace AuditReport

open Decode (Checked)

inductive ResultSet where
  | unnamed (results : List AnalysisResult)
  | named (results : Table (List AnalysisResult))
  deriving Inhabited

namespace ResultSet

/-- Decodes results one by one; the first that is not valid ends it. Complaints are about that
result alone. -/
def decodeEach : List Json → Checked (List AnalysisResult)
  | [] => .ok []
  | v :: vs =>
    match AnalysisResult.decode v with
    | .bad cs => .bad cs
    | .ok r => (decodeEach vs).map (r :: ·)

/-- The results under a name, which may be one or a list. -/
def itemsOf : Json → List Json
  | .arr items => items
  | v => [v]

def decodeNamed : Json.Fields → Checked (Table (List AnalysisResult))
  | [] => .ok []
  | (name, v) :: fs =>
    match decodeEach (itemsOf v) with
    | .bad cs => .bad cs
    | .ok rs => (decodeNamed fs).map ((name, rs) :: ·)

def decode : Json → Except Fault ResultSet
  | .arr items => checked ((decodeEach items).map unnamed)
  | .obj fs =>
    if Table.has fs "issues" || Table.has fs "sourceList" then
      checked ((decodeEach [.obj fs]).map unnamed)
    else checked ((decodeNamed fs).map named)
  | _ => .error (.command .resultsShape)
where
  checked (x : Checked ResultSet) : Except Fault ResultSet :=
    match x with
    | .ok s => .ok s
    | .bad cs => .error (.command (.invalidResults cs))

def jobs (artifacts : List Artifact) : ResultSet → Except Fault (List Job)
  | unnamed rs =>
    match artifacts with
    | [a] => .ok [⟨a, rs⟩]
    | _ => .error (.command (.unkeyedResults artifacts.length))
  | named table =>
    .ok (artifacts.filterMap fun a => (Table.get? table a.name).map fun rs => ⟨a, rs⟩)

end ResultSet
end AuditReport
