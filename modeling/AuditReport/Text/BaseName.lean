import AuditReport.Text.Split

/-!
# Paths as text

Both slashes separate the components of a source path. Empty components and single dots count for
nothing; two dots are a component like any other.
-/
namespace AuditReport.Text

def pathComponents (path : List Char) : List (List Char) :=
  (pieces '/' path).filter fun p => p != [] && p != ['.']

/-- The last component of a path, empty when there is none. -/
def baseName (path : String) : String :=
  let slashed := path.toList.map fun c => if c = '\\' then '/' else c
  String.ofList ((pathComponents slashed).getLast?.getD [])

end AuditReport.Text
