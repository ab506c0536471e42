import AuditReport.Location.Resolver
import AuditReport.Syntax.Search

/-!
# Public arrays of open length

Compilers generate an accessor for a public state variable that is an array without a fixed length.
Findings inside the declaration of such a variable are about the accessor and can be ignored. Any
doubt is settled against ignoring.
-/
namespace AuditReport.Syntax

def variableDeclaration : String := "VariableDeclaration"

def arrayTypeName : String := "ArrayTypeName"

def isPublic : Json → Bool
  | .str s => s == "public"
  | _ => false

/-- Whether a declaration is that of a public state variable whose type is an array without a fixed
length. -/
def Node.isOpenArray (n : Node) : Except Fault Bool := do
  if n.label.isStateVariable && isPublic n.label.visibility then
    if (← n.declaredKind) = some (some arrayTypeName) then return !(← n.declaredLength)
    else return false
  else return false

/-- Whether an entry lies inside the declaration of a public open array of a source. -/
def isIgnorable (trees : Table Node) (e : SourceMap.Entry) (source : String) : Noted Bool :=
  if e.hasSource then
    match Table.byName? trees source with
    | none => return false
    | some tree => do
      match ← tree.findEnclosing variableDeclaration e.start e.length with
      | none => return false
      | some n =>
        if ← n.isOpenArray then
          Noted.leave (.openArray source e.start)
          return true
        else return false
  else return false

end AuditReport.Syntax
