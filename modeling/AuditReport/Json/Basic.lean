import AuditReport.Number.Binary64
import AuditReport.Table

/-!
# Document values

A document is a tree of values. Integers and floating numbers are different values, and the
entries of an object keep the order in which they were written.
-/
namespace AuditReport

inductive Json where
  | null
  | bool (b : Bool)
  | int (n : Int)
  | real (x : Binary64)
  | str (s : String)
  | arr (items : List Json)
  | obj (fields : List (String × Json))
  deriving Repr, Inhabited

namespace Json

abbrev Fields := Table Json

def fields? : Json → Option Fields
  | obj fs => some fs
  | _ => none

def text? : Json → Option String
  | str s => some s
  | _ => none

def isNull : Json → Bool
  | null => true
  | _ => false

/-- A value counts as given unless it is null, false, a zero or empty. -/
def given : Json → Bool
  | null => false
  | bool b => b
  | int n => n != 0
  | real x => !x.isZero
  | str s => s != ""
  | arr items => !items.isEmpty
  | obj fs => !fs.isEmpty

/-- The value if it counts as given, else the other one. -/
def orElse (v other : Json) : Json :=
  if v.given then v else other

/-- The value of an entry, null when there is none. -/
def valueOf (fs : Fields) (key : String) : Json :=
  (Table.get? fs key).getD null

/-- The value of an entry, or of the entry of another key when there is none. -/
def valueOfEither (fs : Fields) (key other : String) : Json :=
  (Table.get? fs key).getD (valueOf fs other)

def ofText? : Option String → Json
  | none => null
  | some s => str s

def ofInt? : Option Int → Json
  | none => null
  | some n => int n

def ofFields? : Option Fields → Json
  | none => null
  | some fs => obj fs

def ofTexts (ss : List String) : Json :=
  arr (ss.map str)

end Json
end AuditReport
