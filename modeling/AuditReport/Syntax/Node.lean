import AuditReport.Fault
import AuditReport.Json.Display
import AuditReport.Text.Split

/-!
# Syntax trees

Compilers write syntax trees in two schemas. The compact schema tags a node with `nodeType` and
keeps properties and sub-nodes as direct entries; the legacy schema names a node, and keeps its
properties under `attributes` and its sub-nodes under `children`. Both are read into one kind of
tree.
-/
namespace AuditReport.Syntax

structure Range where
  start : Int
  length : Int
  deriving DecidableEq, Repr, Inhabited

namespace Range

/-- The range that a `src` entry writes: its first two fields. -/
def ofSrc : Json → Option Range
  | .str s =>
    match Text.pieces ':' s.toList with
    | a :: b :: _ => do
      let start ← Text.Numeral.read? a
      let length ← Text.Numeral.read? b
      return ⟨start, length⟩
    | _ => none
  | _ => none

def encloses (r : Range) (start length : Int) : Bool :=
  r.start ≤ start && start + length ≤ r.start + r.length

end Range

/-- What a node tells about itself in either schema. -/
structure Label where
  kind : Option String
  range : Option Range
  isStateVariable : Bool
  visibility : Json
  /-- The entries that name the node and its range, as they are written. -/
  title : Json
  src : Json
  deriving Repr, Inhabited

/-- What a compact node tells about the type that it declares. -/
structure DeclaredType where
  kind : Option String
  hasFixedLength : Bool
  deriving DecidableEq, Repr, Inhabited

inductive Node where
  | compact (label : Label) (declared : Option DeclaredType) (hasFixedLength : Bool)
      (children : List Node)
  | legacy (label : Label) (children : List Node)
  /-- A legacy node whose `children` entry is a number or `true`, which cannot be walked. -/
  | unwalkable (label : Label)
  deriving Repr, Inhabited

namespace Node

def label : Node → Label
  | compact l .. => l
  | legacy l _ => l
  | unwalkable l => l

def kind (n : Node) : Option String := n.label.kind

def range (n : Node) : Option Range := n.label.range

def children : Node → Except Fault (List Node)
  | compact _ _ _ cs => .ok cs
  | legacy _ cs => .ok cs
  | unwalkable _ => .error (.defect .notIterable)

/-- Whether an array type has a length: a legacy one has a second sub-node. -/
def hasFixedLength : Node → Except Fault Bool
  | compact _ _ fixed _ => .ok fixed
  | legacy _ cs => .ok (1 < cs.length)
  | unwalkable _ => .error (.defect .notIterable)

/-- The kind of the declared type; none when nothing is declared. A legacy node declares its first
sub-node. -/
def declaredKind : Node → Except Fault (Option (Option String))
  | compact _ declared _ _ => .ok (declared.map (·.kind))
  | legacy _ cs => .ok (cs.head?.map (·.kind))
  | unwalkable _ => .error (.defect .notIterable)

def declaredLength : Node → Except Fault Bool
  | compact _ declared _ _ => .ok (declared.any (·.hasFixedLength))
  | legacy _ [] => .ok false
  | legacy _ (c :: _) => c.hasFixedLength
  | unwalkable _ => .error (.defect .notIterable)

/-- The schema and the entries that name the node. -/
def summary (n : Node) : String :=
  let schema := match n with
    | compact .. => "CompactAstNode"
    | _ => "LegacyAstNode"
  s!"{schema}({n.label.title.quoted}, src={n.label.src.quoted})"

end Node

/-- Whether an entry is there and not null. -/
def isWritten (fs : Json.Fields) (key : String) : Bool :=
  !(Json.valueOf fs key).isNull

def isTrue (fs : Json.Fields) (key : String) : Bool :=
  match Json.valueOf fs key with
  | .bool b => b
  | _ => false

/-- The entries of an object under a key, none for anything else. -/
def entriesAt (fs : Json.Fields) (key : String) : Json.Fields :=
  ((Json.valueOf fs key).fields?).getD []

def labelOf (fs properties : Json.Fields) (kindKey : String) : Label where
  kind := (Json.valueOf fs kindKey).text?
  range := Range.ofSrc (Json.valueOf fs "src")
  isStateVariable := isTrue properties "stateVariable"
  visibility := Json.valueOf properties "visibility"
  title := Json.valueOfEither fs "nodeType" "name"
  src := Json.valueOf fs "src"

def compactLabel (fs : Json.Fields) : Label :=
  labelOf fs fs "nodeType"

def legacyLabel (fs : Json.Fields) : Label :=
  labelOf fs (entriesAt fs "attributes") "name"

def declaredType (fs : Json.Fields) : Option DeclaredType :=
  ((Json.valueOf fs "typeName").fields?).map fun t =>
    ⟨(Json.valueOf t "nodeType").text?, isWritten t "length"⟩

/-- Whether a value can be walked through: texts and objects have no nodes for items. -/
def isWalkable : Json → Bool
  | .bool b => !b
  | .int n => n == 0
  | .real x => x.isZero
  | _ => true

mutual

/-- The node that an object with a `nodeType` entry is. -/
def Node.ofCompact? : Json → Option Node
  | .obj fs =>
    if Table.has fs "nodeType" then
      some (.compact (compactLabel fs) (declaredType fs) (isWritten fs "length")
        (nodesOfFields fs))
    else none
  | _ => none

/-- The nodes among the values of entries and among the items of lists there. -/
def nodesOfFields : List (String × Json) → List Node
  | [] => []
  | (_, .arr items) :: fs => nodesOfItems items ++ nodesOfFields fs
  | (_, v) :: fs => (Node.ofCompact? v).toList ++ nodesOfFields fs

def nodesOfItems : List Json → List Node
  | [] => []
  | v :: vs => (Node.ofCompact? v).toList ++ nodesOfItems vs

end

mutual

/-- The node that an object is in the legacy schema. -/
def Node.ofLegacy? : Json → Option Node
  | .obj fs =>
    match legacyChildren fs with
    | some cs => some (.legacy (legacyLabel fs) cs)
    | none => some (.unwalkable (legacyLabel fs))
  | _ => none

/-- The sub-nodes that the `children` entry lists; none when it cannot be walked. -/
def legacyChildren : List (String × Json) → Option (List Node)
  | [] => some []
  | (key, .arr items) :: fs =>
    if key = "children" then some (legacyItems items) else legacyChildren fs
  | (key, v) :: fs =>
    if key = "children" then (if isWalkable v then some [] else none) else legacyChildren fs

def legacyItems : List Json → List Node
  | [] => []
  | v :: vs => (Node.ofLegacy? v).toList ++ legacyItems vs

end

/-- The tree of a root whose schema is known: compact when its `nodeType` is a text, legacy when
its `name` is one and it has children or attributes. -/
def Node.ofRoot? (root : Json) : Option Node :=
  match root with
  | .obj fs =>
    if ((Json.valueOf fs "nodeType").text?).isSome then Node.ofCompact? root
    else if ((Json.valueOf fs "name").text?).isSome &&
        (Table.has fs "children" || Table.has fs "attributes") then Node.ofLegacy? root
    else none
  | _ => none

end AuditReport.Syntax
