import AuditReport.Json.Display
import AuditReport.Text.Blank
import AuditReport.Text.Split

/-!
# Rule ids

A rule id is written `SWC-` and a number or name. Ids that are given without the tag, or with it in
other letters, are brought to this form. A list of ids may be given as a text with commas, as a list,
or as a single value.
-/
namespace AuditReport.RuleId

def tag : List Char := ['S', 'W', 'C', '-']

/-- Whether a character is the given capital in some letter case; the long s is a small S. -/
def isCaseOf (capital c : Char) : Bool :=
  c == capital || c.toUpper == capital || (capital == 'S' && c.toNat == 0x17F)

def hasTag : List Char → Bool
  | a :: b :: c :: d :: _ => isCaseOf 'S' a && isCaseOf 'W' b && isCaseOf 'C' c && d == '-'
  | _ => false

def normalize (s : List Char) : List Char :=
  let t := Text.trim s
  if hasTag t then tag ++ Text.trim (t.drop 4) else tag ++ t

def ofJson (v : Json) : String :=
  String.ofList (normalize v.shown.toList)

/-- Whether a value is shown as blanks only. -/
def isBlankItem (v : Json) : Bool :=
  (Text.trim v.shown.toList).isEmpty

/-- The items that a list of ids is made of. Null, false and the empty text have none; an object has
its keys. -/
def items : Json → List Json
  | .null => []
  | .bool false => []
  | .str s => if s = "" then [] else (Text.pieces ',' s.toList).map fun p => .str (String.ofList p)
  | .arr items => items
  | .obj fs => fs.map fun f => .str f.1
  | v => [v]

/-- The ids of a list, without the blank items. -/
def listOfJson (v : Json) : List String :=
  ((items v).filter fun i => !isBlankItem i).map ofJson

end AuditReport.RuleId
