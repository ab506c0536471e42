import AuditReport.Decode.IntegerText

/-!
# Decoders of single values and of fields

Whole numbers may come as numbers without a fraction, as truth values or as text; truth values as
numbers or as words. Texts must be texts. A field may be written under either of two names, of
which the first wins even when it holds null.
-/
namespace AuditReport.Decode

variable {α : Type}

def anything (v : Json) : Checked Json :=
  .ok v

def text : Json → Checked String
  | .str s => .ok s
  | _ => .fail .notText

def wordBound : Nat := 0x8000000000000000

def fitsWord (n : Int) : Bool :=
  decide (-(wordBound : Int) ≤ n) && decide (n < (wordBound : Int))

/-- The whole number that a floating number is, below 2^63 in magnitude. -/
def integerOfReal (x : Binary64) : Checked Int :=
  if !x.isFinite then .fail .notFinite
  else
    match x.toInt? with
    | none => .fail .fractionalInteger
    | some n => if n.natAbs < wordBound then .ok n else .fail .oversizedInteger

def integer : Json → Checked Int
  | .int n => .ok n
  | .bool b => .ok (if b then 1 else 0)
  | .real x => integerOfReal x
  | .str s => IntegerText.read s
  | _ => .fail .notInteger

def trueWords : List String := ["1", "t", "true", "y", "yes", "on"]

def falseWords : List String := ["0", "f", "false", "n", "no", "off"]

/-- The truth value of a word, in any letter case. -/
def truthOfText (s : String) : Checked Bool :=
  if trueWords.contains s.toLower then .ok true
  else if falseWords.contains s.toLower then .ok false
  else .fail .unreadableTruth

/-- The truth value of one or zero; a number of more than 64 bits is of another type. -/
def truthOfInteger (n : Int) : Checked Bool :=
  if n = 1 then .ok true
  else if n = 0 then .ok false
  else if fitsWord n then .fail .unreadableTruth
  else .fail .notTruth

def truth : Json → Checked Bool
  | .bool b => .ok b
  | .int n => truthOfInteger n
  | .real x =>
    match integerOfReal x with
    | .ok n => truthOfInteger n
    | .bad _ => .fail .notTruth
  | .str s => truthOfText s
  | _ => .fail .notTruth

/-- Null, or a value for the decoder. -/
def optional (d : Json → Checked α) : Json → Checked (Option α)
  | .null => .ok none
  | v => (d v).map some

def listOf (d : Json → Checked α) : Json → Checked (List α)
  | .arr items => Checked.items d 0 items
  | _ => .fail .notList

/-- Like `listOf`, for records that call the list a tuple. -/
def tupleOf (d : Json → Checked α) : Json → Checked (List α)
  | .arr items => Checked.items d 0 items
  | _ => .fail .notTuple

def object : Json → Checked Json.Fields
  | .obj fs => .ok fs
  | _ => .fail .notObject

def tableOf (d : Json → Checked α) : Json → Checked (Table α)
  | .obj fs => Checked.values d fs
  | _ => .fail .notObject

def model (d : Json.Fields → Checked α) : Json → Checked α
  | .obj fs => d fs
  | _ => .fail .notModel

/-- The names of a field: the one that is written, and one that is read as well. -/
structure FieldName where
  written : String
  other : String
  deriving DecidableEq, Repr, Inhabited

def FieldName.only (name : String) : FieldName := ⟨name, name⟩

/-- The name under which a field is present, and its value. -/
def FieldName.find? (f : FieldName) (fs : Json.Fields) : Option (String × Json) :=
  match Table.get? fs f.written with
  | some v => some (f.written, v)
  | none => (Table.get? fs f.other).map (f.other, ·)

def required (fs : Json.Fields) (f : FieldName) (d : Json → Checked α) : Checked α :=
  match f.find? fs with
  | some (name, v) => (d v).under (.key name)
  | none => Checked.under (.key f.written) (.fail .missing)

/-- A field that has a value of its own when it is not there. -/
def withDefault (fs : Json.Fields) (f : FieldName) (default : α) (d : Json → Checked α) :
    Checked α :=
  match f.find? fs with
  | some (name, v) => (d v).under (.key name)
  | none => .ok default

def nullAsEmpty : Json → Json
  | .null => .arr []
  | v => v

def nullAsObject : Json → Json
  | .null => .obj []
  | v => v

end AuditReport.Decode
