import AuditReport.Decode.Basic
import AuditReport.Text.Numeral
import AuditReport.Text.Split

/-!
# Whole numbers in text

The text of a whole number is brought to the plain form, a minus sign and ASCII digits, in steps:
white space at either end goes, then a plus sign, the zeros at the front with the underscores among
them, a point that only zeros follow, and the underscores between digits. Zeros may come before a
minus sign or after it, so `0-3` and `-03` denote the same number as `-3`.
-/
namespace AuditReport.Decode.IntegerText

/-- Whether a number may begin with a character once the zeros at its front are gone. -/
def isLeading (c : Char) : Bool :=
  (c.isDigit && c != '0') || c == '-'

/-- The text without a plus sign at its front. No minus sign may follow one. -/
def dropPlus? : List Char → Option (List Char)
  | '+' :: '-' :: _ => none
  | '+' :: s => some s
  | s => some s

/-- The rest of a text after zeros and underscores. One character is left of a text of nothing else,
and the last one before a point stays. `last` is the character before the text. -/
def dropZerosAfter? (last : Char) : List Char → Option (List Char)
  | [] => some [last]
  | c :: s =>
    if c = '0' || c = '_' then dropZerosAfter? c s
    else if isLeading c then some (c :: s)
    else if c = '.' then some (last :: c :: s)
    else none

def dropZeros? : List Char → Option (List Char)
  | [] => none
  | c :: s => if c = '0' then dropZerosAfter? c s else if isLeading c then some (c :: s) else none

/-- The text before a point that zeros, at least one, and nothing else follow. -/
def dropZeroFraction (s : List Char) : List Char :=
  match s.dropWhile (· != '.') with
  | _ :: c :: r => if (c :: r).all (· == '0') then s.takeWhile (· != '.') else s
  | _ => s

/-- Whether no underscore is first, last or next to another. -/
def barsAreSingle (s : List Char) : Bool :=
  !(Text.pieces '_' s).contains []

/-- The text without its underscores when they stand singly between other characters. -/
def dropBars (s : List Char) : List Char :=
  if barsAreSingle s then s.filter (· != '_') else s

/-- The number of a text of digits. Zeros at the front do not count towards the length. -/
def readDigits (s : List Char) : Checked Nat :=
  let ds := s.takeWhile Char.isDigit
  if ds.isEmpty then .fail .unreadableInteger
  else if Text.Numeral.maxDigits < (ds.dropWhile (· == '0')).length then .fail .oversizedInteger
  else if ds.length < s.length then .fail .unreadableInteger
  else .ok (Text.Numeral.value (ds.map fun d => d.toNat - 48))

def readPlain : List Char → Checked Int
  | '-' :: s => (readDigits s).map fun (n : Nat) => -(n : Int)
  | s => (readDigits s).map Int.ofNat

def read (s : String) : Checked Int :=
  match (dropPlus? (Text.trimOf Text.isSpace s.toList)).bind dropZeros? with
  | none => .fail .unreadableInteger
  | some cs => readPlain (dropBars (dropZeroFraction cs))

end AuditReport.Decode.IntegerText
