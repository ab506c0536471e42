import AuditReport.Text.Blank
import AuditReport.Text.DecimalDigit

/-!
# Integer numerals

A numeral is, between white space, an optional sign and digits of any script, with single underscores
allowed between digits. A numeral of more than 4300 digits is refused.
-/
namespace AuditReport.Text.Numeral

inductive Flaw where
  | malformed
  | tooLong (digits : Nat)
  deriving DecidableEq, Repr, Inhabited

def maxDigits : Nat := 4300

/-- The digits of a run in which single underscores may stand between digits. -/
def digits? : List Char → Option (List Nat)
  | [] => none
  | [c] => (digitValue? c).map fun d => [d]
  | c :: '_' :: r => (digitValue? c).bind fun d => (digits? r).map (d :: ·)
  | c :: r => (digitValue? c).bind fun d => (digits? r).map (d :: ·)

/-- The number that decimal digits denote, the first being the highest. -/
def value (ds : List Nat) : Nat :=
  ds.foldl (fun n d => 10 * n + d) 0

/-- The sign, true for a minus, and what follows it. -/
def splitSign : List Char → Bool × List Char
  | '-' :: r => (true, r)
  | '+' :: r => (false, r)
  | s => (false, s)

def isDigitOrBar (c : Char) : Bool :=
  (digitValue? c).isSome || c == '_'

/-- The integer that a text denotes. The length of the leading run of digits is looked at before
what follows the run. -/
def read (s : List Char) : Except Flaw Int :=
  let (negative, body) := splitSign (trimOf isSpace s)
  match digits? (body.takeWhile isDigitOrBar) with
  | none => .error .malformed
  | some ds =>
    if maxDigits < ds.length then .error (.tooLong ds.length)
    else if (body.dropWhile isDigitOrBar).isEmpty then
      .ok (if negative then -(value ds : Int) else value ds)
    else .error .malformed

def read? (s : List Char) : Option Int :=
  (read s).toOption

end AuditReport.Text.Numeral
