import AuditReport.Fault
import AuditReport.Text.Split

/-!
# Source-map entries

An entry is written `start:length:file:jump`; the last two fields may be missing. The fields are
whole numbers as `Text.Numeral` reads them, apart from the jump, one of the letters `i`, `o`, `-`.
-/
namespace AuditReport.SourceMap

inductive Jump where
  | into
  | out
  | regular
  deriving DecidableEq, Repr, Inhabited

namespace Jump

def letter : Jump → Char
  | into => 'i'
  | out => 'o'
  | regular => '-'

def ofText? : List Char → Option Jump
  | ['i'] => some into
  | ['o'] => some out
  | ['-'] => some regular
  | _ => none

theorem ofText?_letter (j : Jump) : ofText? [j.letter] = some j := by
  cases j <;> rfl

end Jump

/-- The part of a source that an instruction comes from. -/
structure Entry where
  start : Int
  length : Int
  fileIndex : Int
  jump : Jump
  deriving DecidableEq, Repr, Inhabited

namespace Entry

/-- What the first entry of a map inherits from. -/
def initial : Entry := ⟨-1, -1, -1, .regular⟩

def hasSource (e : Entry) : Bool :=
  0 ≤ e.start && 0 ≤ e.length

theorem hasSource_eq_true_iff {e : Entry} : e.hasSource = true ↔ 0 ≤ e.start ∧ 0 ≤ e.length := by
  rw [hasSource, Bool.and_eq_true_iff, decide_eq_true_iff, decide_eq_true_iff]

end Entry

/-- A field that is written and not empty. -/
def field? (fields : List (List Char)) (n : Nat) : Option (List Char) :=
  match fields[n]? with
  | some [] => none
  | f => f

def integer (location : String) (s : List Char) : Except Fault Int :=
  match Text.Numeral.read? s with
  | some n => .ok n
  | none => .error (.location "sourceMap" location)

def jump (location : String) (s : List Char) : Except Fault Jump :=
  match Jump.ofText? s with
  | some j => .ok j
  | none => .error (.location "jumpType" location)

/-- The entry that fields write, with the fields that are not written taken from another entry. -/
def inherit (location : String) (fields : List (List Char)) (previous : Entry) :
    Except Fault Entry := do
  let start ← match field? fields 0 with
    | some s => integer location s
    | none => .ok previous.start
  let length ← match field? fields 1 with
    | some s => integer location s
    | none => .ok previous.length
  let fileIndex ← match field? fields 2 with
    | some s => integer location s
    | none => .ok previous.fileIndex
  let jump ← match field? fields 3 with
    | some s => jump location s
    | none => .ok previous.jump
  return ⟨start, length, fileIndex, jump⟩

/-- The entry that a segment writes in full. Start and length must be there. -/
def Entry.read (segment : String) : Except Fault Entry :=
  let fields := Text.pieces ':' (Text.trim segment.toList)
  match field? fields 0, field? fields 1 with
  | some _, some _ => inherit segment fields .initial
  | _, _ => .error (.location "sourceMap" segment)

end AuditReport.SourceMap
