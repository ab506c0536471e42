import AuditReport.Json.Basic
import AuditReport.Number.Shortest
import AuditReport.Text.Quoted

/-!
# Writing documents

Documents are written in ASCII: every other character is written by its UTF-16 code units. A
layout says what stands between the parts.
-/
namespace AuditReport.Json

/-- What is written before an item at a depth, and between a key and its value. -/
structure Layout where
  lineBreak : Nat → List Char
  afterKey : List Char

/-- Everything on one line, without blanks. -/
def compact : Layout where
  lineBreak _ := []
  afterKey := [':']

/-- One item a line, two blanks a level. -/
def indented : Layout where
  lineBreak depth := '\n' :: List.replicate (2 * depth) ' '
  afterKey := [':', ' ']

def realSpelling : Binary64.Spelling := ⟨"Infinity", "NaN"⟩

def unitEscape (n : Nat) : List Char :=
  '\\' :: 'u' :: Text.hexDigits 4 n

def writeChar (c : Char) : List Char :=
  if c = '"' then ['\\', '"']
  else if c = '\\' then ['\\', '\\']
  else if c = '\n' then ['\\', 'n']
  else if c = '\r' then ['\\', 'r']
  else if c = '\t' then ['\\', 't']
  else if c.toNat = 12 then ['\\', 'f']
  else if c.toNat = 8 then ['\\', 'b']
  else if 0x20 ≤ c.toNat ∧ c.toNat < 0x7F then [c]
  else if c.toNat < 0x10000 then unitEscape c.toNat
  else
    let n := c.toNat - 0x10000
    unitEscape (0xD800 + n / 0x400) ++ unitEscape (0xDC00 + n % 0x400)

def writeText (s : String) : List Char :=
  '"' :: s.toList.flatMap writeChar ++ ['"']

mutual

def write (l : Layout) (depth : Nat) : Json → List Char
  | null => ['n', 'u', 'l', 'l']
  | bool true => ['t', 'r', 'u', 'e']
  | bool false => ['f', 'a', 'l', 's', 'e']
  | int n => (toString n).toList
  | real x => (x.text realSpelling).toList
  | str s => writeText s
  | arr [] => ['[', ']']
  | arr (v :: vs) =>
    '[' :: l.lineBreak (depth + 1) ++ write l (depth + 1) v ++ writeItems l (depth + 1) vs ++
      l.lineBreak depth ++ [']']
  | obj [] => ['\x7b', '\x7d']
  | obj ((k, v) :: fs) =>
    '\x7b' :: l.lineBreak (depth + 1) ++ writeText k ++ l.afterKey ++ write l (depth + 1) v ++
      writeFields l (depth + 1) fs ++ l.lineBreak depth ++ ['\x7d']

/-- The items after the first, each behind a comma. -/
def writeItems (l : Layout) (depth : Nat) : List Json → List Char
  | [] => []
  | v :: vs => ',' :: l.lineBreak depth ++ write l depth v ++ writeItems l depth vs

/-- The entries after the first, each behind a comma. -/
def writeFields (l : Layout) (depth : Nat) : List (String × Json) → List Char
  | [] => []
  | (k, v) :: fs =>
    ',' :: l.lineBreak depth ++ writeText k ++ l.afterKey ++ write l depth v ++
      writeFields l depth fs

end

def render (l : Layout) (v : Json) : String :=
  String.ofList (write l 0 v)

end AuditReport.Json
