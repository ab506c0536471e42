import AuditReport.Json.Basic
import AuditReport.Text.Numeral

/-!
# Reading documents

The reader takes the grammar of JSON with three more words, `NaN`, `Infinity` and `-Infinity`, for
floating numbers. Control characters inside a text are refused, as are integers of more than 4300
digits and values that lie deeper than the reader goes; of two flaws the first in the text is the one
found. Half of a surrogate pair is no character: a document with one is read, but it is not whole.
-/
namespace AuditReport.Json

inductive ReadFlaw where
  | malformed
  | integerTooLong (digits : Nat)
  | tooDeep
  deriving DecidableEq, Repr, Inhabited

/-- What a reader found and the text after it. -/
abbrev Scan (α : Type) := Except ReadFlaw (α × List Char)

def isLayout (c : Char) : Bool :=
  c == ' ' || c == '\t' || c == '\n' || c == '\r'

def skipLayout (s : List Char) : List Char :=
  s.dropWhile isLayout

def hexValue? (c : Char) : Option Nat :=
  if '0' ≤ c ∧ c ≤ '9' then some (c.toNat - 48)
  else if 'a' ≤ c ∧ c ≤ 'f' then some (c.toNat - 87)
  else if 'A' ≤ c ∧ c ≤ 'F' then some (c.toNat - 55)
  else none

def unit? (a b c d : Char) : Option Nat := do
  let a ← hexValue? a
  let b ← hexValue? b
  let c ← hexValue? c
  let d ← hexValue? d
  some (((a * 16 + b) * 16 + c) * 16 + d)

def isHighSurrogate (n : Nat) : Bool := 0xD800 ≤ n && n < 0xDC00

def isLowSurrogate (n : Nat) : Bool := 0xDC00 ≤ n && n < 0xE000

def ofPair (high low : Nat) : Char :=
  Char.ofNat (0x10000 + (high - 0xD800) * 0x400 + (low - 0xDC00))

def isSurrogate (n : Nat) : Bool :=
  isHighSurrogate n || isLowSurrogate n

/-- The character of a code unit. A surrogate alone is none, and the replacement character marks where
it stood. -/
def ofUnit (n : Nat) : Char :=
  if isSurrogate n then Char.ofNat 0xFFFD else Char.ofNat n

def shortEscape? : Char → Option Char
  | '"' => some '"'
  | '\\' => some '\\'
  | '/' => some '/'
  | 'b' => some (Char.ofNat 8)
  | 'f' => some (Char.ofNat 12)
  | 'n' => some '\n'
  | 'r' => some '\r'
  | 't' => some '\t'
  | _ => none

/-- The text of code units. Every high surrogate joins the low one right after it. -/
def ofUnits : List Nat → List Char
  | [] => []
  | [n] => [ofUnit n]
  | m :: n :: r =>
    if isHighSurrogate m && isLowSurrogate n then ofPair m n :: ofUnits r
    else ofUnit m :: ofUnits (n :: r)

/-- Puts a code unit in front of those that a scan found. -/
def Scan.cons (n : Nat) (r : Scan (List Nat)) : Scan (List Nat) :=
  r.map fun (ns, rest) => (n :: ns, rest)

/-- Reads the code units up to the closing quote; the opening one has been read. A character that
is not escaped counts as one unit. -/
def readUnits : List Char → Scan (List Nat)
  | [] => .error .malformed
  | '"' :: r => .ok ([], r)
  | '\\' :: 'u' :: a :: b :: c :: d :: r =>
    match unit? a b c d with
    | some n => Scan.cons n (readUnits r)
    | none => .error .malformed
  | '\\' :: c :: r =>
    match shortEscape? c with
    | some x => Scan.cons x.toNat (readUnits r)
    | none => .error .malformed
  | c :: r => if c.toNat < 0x20 then .error .malformed else Scan.cons c.toNat (readUnits r)

def readText (s : List Char) : Scan (List Char) :=
  (readUnits s).map fun (ns, rest) => (ofUnits ns, rest)

/-- The whole digits of a number: a zero alone, or digits of which the first is no zero. -/
def wholeDigits : List Char → List Char × List Char
  | '0' :: r => (['0'], r)
  | s => (s.takeWhile Char.isDigit, s.dropWhile Char.isDigit)

/-- The digits after a point. A point without digits is not read. -/
def fractionDigits : List Char → List Char × List Char
  | '.' :: r =>
    match r.takeWhile Char.isDigit with
    | [] => ([], '.' :: r)
    | ds => (ds, r.dropWhile Char.isDigit)
  | s => ([], s)

/-- The exponent, if one with digits stands here. -/
def exponentPart (s : List Char) : Option Int × List Char :=
  match s with
  | e :: r =>
    if e = 'e' ∨ e = 'E' then
      let (negative, body) := Text.Numeral.splitSign r
      match body.takeWhile Char.isDigit with
      | [] => (none, s)
      | ds =>
        let n : Nat := Text.Numeral.value (ds.map fun c => c.toNat - 48)
        (some (if negative then -(n : Int) else n), body.dropWhile Char.isDigit)
    else (none, s)
  | [] => (none, s)

def readNumber (s : List Char) : Scan Json :=
  let (negative, body) := match s with
    | '-' :: r => (true, r)
    | _ => (false, s)
  match wholeDigits body with
  | ([], _) => .error .malformed
  | (whole, r) =>
    let (fraction, r) := fractionDigits r
    let (exponent, r) := exponentPart r
    let number (ds : List Char) : Nat := Text.Numeral.value (ds.map fun c => c.toNat - 48)
    if fraction.isEmpty && exponent.isNone then
      if Text.Numeral.maxDigits < whole.length then .error (.integerTooLong whole.length)
      else .ok (.int (if negative then -(number whole : Int) else number whole), r)
    else
      let x := Binary64.ofDecimal negative (number (whole ++ fraction))
        (exponent.getD 0 - fraction.length)
      .ok (.real x, r)

mutual

/-- Reads one value that starts here, in which `depth` arrays and objects may stand in one another.
The fuel bounds the number of entries. -/
def readValue : (fuel depth : Nat) → List Char → Scan Json
  | 0, _, _ => .error .malformed
  | fuel + 1, depth, s =>
    match s with
    | 'n' :: 'u' :: 'l' :: 'l' :: r => .ok (.null, r)
    | 't' :: 'r' :: 'u' :: 'e' :: r => .ok (.bool true, r)
    | 'f' :: 'a' :: 'l' :: 's' :: 'e' :: r => .ok (.bool false, r)
    | 'N' :: 'a' :: 'N' :: r => .ok (.real .nan, r)
    | 'I' :: 'n' :: 'f' :: 'i' :: 'n' :: 'i' :: 't' :: 'y' :: r => .ok (.real (.infinite false), r)
    | '-' :: 'I' :: 'n' :: 'f' :: 'i' :: 'n' :: 'i' :: 't' :: 'y' :: r =>
      .ok (.real (.infinite true), r)
    | '"' :: r => (readText r).map fun (cs, r) => (.str (String.ofList cs), r)
    | '[' :: r =>
      match depth, skipLayout r with
      | 0, _ => .error .tooDeep
      | _ + 1, ']' :: r => .ok (.arr [], r)
      | depth + 1, r => (readItems fuel depth r).map fun (items, r) => (.arr items, r)
    | '{' :: r =>
      match depth, skipLayout r with
      | 0, _ => .error .tooDeep
      | _ + 1, '}' :: r => .ok (.obj [], r)
      | depth + 1, r =>
        (readMembers fuel depth r).map fun (pairs, r) => (.obj (Table.ofPairs pairs), r)
    | s => readNumber s

def readItems : (fuel depth : Nat) → List Char → Scan (List Json)
  | 0, _, _ => .error .malformed
  | fuel + 1, depth, s =>
    match readValue fuel depth s with
    | .error e => .error e
    | .ok (v, r) =>
      match skipLayout r with
      | ',' :: r => (readItems fuel depth (skipLayout r)).map fun (vs, r) => (v :: vs, r)
      | ']' :: r => .ok ([v], r)
      | _ => .error .malformed

def readMembers : (fuel depth : Nat) → List Char → Scan (List (String × Json))
  | 0, _, _ => .error .malformed
  | fuel + 1, depth, s =>
    match s with
    | '"' :: r =>
      match readText r with
      | .error e => .error e
      | .ok (key, r) =>
        match skipLayout r with
        | ':' :: r =>
          match readValue fuel depth (skipLayout r) with
          | .error e => .error e
          | .ok (v, r) =>
            match skipLayout r with
            | ',' :: r =>
              (readMembers fuel depth (skipLayout r)).map fun (fs, r) =>
                ((String.ofList key, v) :: fs, r)
            | '}' :: r => .ok ([(String.ofList key, v)], r)
            | _ => .error .malformed
        | _ => .error .malformed
    | _ => .error .malformed

end

/-- Fuel that no text of this length exhausts. -/
def fuelFor (s : List Char) : Nat :=
  2 * s.length + 2

/-- Reads a whole text as one document, in which `maxDepth` arrays and objects may stand in one another.
A byte-order mark is refused like any other stray character. -/
def read (maxDepth : Nat) (s : String) : Except ReadFlaw Json :=
  let cs := skipLayout s.toList
  match readValue (fuelFor cs) maxDepth cs with
  | .error e => .error e
  | .ok (v, r) => if (skipLayout r).isEmpty then .ok v else .error .malformed

/-- The code units of a document as it is written, with a zero for every escape of another kind. -/
def writtenUnits : List Char → List Nat
  | [] => []
  | '\\' :: 'u' :: a :: b :: c :: d :: r => (unit? a b c d).getD 0 :: writtenUnits r
  | '\\' :: _ :: r => 0 :: writtenUnits r
  | c :: r => c.toNat :: writtenUnits r

/-- Whether every surrogate among code units is half of a pair. -/
def arePaired : List Nat → Bool
  | [] => true
  | [n] => !isSurrogate n
  | m :: n :: r =>
    if isHighSurrogate m && isLowSurrogate n then arePaired r
    else !isSurrogate m && arePaired (n :: r)

/-- Whether no text of a document has half of a surrogate pair. -/
def isWhole (s : String) : Bool :=
  arePaired (writtenUnits s.toList)

end AuditReport.Json
