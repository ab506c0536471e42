import AuditReport.Source.Position

/-!
# Line tables

Offsets into a source count the bytes of its UTF-8 form. A line table holds the offsets of the line
feeds; a line feed belongs to the line that it ends.
-/
namespace AuditReport

/-- The offsets of the line feeds of a text that starts at `offset`. -/
def breaksFrom (offset : Nat) : List Char → List Nat
  | [] => []
  | c :: s =>
    if c = '\n' then offset :: breaksFrom (offset + c.utf8Size) s
    else breaksFrom (offset + c.utf8Size) s

def byteLength : List Char → Nat
  | [] => 0
  | c :: s => c.utf8Size + byteLength s

structure LineTable where
  breaks : List Nat
  size : Nat
  deriving DecidableEq, Repr, Inhabited

namespace LineTable

def ofText (text : String) : LineTable :=
  ⟨breaksFrom 0 text.toList, byteLength text.toList⟩

def breaksBefore (t : LineTable) (offset : Int) : List Nat :=
  t.breaks.takeWhile fun (b : Nat) => decide ((b : Int) < offset)

def lineStart (t : LineTable) (offset : Int) : Int :=
  match (t.breaksBefore offset).getLast? with
  | some b => b + 1
  | none => 0

/-- The position of an offset that lies in the source, its end included. -/
def position? (t : LineTable) (offset : Int) : Option LineColumn :=
  if offset < 0 ∨ (t.size : Int) < offset then none
  else some ⟨(t.breaksBefore offset).length + 1, offset - t.lineStart offset⟩

/-- The span of a range. A range of length zero, or one that ends outside the source, has no end. -/
def span (t : LineTable) (start length : Int) : Span :=
  match t.position? start with
  | none => .unresolved
  | some first =>
    if length < 0 then .unresolved
    else ⟨first, if length = 0 then none else t.position? (start + length)⟩

end LineTable
end AuditReport
