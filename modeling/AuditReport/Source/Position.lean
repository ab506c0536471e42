/-!
# Positions in a source

Lines count from one and columns from zero. A span whose start is unknown has line -1.
-/
namespace AuditReport

structure LineColumn where
  line : Int
  column : Int
  deriving DecidableEq, Repr, Inhabited

namespace LineColumn

def unknown : LineColumn := ⟨-1, 0⟩

/-- Earlier in the text: by line, then by column. -/
def before (a b : LineColumn) : Prop :=
  a.line < b.line ∨ a.line = b.line ∧ a.column < b.column

end LineColumn

structure Span where
  start : LineColumn
  stop : Option LineColumn
  deriving DecidableEq, Repr, Inhabited

namespace Span

def unresolved : Span := ⟨.unknown, none⟩

def isResolved (s : Span) : Bool :=
  0 ≤ s.start.line

end Span
end AuditReport
