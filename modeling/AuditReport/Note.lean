import AuditReport.Fault

/-!
# Notes on degraded results

Where a location cannot be decoded in full, the reader takes the next best answer and leaves a note.
A `Noted` computation gives a value or a fault, and the notes left until then in order.
-/
namespace AuditReport

inductive Note where
  | offBoundary (offset : Int)
  | unknownFormat (format : Option String) (location : String)
  | otherTable (wanted : Option String) (used : String)
  | openArray (source : String) (start : Int)
  | noKnownSource (location : String)
  | noSourceList (used : String)
  | noFile (location : String)
  | indexOutsideList (index : Int) (location : String)
  deriving DecidableEq, Repr, Inhabited

namespace Note

def optionalText : Option String → String
  | none => "None"
  | some s => Text.quote s

def message : Note → String
  | offBoundary offset => s!"bytecode offset {offset} is not an instruction boundary"
  | unknownFormat format location =>
    s!"unsupported location format {optionalText format}; " ++
      s!"location {Text.quote location} left unresolved"
  | otherTable wanted used =>
    s!"no line-break table for {optionalText wanted}; falling back to {Text.quote used}"
  | openArray source start =>
    s!"ignoring finding around dynamically-allocated array at {source}:{start}"
  | noKnownSource location =>
    s!"location {Text.quote location} names no known source file; not ignorable"
  | noSourceList used =>
    s!"analysis result has no source list; attaching findings to {Text.quote used}"
  | noFile location => s!"location {Text.quote location} names no source file; attaching to group 0"
  | indexOutsideList index location =>
    s!"source index {index} of {Text.quote location} is not in the source list; " ++
      "attaching to group 0"

end Note

/-- A value or a fault, with the notes left on the way. -/
structure Noted (α : Type) where
  outcome : Except Fault α
  notes : List Note
  deriving Inhabited

namespace Noted

variable {α β : Type}

protected def pure (a : α) : Noted α := ⟨.ok a, []⟩

/-- Goes on with the value; the notes of both parts are kept. -/
protected def bind (x : Noted α) (f : α → Noted β) : Noted β :=
  match x.outcome with
  | .error e => ⟨.error e, x.notes⟩
  | .ok a =>
    let y := f a
    ⟨y.outcome, x.notes ++ y.notes⟩

instance : Monad Noted where
  pure := Noted.pure
  bind := Noted.bind

def leave (n : Note) : Noted Unit := ⟨.ok (), [n]⟩

def ofExcept (x : Except Fault α) : Noted α := ⟨x, []⟩

def fail (e : Fault) : Noted α := ⟨.error e, []⟩

instance : MonadLift (Except Fault) Noted := ⟨ofExcept⟩

def each (f : α → Noted β) : List α → Noted (List β)
  | [] => pure []
  | a :: as => do
    let b ← f a
    let bs ← each f as
    return b :: bs

/-- Whether a test holds of some item; items after the first such one are not looked at. -/
def any (f : α → Noted Bool) : List α → Noted Bool
  | [] => pure false
  | a :: as => do
    if ← f a then return true
    any f as

end Noted
end AuditReport
