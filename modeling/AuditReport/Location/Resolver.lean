import AuditReport.Bytecode.Instructions
import AuditReport.Note
import AuditReport.Source.LineTable
import AuditReport.SourceMap.Compressed
import AuditReport.SourceMap.Location
import AuditReport.Table
import AuditReport.Text.BaseName
import AuditReport.Text.Given

/-!
# Resolving locations

A bytecode location goes through the instruction table and the source map to a range in the source
that the map names; a text location gives its range itself. The range is then looked up in the line
table of the source. Where no table bears the name of the source, one with the same base name
serves, and else the first one.
-/
namespace AuditReport

/-- The first entry under a name, else the first with the same base name. -/
def Table.byName? {α : Type} (t : Table α) (name : String) : Option α :=
  match Table.get? t name with
  | some a => some a
  | none =>
    (t.find? fun e => Text.baseName e.1 == Text.baseName name).map (·.2)

structure Resolver where
  instructions : Bytecode.InstructionTable
  entries : List SourceMap.Entry
  lineTables : Table LineTable
  sourceNames : List String
  deriving Repr, Inhabited

namespace Resolver

open SourceMap (Entry Format)

/-- The source-map entry of a location in a known format; none for an offset inside an operand. -/
def entryIn (r : Resolver) (location : String) : Format → Noted (Option Entry)
  | .bytecode => do
    let offset ← SourceMap.bytecodeOffset location
    match r.instructions.find? offset with
    | none =>
      Noted.leave (.offBoundary offset)
      return none
    | some i => return some (← SourceMap.entryAt r.entries i)
  | .text => return some (← Entry.read (SourceMap.firstSegment location))

/-- The source-map entry of a location; none in an unknown format. -/
def entry (r : Resolver) (location : String) (format : Option String) : Noted (Option Entry) :=
  match format.bind Format.ofName? with
  | some f => r.entryIn location f
  | none => do
    Noted.leave (.unknownFormat format location)
    return none

def sourceName? (r : Resolver) (e : Entry) : Option String :=
  if e.fileIndex < 0 then none else r.sourceNames[e.fileIndex.toNat]?

def lineTable (r : Resolver) (name : Option String) : Noted (Option LineTable) :=
  match name.bind (Table.byName? r.lineTables) with
  | some t => return some t
  | none =>
    match r.lineTables with
    | [] => return none
    | (used, t) :: _ => do
      Noted.leave (.otherTable name used)
      return some t

/-- The source that an entry is looked up in: for bytecode the one that the entry names goes first,
for text the one that the finding is attributed to. -/
def target (r : Resolver) (format : Option String) (e : Entry) (name : Option String) :
    Option String :=
  if format.bind Format.ofName? = some .bytecode then Text.orElse (r.sourceName? e) name
  else Text.orElse name (r.sourceName? e)

def resolve (r : Resolver) (location : String) (format name : Option String) : Noted Span := do
  match ← r.entry location format with
  | none => return .unresolved
  | some e =>
    if e.hasSource then
      match ← r.lineTable (r.target format e name) with
      | none => return .unresolved
      | some t => return t.span e.start e.length
    else return .unresolved

end Resolver
end AuditReport
