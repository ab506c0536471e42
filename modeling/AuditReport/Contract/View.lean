import AuditReport.Artifact.Model
import AuditReport.Finding.Grouping
import AuditReport.Syntax.OpenArray

/-!
# Contracts ready for look-up

The bytecode, source map, sources and syntax trees of an artifact are decoded once; locations of
findings are then resolved against them.
-/
namespace AuditReport

/-- An artifact with all that locations are resolved against. -/
structure ContractView where
  artifact : Artifact
  resolver : Resolver
  trees : Table Syntax.Node
  deriving Inhabited

namespace Artifact

/-- The text of a source; the one of the contract itself may be given by the artifact. -/
def textOf (a : Artifact) (path : String) (s : SourceFile) : String :=
  if s.text ≠ "" then s.text else if path = a.sourcePath then a.source else ""

def lineTables (a : Artifact) : Table LineTable :=
  a.sources.map fun e => (e.1, LineTable.ofText (a.textOf e.1 e.2))

/-- The root of a syntax tree whose schema is known. -/
def root? (tree : Option Json.Fields) : Option Syntax.Node :=
  tree.bind fun fs => Syntax.Node.ofRoot? (.obj fs)

/-- The syntax trees of the sources; that of the artifact serves its own source when that has none. -/
def trees (a : Artifact) : Table Syntax.Node :=
  let own := a.sources.filterMap fun e => (root? e.2.tree).map fun n => (e.1, n)
  match root? a.tree with
  | none => own
  | some n => Table.putNew own a.sourcePath n

end Artifact

namespace ContractView

open SourceMap (Format)

def ofArtifact (a : Artifact) : Except Fault ContractView := do
  let instructions ← Bytecode.InstructionTable.ofHex "deployedBytecode" a.deployedBytecode
  let entries ← SourceMap.decode a.deployedSourceMap
  return ⟨a, ⟨instructions, entries, a.lineTables, a.sourceNames⟩, a.trees⟩

def resolveFirst (v : ContractView) (format name : Option String) : List Location → Noted Span
  | [] => return .unresolved
  | l :: ls => do
    let span ← v.resolver.resolve l.sourceMap (Text.orElse l.format format) name
    if span.isResolved then return span else v.resolveFirst format name ls

def resolve (v : ContractView) (f : Finding) (format name : Option String) : Noted Span :=
  v.resolveFirst format name f.locations

/-- The source whose tree is searched for an entry. Bytecode names it by its entry alone. -/
def searched (v : ContractView) (format : Format) (e : SourceMap.Entry) (name : Option String) :
    Option String :=
  match format with
  | .bytecode => v.resolver.sourceName? e
  | .text => Text.orElse name (v.resolver.sourceName? e)

/-- Whether a location text can be ignored; one in an unknown format cannot. -/
def isIgnorableAt (v : ContractView) (location : String) (format name : Option String) :
    Noted Bool :=
  match format.bind Format.ofName? with
  | none => return false
  | some kind => do
    match ← v.resolver.entryIn location kind with
    | none => return false
    | some e =>
      match v.searched kind e name with
      | none =>
        Noted.leave (.noKnownSource location)
        return false
      | some source => Syntax.isIgnorable v.trees e source

def isIgnorable (v : ContractView) (l : Location) (format name : Option String) : Noted Bool :=
  v.isIgnorableAt l.sourceMap (Text.orElse l.format format) name

def canIgnore (v : ContractView) (f : Finding) (format name : Option String) : Noted Bool :=
  Noted.any (fun l => v.isIgnorable l format name) f.locations

end ContractView
end AuditReport
