import AuditReport.Decode.Value

/-!
# Compiled artifacts

An artifact is one compiled contract with the table of the sources that it was built from.
-/
namespace AuditReport

open Decode (Checked)

structure SourceFile where
  text : String
  ast : Option Json.Fields
  legacyAst : Option Json.Fields
  id : Option Int
  deriving Repr, Inhabited

structure Artifact where
  name : String
  bytecode : String
  deployedBytecode : String
  sourceMap : String
  deployedSourceMap : String
  sourcePath : String
  source : String
  ast : Option Json.Fields
  legacyAst : Option Json.Fields
  compilerVersion : Option String
  sources : Table SourceFile
  deriving Repr, Inhabited

/-- The legacy tree, or the other one when there is none or an empty one. -/
def preferredTree (legacyAst ast : Option Json.Fields) : Option Json.Fields :=
  match legacyAst with
  | some (f :: fs) => some (f :: fs)
  | _ => ast

namespace SourceFile

def tree (s : SourceFile) : Option Json.Fields :=
  preferredTree s.legacyAst s.ast

def ofFields (fs : Json.Fields) : Checked SourceFile :=
  SourceFile.mk <$> Decode.withDefault fs (.only "source") "" Decode.text
    <*> Decode.withDefault fs (.only "ast") none (Decode.optional Decode.object)
    <*> Decode.withDefault fs ⟨"legacyAST", "legacy_ast"⟩ none (Decode.optional Decode.object)
    <*> Decode.withDefault fs (.only "id") none (Decode.optional Decode.integer)

def decode : Json → Checked SourceFile :=
  Decode.model ofFields

def toJson (s : SourceFile) : Json :=
  .obj [("source", .str s.text), ("ast", .ofFields? s.ast), ("legacyAST", .ofFields? s.legacyAst),
    ("id", .ofInt? s.id)]

end SourceFile

namespace Artifact

def tree (a : Artifact) : Option Json.Fields :=
  preferredTree a.legacyAst a.ast

/-- Decodes all fields but the source table, which is given. -/
def ofFieldsWith (fs : Json.Fields) (sources : Checked (Table SourceFile)) : Checked Artifact :=
  Artifact.mk <$> Decode.withDefault fs ⟨"contractName", "contract_name"⟩ "" Decode.text
    <*> Decode.withDefault fs (.only "bytecode") "" Decode.text
    <*> Decode.withDefault fs ⟨"deployedBytecode", "deployed_bytecode"⟩ "" Decode.text
    <*> Decode.withDefault fs ⟨"sourceMap", "source_map"⟩ "" Decode.text
    <*> Decode.withDefault fs ⟨"deployedSourceMap", "deployed_source_map"⟩ "" Decode.text
    <*> Decode.withDefault fs ⟨"sourcePath", "source_path"⟩ "" Decode.text
    <*> Decode.withDefault fs (.only "source") "" Decode.text
    <*> Decode.withDefault fs (.only "ast") none (Decode.optional Decode.object)
    <*> Decode.withDefault fs ⟨"legacyAST", "legacy_ast"⟩ none (Decode.optional Decode.object)
    <*> Decode.withDefault fs ⟨"compilerVersion", "compiler_version"⟩ none
      (Decode.optional Decode.text)
    <*> sources

def ofFields (fs : Json.Fields) : Checked Artifact :=
  ofFieldsWith fs (Decode.withDefault fs (.only "sources") [] (Decode.tableOf SourceFile.decode))

def decode : Json → Checked Artifact :=
  Decode.model ofFields

def toJson (a : Artifact) : Json :=
  .obj [("contractName", .str a.name), ("bytecode", .str a.bytecode),
    ("deployedBytecode", .str a.deployedBytecode), ("sourceMap", .str a.sourceMap),
    ("deployedSourceMap", .str a.deployedSourceMap), ("sourcePath", .str a.sourcePath),
    ("source", .str a.source), ("ast", .ofFields? a.ast), ("legacyAST", .ofFields? a.legacyAst),
    ("compilerVersion", .ofText? a.compilerVersion),
    ("sources", .obj (a.sources.map fun e => (e.1, e.2.toJson)))]

/-- Sources with an id come before those without, in the order of their ids. -/
def idOrder (a b : SourceFile) : Bool :=
  match a.id, b.id with
  | some i, some j => i ≤ j
  | some _, none => true
  | none, some _ => false
  | none, none => true

def sourceNames (a : Artifact) : List String :=
  (a.sources.mergeSort fun e f => idOrder e.2 f.2).map (·.1)

end Artifact
end AuditReport
