import AuditReport.Artifact.Model
import AuditReport.Fault
import AuditReport.Json.Display

/-!
# Build records

A build record describes one contract, or all contracts of a build, each listed under its source. A
record of one contract without a source table gets one that holds its own source.
-/
namespace AuditReport.Build

open Decode (Checked)

/-- The entries of an object; anything else has none to look up. -/
def entries : Json → Except Fault Json.Fields
  | .obj fs => .ok fs
  | _ => .error (.defect .notObject)

/-- The entries of an object, or none for anything else. -/
def entriesOrNone (v : Json) : Json.Fields :=
  (v.fields?).getD []

/-- The value of an entry, or the empty text when none is given. -/
def textOf (fs : Json.Fields) (key : String) : Json :=
  (Json.valueOf fs key).orElse (.str "")

def legacyAstOf (fs : Json.Fields) : Json :=
  Json.valueOfEither fs "legacyAST" "legacyAst"

/-- The part of a source entry that an artifact keeps. -/
def sourceRecord : Json → Json
  | .obj fs =>
    .obj [("source", textOf fs "source"), ("ast", Json.valueOf fs "ast"),
      ("legacyAST", legacyAstOf fs), ("id", Json.valueOf fs "id")]
  | _ => .obj []

/-- The source table of a record when it has one that is not empty. -/
def sourceTable? (fs : Json.Fields) : Option Json.Fields :=
  match Json.valueOf fs "sources" with
  | .obj (f :: sources) => some (f :: sources)
  | _ => none

/-- The table of the one source that a record holds itself. -/
def ownSource (fs : Json.Fields) : Json :=
  .obj [("source", textOf fs "source"), ("ast", Json.valueOf fs "ast"),
    ("legacyAST", legacyAstOf fs), ("id", .int 0)]

/-- The version of the compiler, from its own entry if that is an object. -/
def compilerVersion (fs : Json.Fields) : Json :=
  match Json.valueOf fs "compiler" with
  | .obj compiler => Json.valueOf compiler "version"
  | _ => Json.valueOf fs "compilerVersion"

/-- The step to the value under a key that is no text. -/
def keyStep : Json → Decode.Step
  | .bool b => .item (if b then 1 else 0)
  | .int n => if Decode.fitsWord n then .item n else .key (Json.int n).quoted
  | v => .key v.shown

/-- The table of one source whose key is no text: the complaint about the key comes first. -/
def wrongKey (key source : Json) : Checked (Table SourceFile) :=
  let complaint := Checked.under (keyStep key) (Checked.under (.key "[key]") (.fail .notText))
  ((fun _ _ => []) <$> (complaint : Checked Unit)
    <*> (SourceFile.decode source).under (keyStep key)).under (.key "sources")

def canBeKey : Json → Bool
  | .arr _ | .obj _ => false
  | _ => true

/-- The record from which the fields of an artifact are decoded, apart from the source table. -/
def artifactRecord (fs main : Json.Fields) (path : Json) : Json.Fields :=
  [("contractName", textOf fs "contractName"), ("bytecode", textOf fs "bytecode"),
    ("deployedBytecode", textOf fs "deployedBytecode"), ("sourceMap", textOf fs "sourceMap"),
    ("deployedSourceMap", textOf fs "deployedSourceMap"), ("sourcePath", path),
    ("source", ((Json.valueOf fs "source").orElse (Json.valueOf main "source")).orElse (.str "")),
    ("ast", (Json.valueOf fs "ast").orElse (Json.valueOf main "ast")),
    ("legacyAST", (legacyAstOf fs).orElse (Json.valueOf main "legacyAST")),
    ("compilerVersion", compilerVersion fs)]

/-- The source table that a record has or gets, and its raw entry for the record's own path. -/
def sourcesFor (fs : Json.Fields) (path : Json) :
    Checked (Table SourceFile) × Json.Fields :=
  match sourceTable? fs, path with
  | some table, .str p =>
    (decodeTable table, entriesOrNone (Json.valueOf table p))
  | some table, _ => (decodeTable table, [])
  | none, .str p => (decodeTable [(p, ownSource fs)], entriesOrNone (ownSource fs))
  | none, key => (wrongKey key (sourceRecord (ownSource fs)), entriesOrNone (ownSource fs))
where
  decodeTable (table : Json.Fields) : Checked (Table SourceFile) :=
    (Checked.values SourceFile.decode (table.map fun e => (e.1, sourceRecord e.2))).under
      (.key "sources")

def artifact (fs : Json.Fields) : Except Fault Artifact :=
  let path := textOf fs "sourcePath"
  if canBeKey path then
    let (sources, main) := sourcesFor fs path
    (Artifact.ofFieldsWith (artifactRecord fs main path) sources).orFault
  else .error (.defect .unhashableKey)

/-- Whether a record lists contracts under some source. -/
def listsContracts (fs : Json.Fields) : Bool :=
  match Json.valueOf fs "sources" with
  | .obj sources => sources.any fun e =>
    match Json.valueOf (entriesOrNone e.2) "contracts" with
    | .arr _ => true
    | _ => false
  | _ => false

/-- The items of a value that lists contracts. Items of texts and objects are texts. -/
def listed : Json → Except Fault (List Json)
  | .arr items => .ok items
  | .str s => .ok (s.toList.map fun c => .str (String.singleton c))
  | .obj fs => .ok (fs.map fun f => .str f.1)
  | v => if v.given then .error (.defect .notIterable) else .ok []

/-- The record of a contract that is listed under a source: what the build knows goes before what
the contract says. -/
def contractRecord (contract : Json.Fields) (path : String) (entry : Json.Fields)
    (compiler : Json) (shared : Json.Fields) : Json.Fields :=
  Table.putAll contract
    [("sourcePath", .str path), ("source", textOf entry "source"),
      ("ast", Json.valueOf entry "ast"), ("legacyAST", legacyAstOf entry),
      ("compiler", compiler), ("sources", .obj shared)]

/-- The artifacts of the contracts listed under one source. -/
def artifactsOf (path : String) (entry : Json.Fields) (compiler : Json) (shared : Json.Fields) :
    List Json → Except Fault (List Artifact)
  | [] => .ok []
  | .obj contract :: rest => do
    let a ← artifact (contractRecord contract path entry compiler shared)
    let more ← artifactsOf path entry compiler shared rest
    return a :: more
  | _ :: _ => .error (.defect .notMapping)

def artifactsOfSources (compiler : Json) (shared : Json.Fields) :
    Json.Fields → Except Fault (List Artifact)
  | [] => .ok []
  | (path, .obj entry) :: sources => do
    let contracts ← listed (Json.valueOf entry "contracts")
    let here ← artifactsOf path entry compiler shared contracts
    let more ← artifactsOfSources compiler shared sources
    return here ++ more
  | _ :: sources => artifactsOfSources compiler shared sources

def split (fs : Json.Fields) : Except Fault (List Artifact) := do
  let sources ← entries ((Json.valueOf fs "sources").orElse (.obj []))
  let shared := sources.map fun e => (e.1, sourceRecord e.2)
  artifactsOfSources (Json.valueOf fs "compiler") shared sources

/-- The artifacts of a build record of either kind. -/
def artifacts (fs : Json.Fields) : Except Fault (List Artifact) :=
  if listsContracts fs then split fs else (artifact fs).map fun a => [a]

end AuditReport.Build
