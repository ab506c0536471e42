import AuditReport.SourceMap.Entry

/-!
# Locations of findings

A location is a text whose first segment, up to a semicolon, has the fields of a source-map entry,
or begins with the offset of an instruction.
-/
namespace AuditReport.SourceMap

def firstSegment (location : String) : String :=
  String.ofList (Text.firstPiece ';' location.toList)

/-- The third field of a location, if it is there and not blank. -/
def fileIndex (location : String) : Except Fault (Option Int) :=
  match (Text.pieces ':' (Text.firstPiece ';' location.toList))[2]? with
  | none => .ok none
  | some s =>
    if (Text.trim s).isEmpty then .ok none
    else (integer location (Text.trim s)).map some

/-- The first field of a location as the offset of an instruction. -/
def bytecodeOffset (location : String) : Except Fault Int :=
  integer location
    (Text.trim (Text.firstPiece ':' (Text.firstPiece ';' location.toList)))

/-- What the numbers of a location count. -/
inductive Format where
  /-- The offset of an instruction of the deployed bytecode. -/
  | bytecode
  | text
  deriving DecidableEq, Repr, Inhabited

namespace Format

def name : Format → String
  | bytecode => "evm-byzantium-bytecode"
  | text => "text"

def ofName? (s : String) : Option Format :=
  if s = bytecode.name then some bytecode
  else if s = text.name then some text
  else none

end Format
end AuditReport.SourceMap
