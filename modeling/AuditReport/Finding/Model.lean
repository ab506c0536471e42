import AuditReport.Decode.Value

/-!
# Results of an analysis

An analysis result holds the sources that were analysed, the findings with their locations, and the
log of the engine. Records are read from documents and written back under their first names.
-/
namespace AuditReport

open Decode (Checked FieldName)

structure Location where
  sourceMap : String
  format : Option String
  kind : Option String
  sources : List String
  deriving DecidableEq, Repr, Inhabited

structure Description where
  head : String
  tail : String
  deriving DecidableEq, Repr, Inhabited

structure Finding where
  swcId : Option String
  swcTitle : Option String
  description : Description
  severity : Option String
  locations : List Location
  extra : Json.Fields
  deriving Repr, Inhabited

structure LogLine where
  level : String
  text : String
  deriving DecidableEq, Repr, Inhabited

structure RunInfo where
  logs : List LogLine
  errors : List Json
  warnings : List Json
  deriving Repr, Inhabited

structure AnalysisResult where
  kind : Option String
  format : Option String
  sources : List String
  findings : List Finding
  info : RunInfo
  source : Option String
  deriving Repr, Inhabited

/-- The findings of a result that lie in one source. -/
structure FindingGroup where
  index : Int
  source : String
  kind : Option String
  format : Option String
  findings : List Finding
  deriving Repr, Inhabited

namespace Location

def ofFields (fs : Json.Fields) : Checked Location :=
  Location.mk <$> Decode.withDefault fs ⟨"sourceMap", "source_map"⟩ "" Decode.text
    <*> Decode.withDefault fs ⟨"sourceFormat", "source_format"⟩ none (Decode.optional Decode.text)
    <*> Decode.withDefault fs ⟨"sourceType", "source_type"⟩ none (Decode.optional Decode.text)
    <*> Decode.withDefault fs ⟨"sourceList", "source_list"⟩ []
      (fun v => Decode.tupleOf Decode.text (Decode.nullAsEmpty v))

def decode : Json → Checked Location :=
  Decode.model ofFields

def toJson (l : Location) : Json :=
  .obj [("sourceMap", .str l.sourceMap), ("sourceFormat", .ofText? l.format),
    ("sourceType", .ofText? l.kind), ("sourceList", .ofTexts l.sources)]

end Location

namespace Description

def empty : Description := ⟨"", ""⟩

def ofFields (fs : Json.Fields) : Checked Description :=
  Description.mk <$> Decode.withDefault fs (.only "head") "" Decode.text
    <*> Decode.withDefault fs (.only "tail") "" Decode.text

/-- A text is a description without a tail, null an empty one. -/
def decode : Json → Checked Description
  | .null => .ok empty
  | .str s => .ok ⟨s, ""⟩
  | v => Decode.model ofFields v

def toJson (d : Description) : Json :=
  .obj [("head", .str d.head), ("tail", .str d.tail)]

end Description

namespace Finding

def ofFields (fs : Json.Fields) : Checked Finding :=
  Finding.mk <$> Decode.withDefault fs ⟨"swcID", "swc_id"⟩ none (Decode.optional Decode.text)
    <*> Decode.withDefault fs ⟨"swcTitle", "swc_title"⟩ none (Decode.optional Decode.text)
    <*> Decode.withDefault fs (.only "description") .empty Description.decode
    <*> Decode.withDefault fs (.only "severity") none (Decode.optional Decode.text)
    <*> Decode.withDefault fs (.only "locations") []
      (fun v => Decode.listOf Location.decode (Decode.nullAsEmpty v))
    <*> Decode.withDefault fs (.only "extra") []
      (fun v => Decode.object (Decode.nullAsObject v))

def decode : Json → Checked Finding :=
  Decode.model ofFields

def toJson (f : Finding) : Json :=
  .obj [("swcID", .ofText? f.swcId), ("swcTitle", .ofText? f.swcTitle),
    ("description", f.description.toJson), ("severity", .ofText? f.severity),
    ("locations", .arr (f.locations.map Location.toJson)), ("extra", .obj f.extra)]

end Finding

namespace LogLine

def ofFields (fs : Json.Fields) : Checked LogLine :=
  LogLine.mk <$> Decode.withDefault fs (.only "level") "info" Decode.text
    <*> Decode.withDefault fs (.only "msg") "" Decode.text

def decode : Json → Checked LogLine :=
  Decode.model ofFields

def toJson (l : LogLine) : Json :=
  .obj [("level", .str l.level), ("msg", .str l.text)]

end LogLine

namespace RunInfo

def empty : RunInfo := ⟨[], [], []⟩

/-- A list is kept, null is an empty one, and anything else is a list of one item. -/
def asItems : Json → Json
  | .null => .arr []
  | .arr items => .arr items
  | v => .arr [v]

def ofFields (fs : Json.Fields) : Checked RunInfo :=
  RunInfo.mk <$> Decode.withDefault fs (.only "logs") []
      (fun v => Decode.listOf LogLine.decode (asItems v))
    <*> Decode.withDefault fs (.only "error") []
      (fun v => Decode.listOf Decode.anything (asItems v))
    <*> Decode.withDefault fs (.only "warning") []
      (fun v => Decode.listOf Decode.anything (asItems v))

def decode : Json → Checked RunInfo :=
  Decode.model ofFields

def toJson (m : RunInfo) : Json :=
  .obj [("logs", .arr (m.logs.map LogLine.toJson)), ("error", .arr m.errors),
    ("warning", .arr m.warnings)]

end RunInfo

namespace AnalysisResult

def ofFields (fs : Json.Fields) : Checked AnalysisResult :=
  AnalysisResult.mk
    <$> Decode.withDefault fs ⟨"sourceType", "source_type"⟩ none (Decode.optional Decode.text)
    <*> Decode.withDefault fs ⟨"sourceFormat", "source_format"⟩ none (Decode.optional Decode.text)
    <*> Decode.withDefault fs ⟨"sourceList", "source_list"⟩ []
      (fun v => Decode.listOf Decode.text (Decode.nullAsEmpty v))
    <*> Decode.withDefault fs (.only "issues") []
      (fun v => Decode.listOf Finding.decode (Decode.nullAsEmpty v))
    <*> Decode.withDefault fs (.only "meta") .empty
      (fun v => RunInfo.decode (Decode.nullAsObject v))
    <*> Decode.withDefault fs (.only "source") none (Decode.optional Decode.text)

def decode : Json → Checked AnalysisResult :=
  Decode.model ofFields

def toJson (r : AnalysisResult) : Json :=
  .obj [("sourceType", .ofText? r.kind), ("sourceFormat", .ofText? r.format),
    ("sourceList", .ofTexts r.sources), ("issues", .arr (r.findings.map Finding.toJson)),
    ("meta", r.info.toJson), ("source", .ofText? r.source)]

end AnalysisResult

namespace FindingGroup

def ofFields (fs : Json.Fields) : Checked FindingGroup :=
  FindingGroup.mk <$> Decode.required fs ⟨"sourceIndex", "source_index"⟩ Decode.integer
    <*> Decode.required fs (.only "source") Decode.text
    <*> Decode.withDefault fs ⟨"sourceType", "source_type"⟩ none (Decode.optional Decode.text)
    <*> Decode.withDefault fs ⟨"sourceFormat", "source_format"⟩ none (Decode.optional Decode.text)
    <*> Decode.withDefault fs (.only "issues") [] (Decode.listOf Finding.decode)

def decode : Json → Checked FindingGroup :=
  Decode.model ofFields

def toJson (g : FindingGroup) : Json :=
  .obj [("sourceIndex", .int g.index), ("source", .str g.source),
    ("sourceType", .ofText? g.kind), ("sourceFormat", .ofText? g.format),
    ("issues", .arr (g.findings.map Finding.toJson))]

end FindingGroup
end AuditReport
