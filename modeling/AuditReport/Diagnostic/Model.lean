import AuditReport.Decode.Value
import AuditReport.Severity
import AuditReport.Source.Position

/-!
# Diagnostics

A record tells one finding at one place; a file report holds the records of one file and counts its
errors and warnings.
-/
namespace AuditReport

open Decode (Checked FieldName)

structure Record where
  ruleId : String
  message : String
  severity : Int
  engineSeverity : Option String
  line : Int
  column : Int
  endLine : Option Int
  endColumn : Option Int
  fatal : Bool
  deriving DecidableEq, Repr, Inhabited

structure FileReport where
  path : String
  errors : Int
  warnings : Int
  fixableErrors : Int
  fixableWarnings : Int
  records : List Record
  deriving DecidableEq, Repr, Inhabited

namespace LineColumn

def ofFields (fs : Json.Fields) : Checked LineColumn :=
  LineColumn.mk <$> Decode.required fs (.only "line") Decode.integer
    <*> Decode.required fs (.only "column") Decode.integer

def decode : Json → Checked LineColumn :=
  Decode.model ofFields

def toJson (p : LineColumn) : Json :=
  .obj [("line", .int p.line), ("column", .int p.column)]

end LineColumn

namespace Span

def ofFields (fs : Json.Fields) : Checked Span :=
  Span.mk <$> Decode.withDefault fs (.only "start") .unknown LineColumn.decode
    <*> Decode.withDefault fs (.only "end") none (Decode.optional LineColumn.decode)

def decode : Json → Checked Span :=
  Decode.model ofFields

def toJson (s : Span) : Json :=
  .obj [("start", s.start.toJson), ("end", (s.stop.map LineColumn.toJson).getD .null)]

end Span

namespace Record

def ofFields (fs : Json.Fields) : Checked Record :=
  Record.mk <$> Decode.required fs ⟨"ruleId", "rule_id"⟩ Decode.text
    <*> Decode.required fs (.only "message") Decode.text
    <*> Decode.required fs (.only "severity") Decode.integer
    <*> Decode.withDefault fs ⟨"nativeSeverity", "native_severity"⟩ none
      (Decode.optional Decode.text)
    <*> Decode.withDefault fs (.only "line") (-1) Decode.integer
    <*> Decode.withDefault fs (.only "column") 0 Decode.integer
    <*> Decode.withDefault fs ⟨"endLine", "end_line"⟩ none (Decode.optional Decode.integer)
    <*> Decode.withDefault fs ⟨"endCol", "end_col"⟩ none (Decode.optional Decode.integer)
    <*> Decode.withDefault fs (.only "fatal") false Decode.truth

def decode : Json → Checked Record :=
  Decode.model ofFields

def toJson (r : Record) : Json :=
  .obj [("ruleId", .str r.ruleId), ("message", .str r.message), ("severity", .int r.severity),
    ("nativeSeverity", .ofText? r.engineSeverity), ("line", .int r.line),
    ("column", .int r.column), ("endLine", .ofInt? r.endLine), ("endCol", .ofInt? r.endColumn),
    ("fatal", .bool r.fatal)]

/-- Fatal records count as errors whatever their severity. -/
def isError (r : Record) : Bool :=
  r.fatal || r.severity == Level.error.toInt

end Record

def errorCount (rs : List Record) : Nat :=
  rs.countP Record.isError

def warningCount (rs : List Record) : Nat :=
  rs.countP fun r => !r.isError

namespace FileReport

def ofFields (fs : Json.Fields) : Checked FileReport :=
  FileReport.mk <$> Decode.required fs ⟨"filePath", "file_path"⟩ Decode.text
    <*> Decode.withDefault fs ⟨"errorCount", "error_count"⟩ 0 Decode.integer
    <*> Decode.withDefault fs ⟨"warningCount", "warning_count"⟩ 0 Decode.integer
    <*> Decode.withDefault fs ⟨"fixableErrorCount", "fixable_error_count"⟩ 0 Decode.integer
    <*> Decode.withDefault fs ⟨"fixableWarningCount", "fixable_warning_count"⟩ 0 Decode.integer
    <*> Decode.withDefault fs (.only "messages") [] (Decode.tupleOf Record.decode)

def decode : Json → Checked FileReport :=
  Decode.model ofFields

def toJson (r : FileReport) : Json :=
  .obj [("filePath", .str r.path), ("errorCount", .int r.errors), ("warningCount", .int r.warnings),
    ("fixableErrorCount", .int r.fixableErrors), ("fixableWarningCount", .int r.fixableWarnings),
    ("messages", .arr (r.records.map Record.toJson))]

/-- The report with its errors and warnings counted anew for other records. -/
def withRecords (r : FileReport) (rs : List Record) : FileReport :=
  { r with records := rs, errors := errorCount rs, warnings := warningCount rs }

end FileReport
end AuditReport
