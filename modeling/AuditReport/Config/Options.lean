import AuditReport.Config.Filter
import AuditReport.Fault

/-!
# Report configuration

Options that are given explicitly go before those of the project; null counts as not given. Only some
styles show the long form of a message.
-/
namespace AuditReport

structure ReportConfig where
  style : String
  debug : Int
  filter : Filter
  deriving DecidableEq, Repr, Inhabited

namespace ReportConfig

def defaultStyle : String := "stylish"

def fullStyles : List String := ["tap", "markdown", "json"]

def spaceLimited (c : ReportConfig) : Bool :=
  !fullStyles.contains c.style

/-- The project's options with the explicit ones put over them. -/
def merge (options project : Json.Fields) : Json.Fields :=
  Table.putAll project (options.filter fun o => !o.2.isNull)

/-- The least level to report: a number has to be that of a level, anything else is taken for the
name of one. -/
def threshold : Json → Except Fault Level
  | .int n =>
    match Level.ofInt? n with
    | some l => .ok l
    | none => .error (.config (.threshold n))
  | v => .ok (Level.ofName (if v.given then some v.shown else none) .warning)

/-- The whole number that an option stands for; fractions are cut off. -/
def wholeNumber : Json → Except Fault Int
  | .int n => .ok n
  | .bool b => .ok (if b then 1 else 0)
  | .null => .ok 0
  | .real x =>
    match x with
    | .nan => .error (.config (.integer .notANumber))
    | .infinite _ => .error (.defect .infiniteInteger)
    | .finite s m p => .ok ((Binary64.truncate? (.finite s m p)).getD 0)
  | .str s =>
    match Text.Numeral.read s.toList with
    | .ok n => .ok n
    | .error flaw => .error (.config (.integer (.text s flaw)))
  | .arr _ => .error (.config (.integer .list))
  | .obj _ => .error (.config (.integer .object))

/-- The style, checked after all other options. -/
def styleName (v : Json) : Except Fault String :=
  match (Decode.text (v.orElse (.str defaultStyle))).under (.key "style") with
  | .ok s => .ok s
  | .bad cs => .error (.config (.invalid cs))

def ofFields (fs : Json.Fields) : Decode.Checked ReportConfig :=
  ReportConfig.mk <$> Decode.withDefault fs (.only "style") defaultStyle Decode.text
    <*> Decode.withDefault fs (.only "debug") 0 Decode.integer
    <*> Decode.withDefault fs (.only "filters") .empty Filter.decode

def decode : Json → Decode.Checked ReportConfig :=
  Decode.model ofFields

def toJson (c : ReportConfig) : Json :=
  .obj [("style", .str c.style), ("debug", .int c.debug), ("filters", c.filter.toJson)]

/-- The configuration that options make together with those of the project. -/
def build (options project : Json.Fields) : Except Fault ReportConfig := do
  let merged := merge options project
  let level ← threshold (Json.valueOf merged "min-severity")
  let blacklist := RuleId.listOfJson (Json.valueOf merged "swc-blacklist")
  let debug ← wholeNumber ((Json.valueOf merged "debug").orElse (.int 0))
  let style ← styleName (Json.valueOf merged "style")
  return ⟨style, debug, ⟨some level, blacklist⟩⟩

end ReportConfig
end AuditReport
