import AuditReport.Config.RuleId
import AuditReport.Decode.Value
import AuditReport.Diagnostic.Model

/-!
# Filters

A filter drops the records below a severity and those of listed rules.
-/
namespace AuditReport

open Decode (Checked)

structure Filter where
  threshold : Option Level
  blacklist : List String
  deriving DecidableEq, Repr, Inhabited

namespace Filter

def empty : Filter := ⟨none, []⟩

/-- The level that a number, or true for one, denotes. -/
def level : Json → Checked Level
  | .int n => if Decode.fitsWord n then ofNumber n else .fail .oversizedInteger
  | .bool b => ofNumber (if b then 1 else 0)
  | .real x => if x.isFinite then ((x.toInt?).map ofNumber).getD (.fail .notLiteral)
    else .fail .notLiteral
  | _ => .fail .notLiteral
where
  ofNumber (n : Int) : Checked Level :=
    match Level.ofInt? n with
    | some l => .ok l
    | none => .fail .notLiteral

def ofFields (fs : Json.Fields) : Checked Filter :=
  Filter.mk <$> Decode.withDefault fs (.only "severity_threshold") none (Decode.optional level)
    <*> Decode.withDefault fs (.only "id_blacklist") [] (fun v => .ok (RuleId.listOfJson v))

def decode : Json → Checked Filter :=
  Decode.model ofFields

def toJson (f : Filter) : Json :=
  .obj [("severity_threshold", .ofInt? (f.threshold.map Level.toInt)),
    ("id_blacklist", .ofTexts f.blacklist)]

def keeps (f : Filter) (r : Record) : Bool :=
  (f.threshold.all fun l => decide (l.toInt ≤ r.severity)) && !f.blacklist.contains r.ruleId

def apply (f : Filter) (rs : List Record) : List Record :=
  rs.filter f.keeps

end Filter
end AuditReport
