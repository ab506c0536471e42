import AuditReport.Finding.Model
import AuditReport.Note
import AuditReport.SourceMap.Location
import AuditReport.Text.Given

/-!
# Findings by source

The findings of a result are grouped by the source that they point at. Every location of a finding
gives a copy of the finding with that location alone; a finding without locations goes to the first
group, and so does a location whose source is not known.
-/
namespace AuditReport

/-- The source of findings when nothing tells it. -/
def unknownSource : String := "unknown"

/-- The id and title of findings that have none. -/
def missingId : String := "N/A"

namespace FindingGroup

/-- The groups with an empty one for a source that has none. -/
def addSource (groups : List FindingGroup) (source : String) (kind format : Option String) :
    List FindingGroup :=
  if groups.any fun g => g.source == source then groups
  else groups ++ [⟨groups.length, source, kind, format, []⟩]

end FindingGroup

namespace Finding

/-- The finding with one location or none, and with an id and a title. -/
def single (f : Finding) (location : Option Location) : Finding :=
  { f with
    swcId := some (Text.orDefault f.swcId missingId)
    swcTitle := some (Text.orDefault f.swcTitle missingId)
    locations := location.toList }

/-- The locations of a finding one by one, or none once when it has no locations. -/
def places (f : Finding) : List (Option Location) :=
  match f.locations with
  | [] => [none]
  | ls => ls.map some

end Finding

namespace AnalysisResult

/-- A source that a result names, with the kind and format that go with it. -/
structure NamedSource where
  source : String
  kind : Option String
  format : Option String
  deriving DecidableEq, Repr, Inhabited

/-- The sources that a result names: those of its own list, then those of its locations. -/
def namedSources (r : AnalysisResult) : List NamedSource :=
  r.sources.map (fun s => ⟨s, r.kind, r.format⟩) ++
    r.findings.flatMap fun f => f.locations.flatMap fun l =>
      l.sources.map fun s => ⟨s, Text.orElse l.kind r.kind, Text.orElse l.format r.format⟩

/-- One empty group for each source that a result names, or one for a result that has findings and
names no source. -/
def emptyGroups (r : AnalysisResult) : Noted (List FindingGroup) :=
  let groups := r.namedSources.foldl (fun gs n => FindingGroup.addSource gs n.source n.kind n.format) []
  if groups.isEmpty && !r.findings.isEmpty then do
    let used := Text.orDefault r.source unknownSource
    Noted.leave (.noSourceList used)
    return FindingGroup.addSource [] used r.kind r.format
  else return groups

/-- The file index by which a location is placed: zero when it names no file. -/
def placingIndex (l : Location) : Noted Int := do
  match ← SourceMap.fileIndex l.sourceMap with
  | some i =>
    if i = -1 then
      Noted.leave (.noFile l.sourceMap)
      return 0
    else return i
  | none =>
    Noted.leave (.noFile l.sourceMap)
    return 0

/-- The source names that the file index of a location counts in. -/
def namesFor (r : AnalysisResult) (l : Location) : List String :=
  if l.sources.isEmpty then r.sources else l.sources

def groupAt? (groups : List FindingGroup) (names : List String) (index : Int) : Option Nat :=
  if index < 0 then none
  else (names[index.toNat]?).bind fun s => groups.findIdx? fun g => g.source == s

/-- The position of the group that a location belongs to. -/
def groupOf (r : AnalysisResult) (groups : List FindingGroup) : Option Location → Noted Nat
  | none => return 0
  | some l => do
    let index ← placingIndex l
    match groupAt? groups (r.namesFor l) index with
    | some g => return g
    | none =>
      Noted.leave (.indexOutsideList index l.sourceMap)
      return 0

def placedFindings (r : AnalysisResult) : List (Finding × Option Location) :=
  r.findings.flatMap fun f => f.places.map fun l => (f, l)

/-- The groups filled with the copies that were assigned to their positions. -/
def fill (groups : List FindingGroup) (placed : List (Nat × Finding)) : List FindingGroup :=
  groups.zipIdx.map fun (g, i) =>
    { g with findings := g.findings ++ (placed.filter fun p => p.1 == i).map (·.2) }

def group (r : AnalysisResult) : Noted (List FindingGroup) := do
  let groups ← r.emptyGroups
  let placed ← Noted.each
    (fun (p : Finding × Option Location) => do
      let g ← r.groupOf groups p.2
      return (g, p.1.single p.2))
    r.placedFindings
  return fill groups placed

end AnalysisResult
end AuditReport
