import AuditReport.Artifact.Build
import AuditReport.Command.Arguments
import AuditReport.Command.Console
import AuditReport.Command.Disk
import AuditReport.Contract.Results
import AuditReport.Json.Printer

/-!
# The report command

The command reads a build record and the results of its analysis, writes the reports to standard
output or to a file, and tells on standard error what went wrong. It ends with status 0 when nothing
asks for attention, 1 when something does, and 2 when the input is at fault.
-/
namespace AuditReport.Command

/-- What a run finds around it: how many arrays and objects of a document the reader can go into, in the
files of a run and in the options of its project, and a screen for titles. -/
structure Host where
  maxDepth : Nat
  optionsDepth : Nat
  screen : Console.Screen

/-- How a run ends: by itself with a status, or cut off by a defect. -/
inductive Ending where
  | status (code : Nat)
  | cutOff (d : Defect)
  deriving DecidableEq, Repr, Inhabited

structure Outcome where
  ending : Ending
  stdout : String
  stderr : String
  disk : Disk
  deriving Inhabited

namespace Options

def say (o : Options) (tone : Console.Tone) (text : String) : String :=
  Console.line tone text o.glyphs

/-- The options that the command line gives, null for those that it does not. -/
def reportOptions (o : Options) : Json.Fields :=
  [("min-severity", .ofText? o.minSeverity), ("swc-blacklist", .ofText? o.swcBlacklist),
    ("style", .ofText? o.style), ("debug", if o.debug then .int 1 else .null)]

def paths (o : Options) : List String :=
  [o.build, o.results] ++ o.output.toList ++ o.projectRoot.toList

/-- The directory of the project: the one that is given, or that of the build record. -/
def root (o : Options) : String :=
  o.projectRoot.getD (Disk.parentPath o.build)

def load (o : Options) (host : Host) (d : Disk) : Except Fault (ReportConfig × List Artifact) := do
  let project ← d.wholeOptions host.optionsDepth o.root
  let config ← ReportConfig.build o.reportOptions project
  let record ← d.readJson host.maxDepth o.build
  let artifacts ← Build.artifacts (← Build.entries record)
  return (config, uniqueArtifacts artifacts)

def analyze (o : Options) (host : Host) (d : Disk) (config : ReportConfig) (artifacts : List Artifact) :
    Except Fault (List Job × Batch) := do
  let found := foundNames artifacts o.contracts
  let selected := artifacts.filter fun a => found.contains a.name
  let results ← ResultSet.decode (← d.readJson host.maxDepth o.results)
  let jobs ← results.jobs selected
  return (jobs, ← Batch.run config jobs)

/-- The contracts that are wanted: those asked for, or all when none is. -/
def wanted (o : Options) (artifacts : List Artifact) : List String :=
  if o.contracts.isEmpty then foundNames artifacts o.contracts else o.contracts

def notFoundText (o : Options) (artifacts : List Artifact) : String :=
  match missingNames o.contracts (foundNames artifacts o.contracts) with
  | [] => ""
  | names => o.say .fail ("These smart contracts were not found: " ++ ", ".intercalate names)

def logText (o : Options) (screen : Console.Screen) (c : ContractReport) : Except MarkupFlaw String :=
  match visibleLogs o.debug c.logs with
  | [] => .ok ""
  | logs => do
    let title ← Console.sectionTitle screen
      ("Analysis logs: " ++ Text.orDefault (some c.sourcePath) c.name) o.color
    return title ++ String.join (logs.map fun l => o.say .warn (l.level ++ ": " ++ l.text))

/-- The messages on a batch, in order: contracts that were not analyzed, logs, errors. -/
def problemTexts (o : Options) (screen : Console.Screen) (b : Batch) (wanted : List String) :
    List (Except MarkupFlaw String) :=
  let unanalyzed := match missingNames wanted b.analyzedNames with
    | [] => ""
    | names =>
      o.say .fail ("These smart contracts were unable to be analyzed: " ++ ", ".intercalate names)
  let errors := if b.errors.isEmpty then "" else
    o.say .fail "Internal analysis errors encountered:" ++ String.join (b.errors.map (o.say .fail))
  .ok unanalyzed :: b.contracts.map (o.logText screen) ++ [.ok errors]

def debugText (o : Options) (jobs : List Job) : String :=
  if o.debug then
    s!"debug: normalising {jobs.length} contract(s) with up to {o.jobs} worker(s)\n"
  else ""

end Options

/-- The reports as a document, with a line feed at its end. -/
def document (reports : List FileReport) : String :=
  Json.render Json.indented (.arr (reports.map FileReport.toJson)) ++ "\n"

/-- The messages before the first that cannot be shown, and why that cannot. -/
def shownTexts : List (Except MarkupFlaw String) → String × Option MarkupFlaw
  | [] => ("", none)
  | .ok text :: rest => (text ++ (shownTexts rest).1, (shownTexts rest).2)
  | .error flaw :: _ => ("", some flaw)

def Outcome.ofFault (o : Options) (d : Disk) (told : String) : Fault → Outcome
  | .defect e => ⟨.cutOff e, "", told, d⟩
  | e => ⟨.status 2, "", told ++ o.say .fail e.message, d⟩

/-- Writes the reports and tells the problems. -/
def finish (o : Options) (host : Host) (d : Disk) (told : String) (artifacts : List Artifact) (b : Batch) :
    Outcome :=
  let reports := combinedReports b.contracts
  let wanted := o.wanted artifacts
  let (problems, flaw) := shownTexts (o.problemTexts host.screen b wanted)
  let ending := match flaw with
    | none => Ending.status (exitStatus reports b wanted o.debug)
    | some flaw => .cutOff (.markup flaw)
  match o.output with
  | none => ⟨ending, document reports, told ++ problems, d⟩
  | some path =>
    match d.write path (document reports).toUTF8 with
    | .error flaw => ⟨.cutOff (.unwritable flaw), "", told, d⟩
    | .ok d =>
      let note := o.say .info
        s!"Wrote {reports.length} file report(s) to {Disk.usualPath path}"
      ⟨ending, "", told ++ note ++ problems, d⟩

def report (host : Host) (o : Options) (d : Disk) : Outcome :=
  if !o.paths.all Disk.isUsable then ⟨.cutOff .nullInPath, "", "", d⟩
  else
    match o.load host d with
    | .error e => .ofFault o d "" e
    | .ok (config, artifacts) =>
      let told := o.notFoundText artifacts
      match o.analyze host d config artifacts with
      | .error e => .ofFault o d told e
      | .ok (jobs, b) => finish o host d (told ++ o.debugText jobs) artifacts b

def usage : String :=
  "Usage: report [OPTIONS] BUILD RESULTS\n"

def run (host : Host) (arguments : List String) (d : Disk) : Outcome :=
  match Request.ofArguments arguments with
  | .report o => report host o d
  | .help => ⟨.status 0, usage, "", d⟩
  | .wrongUsage => ⟨.status 2, "", usage, d⟩

end AuditReport.Command
