import AuditReport.Artifact.Selection
import AuditReport.Contract.Report

/-!
# Many contracts

The contracts of a batch are worked on in any order. What comes out is put together in the order of
the jobs, so that it does not depend on the order of work. A fault that can be reported ends one
contract and leaves the others alone.
-/
namespace AuditReport

structure Job where
  artifact : Artifact
  results : List AnalysisResult
  deriving Inhabited

inductive Completion where
  | report (r : ContractReport)
  | failure (message : String)
  deriving DecidableEq, Repr, Inhabited

structure Batch where
  contracts : List ContractReport
  errors : List String
  deriving DecidableEq, Repr, Inhabited

namespace Job

/-- Works on one contract. Only a fault that cannot be reported is passed on. -/
def complete (config : ReportConfig) (j : Job) : Except Fault Completion :=
  match (ContractReport.ofResults j.artifact j.results config).outcome with
  | .ok r => .ok (.report r)
  | .error e =>
    if e.isReported then .ok (.failure (j.artifact.name ++ ": " ++ e.message)) else .error e

end Job

namespace Completion

def report? : Completion → Option ContractReport
  | report r => some r
  | failure _ => none

def failure? : Completion → Option String
  | report _ => none
  | failure m => some m

end Completion

namespace Batch

/-- The outcome of a batch, from completions that came in any order with the positions of their
jobs. -/
def gather (count : Nat) (completed : List (Nat × Completion)) : Batch :=
  let inOrder := (List.range count).filterMap fun i => (completed.find? fun c => c.1 == i).map (·.2)
  ⟨inOrder.filterMap Completion.report?, inOrder.filterMap Completion.failure?⟩

def completeAll (config : ReportConfig) (jobs : List Job) :
    List Nat → Except Fault (List (Nat × Completion))
  | [] => .ok []
  | i :: order =>
    match jobs[i]? with
    | none => completeAll config jobs order
    | some j => do
      let c ← j.complete config
      let more ← completeAll config jobs order
      return (i, c) :: more

def runIn (config : ReportConfig) (jobs : List Job) (order : List Nat) : Except Fault Batch :=
  (completeAll config jobs order).map (gather jobs.length)

def run (config : ReportConfig) (jobs : List Job) : Except Fault Batch :=
  runIn config jobs (List.range jobs.length)

def analyzedNames (b : Batch) : List String :=
  b.contracts.map (·.name)

end Batch

/-- The file reports of contracts, one a path, with every record once. -/
def combinedReports (contracts : List ContractReport) : List FileReport :=
  FileReport.combine (contracts.flatMap (·.reports))

/-- The log lines worth showing: all of them for debugging, else those above the level `info`. -/
def visibleLogs (debug : Bool) (logs : List LogLine) : List LogLine :=
  logs.filter fun l => debug || l.level != "info"

/-- Whether something asks for attention: a record, an error, a wanted contract that was not
analyzed, or a visible log line. -/
def needsAttention (reports : List FileReport) (b : Batch) (wanted : List String) (debug : Bool) :
    Bool :=
  reports.any (fun r => !r.records.isEmpty) || !b.errors.isEmpty ||
    !(missingNames wanted b.analyzedNames).isEmpty ||
    !(visibleLogs debug (b.contracts.flatMap (·.logs))).isEmpty

def exitStatus (reports : List FileReport) (b : Batch) (wanted : List String) (debug : Bool) : Nat :=
  if needsAttention reports b wanted debug then 1 else 0

end AuditReport
