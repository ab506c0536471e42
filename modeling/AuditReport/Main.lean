import AuditReport.Command.Run
import AuditReport.Markup.Screen

/-!
# The program

Lists the files that a run may read, runs the command on the listing, and writes what it gives.
-/
namespace AuditReport.Command

/-- Adds the node at a path to the listing, if there is one. A directory can be opened but not
read. -/
def scan (d : Disk) (path : String) : IO Disk := do
  match ← (IO.FS.Handle.mk path .read).toBaseIO with
  | .error _ => return d
  | .ok handle =>
    match ← handle.readBinToEnd.toBaseIO with
    | .ok bytes => return d.install path (.file bytes)
    | .error _ => return d.install path .directory

/-- Adds what the paths of a request lead to. -/
def scanAll (o : Options) : IO Disk := do
  let paths := [Disk.childPath o.root Disk.projectFile, o.build, o.results]
  let outputs := o.output.toList.flatMap fun p => [Disk.parentPath p, p]
  (paths ++ outputs).foldlM scan Disk.empty

/-- The reader may call itself until a thousand calls are open. Those that lead to it take up a part of
them, one more where options are read. -/
def host : Host where
  maxDepth := 980
  optionsDepth := 979
  screen := Markup.screen

/-- Runs a request and writes the file that it asks for. -/
def perform (o : Options) : IO Outcome := do
  let outcome := report host o (← scanAll o)
  if let some path := o.output then
    match outcome.disk.read path, outcome.ending with
    | .ok bytes, .status _ | .ok bytes, .cutOff (.markup _) => IO.FS.writeBinFile path bytes
    | _, _ => pure ()
  return outcome

def start (arguments : List String) : IO UInt32 := do
  let outcome ← match arguments with
    | "report" :: rest =>
      match Request.ofArguments rest with
      | .report o => perform o
      | _ => pure (run host rest Disk.empty)
    | _ => pure (run host [] Disk.empty)
  IO.print outcome.stdout
  IO.eprint outcome.stderr
  match outcome.ending with
  | .status code => return code.toUInt32
  | .cutOff d =>
    IO.eprintln d.message
    return 1

end AuditReport.Command

def main (arguments : List String) : IO UInt32 :=
  AuditReport.Command.start arguments
