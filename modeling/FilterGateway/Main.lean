import FilterGateway.Cli.Commands
import FilterGateway.Live.Monitor
import FilterGateway.Telemetry.LogFilter

/-!
# The command line

Files are read and lines are printed here. A file that is watched is read again after each poll
interval, and counts as changed when it differs from what was read before.
-/

namespace FilterGateway.Cli

/-- What stands under a path at this moment. -/
def readFile (path : String) : IO FileState := do
  try
    return .bytes (← IO.FS.readBinFile path)
  catch
    | .noFileOrDirectory .. => return .missing
    | .permissionDenied .. => return .denied
    | _ => return .directory

/-- Whether two readings of a file are the same. -/
def sameFile : FileState → FileState → Bool
  | .bytes a, .bytes b => a.data == b.data
  | .missing, .missing | .directory, .directory | .belowFile, .belowFile | .denied, .denied
  | .nameTooLong, .nameTooLong => true
  | _, _ => false

def printEvents (filter : LogFilter) (events : List Event) : IO Unit := do
  for e in events do
    if filter.admits e then IO.println e.line
  (← IO.getStdout).flush

/-- Watches the file at `path`, of which `file` is the last reading. -/
partial def watchFrom (path : String) (pause : UInt32) (filter : LogFilter) (file : FileState)
    (monitor : Monitor) : IO Unit := do
  IO.sleep pause
  let now ← readFile path
  if sameFile file now then watchFrom path pause filter file monitor
  else
    let (events, monitor) := monitor.react ⟨.modify, [path]⟩ now
    printEvents filter events
    watchFrom path pause filter now monitor

/-- Watches a file; the result is the code of a program that cannot choose what it logs. -/
def watchFile (path : String) : IO UInt32 := do
  let loaded ← readFile path
  let initial := loadConfig loaded
  let .ok filter := LogFilter.choose (← IO.getEnv "RUST_LOG") (logLevelOf initial)
    | return UInt32.ofNat abnormalCode
  let seconds :=
    match initial with
    | .ok config => min config.reload.pollInterval.toNat 3600
    | .error _ => 2
  let file ← readFile path
  let (events, monitor) := Monitor.start path loaded file
  printEvents filter events
  watchFrom path (UInt32.ofNat (seconds * 1000)) filter file monitor
  return 0

end FilterGateway.Cli

open FilterGateway.Cli in
def main (args : List String) : IO UInt32 := do
  let file ←
    match read? args with
    | some (.run path _) => readFile path
    | _ => pure .missing
  match report? (fun _ => file) args with
  | some report =>
    IO.print report.output
    IO.eprint report.errors
    return UInt32.ofNat report.code
  | none =>
    match read? args with
    | some (.run path _) => watchFile path
    | _ => return 0
