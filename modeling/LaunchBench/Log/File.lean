import LaunchBench.Log.Signal
import LaunchBench.Log.Timing
import LaunchBench.Host.FileTree
import LaunchBench.HostPath
/-!
Checks of a log file on the host.

A log is read whole and its bytes taken as UTF-8, broken sequences replaced.
A log that is not there is reported as missing before any read is tried; a
log that cannot be read is reported with the host's reason.

* **`ensureClean`** fails with every offending line, sorted, when there is one.
* **`checkListeningHost`** looks at the first line that says where the
  application listens, and wants the expected host somewhere in it.
-/

namespace LaunchBench

open Host

/-- Why a log check failed. -/
inductive LogError where
  /-- The log is not there. -/
  | missing (path : HostPath)
  /-- The log could not be read. -/
  | unreadable (path : HostPath) (reason : IoError)
  /-- The log has offending lines. -/
  | offending (path : HostPath) (lines : List String)
  /-- No line says where the application listens. -/
  | noListeningLine (path : HostPath)
  /-- The line that says where the application listens does not name the host. -/
  | unexpectedHost (path : HostPath) (expected : String) (line : String)
deriving Repr

namespace LogError

/-- The message of the error. -/
def message : LogError → String
  | .missing p => "log file does not exist: " ++ p
  | .unreadable p r => "failed to read " ++ p ++ ": " ++ r.message
  | .offending p ls => p ++ " contains offending lines:\n" ++ "\n".intercalate ls
  | .noListeningLine p => p ++ " has no 'Listening on:' line"
  | .unexpectedHost p h l => p ++ " does not listen on " ++ h ++ ": " ++ l

/-- The name of the error's kind. -/
def kind : LogError → String
  | .missing .. => "Missing"
  | .unreadable .. => "Read"
  | .offending .. => "Offending"
  | .noListeningLine .. => "ListeningLineMissing"
  | .unexpectedHost .. => "UnexpectedHost"

end LogError

/-- The text of a log read from the host, `cwd` being the directory relative
paths are read from. -/
def readLog (fs : FileTree) (cwd : Location) (path : HostPath) : Except LogError String :=
  match locate cwd path with
  | .error _ => .error (.missing path)
  | .ok loc =>
    if !fs.exists? loc then .error (.missing path)
    else match fs.read loc with
      | .ok bytes => .ok (Text.decodeLossy bytes)
      | .error e => .error (.unreadable path (.os e))

/-- The offending lines of a log file. -/
def checkLog (w : Whitelist) (fs : FileTree) (cwd : Location) (path : HostPath) :
    Except LogError (List String) := do
  let content ← readLog fs cwd path
  .ok (offendingLines w content)

/-- Fails with the offending lines of a log file, if it has any. -/
def ensureClean (w : Whitelist) (fs : FileTree) (cwd : Location) (path : HostPath) :
    Except LogError Unit := do
  let lines ← checkLog w fs cwd path
  if lines.isEmpty then .ok () else .error (.offending path lines)

/-- The start and stop times a log file reports. -/
def parseStartStopFile (fs : FileTree) (cwd : Location) (path : HostPath) :
    Except LogError StartStop := do
  let content ← readLog fs cwd path
  .ok (parseStartStop content)

/-- The marker of the line that says where the application listens. -/
def listeningMarker : String := "Listening on:"

/-- Checks that the first line with the listening marker names `host`. -/
def checkListeningHost (fs : FileTree) (cwd : Location) (path : HostPath) (host : String) :
    Except LogError Unit := do
  let content ← readLog fs cwd path
  match (Text.lines content).find? (Text.containsText · listeningMarker) with
  | none => .error (.noListeningLine path)
  | some line => if Text.containsText line host then .ok () else .error (.unexpectedHost path host line)

end LaunchBench
