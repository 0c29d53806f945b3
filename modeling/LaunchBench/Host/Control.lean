import LaunchBench.Host.Setup
import LaunchBench.Host.ProcessTable
import LaunchBench.Text.Lines
/-!
Controlling the host's processes from the harness.

Signals go to process ids that fit a signed 32-bit number; a larger id is
refused before anything is sent, and a process that is already gone is no
error. A process is alive while signal 0 finds it, which includes a child
that ended and was not reaped yet.

The descendants of a process come from the process status tool, run on the
harness's search path and read only when it succeeds; without it, from the
table under `/proc`.

* **`send_range`**: an id above the largest signed 32-bit number is refused.
-/

namespace LaunchBench.Host

/-- The largest process id a signal can be sent to. -/
def maxSignalPid : Nat := Nat.pow 2 31 - 1

/-- Sends a signal, or says why it cannot be sent. -/
def World.send (w : World) (pid : Nat) (sig : Signal) : World × Except String Unit :=
  if pid > maxSignalPid then (w, .error "pid out of range")
  else (w.deliver pid sig, .ok ())

/-- Whether a process is alive: signal 0 would find it. -/
def World.alive (w : World) (pid : Nat) : Bool := pid ≤ maxSignalPid && w.present pid

/-- The table of processes under `/proc`: a process and its parent per line. -/
def World.procTable (w : World) : String :=
  String.join (w.procs.map fun p => toString p.pid ++ " " ++ toString p.parent ++ "\n")

/-- The search path of an environment. -/
def pathOf (env : List (String × String)) : String :=
  ((env.find? (·.1 == "PATH")).map (·.2)).getD ""

/-- How long the harness lets a utility run. -/
def captureLimitMs : Nat := 60000

/-- Runs a utility to its end from the harness, with nothing on its input:
what it wrote on its output when it exited with code 0. -/
def World.capture (w : World) (env : List (String × String)) (cwd : Location)
    (argv : List String) : World × Option String :=
  let (w, out) := w.openPipe
  let (w, err) := w.openPipe
  match spawn w harnessPid cwd [(0, .null), (1, .pipeOut out), (2, .pipeOut err)] argv env
      (pathOf env) with
  | .error _ => (w, none)
  | .ok (w, pid) =>
    let w := w.wait captureLimitMs fun w => !w.running pid
    let (w, status) := w.reap pid
    let text := Text.decodeLossy (w.pipeData out)
    (w, if status == some (.exited 0) then some text else none)

/-- The command that lists every process with its parent. -/
def processListCommand : List String := ["ps", "-A", "-o", "pid=", "-o", "ppid="]

/-- The descendants of a process, breadth first. -/
def World.descendants (w : World) (env : List (String × String)) (cwd : Location) (pid : Nat) :
    World × List Nat :=
  match w.capture env cwd processListCommand with
  | (w, some table) => (w, descendantsIn table pid)
  | (w, none) => (w, descendantsIn w.procTable pid)

/-- The resident memory of a process in kilobytes, read from its status
under `/proc`, when the host shows it. -/
def World.rssFallback (w : World) (pid : Nat) : Option Int :=
  match w.view.read ["proc", toString pid, "status"] with
  | .ok bytes =>
    ((Text.lines (Text.decodeLossy bytes)).findSome? fun l =>
      if l.startsWith "VmRSS:" then ((l.drop 6).trimAscii.toString.splitOn " ").head?.bind String.toInt?
      else none)
  | .error _ => none

/-- The number of open descriptors of a process, from its directory of
descriptors under `/proc`, when the host shows it. -/
def World.fdFallback (w : World) (pid : Nat) : Option Nat :=
  (w.view.list ["proc", toString pid, "fd"]).toOption.map List.length

theorem send_range (w : World) (pid sig : Nat) (h : pid > maxSignalPid) :
    (w.send pid sig).2 = .error "pid out of range" := by
  simp [World.send, h]

end LaunchBench.Host
