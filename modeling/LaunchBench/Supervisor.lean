import LaunchBench.Host.Control
import LaunchBench.Command.Builder
/-!
The process supervisor.

The supervisor starts a command in its working directory with its output and
errors going to its log file, which is made empty first. It runs a command to
its end within a time limit, killing it when the limit passes. It stops a
command together with everything the command started: unless forced it first
asks every descendant and then the command itself to terminate and waits
for the command to end, then kills whatever is left. Stopping a command that
has ended does nothing.

A stop is written against a `ProcessHost`: the calls it makes on process ids
and on the handle of the command it started. The host's processes, reached
from the harness, are one such host (`Supervisor.host`); the runtime's wait
for a started command is given with the supervisor, and a wait may fail. A
failed wait ends a stop or a bounded run with its error.

* **`stop_ended`**: stopping a command whose end was already seen changes
  nothing.
-/

namespace LaunchBench

open Host

/-- Why the supervisor failed. -/
inductive SupervisorError where
  /-- The host refused an operation. -/
  | io (e : IoError)
  /-- The log file could not be made. -/
  | logFile (path : HostPath) (e : IoError)
  /-- The program was not found. -/
  | notFound (program : String)
  /-- The command did not end within the limit. -/
  | timeout (command : String) (seconds : Nat)
  /-- The command has no program. -/
  | emptyCommand
  /-- The working directory is missing. -/
  | missingWorkdir (path : HostPath)
deriving Repr

namespace SupervisorError

/-- The error's text. -/
def message : SupervisorError → String
  | .io e => "io error: " ++ e.message
  | .logFile p e => "failed to open log file " ++ p ++ ": " ++ e.message
  | .notFound p => "executable not found: " ++ p
  | .timeout c s => c ++ " did not finish within " ++ toString s ++ " seconds"
  | .emptyCommand => "empty command"
  | .missingWorkdir p => "working directory does not exist: " ++ p

/-- The error's kind. -/
def kind : SupervisorError → String
  | .io _ => "Io"
  | .logFile .. => "LogFile"
  | .notFound _ => "NotFound"
  | .timeout .. => "Timeout"
  | .emptyCommand => "EmptyCommand"
  | .missingWorkdir _ => "MissingWorkdir"

/-- The kind of the host error inside, for the errors that wrap one. -/
def cause? : SupervisorError → Option String
  | .io e => some e.causeName
  | _ => none

end SupervisorError

/-- A command the supervisor started. -/
structure Child where
  /-- Its process. -/
  pid : Nat
  /-- Its program. -/
  program : String
  /-- Its log file. -/
  logFile : HostPath
  /-- How it ended, once that was seen. -/
  status : Option ExitStatus
deriving Repr

/-- How the runtime waits for a command it started: for up to a number of milliseconds, giving
the command's exit status once it ended, `none` when the time passed first, or the error the
wait met. -/
abbrev ChildWait := World → Nat → Nat → World × Except IoError (Option ExitStatus)

/-- The host's wait for a child: the world runs until the command ends or the time passes, and
an ended command is reaped. A process the harness holds no entry for is no child to wait for. -/
def Host.World.waitChild : ChildWait := fun w pid ms =>
  if (w.find? pid).isSome then
    let (w, ended) := (w.wait ms fun w => !w.running pid).reap pid
    (w, .ok ended)
  else (w, .error (.os .noChild))

/-- A supervisor: how long a stop waits before killing, the environment and
directory of the harness it runs in, and how the runtime waits for a command. -/
structure Supervisor where
  /-- How long a graceful stop waits, in milliseconds. -/
  stopWaitMs : Nat
  /-- The harness's environment, which commands inherit. -/
  env : List (String × String)
  /-- The harness's directory, for relative paths. -/
  cwd : Location
  /-- How the runtime waits for a started command. -/
  waitChild : ChildWait

/-- How long a kill waits for the end of a command. -/
def killReapMs : Nat := 10000

/-- Sets variables over an environment. -/
def overlay (base extra : List (String × String)) : List (String × String) :=
  base.filter (fun (n, _) => !extra.any (·.1 == n)) ++ extra

/-- What stopping a command asks of the host. The platform answers for process ids: the
descendants it lists, signals, and whether a process is alive. The handle of the started
command answers for the command itself: whether it has ended, a kill, and a bounded wait
for its end. -/
structure ProcessHost (σ : Type) where
  /-- Polls the command without blocking: its exit status once it has ended, reaping it. -/
  tryWait : σ → Nat → σ × Option ExitStatus
  /-- The command's descendants, as the host lists them now. -/
  descendants : σ → Nat → σ × List Nat
  /-- Sends a signal to a process; an error says why it could not be sent. -/
  signal : σ → Nat → Signal → σ × Except String Unit
  /-- Whether a process is alive. -/
  isAlive : σ → Nat → σ × Bool
  /-- Kills the command through its handle. -/
  killHandle : σ → Nat → σ
  /-- Waits up to a number of milliseconds for the command to end: its exit status if it
  did, `none` if the time passed, or the error the wait met. -/
  waitFor : σ → Nat → Nat → σ × Except IoError (Option ExitStatus)

namespace Supervisor

/-- Starts a command and returns at once. What was done before a failure
stays done: the log's directory, the empty log. -/
def start (sup : Supervisor) (w : World) (cmd : Command) : World × Except SupervisorError Child :=
  match cmd.argv.head? with
  | none => (w, .error .emptyCommand)
  | some program =>
    let workdir := ((locate sup.cwd cmd.workdir).toOption.bind fun loc =>
      (w.files.resolve true loc).toOption).filter w.files.isDir
    match workdir with
    | none => (w, .error (.missingWorkdir cmd.workdir))
    | some workdir =>
      let parentMade : Except Errno FileTree := match HostPath.parent? cmd.logFile with
        | some parent => if parent.isEmpty then .ok w.files else locate sup.cwd parent >>= w.files.mkdirAll
        | none => .ok w.files
      match parentMade with
      | .error e => (w, .error (.io (.os e)))
      | .ok files =>
        let w := { w with files }
        match locate sup.cwd cmd.logFile >>= fun loc => (w.files.write loc [] false).map (loc, ·) with
        | .error e => (w, .error (.logFile cmd.logFile (.os e)))
        | .ok (loc, files) =>
          let w := { w with files }
          let env := overlay sup.env cmd.env.toList
          let fds := [(0, Stream.null), (1, .appendTo loc), (2, .appendTo loc)]
          match spawn w harnessPid workdir fds cmd.argv env (pathOf env) with
          | .ok (w, pid) => (w, .ok ⟨pid, program, cmd.logFile, none⟩)
          | .error .noEntry => (w, .error (.notFound program))
          | .error e => (w, .error (.io (.os e)))

section Host

variable {σ : Type} (host : ProcessHost σ)

/-- Whether a command has ended; reaps it when it has. An end already seen is not asked
about again. -/
def hasExited (s : σ) (c : Child) : σ × Child × Bool :=
  match c.status with
  | some _ => (s, c, true)
  | none =>
    match host.tryWait s c.pid with
    | (s, some st) => (s, { c with status := some st }, true)
    | (s, none) => (s, c, false)

/-- Waits up to `ms` milliseconds for a command to end; a wait that fails gives its error. -/
def waitExit (s : σ) (c : Child) (ms : Nat) : σ × Except IoError Child :=
  match host.waitFor s c.pid ms with
  | (s, .ok (some st)) => (s, .ok { c with status := some st })
  | (s, .ok none) => (s, .ok c)
  | (s, .error e) => (s, .error e)

/-- Sends a signal to each process in turn; one that cannot be sent does not keep it
from the others. -/
def signalEach (s : σ) (pids : List Nat) (sig : Signal) : σ :=
  pids.foldl (fun s p => (host.signal s p sig).1) s

/-- Kills the descendants still alive after the command ended. -/
def killStragglers (s : σ) (descendants : List Nat) : σ :=
  descendants.foldl (fun s p =>
    match host.isAlive s p with
    | (s, true) => (host.signal s p Signal.kill).1
    | (s, false) => s) s

/-- The end of a stop: a command whose end was not seen is killed together with its
descendants and waited for again, and last the descendants still alive are killed. A wait
that fails ends the stop with its error, the command as it was. -/
def escalate (s : σ) (c : Child) (descendants : List Nat) : σ × Child × Except SupervisorError Unit :=
  let escalated :=
    if c.status.isSome then (s, .ok c)
    else waitExit host (host.killHandle (signalEach host s descendants Signal.kill) c.pid) c killReapMs
  match escalated with
  | (s, .error e) => (s, c, .error (.io e))
  | (s, .ok c) => (killStragglers host s descendants, c, .ok ())

/-- Stops a command and everything it started. Unless forced it asks every descendant and
then the command to terminate and waits `stopWaitMs` milliseconds for the command's end;
if the command has not ended then, it kills the descendants and the command and waits for
the end again; last it kills the descendants still alive. A wait that fails ends the stop
with its error at once, the command as it was. -/
def stopOn (stopWaitMs : Nat) (s : σ) (c : Child) (force : Bool) :
    σ × Child × Except SupervisorError Unit :=
  let (s, c, ended) := hasExited host s c
  if ended then (s, c, .ok ())
  else
    let (s, descendants) := host.descendants s c.pid
    let graceful :=
      if force then (s, .ok c)
      else waitExit host (signalEach host s (descendants ++ [c.pid]) Signal.terminate) c stopWaitMs
    match graceful with
    | (s, .error e) => (s, c, .error (.io e))
    | (s, .ok c) => escalate host s c descendants

end Host

/-- The host's processes as a supervisor reaches them: descendants from the process status
tool or the process table, signals by process id, and the started command's handle for
reaping, killing and waiting. -/
def host (sup : Supervisor) : ProcessHost World where
  tryWait := World.reap
  descendants w pid := w.descendants sup.env sup.cwd pid
  signal := World.send
  isAlive w pid := (w, w.alive pid)
  killHandle w pid := w.deliver pid Signal.kill
  waitFor := sup.waitChild

/-- Stops a command and everything it started. -/
def stop (sup : Supervisor) (w : World) (c : Child) (force : Bool) :
    World × Child × Except SupervisorError Unit :=
  stopOn sup.host sup.stopWaitMs w c force

/-- Runs a command to its end within `timeoutMs` milliseconds; at the limit
the command is killed with everything it started, and a limit of zero is
reached at once. A wait that fails returns its error; the command's handle is
dropped then, which kills the command itself but nothing it started. -/
def runBounded (sup : Supervisor) (w : World) (cmd : Command) (timeoutMs : Nat) :
    World × Except SupervisorError ExitStatus :=
  match sup.start w cmd with
  | (w, .error e) => (w, .error e)
  | (w, .ok c) =>
    let timedOut (w : World) : World × Except SupervisorError ExitStatus :=
      ((sup.stop w c true).1, .error (.timeout cmd.display (timeoutMs / 1000)))
    if timeoutMs == 0 then timedOut w
    else
      match sup.waitChild w c.pid timeoutMs with
      | (w, .ok (some s)) => (w, .ok s)
      | (w, .ok none) => timedOut w
      | (w, .error e) => (sup.host.killHandle w c.pid, .error (.io e))

theorem stop_ended (sup : Supervisor) (w : World) (c : Child) (force : Bool) (s : ExitStatus)
    (h : c.status = some s) : sup.stop w c force = (w, c, .ok ()) := by
  simp [stop, stopOn, hasExited, h]

end Supervisor

end LaunchBench
