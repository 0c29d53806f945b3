import LaunchBench.Shell.State
import LaunchBench.Host.Tool
import LaunchBench.Text.Utf8
/-!
Processes and the host they run on.

The host holds the files, the processes, the pipes and the clock. A process
runs a shell, sleeps, serves files until a deadline, or has ended and waits
to be reaped by its parent (a zombie). When a process ends, its children
pass to the first process, which reaps them at once, as `init` does.

A signal sent to a process is dropped when the process ignores it or has
already ended; `KILL` always ends it; a shell that traps the signal keeps it
pending until it can run the trap; otherwise the signal's default action
applies. The processes can be read as files under `/proc`, one directory per
process with its `stat` line.

* **`deliver_kill`**: `KILL` ends every process that is still running.
-/

namespace LaunchBench.Host

open Shell

/-- What a process runs. -/
inductive Image where
  /-- A shell. -/
  | shell (st : ShellState)
  /-- A program that sleeps until a time, then exits with code 0. -/
  | sleeping (deadline : Nat)
  /-- The file server, until a time; then it exits with code 0. -/
  | serving (deadline : Nat)
  /-- Ended, not reaped yet. -/
  | zombie (status : ExitStatus)
  /-- Made, not yet running its program. -/
  | starting
deriving Inhabited

/-- A process. -/
structure Process where
  /-- Its number. -/
  pid : Nat
  /-- Its parent's number. -/
  parent : Nat
  /-- The name of its program. -/
  name : String
  /-- Its working directory. -/
  cwd : Location
  /-- Its open descriptors. -/
  fds : List (Nat × Stream)
  /-- The signals it ignores; kept across the programs it runs. -/
  ignored : List Signal
  /-- Signals caught but not handled yet. -/
  pending : List Signal
  /-- What it runs. -/
  image : Image
deriving Inhabited

/-- Whether a process has ended. -/
def Process.ended (p : Process) : Bool :=
  match p.image with
  | .zombie _ => true
  | _ => false

/-- The first process, which adopts and reaps orphans. -/
def initPid : Nat := 1

/-- The host. -/
structure World where
  /-- The files. -/
  files : FileTree
  /-- The processes, zombies included. -/
  procs : List Process
  /-- The time, in milliseconds. -/
  clock : Nat
  /-- The next process number. -/
  nextPid : Nat
  /-- The bytes written into each pipe. -/
  pipes : List (Nat × List UInt8)
  /-- The next pipe number. -/
  nextPipe : Nat
deriving Inhabited

namespace World

/-- A process by number. -/
def find? (w : World) (pid : Nat) : Option Process := w.procs.find? (·.pid == pid)

/-- Changes a process. -/
def modify (w : World) (pid : Nat) (f : Process → Process) : World :=
  { w with procs := w.procs.map fun p => if p.pid == pid then f p else p }

/-- Removes a process. -/
def remove (w : World) (pid : Nat) : World :=
  { w with procs := w.procs.filter (·.pid != pid) }

/-- Whether a process exists, ended or not: what signal 0 finds. -/
def present (w : World) (pid : Nat) : Bool := (w.find? pid).isSome

/-- Whether a process exists and has not ended. -/
def running (w : World) (pid : Nat) : Bool :=
  match w.find? pid with
  | some p => !p.ended
  | none => false

/-- How a process ended, while it is not reaped. -/
def exitStatus? (w : World) (pid : Nat) : Option ExitStatus :=
  match w.find? pid with
  | some { image := .zombie s, .. } => some s
  | _ => none

/-- Ends a process: it waits for its parent, and its children pass to the
first process, which reaps those that have ended. -/
def terminate (w : World) (pid : Nat) (status : ExitStatus) : World :=
  match w.find? pid with
  | none => w
  | some p =>
    if p.ended then w
    else
      let w := w.modify pid fun p => { p with image := .zombie status, pending := [] }
      let adopt (q : Process) : Option Process :=
        if q.parent == pid then
          if q.ended then none else some { q with parent := initPid }
        else some q
      let w := { w with procs := w.procs.filterMap adopt }
      if p.parent == initPid then w.remove pid else w

/-- Takes an ended child's status and forgets it. -/
def reap (w : World) (pid : Nat) : World × Option ExitStatus :=
  match w.exitStatus? pid with
  | some s => (w.remove pid, some s)
  | none => (w, none)

/-- Sends a signal to a process. -/
def deliver (w : World) (pid : Nat) (sig : Signal) : World :=
  match w.find? pid with
  | none => w
  | some p =>
    if p.ended || sig == 0 then w
    else if sig == Signal.kill then w.terminate pid (.killed sig)
    else if p.ignored.contains sig then w
    else
      let caught := match p.image with
        | .shell st => st.catches sig
        | _ => false
      if caught then
        if p.pending.contains sig then w
        else w.modify pid fun p => { p with pending := p.pending ++ [sig] }
      else if Signal.droppedByDefault sig then w
      else w.terminate pid (.killed sig)

/-- A new process number. -/
def freshPid (w : World) : World × Nat := ({ w with nextPid := w.nextPid + 1 }, w.nextPid)

/-- Starts a copy of a process running another image: same directory,
descriptors and ignored signals. -/
def fork (w : World) (pid : Nat) (image : Image) : World × Nat :=
  match w.find? pid with
  | none => (w, 0)
  | some p =>
    let (w, child) := w.freshPid
    ({ w with procs := w.procs ++ [{ p with pid := child, parent := pid, pending := [], image }] },
      child)

/-- A new empty pipe. -/
def openPipe (w : World) : World × Nat :=
  ({ w with nextPipe := w.nextPipe + 1, pipes := w.pipes ++ [(w.nextPipe, [])] }, w.nextPipe)

/-- The bytes written into a pipe. -/
def pipeData (w : World) (id : Nat) : List UInt8 := ((w.pipes.find? (·.1 == id)).map (·.2)).getD []

/-- The files with the processes shown under `/proc`. -/
def view (w : World) : FileTree :=
  let stat (p : Process) : String :=
    let state := if p.ended then "Z" else "S"
    toString p.pid ++ " (" ++ (p.name.take 15).toString ++ ") " ++ state ++ " " ++ toString p.parent ++
      " " ++ toString p.pid ++ " " ++ toString p.pid ++ " 0 -1 4194560 0 0 0 0 0 0 0 0 20 0 1 0\n"
  let base := (w.files.erase ["proc"]).put ["proc"] .dir
  w.procs.foldl (fun t p =>
    (t.put ["proc", toString p.pid] .dir).put ["proc", toString p.pid, "stat"]
      (.file (Text.utf8Bytes (stat p)) false)) base

/-- Where a descriptor of a process goes. -/
def stream (w : World) (pid fd : Nat) : Stream :=
  match w.find? pid with
  | some p => ((p.fds.find? (·.1 == fd)).map (·.2)).getD .closed
  | none => .closed

/-- Writes bytes to a descriptor of a process. -/
def write (w : World) (pid fd : Nat) (bytes : List UInt8) : World :=
  if bytes.isEmpty then w
  else match w.stream pid fd with
    | .appendTo loc =>
      match w.files.write loc bytes true with
      | .ok files => { w with files }
      | .error _ => w
    | .pipeOut id =>
      { w with pipes := w.pipes.map fun (i, d) => if i == id then (i, d ++ bytes) else (i, d) }
    | _ => w

/-- Writes text to a descriptor of a process. -/
def say (w : World) (pid fd : Nat) (s : String) : World := w.write pid fd (Text.utf8Bytes s)

/-- Sets where a descriptor of a process goes. -/
def setFd (w : World) (pid fd : Nat) (s : Stream) : World :=
  w.modify pid fun p => { p with fds := (fd, s) :: p.fds.filter (·.1 != fd) }

/-- The bytes a reading descriptor has not read yet. -/
def unread (w : World) : Stream → List UInt8
  | .readFrom loc pos =>
    match w.view.read loc with
    | .ok data => data.drop pos
    | .error _ => []
  | .pipeIn id pos => (w.pipeData id).drop pos
  | _ => []

/-- Moves a reading descriptor on by some bytes. -/
def advance (s : Stream) (n : Nat) : Stream :=
  match s with
  | .readFrom loc pos => .readFrom loc (pos + n)
  | .pipeIn id pos => .pipeIn id (pos + n)
  | other => other

/-- Reads a line from a descriptor of a process: the text before the line
end, and whether a line end was found. `none` when nothing is left. -/
def readLine (w : World) (pid fd : Nat) : World × Option (String × Bool) :=
  let s := w.stream pid fd
  let rest := w.unread s
  if rest.isEmpty then (w, none)
  else
    let line := rest.takeWhile (· != 10)
    let ended := line.length < rest.length
    let used := if ended then line.length + 1 else line.length
    (w.setFd pid fd (advance s used), some (Text.decodeLossy line, ended))

/-- Reads everything left on a descriptor of a process. -/
def readAll (w : World) (pid fd : Nat) : World × List UInt8 :=
  let s := w.stream pid fd
  let rest := w.unread s
  (w.setFd pid fd (advance s rest.length), rest)

theorem deliver_kill (w : World) (pid : Nat) (h : w.running pid = true) :
    w.deliver pid Signal.kill = w.terminate pid (.killed Signal.kill) := by
  unfold running at h
  unfold deliver
  cases hp : w.find? pid with
  | none => simp [hp] at h
  | some p =>
    simp only [hp, Bool.not_eq_true'] at h
    simp [hp, h, Signal.kill]

end World

end LaunchBench.Host
