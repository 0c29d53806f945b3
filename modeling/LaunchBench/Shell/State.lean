import LaunchBench.Shell.Parser
import LaunchBench.Shell.Vars
import LaunchBench.Host.Stream
/-!
The state of a running shell.

A shell runs by a stack of frames: the first frame says what to do next,
the ones below what to do once it is done. A command to run becomes frames
for its parts; a test in `&&`, `||`, `if` or a loop leaves a frame that
reads the status when the test is done. Waiting for a program is a frame
too, so a shell can stop between any two steps and go on later: that is how
it waits for programs, for its background jobs and for time to pass.

Scripts are read one line at a time, as shells do: a syntax error on a later
line is found only after the lines before it ran.
-/

namespace LaunchBench.Shell

open Host

/-- What a shell does next. -/
inductive Frame where
  /-- Runs a command; `last` when nothing follows it in the shell, so that
  a program may take the shell's place. -/
  | run (c : Command) (last : Bool)
  /-- Runs a command if the status is 0. -/
  | andThen (c : Command) (last : Bool)
  /-- Runs a command if the status is not 0. -/
  | orElse (c : Command) (last : Bool)
  /-- Inverts the status. -/
  | negate
  /-- Puts descriptors back after a command with redirections. -/
  | restore (fds : List (Nat × Stream))
  /-- Reads the status of an `if` test: runs one branch. -/
  | choose (thenB elseB : Command) (last : Bool)
  /-- Reads the status of a loop's test: runs the body or ends the loop with
  the status of the body's last run. -/
  | loopTest (untilMode : Bool) (cond body : Command) (bodyStatus : Nat)
  /-- After a loop's body: runs the test again. -/
  | loopNext (untilMode : Bool) (cond body : Command)
  /-- The rest of a `for` loop. -/
  | forNext (var : String) (items : List String) (body : Command)
  /-- Runs the right side of a pipe once the left side is done. -/
  | pipeInto (c : Command) (pipe : Nat) (last : Bool)
  /-- Waits for a program run in the foreground. -/
  | awaitChild (pid : Nat)
  /-- The `wait` command: waits for background jobs; with `named`, the
  status is the last one's. -/
  | awaitJobs (pids : List Nat) (named : Bool)
  /-- After a trap's action: sets the status back. -/
  | trapDone (status : Nat)
  /-- Ends the shell with an exit code. -/
  | finish (code : Nat)
deriving Inhabited

/-- A shell. -/
structure ShellState where
  /-- Variables and positional parameters. -/
  vars : Vars
  /-- `$?`. -/
  status : Nat
  /-- `$!`. -/
  lastJob : Option Nat
  /-- Background jobs not waited for yet. -/
  jobs : List Nat
  /-- Trap actions by signal; `0` is the exit trap, an empty action ignores. -/
  traps : List (Signal × String)
  /-- What to do next. -/
  frames : List Frame
  /-- The tokens of the script not read yet. -/
  source : List Token
  /-- A lexical error after those tokens. -/
  sourceError : Option SyntaxError
  /-- The name errors are reported under. -/
  name : String
  /-- The line being run. -/
  line : Nat
  /-- Whether the script came from `-c`: then its last command may replace
  the shell. -/
  commandMode : Bool
  /-- `$$`: the process of the shell that was started, kept in subshells. -/
  rootPid : Nat
  /-- Whether the exit trap has run. -/
  exiting : Bool
  /-- Signals ignored when the shell started: they can be neither caught nor
  reset. -/
  hardIgnored : List Signal
deriving Inhabited

namespace ShellState

/-- A shell about to read a script. -/
def start (script : String) (name : String) (vars : Vars) (commandMode : Bool) (pid : Nat)
    (ignored : List Signal) : ShellState :=
  let (ts, err) := tokenizePrefix script
  { vars, status := 0, lastJob := none, jobs := [], traps := [], frames := [], source := ts,
    sourceError := err, name, line := 1, commandMode, rootPid := pid, exiting := false,
    hardIgnored := ignored }

/-- The action of a trap, if one is set. -/
def trap? (st : ShellState) (sig : Signal) : Option String :=
  (st.traps.find? (·.1 == sig)).map (·.2)

/-- Whether a signal is caught: its trap runs an action. -/
def catches (st : ShellState) (sig : Signal) : Bool :=
  match st.trap? sig with
  | some a => !a.isEmpty
  | none => false

/-- Whether any trap runs an action; then no program may take the shell's
place, since the trap could not run. -/
def hasActionTraps (st : ShellState) : Bool := st.traps.any (!·.2.isEmpty)

/-- The shell of a subshell: caught signals go back to their default. -/
def forSubshell (st : ShellState) (frames : List Frame) : ShellState :=
  { st with
    traps := st.traps.filter (·.2.isEmpty)
    frames := frames
    source := []
    sourceError := none
    jobs := []
    commandMode := false
    exiting := false }

end ShellState

end LaunchBench.Shell
