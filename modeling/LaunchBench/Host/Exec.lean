import LaunchBench.Host.Utilities
/-!
Running programs.

A program is found by its path, or, for a bare name, in the directories of
the search path in order. A file runs when it may be run and is either one of
the host's own programs or a script whose first line `#!interpreter [arg]`
names the program that reads it; any other file is refused with "Exec format
error". A directory or a file that may not be run is refused with
"Permission denied", which the search remembers while it goes on looking.

Running a program replaces what the process ran; the signals it ignored stay
ignored. A shell starts on a script from `-c`, from a file or from its
input; `sleep` and the file server wait for their deadline; the other
programs finish at once.

* **`search_slash`**: a name with a slash is never looked up in the search
  path.
-/

namespace LaunchBench.Host

open Shell

/-- What a file that may be run holds. -/
inductive Target where
  /-- One of the host's programs. -/
  | tool (t : Tool)
  /-- A script read by an interpreter, with its one optional argument. -/
  | script (interpreter : String) (arg : Option String)
deriving Repr, DecidableEq

/-- The interpreter line of a script: the interpreter and its argument. -/
def interpreterLine (data : List UInt8) : Option (String × Option String) :=
  match data with
  | 35 :: 33 :: rest =>
    let line := Text.decodeLossy (rest.takeWhile (· != 10))
    let line := line.trimAscii.toString
    let interp := line.takeWhile (fun c => c != ' ' && c != '\t') |>.toString
    let arg := (line.drop interp.length).trimAscii.toString
    if interp.isEmpty then none else some (interp, if arg.isEmpty then none else some arg)
  | _ => none

/-- What running a file would run, or why it cannot be run. -/
def probe (files : FileTree) (loc : Location) : Except Errno Target :=
  match files.stat loc with
  | .error e => .error e
  | .ok (.program t) => .ok (.tool t)
  | .ok (.file data exec) =>
    if !exec then .error .accessDenied
    else match interpreterLine data with
      | some (i, a) => .ok (.script i a)
      | none => .error .badFormat
  | .ok _ => .error .accessDenied

/-- The text of a search path entry joined to a name. -/
def inDirectory (dir name : String) : String :=
  if dir.isEmpty then name else if dir.endsWith "/" then dir ++ name else dir ++ "/" ++ name

/-- Looks a program up: by its path when the name has a slash, else in each
directory of the search path, going on past missing files and files that
may not be run. Gives the path run and what it holds. -/
def search (files : FileTree) (cwd : Location) (pathVar name : String) :
    Except Errno (String × Location × Target) :=
  if name.contains '/' then do
    let loc ← locate cwd name
    let t ← probe files loc
    .ok (name, loc, t)
  else if name.isEmpty then .error .noEntry
  else
    let rec go (denied : Bool) : List String → Except Errno (String × Location × Target)
      | [] => .error (if denied then .accessDenied else .noEntry)
      | d :: rest =>
        let path := inDirectory d name
        match locate cwd path with
        | .error _ => go denied rest
        | .ok loc =>
          match probe files loc with
          | .ok t => .ok (path, loc, t)
          | .error .accessDenied => go true rest
          | .error .noEntry | .error .notDirectory => go denied rest
          | .error e => .error e
    go false (pathVar.splitOn ":")

/-- The first regular file a shell finds for a command name on its search
path, with the path it found it by. -/
def searchShell (files : FileTree) (cwd : Location) (pathVar name : String) :
    Option (String × Location) :=
  (pathVar.splitOn ":").findSome? fun d =>
    let path := inDirectory d name
    match locate cwd path with
    | .ok loc => if files.isFile loc then some (path, loc) else none
    | .error _ => none

/-- The last name of a path. -/
def baseName (path : String) : String := ((path.splitOn "/").getLast?).getD path

/-- The options of a shell's arguments: whether `-c` was given, and the rest. -/
def shellOptions : List String → Bool × List String
  | [] => (false, [])
  | "--" :: rest => (false, rest)
  | "-" :: rest => (false, rest)
  | a :: rest =>
    if (a.startsWith "-" || a.startsWith "+") && a.length > 1 then
      let (c, more) := shellOptions rest
      (c || (a.startsWith "-" && a.contains 'c'), more)
    else (false, a :: rest)

/-- The variables a shell starts with. -/
def shellVars (env : List (String × String)) (name : String) (args : List String) (ppid : Nat) :
    Vars :=
  let v := Vars.ofEnv env name args
  let v := if (v.get? "IFS").isSome then v else v.set "IFS" " \t\n"
  v.set "PPID" (toString ppid)

/-- Starts a shell in a process. -/
def startShell (w : World) (pid : Nat) (argv : List String) (env : List (String × String)) : World :=
  let arg0 := argv.headD "sh"
  let (command, operands) := shellOptions (argv.drop 1)
  let ppid := ((w.find? pid).map (·.parent)).getD 0
  let ignored := ((w.find? pid).map (·.ignored)).getD []
  let run (script name : String) (args : List String) (commandMode : Bool) (w : World) :=
    let st := ShellState.start script name (shellVars env name args ppid) commandMode pid ignored
    w.modify pid fun p => { p with image := .shell st, pending := [] }
  if command then
    match operands with
    | [] => (w.say pid 2 (arg0 ++ ": 0: -c requires an argument\n")).terminate pid (.exited 2)
    | script :: more => run script (more.headD arg0) (more.drop 1) true w
  else
    match operands with
    | file :: more =>
      match w.placeOf pid file >>= w.view.read with
      | .ok bytes => run (Text.decodeLossy bytes) file more false w
      | .error _ =>
        (w.say pid 2 (arg0 ++ ": 0: cannot open " ++ file ++ ": No such file\n")).terminate pid
          (.exited 2)
    | [] =>
      let (w, bytes) := w.readAll pid 0
      run (Text.decodeLossy bytes) arg0 [] false w

/-- The milliseconds of all `sleep` operands, or the first bad one. -/
def sleepMillis (args : List String) : Except String Nat :=
  args.foldlM (fun acc a => match durationMillis a with
    | some ms => .ok (acc + ms)
    | none => .error a) 0

/-- How long the file server runs when no lifetime is given. -/
def defaultServeMillis : Nat := 5000

mutual

/-- Replaces what a process runs by a program found at `path`; `fuel`
bounds the interpreters followed. -/
def execute (w : World) (pid : Nat) (path : String) (target : Target) (argv : List String)
    (env : List (String × String)) : Nat → Except Errno World
  | 0 => .error .linkLoop
  | fuel + 1 =>
    match target with
    | .tool t => .ok (startProgram w pid path t argv env fuel)
    | .script interp arg => do
      let loc ← w.placeOf pid interp
      let t ← probe w.view loc
      execute w pid interp t ([interp] ++ arg.toList ++ [path] ++ argv.drop 1) env fuel

/-- Starts one of the host's programs in a process. -/
def startProgram (w : World) (pid : Nat) (path : String) (t : Tool) (argv : List String)
    (env : List (String × String)) (fuel : Nat) : World :=
  let w := w.modify pid fun p => { p with name := baseName path }
  let prog := argv.headD path
  let args := argv.drop 1
  match t with
  | .shell => startShell w pid argv env
  | .sleep =>
    if args.isEmpty then
      (w.complain pid prog "missing operand\nTry 'sleep --help' for more information.").terminate
        pid (.exited 1)
    else match sleepMillis args with
      | .ok ms => w.modify pid fun p => { p with image := .sleeping (w.clock + ms) }
      | .error bad =>
        (w.complain pid prog ("invalid time interval " ++ quoteName bad ++
          "\nTry 'sleep --help' for more information.")).terminate pid (.exited 1)
  | .fileServer =>
    let lifetime := match args with
      | _ :: _ :: ms :: _ => ms.toNat?.getD defaultServeMillis
      | _ => defaultServeMillis
    w.modify pid fun p => { p with image := .serving (w.clock + lifetime) }
  | .sudo =>
    let command := args.dropWhile (·.startsWith "-")
    match command with
    | [] => (w.complain pid prog "a command is required").terminate pid (.exited 1)
    | name :: _ =>
      let pathVar := ((env.find? (·.1 == "PATH")).map (·.2)).getD ""
      match search w.view (w.cwdOf pid) pathVar name with
      | .ok (p, _, target) =>
        match execute w pid p target command env fuel with
        | .ok w' => w'
        | .error e => (w.complain pid prog (name ++ ": " ++ e.description)).terminate pid (.exited 1)
      | .error _ => (w.complain pid prog (name ++ ": command not found")).terminate pid (.exited 1)
  | t =>
    let (w, code) := runUtility w pid t argv
    w.terminate pid (.exited code)

end

/-- How many interpreters are followed before giving up. -/
def interpreterDepth : Nat := 8

/-- Starts a program in a new child of `parent`, as a library does for its
caller: the search path is `pathVar`, a missing program or one that cannot
be run is an error and leaves no process behind. -/
def spawn (w : World) (parent : Nat) (cwd : Location) (fds : List (Nat × Stream))
    (argv : List String) (env : List (String × String)) (pathVar : String) :
    Except Errno (World × Nat) := do
  let name := argv.headD ""
  let (path, _, target) ← search w.view cwd pathVar name
  let (w, pid) := w.freshPid
  let w := { w with procs := w.procs ++
    [{ pid, parent, name := baseName path, cwd, fds, ignored := [], pending := [],
       image := .starting }] }
  match execute w pid path target argv env interpreterDepth with
  | .ok w' => .ok (w', pid)
  | .error e => .error e

theorem search_slash (files : FileTree) (cwd : Location) (pathVar name : String)
    (h : name.contains '/' = true) :
    search files cwd pathVar name = (do
      let loc ← locate cwd name
      let t ← probe files loc
      .ok (name, loc, t)) := by
  simp [search, h]

end LaunchBench.Host
