import LaunchBench.Shell.Builtins
/-!
Running a shell, one step at a time.

A step takes the first frame of a shell and does it: a command becomes the
frames of its parts, a test's status picks what follows, a program runs in
a child process the shell then waits for. A shell waiting for a child or in
`wait` does not step until what it waits for has ended; a trapped signal
ends a `wait` at once, with status 128 plus the signal, and its action runs
before the next command. When no frame is left the shell reads the next line
of its script; at the end it exits with the last status, after its `EXIT`
trap.

Errors are written as `name: line: message`, the name being the script's or
the shell's. A command that is not found gives status 127, one that may not
be run 126, a failed redirection 2; a syntax error or an unset parameter met
by `${x?}` ends the shell with status 2. With `-c`, the last command of the
script, when it runs a program and no trap waits to run, takes the shell's
place instead of running in a child.
-/

namespace LaunchBench.Shell

open Host

/-- The shell a process runs, if it runs one. -/
def shellOf? (w : World) (pid : Nat) : Option ShellState :=
  match w.find? pid with
  | some { image := .shell st, .. } => some st
  | _ => none

/-- Puts back the state of a shell, unless its process has ended or now runs
something else. -/
def putShell (w : World) (pid : Nat) (st : ShellState) : World :=
  match shellOf? w pid with
  | some _ => w.modify pid fun p => { p with image := .shell st }
  | none => w

/-- Adds frames in front. -/
def ShellState.push (st : ShellState) (fs : List Frame) : ShellState :=
  { st with frames := fs ++ st.frames }

/-- What the shell's expansions read. -/
def scopeOf (w : World) (pid : Nat) (st : ShellState) : Scope :=
  ⟨st.vars, st.rootPid, st.lastJob, st.status, w.view, w.cwdOf pid⟩

/-- Writes an error of the shell. -/
def shellError (w : World) (pid : Nat) (st : ShellState) (msg : String) : World :=
  w.say pid 2 (st.name ++ ": " ++ toString st.line ++ ": " ++ msg ++ "\n")

/-- The search path of a shell. -/
def defaultPath : String := "/usr/local/sbin:/usr/local/bin:/usr/sbin:/usr/bin:/sbin:/bin"

/-- Ends a shell with a code, running its `EXIT` trap first. -/
def exitShell (w : World) (pid : Nat) (st : ShellState) (code : Nat) : World :=
  match st.trap? 0 with
  | some action =>
    if st.exiting || action.isEmpty then w.terminate pid (.exited code)
    else match parseScript action with
      | .ok c =>
        putShell w pid { st with exiting := true, frames := [.run c false, .finish code], status := code }
      | .error _ => w.terminate pid (.exited code)
  | none => w.terminate pid (.exited code)

/-- Ends a shell on an error it reports. -/
def fatal (w : World) (pid : Nat) (st : ShellState) (msg : String) : World :=
  exitShell (shellError w pid st msg) pid st 2

/-- How a failed creation is worded. -/
def createMessage : Errno → String
  | .noEntry | .notDirectory => "Directory nonexistent"
  | e => e.description

/-- How a failed opening is worded. -/
def openMessage : Errno → String
  | .noEntry | .notDirectory => "No such file"
  | e => e.description

/-- Opens one redirection for a process. -/
def openRedirect (w : World) (pid : Nat) (r : Redirect) (target : String) :
    Except String World :=
  let cwd := w.cwdOf pid
  match r.op with
  | .write | .append | .readWrite =>
    if target == "/dev/null" then .ok (w.setFd pid r.fd .null)
    else match locate cwd target >>= fun loc => (w.files.write loc [] (r.op != .write)).map (loc, ·) with
      | .ok (loc, files) => .ok ({ w with files }.setFd pid r.fd (.appendTo loc))
      | .error e => .error ("cannot create " ++ target ++ ": " ++ createMessage e)
  | .read =>
    if target == "/dev/null" then .ok (w.setFd pid r.fd .null)
    else match locate cwd target >>= fun loc => (w.view.read loc).map (fun _ => loc) with
      | .ok loc => .ok (w.setFd pid r.fd (.readFrom loc 0))
      | .error e => .error ("cannot open " ++ target ++ ": " ++ openMessage e)
  | .dupOut | .dupIn =>
    if target == "-" then .ok (w.setFd pid r.fd .closed)
    else if !target.isEmpty && target.all Char.isDigit then
      .ok (w.setFd pid r.fd (w.stream pid target.toNat!))
    else .error ("Syntax error: Bad fd number")

/-- Opens the redirections of a command for a process, giving the
descriptors it had before. -/
def openRedirects (w : World) (pid : Nat) (st : ShellState) (rs : List Redirect) :
    Except String (World × ShellState × List (Nat × Stream)) :=
  let saved := ((w.find? pid).map (·.fds)).getD []
  rs.foldlM (fun (w, st, saved) r => do
    let (target, sc) ← (expandText (scopeOf w pid st) r.target).mapError fun e =>
      e.name ++ ": " ++ e.message
    let st := { st with vars := sc.vars }
    let w ← openRedirect w pid r target
    .ok (w, st, saved)) (w, st, saved)

/-- Puts back the descriptors of a process. -/
def restoreFds (w : World) (pid : Nat) (fds : List (Nat × Stream)) : World :=
  w.modify pid fun p => { p with fds }

/-- Starts a subshell running frames: a child process with a copy of the
shell, whose caught signals go back to their default. -/
def forkShell (w : World) (pid : Nat) (st : ShellState) (frames : List Frame) : World × Nat :=
  w.fork pid (.shell (st.forSubshell frames))

/-- Replaces a process by the program a command names, or ends it with the
shell's error when it cannot run. -/
def execCommand (w : World) (pid : Nat) (st : ShellState) (argv : List String)
    (env : List (String × String)) : World :=
  let name := argv.headD ""
  let cwd := w.cwdOf pid
  let pathVar := (st.vars.get? "PATH").getD defaultPath
  let found : Option (String × Location) :=
    if name.contains '/' then (locate cwd name).toOption.map (name, ·)
    else searchShell w.view cwd pathVar name
  let fail (e : Errno) : World :=
    match e with
    | .noEntry | .notDirectory => (shellError w pid st (name ++ ": not found")).terminate pid (.exited 127)
    | .accessDenied => (shellError w pid st (name ++ ": Permission denied")).terminate pid (.exited 126)
    | e => (shellError w pid st (name ++ ": " ++ e.description)).terminate pid (.exited 126)
  match found with
  | none => fail .noEntry
  | some (path, loc) =>
    match probe w.view loc with
    | .ok target =>
      match execute w pid path target argv env interpreterDepth with
      | .ok w' => w'
      | .error e => fail e
    | .error .badFormat =>
      match execute w pid "/bin/sh" (.tool .shell) ("/bin/sh" :: path :: argv.drop 1) env
          interpreterDepth with
      | .ok w' => w'
      | .error e => fail e
    | .error e => fail e

/-- The environment of a program run by a shell: its exported variables and
the assignments written before the command. -/
def commandEnv (st : ShellState) (assigns : List (String × String)) : List (String × String) :=
  let base := st.vars.environment.filter fun (n, _) => !assigns.any (·.1 == n)
  base ++ assigns

/-- Expands the assignments of a command. -/
def expandAssigns (w : World) (pid : Nat) (st : ShellState) (assigns : List (String × Word)) :
    Except ExpandError (List (String × String) × ShellState) :=
  assigns.foldlM (fun (acc, st) (n, word) => do
    let (v, sc) ← expandText (scopeOf w pid st) word
    .ok (acc ++ [(n, v)], { st with vars := sc.vars })) ([], st)

/-- Leaves loops for `break` (or goes to their next round for `continue`):
drops frames up to the `n`-th enclosing loop, putting back descriptors on
the way. Outside a loop nothing happens. -/
def unwindLoop (w : World) (pid : Nat) (again : Bool) : Nat → List Frame → Option (World × List Frame)
  | _, [] => none
  | n, f :: rest =>
    match f with
    | .restore fds => (unwindLoop (restoreFds w pid fds) pid again n rest)
    | .loopNext .. | .forNext .. | .loopTest .. =>
      if n ≤ 1 then
        if again then
          match f with
          | .loopTest u c b s => some (w, .loopNext u c b :: rest)
          | _ => some (w, f :: rest)
        else some (w, rest)
      else unwindLoop w pid again (n - 1) rest
    | .trapDone _ | .awaitChild _ | .awaitJobs .. | .finish _ => none
    | _ => unwindLoop w pid again n rest

/-- The signal of a `kill` option and the operands after it. -/
def killOperands (args : List String) : Option (Signal × List String) := killArgs args

/-- Sets traps: the action for each condition, or the default with `-`. -/
def setTraps (w : World) (pid : Nat) (st : ShellState) (action : Option String)
    (conds : List String) : World × ShellState × Bool :=
  conds.foldl (fun (w, st, ok) c =>
    match trapCondition c with
    | none => (shellError w pid st ("trap: " ++ c ++ ": bad trap"), st, false)
    | some sig =>
      if st.hardIgnored.contains sig && sig != 0 then (w, st, ok)
      else
        let traps := st.traps.filter (·.1 != sig)
        let st := { st with traps := match action with
          | some a => traps ++ [(sig, a)]
          | none => traps }
        let w := if sig == 0 then w else w.modify pid fun p =>
          { p with ignored := if action == some "" then
              (if p.ignored.contains sig then p.ignored else p.ignored ++ [sig])
            else p.ignored.filter (· != sig) }
        (w, st, ok)) (w, st, true)

/-- Runs one of the shell's own commands; its redirections are open, and
put back by a frame already pushed. -/
def runBuiltin (w : World) (pid : Nat) (st : ShellState) (name : String) (args : List String) :
    World :=
  let done (w : World) (st : ShellState) (code : Nat) := putShell w pid { st with status := code }
  let cwd := w.cwdOf pid
  match name with
  | ":" | "true" => done w st 0
  | "false" => done w st 1
  | "echo" => done (w.write pid 1 (echoBytes args)) st 0
  | "printf" =>
    match args with
    | [] => done (shellError w pid st "printf: usage: printf format [arg ...]") st 2
    | fmt :: rest =>
      let out := printfBytes fmt rest
      let w := w.write pid 1 out.bytes
      match out.badDirective with
      | some d => done (shellError w pid st ("printf: " ++ d ++ ": invalid directive")) st 1
      | none =>
        if out.badNumbers.isEmpty then done w st 0
        else done (out.badNumbers.foldl (fun w a =>
          shellError w pid st ("printf: " ++ a ++ ": expected numeric value")) w) st 1
  | "pwd" => done (w.say pid 1 (cwd.render ++ "\n")) st 0
  | "exit" =>
    match args with
    | [] => exitShell w pid st st.status
    | a :: _ =>
      if !a.isEmpty && a.all Char.isDigit then exitShell w pid st (a.toNat! % 256)
      else fatal w pid st ("exit: Illegal number: " ++ a)
  | "trap" =>
    match args with
    | [] => done w st 0
    | [c] =>
      let (w, st, ok) := setTraps w pid st none [c]
      done w st (if ok then 0 else 1)
    | action :: conds =>
      let (w, st, ok) := setTraps w pid st (if action == "-" then none else some action) conds
      done w st (if ok then 0 else 1)
  | "kill" =>
    match killOperands args with
    | none => done (shellError w pid st "kill: invalid signal number or name") st 2
    | some (_, []) => done (shellError w pid st "kill: usage: kill [-s sigspec | -signum | -sigspec] [pid | job]... or\nkill -l [exitstatus]") st 2
    | some (sig, targets) =>
      let (w, code) := targets.foldl (fun (w, code) t =>
        if !t.isEmpty && t.all Char.isDigit then
          let target := t.toNat!
          if w.present target then (w.deliver target sig, code)
          else (shellError w pid st "kill: No such process", 1)
        else (shellError w pid st ("kill: Illegal number: " ++ t), 2)) (w, 0)
      done w st code
  | "wait" =>
    if args.isEmpty then putShell w pid (st.push [.awaitJobs st.jobs false])
    else putShell w pid (st.push [.awaitJobs (args.filterMap String.toNat?) true])
  | "set" =>
    let rec setArgs : List String → Option (List String)
      | "--" :: rest => some rest
      | a :: rest => if (a.startsWith "-" || a.startsWith "+") && a.length > 1 then setArgs rest
        else some (a :: rest)
      | [] => none
    match setArgs args with
    | some newArgs => done w { st with vars := { st.vars with args := newArgs } } 0
    | none => done w st 0
  | "shift" =>
    let n := (args.head?.bind String.toNat?).getD 1
    if n ≤ st.vars.args.length then done w { st with vars := { st.vars with args := st.vars.args.drop n } } 0
    else fatal w pid st "shift: can't shift that many"
  | "export" | "readonly" =>
    let st := args.foldl (fun st a =>
      match a.splitOn "=" with
      | [n] => { st with vars := if name == "export" then st.vars.markExported n else st.vars }
      | n :: rest =>
        let vars := st.vars.set n ("=".intercalate rest)
        { st with vars := if name == "export" then vars.markExported n else vars }
      | [] => st) st
    done w st 0
  | "unset" =>
    done w { st with vars := (args.filter (!·.startsWith "-")).foldl Vars.unset st.vars } 0
  | "cd" =>
    let dir := args.headD ((st.vars.get? "HOME").getD "/")
    -- the shell reads the path by its text, `..` taking off the name before it
    match (locate cwd dir).map normalize with
    | .ok loc =>
      if w.files.isDir loc then
        let vars := (st.vars.set "OLDPWD" cwd.render).set "PWD" loc.render
        done (w.modify pid fun p => { p with cwd := loc }) { st with vars } 0
      else done (shellError w pid st ("cd: can't cd to " ++ dir)) st 2
    | .error _ => done (shellError w pid st ("cd: can't cd to " ++ dir)) st 2
  | "read" =>
    let raw := args.contains "-r"
    let names := args.filter (!·.startsWith "-")
    let names := if names.isEmpty then ["REPLY"] else names
    let (w, got) := w.readLine pid 0
    let (line, code) := match got with
      | some (l, true) => (l, 0)
      | some (l, false) => (l, 1)
      | none => ("", 1)
    let text := if raw then line else String.ofList (unescapeLine line.toList)
    let pairs := splitRead st.vars.ifs.toList text names
    done w { st with vars := pairs.foldl (fun v (n, x) => v.set n x) st.vars } code
  | "test" =>
    match evalTest w.view cwd args with
    | .ok b => done w st (if b then 0 else 1)
    | .error msg => done (shellError w pid st ("test: " ++ msg)) st 2
  | "[" =>
    if args.getLast? != some "]" then done (shellError w pid st "[: missing ]") st 2
    else match evalTest w.view cwd args.dropLast with
      | .ok b => done w st (if b then 0 else 1)
      | .error msg => done (shellError w pid st ("[: " ++ msg)) st 2
  | "eval" =>
    match parseScript (" ".intercalate args) with
    | .ok c => putShell w pid (st.push [.run c false])
    | .error e => fatal w pid st ("Syntax error: " ++ e.message)
  | "." =>
    match args with
    | [] => done w st 0
    | file :: _ =>
      match locate cwd file >>= w.view.read with
      | .ok bytes =>
        match parseScript (Text.decodeLossy bytes) with
        | .ok c => putShell w pid (st.push [.run c false])
        | .error e => fatal w pid st ("Syntax error: " ++ e.message)
      | .error _ => fatal w pid st (". : cannot open " ++ file ++ ": No such file")
  | "break" | "continue" =>
    let n := (args.head?.bind String.toNat?).getD 1
    match unwindLoop w pid (name == "continue") n st.frames with
    | some (w, frames) => putShell w pid { st with frames, status := 0 }
    | none => done w st 0
  | _ => done w st 0

/-- Runs a program for a simple command: in a child the shell waits for, or
in the shell's place when nothing follows it. -/
def runProgram (w : World) (pid : Nat) (st : ShellState) (argv : List String)
    (assigns : List (String × String)) (rs : List Redirect) (last : Bool) : World :=
  let env := commandEnv st assigns
  if last && !st.hasActionTraps then
    match openRedirects w pid st rs with
    | .error msg => exitShell (shellError w pid st msg) pid st 2
    | .ok (w, st, _) => execCommand w pid st argv env
  else
    let (w, child) := forkShell w pid st []
    let w := match openRedirects w child st rs with
      | .error msg => (shellError w child st msg).terminate child (.exited 2)
      | .ok (w, st', _) => execCommand w child st' argv env
    putShell w pid (st.push [.awaitChild child])

/-- Runs a simple command. -/
def runSimple (w : World) (pid : Nat) (st : ShellState) (line : Nat)
    (assigns : List (String × Word)) (words : List Word) (rs : List Redirect) (last : Bool) :
    World :=
  let st := { st with line }
  match expandWords (scopeOf w pid st) words with
  | .error e => fatal w pid st (e.name ++ ": " ++ e.message)
  | .ok (argv, sc) =>
    let st := { st with vars := sc.vars }
    match expandAssigns w pid st assigns with
    | .error e => fatal w pid st (e.name ++ ": " ++ e.message)
    | .ok (pairs, st) =>
      match argv with
      | [] =>
        let st := pairs.foldl (fun st (n, v) => { st with vars := st.vars.set n v }) st
        match openRedirects w pid st rs with
        | .error msg => putShell (shellError w pid st msg) pid { st with status := 2 }
        | .ok (w', st', saved) => putShell (restoreFds w' pid saved) pid { st' with status := 0 }
      | name :: args =>
        if builtinNames.contains name then
          let st := if specialBuiltins.contains name then
              pairs.foldl (fun st (n, v) => { st with vars := st.vars.set n v }) st
            else st
          match openRedirects w pid st rs with
          | .error msg => putShell (shellError w pid st msg) pid { st with status := 2 }
          | .ok (w, st, saved) =>
            if name == "exec" then
              match args with
              | [] => putShell w pid { st with status := 0 }
              | _ => execCommand w pid st args (commandEnv st pairs)
            else
              let st := if rs.isEmpty then st else st.push [.restore saved]
              runBuiltin w pid st name args
        else runProgram w pid st argv pairs rs last

/-- The first arm of a `case` whose pattern matches. -/
def pickArm (w : World) (pid : Nat) (st : ShellState) (subject : String) :
    Arms → Except ExpandError (Option Command × ShellState)
  | .nil => .ok (none, st)
  | .cons pats body rest => do
    let (hit, st) ← pats.foldlM (fun (hit, st) p => do
      if hit then .ok (hit, st)
      else
        let (pat, sc) ← expandPattern (scopeOf w pid st) p
        .ok (matchChars pat subject.toList, { st with vars := sc.vars })) (false, st)
    if hit then .ok (some body, st) else pickArm w pid st subject rest

/-- Runs a command: turns it into frames, or does it. -/
def runCommand (w : World) (pid : Nat) (st : ShellState) (c : Command) (last : Bool) : World :=
  match c with
  | .simple line assigns words rs => runSimple w pid st line assigns words rs last
  | .subshell body =>
    if last && !st.hasActionTraps then putShell w pid (st.push [.run body true])
    else
      let (w, child) := forkShell w pid st [.run body true]
      putShell w pid (st.push [.awaitChild child])
  | .redirected body rs =>
    match openRedirects w pid st rs with
    | .error msg => putShell (shellError w pid st msg) pid { st with status := 2 }
    | .ok (w, st, saved) => putShell w pid (st.push [.run body false, .restore saved])
  | .seq a b => putShell w pid (st.push [.run a false, .run b last])
  | .background body =>
    let (w, child) := forkShell w pid st [.run body true]
    let w := w.modify child fun p =>
      { p with ignored := p.ignored ++ [Signal.interrupt, Signal.quit].filter (!p.ignored.contains ·) }
    let w := w.setFd child 0 .null
    putShell w pid { st with jobs := st.jobs ++ [child], lastJob := some child, status := 0 }
  | .both a b => putShell w pid (st.push [.run a false, .andThen b last])
  | .either a b => putShell w pid (st.push [.run a false, .orElse b last])
  | .negate body => putShell w pid (st.push [.run body false, .negate])
  | .pipe a b =>
    let (w, id) := w.openPipe
    let (w, left) := forkShell w pid st [.run a true]
    let w := w.setFd left 1 (.pipeOut id)
    putShell w pid (st.push [.awaitChild left, .pipeInto b id last])
  | .forEach var items body =>
    let words := match items with
      | some ws => expandWords (scopeOf w pid st) ws
      | none => .ok (st.vars.args, scopeOf w pid st)
    match words with
    | .error e => fatal w pid st (e.name ++ ": " ++ e.message)
    | .ok (list, sc) =>
      putShell w pid ({ st with vars := sc.vars, status := 0 }.push [.forNext var list body])
  | .cases subject arms =>
    match expandText (scopeOf w pid st) subject with
    | .error e => fatal w pid st (e.name ++ ": " ++ e.message)
    | .ok (text, sc) =>
      match pickArm w pid { st with vars := sc.vars } text arms with
      | .error e => fatal w pid st (e.name ++ ": " ++ e.message)
      | .ok (some body, st) => putShell w pid (st.push [.run body last])
      | .ok (none, st) => putShell w pid { st with status := 0 }
  | .branch cond thenB elseB => putShell w pid (st.push [.run cond false, .choose thenB elseB last])
  | .loop untilMode cond body =>
    putShell w pid (st.push [.run cond false, .loopTest untilMode cond body 0])
  | .skip => putShell w pid { st with status := 0 }

/-- Does one frame. -/
def runFrame (w : World) (pid : Nat) (st : ShellState) : Frame → World
  | .run c last => runCommand w pid st c last
  | .andThen c last => putShell w pid (if st.status == 0 then st.push [.run c last] else st)
  | .orElse c last => putShell w pid (if st.status != 0 then st.push [.run c last] else st)
  | .negate => putShell w pid { st with status := if st.status == 0 then 1 else 0 }
  | .restore fds => putShell (restoreFds w pid fds) pid st
  | .choose thenB elseB last =>
    putShell w pid (st.push [.run (if st.status == 0 then thenB else elseB) last])
  | .loopTest untilMode cond body bodyStatus =>
    if (st.status == 0) != untilMode then
      putShell w pid (st.push [.run body false, .loopNext untilMode cond body])
    else putShell w pid { st with status := bodyStatus }
  | .loopNext untilMode cond body =>
    putShell w pid (st.push [.run cond false, .loopTest untilMode cond body st.status])
  | .forNext var items body =>
    match items with
    | [] => putShell w pid st
    | x :: rest =>
      putShell w pid ({ st with vars := st.vars.set var x }.push [.run body false, .forNext var rest body])
  | .pipeInto c id _ =>
    let (w, right) := forkShell w pid st [.run c true]
    let w := w.setFd right 0 (.pipeIn id 0)
    putShell w pid (st.push [.awaitChild right])
  | .awaitChild child =>
    let (w, s) := w.reap child
    putShell w pid { st with status := (s.map (·.shellCode)).getD 127 }
  | .awaitJobs pids named =>
    let (w, last) := pids.foldl (fun (w, _) p =>
      let (w, s) := w.reap p
      (w, (s.map (·.shellCode)).getD 127)) (w, 0)
    putShell w pid { st with status := if named then last else 0,
                             jobs := st.jobs.filter (!pids.contains ·) }
  | .trapDone s => putShell w pid { st with status := s }
  | .finish code => w.terminate pid (.exited code)

/-- Runs the actions of the signals a shell caught; a `wait` they interrupt
ends with status 128 plus the signal. -/
def runPending (w : World) (pid : Nat) (st : ShellState) (sigs : List Signal) : World :=
  let w := w.modify pid fun p => { p with pending := [] }
  let st := match st.frames, sigs with
    | .awaitJobs .. :: rest, sig :: _ => { st with frames := rest, status := 128 + sig }
    | _, _ => st
  let frames := sigs.foldr (fun sig acc =>
    match st.trap? sig with
    | some action =>
      if action.isEmpty then acc
      else match parseScript action with
        | .ok c => .run c false :: .trapDone st.status :: acc
        | .error _ => acc
    | none => acc) []
  putShell w pid (st.push frames)

/-- Reads and runs the next line of the script, or ends the shell. -/
def nextCommand (w : World) (pid : Nat) (st : ShellState) : World :=
  let syntaxFail (e : SyntaxError) :=
    exitShell (shellError w pid { st with line := e.line } ("Syntax error: " ++ e.message)) pid st 2
  match parseNext st.source with
  | .ok (some (c, rest)) =>
    let last := st.commandMode && atEnd rest && st.sourceError.isNone
    putShell w pid { st with source := rest, frames := [.run c last] }
  | .ok none =>
    match st.sourceError with
    | some e => syntaxFail e
    | none => exitShell w pid st st.status
  | .error e =>
    match st.sourceError with
    | some le => syntaxFail (if le.line ≤ e.line then le else e)
    | none => syntaxFail e

/-- Whether a shell can take a step: it is not waiting for a child or for
jobs that are still running. -/
def shellReady (w : World) (p : Process) (st : ShellState) : Bool :=
  match st.frames with
  | .awaitChild c :: _ => !w.running c
  | .awaitJobs pids _ :: _ => !p.pending.isEmpty || pids.all (!w.running ·)
  | _ => true

/-- One step of the shell a process runs. -/
def stepShell (w : World) (pid : Nat) : World :=
  match w.find? pid with
  | some p =>
    match p.image with
    | .shell st =>
      match st.frames with
      | .awaitChild c :: rest => runFrame w pid { st with frames := rest } (.awaitChild c)
      | _ =>
        if !p.pending.isEmpty then runPending w pid st p.pending
        else match st.frames with
          | [] => nextCommand w pid st
          | f :: rest => runFrame w pid { st with frames := rest } f
    | _ => w
  | none => w

end LaunchBench.Shell
