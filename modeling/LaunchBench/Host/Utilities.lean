import LaunchBench.Host.Process
import LaunchBench.Shell.Format
/-!
The small programs of the host.

These programs finish as soon as they start: each reads its arguments, acts
on the files or on other processes, writes to its descriptors and gives an
exit code. Errors are written to descriptor 2 after the name the program was
started under, the way the usual system utilities word them.

* **`splitOptions_end`**: after `--` every argument is an operand.
-/

namespace LaunchBench.Host

open Shell

/-- The working directory of a process. -/
def World.cwdOf (w : World) (pid : Nat) : Location :=
  ((w.find? pid).map (·.cwd)).getD []

/-- Quotes a name in an error message. -/
def quoteName (s : String) : String := "'" ++ s ++ "'"

/-- The options and operands of a utility's arguments: leading arguments
that start with `-` are options, `--` ends them. -/
def splitOptions : List String → List String × List String
  | [] => ([], [])
  | "--" :: rest => ([], rest)
  | a :: rest =>
    if a.startsWith "-" && a.length > 1 then
      let (opts, ops) := splitOptions rest
      (a :: opts, ops)
    else ([], a :: rest)

/-- Whether an option letter was given. -/
def hasFlag (opts : List String) (c : Char) : Bool :=
  opts.any fun o => !o.startsWith "--" && (o.drop 1).toString.contains c

/-- The milliseconds of a `sleep` interval: a decimal number of seconds,
or of minutes, hours or days with the suffix `m`, `h` or `d`. -/
def durationMillis (s : String) : Option Nat :=
  let (body, unit) := match s.toList.getLast? with
    | some 's' => ((s.dropEnd 1).toString, 1000)
    | some 'm' => ((s.dropEnd 1).toString, 60000)
    | some 'h' => ((s.dropEnd 1).toString, 3600000)
    | some 'd' => ((s.dropEnd 1).toString, 86400000)
    | _ => (s, 1000)
  match body.splitOn "." with
  | [whole] =>
    if !whole.isEmpty && whole.all Char.isDigit then some (whole.toNat! * unit) else none
  | [whole, frac] =>
    if (whole.all Char.isDigit) && (frac.all Char.isDigit) && !(whole.isEmpty && frac.isEmpty) then
      let scale := Nat.pow 10 frac.length
      let total := (whole.toNat! * scale + frac.toNat!) * unit
      some ((total + scale - 1) / scale)
    else none
  | _ => none

/-- Writes an error of a utility. -/
def World.complain (w : World) (pid : Nat) (prog msg : String) : World :=
  w.say pid 2 (prog ++ ": " ++ msg ++ "\n")

/-- The place a path names for a process. -/
def World.placeOf (w : World) (pid : Nat) (path : String) : Except Errno Location :=
  locate (w.cwdOf pid) path

/-- `mkdir`. -/
def runMakeDir (w : World) (pid : Nat) (prog : String) (args : List String) : World × Nat :=
  let (opts, dirs) := splitOptions args
  let parents := hasFlag opts 'p'
  if dirs.isEmpty then (w.complain pid prog "missing operand", 1)
  else dirs.foldl (fun (w, code) d =>
    let made := do
      let loc ← w.placeOf pid d
      if parents then w.files.mkdirAll loc else w.files.mkdir loc
    match made with
    | .ok files => ({ w with files }, code)
    | .error e =>
      (w.complain pid prog ("cannot create directory " ++ quoteName d ++ ": " ++ e.description), 1))
    (w, 0)

/-- `ln`: symbolic links with `-s`, copies otherwise. -/
def runLink (w : World) (pid : Nat) (prog : String) (args : List String) : World × Nat :=
  let (opts, ops) := splitOptions args
  let force := hasFlag opts 'f'
  let symbolic := hasFlag opts 's'
  let (target, name) := match ops with
    | [t] => (t, ((t.splitOn "/").getLast?).getD t)
    | t :: n :: _ => (t, n)
    | [] => ("", "")
  if ops.isEmpty then (w.complain pid prog "missing file operand", 1)
  else
    let made := do
      let loc ← w.placeOf pid name
      let files ← if force then
          match w.files.unlink loc with
          | .ok f => pure f
          | .error _ => pure w.files
        else pure w.files
      if symbolic then files.symlink target loc
      else
        let src ← w.placeOf pid target
        let data ← files.read src
        match files.lstat loc with
        | .ok _ => .error .alreadyExists
        | .error _ => files.write loc data false
    match made with
    | .ok files => ({ w with files }, 0)
    | .error e =>
      let what := if symbolic then "failed to create symbolic link " else "failed to create hard link "
      (w.complain pid prog (what ++ quoteName name ++ ": " ++ e.description), 1)

/-- `mkfifo`. -/
def runMakeFifo (w : World) (pid : Nat) (prog : String) (args : List String) : World × Nat :=
  let (_, names) := splitOptions args
  if names.isEmpty then (w.complain pid prog "missing operand", 1)
  else names.foldl (fun (w, code) n =>
    match w.placeOf pid n >>= w.files.mkfifo with
    | .ok files => ({ w with files }, code)
    | .error e => (w.complain pid prog ("cannot create fifo " ++ quoteName n ++ ": " ++ e.description), 1))
    (w, 0)

/-- `cat`. -/
def runCat (w : World) (pid : Nat) (prog : String) (args : List String) : World × Nat :=
  let (_, files) := splitOptions args
  let files := if files.isEmpty then ["-"] else files
  files.foldl (fun (w, code) f =>
    if f == "-" then
      let (w, bytes) := w.readAll pid 0
      (w.write pid 1 bytes, code)
    else
      match w.placeOf pid f >>= w.view.read with
      | .ok bytes => (w.write pid 1 bytes, code)
      | .error e => (w.complain pid prog (f ++ ": " ++ e.description), 1)) (w, 0)

/-- `rm`. -/
def runRemove (w : World) (pid : Nat) (prog : String) (args : List String) : World × Nat :=
  let (opts, names) := splitOptions args
  let force := hasFlag opts 'f'
  let recursive := hasFlag opts 'r' || hasFlag opts 'R'
  names.foldl (fun (w, code) n =>
    let removed := do
      let loc ← w.placeOf pid n
      match w.files.lstat loc with
      | .ok .dir => if recursive then w.files.removeAll loc else .error .isDirectory
      | .ok _ => w.files.unlink loc
      | .error e => .error e
    match removed with
    | .ok files => ({ w with files }, code)
    | .error .noEntry => if force then (w, code)
      else (w.complain pid prog ("cannot remove " ++ quoteName n ++ ": No such file or directory"), 1)
    | .error e => (w.complain pid prog ("cannot remove " ++ quoteName n ++ ": " ++ e.description), 1))
    (w, 0)

/-- `touch`. -/
def runTouch (w : World) (pid : Nat) (prog : String) (args : List String) : World × Nat :=
  let (_, names) := splitOptions args
  if names.isEmpty then (w.complain pid prog "missing file operand", 1)
  else names.foldl (fun (w, code) n =>
    match w.placeOf pid n >>= fun loc => w.files.write loc [] true with
    | .ok files => ({ w with files }, code)
    | .error e => (w.complain pid prog ("cannot touch " ++ quoteName n ++ ": " ++ e.description), 1))
    (w, 0)

/-- The signal a `kill` option names: `-9`, `-TERM`, `-SIGTERM`. -/
def signalOption (o : String) : Option Signal :=
  let body := (o.drop 1).toString
  if !body.isEmpty && body.all Char.isDigit then some body.toNat! else Signal.ofName? body

/-- The signal and process ids of `kill` arguments. -/
def killArgs : List String → Option (Signal × List String)
  | "-s" :: name :: rest => (Signal.ofName? name).map (·, rest)
  | "--" :: rest => some (Signal.terminate, rest)
  | a :: rest =>
    if a.startsWith "-" && a.length > 1 && !(a.drop 1).toString.all Char.isDigit then
      (signalOption a).map (·, rest)
    else if a.startsWith "-" && a.length > 1 then (signalOption a).map (·, rest)
    else some (Signal.terminate, a :: rest)
  | [] => some (Signal.terminate, [])

/-- `kill`, the program. -/
def runKill (w : World) (pid : Nat) (prog : String) (args : List String) : World × Nat :=
  match killArgs args with
  | none => (w.complain pid prog "unknown signal", 1)
  | some (sig, targets) =>
    targets.foldl (fun (w, code) t =>
      if !t.isEmpty && t.all Char.isDigit then
        let target := t.toNat!
        if w.present target then (w.deliver target sig, code)
        else (w.complain pid prog ("(" ++ t ++ "): No such process"), 1)
      else (w.complain pid prog ("cannot find process \"" ++ t ++ "\""), 1)) (w, 0)

/-- `echo`, the program: no escapes unless `-e`. -/
def runEcho (w : World) (pid : Nat) (args : List String) : World × Nat :=
  let isOpt (a : String) := a.startsWith "-" && a.length > 1 && (a.drop 1).toString.all (fun c => c == 'n' || c == 'e' || c == 'E')
  let opts := args.takeWhile isOpt
  let words := args.drop opts.length
  let newline := !opts.any (·.contains 'n')
  let escapes := opts.foldl (fun e o => (o.toList.foldl (fun e c =>
    if c == 'e' then true else if c == 'E' then false else e) e)) false
  let body := " ".intercalate words
  let (bytes, stop) := if escapes then expandEscapes [] (Text.utf8Bytes body)
    else (Text.utf8Bytes body, false)
  (w.write pid 1 (bytes ++ (if newline && !stop then [10] else [])), 0)

/-- `printf`, the program. -/
def runPrintf (w : World) (pid : Nat) (prog : String) (args : List String) : World × Nat :=
  match args with
  | [] => (w.complain pid prog "missing operand", 1)
  | fmt :: rest =>
    let out := printfBytes fmt rest
    let w := w.write pid 1 out.bytes
    match out.badDirective with
    | some d => (w.complain pid prog (d ++ ": invalid conversion specification"), 1)
    | none =>
      if out.badNumbers.isEmpty then (w, 0)
      else (out.badNumbers.foldl (fun w a => w.complain pid prog (a ++ ": expected a numeric value")) w, 1)

/-- Runs a program that finishes at once: what it does and its exit code. -/
def runUtility (w : World) (pid : Nat) (t : Tool) (argv : List String) : World × Nat :=
  let prog := argv.headD ""
  let args := argv.drop 1
  match t with
  | .makeDir => runMakeDir w pid prog args
  | .link => runLink w pid prog args
  | .makeFifo => runMakeFifo w pid prog args
  | .succeed | .sync => (w, 0)
  | .fail => (w, 1)
  | .echo => runEcho w pid args
  | .printf => runPrintf w pid prog args
  | .cat => runCat w pid prog args
  | .remove => runRemove w pid prog args
  | .touch => runTouch w pid prog args
  | .kill => runKill w pid prog args
  | .pwd => (w.say pid 1 ((w.cwdOf pid).render ++ "\n"), 0)
  | _ => (w, 1)

theorem splitOptions_end (rest : List String) : splitOptions ("--" :: rest) = ([], rest) := by
  simp [splitOptions]

end LaunchBench.Host
