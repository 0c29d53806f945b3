import LaunchBench.Cli.Interface
import LaunchBench.Cli.Suggest
/-!
Reading the command line.

Arguments are read left to right. `--name` and `--name=value` give a long
option, `-x` a one-letter one, and a word after an option that takes a value
is that value, even one that names a command. Otherwise a word that names a
command switches to that command; the program's options may come before it
and the command's after. After `--` no word is an option or a command. Values are checked when the option is complete: when
the next option starts, when a command starts, or when the words end. Then
options not given are read from their environment variable or take their
default, and the required options must be there.

Help and version stop reading at once. Every other stop is an error, shown
with a usage line where the error concerns the command's shape, and with a
suggestion when a similar option or command exists.

* **`readInt64_digits`**: a decimal numeral is read as its value.
-/

namespace LaunchBench.Cli

/-- Where an option's value came from. -/
inductive Source where
  /-- Its default. -/
  | defaultValue
  /-- Its environment variable. -/
  | environment
  /-- The command line. -/
  | commandLine
deriving Repr, DecidableEq

/-- How strongly a source counts: the command line over the environment
over the default. -/
def Source.rank : Source → Nat
  | .defaultValue => 0
  | .environment => 1
  | .commandLine => 2

/-- A value of an option. -/
inductive Value where
  /-- A text or path. -/
  | text (s : String)
  /-- A number. -/
  | number (n : Nat)
  /-- A mode. -/
  | mode (m : Mode)
  /-- A flag that is on. -/
  | on
deriving Repr, DecidableEq

/-- An option that was given. -/
structure Entry where
  /-- The option's long name. -/
  long : String
  /-- Its value; `none` when the value was refused. -/
  value : Option Value
  /-- Where the value came from. -/
  source : Source
deriving Repr

/-- Why reading the command line failed: the message, suggestions, the usage
shown, and whether to point at `--help`. -/
structure Complaint where
  /-- What went wrong. -/
  message : String
  /-- Suggestions. -/
  tips : List String
  /-- The usage line shown. -/
  usage : Option String
  /-- Whether to point at `--help`. -/
  pointToHelp : Bool := true
deriving Repr

/-- The complaint as it is written. -/
def Complaint.render (c : Complaint) : String :=
  "error: " ++ c.message ++
    (match c.tips with
      | [] => ""
      | t :: ts => "\n\n  tip: " ++ t ++ String.join (ts.map ("\n  tip: " ++ ·))) ++
    (match c.usage with
      | some u => "\n\nUsage: " ++ u
      | none => "") ++
    (if c.pointToHelp then "\n\nFor more information, try '--help'.\n" else "\n")

/-- Why reading stopped before a command could run. -/
inductive Halt where
  /-- Help was asked for. -/
  | help (text : String)
  /-- The version was asked for. -/
  | version
  /-- Nothing was given: the help is shown as an error. -/
  | bare (text : String)
  /-- An error. -/
  | error (c : Complaint)
deriving Repr

/-- A command being read: its name as shown, its definition, and whether a
command must follow it. -/
structure Level where
  /-- The command's name as shown in usage lines. -/
  bin : String
  /-- The command. -/
  spec : CommandSpec
  /-- Whether a command must follow. -/
  takesCommand : Bool

/-- How far a command's arguments have been read. -/
structure LevelState where
  /-- The options given, in order. -/
  entries : List Entry := []
  /-- An option whose values are being collected. -/
  pending : Option (OptionSpec × List String) := none
  /-- Whether the next word is the pending option's value. -/
  awaiting : Bool := false
  /-- Whether `--` was seen. -/
  trailing : Bool := false
deriving Repr

/-- A suggestion of similar names. -/
def similarTip (what : String) : List String → Option String
  | [] => none
  | [n] => some ("a similar " ++ what ++ " exists: '" ++ n ++ "'")
  | ns => some ("some similar " ++ what ++ "s exist: " ++ ", ".intercalate (ns.map fun n => "'" ++ n ++ "'"))

/-- Reads a signed 64-bit decimal number as the runtime does: an optional
sign, then digits, failing at the first character that is not a digit or
when the value leaves the range. -/
def readInt64 (s : String) : Except String Int :=
  let limit : Int := Int.pow 2 63
  let (negative, digits) := match s.toList with
    | '+' :: ds => (false, ds)
    | '-' :: ds => (true, ds)
    | ds => (false, ds)
  if s.isEmpty then .error "cannot parse integer from empty string"
  else if digits.isEmpty then .error "invalid digit found in string"
  else
    digits.foldlM (fun (acc : Int) c =>
      if !c.isDigit then .error "invalid digit found in string"
      else
        let d : Int := c.toNat - 48
        let next := if negative then acc * 10 - d else acc * 10 + d
        if next ≥ limit then .error "number too large to fit in target type"
        else if next < -limit then .error "number too small to fit in target type"
        else .ok next) 0

/-- The text of an invalid value error. -/
def invalidValue (o : OptionSpec) (shown reason : String) : Complaint :=
  ⟨"invalid value '" ++ shown ++ "' for '" ++ o.display ++ "': " ++ reason, [], none, true⟩

/-- The error of an option given without a value. -/
def missingValue (o : OptionSpec) : Complaint :=
  ⟨"a value is required for '" ++ o.display ++ "' but none was supplied", [], none, true⟩

/-- Reads an unsigned number of at most `max`. -/
def readBounded (o : OptionSpec) (max : Nat) (raw : String) : Except Complaint Value :=
  match readInt64 raw with
  | .error e => .error (invalidValue o raw e)
  | .ok v =>
    if 0 ≤ v && v ≤ max then .ok (.number v.toNat)
    else .error (invalidValue o (toString v) (toString v ++ " is not in 0..=" ++ toString max))

/-- Reads the value of an option. -/
def readValue (o : OptionSpec) (raw : String) : Except Complaint Value :=
  match o.action with
  | .set .text _ => .ok (.text raw)
  | .set .path _ => if raw.isEmpty then .error (missingValue o) else .ok (.text raw)
  | .set .count _ => readBounded o (Nat.pow 2 32 - 1) raw
  | .set .port _ => readBounded o (Nat.pow 2 16 - 1) raw
  | .set .mode _ =>
    match Mode.parse? raw with
    | some m => .ok (.mode m)
    | none => .error (invalidValue o raw
        ("invalid mode '" ++ raw ++ "', expected: jvm, native, dev, generator"))
  | _ => .ok .on

/-- Whether an option was given. -/
def LevelState.has (st : LevelState) (long : String) : Bool := st.entries.any (·.long == long)

/-- Records an option with its values. The state is returned also with an
error, changed as far as the recording went. -/
def commit (lv : Level) (st : LevelState) (o : OptionSpec) (raws : List String) (src : Source) :
    LevelState × Option Complaint :=
  if src == .commandLine && o.takesValue && raws.isEmpty then (st, some (missingValue o))
  else if st.has o.long then
    ({ st with entries := st.entries.filter (·.long != o.long) },
     some ⟨"the argument '" ++ o.display ++ "' cannot be used multiple times", [],
       some (fullUsage lv.bin lv.spec lv.takesCommand), true⟩)
  else
    match readValue o (raws.headD "") with
    | .ok v => ({ st with entries := st.entries ++ [⟨o.long, some v, src⟩] }, none)
    | .error e => ({ st with entries := st.entries ++ [⟨o.long, none, src⟩] }, some e)

/-- Completes the pending option, if any. -/
def resolvePending (lv : Level) (st : LevelState) : LevelState × Option Complaint :=
  match st.pending with
  | none => (st, none)
  | some (o, raws) => commit lv { st with pending := none } o raws .commandLine

/-- Completes the pending option, failing on its error. -/
def settle (lv : Level) (st : LevelState) : Except Halt LevelState :=
  match resolvePending lv st with
  | (st, none) => .ok st
  | (_, some c) => .error (.error c)

/-- The long names given on the command line or by the environment. -/
def LevelState.used (st : LevelState) : List String :=
  (st.entries.filter (·.source != .defaultValue)).map (·.long)

/-- The suggestion for an unknown long option among a command's options. -/
def similarLong (spec : CommandSpec) (name : String) : Option String :=
  (similarNames name (spec.options.map (·.long))).getLast?

/-- The error of an unknown long option. A similar option of the command is
suggested and counts as used in the usage line; else, at the program's
level, a similar option of a command named later on the line. -/
def unknownLong (lv : Level) (st : LevelState) (name : String) (rest : List String) : Complaint :=
  let (st, _) := resolvePending lv st
  let message := "unexpected argument '--" ++ name ++ "' found"
  match similarLong lv.spec name with
  | some s =>
    let st := if st.has s then st else { st with entries := st.entries ++ [⟨s, none, .commandLine⟩] }
    ⟨message, ["a similar argument exists: '--" ++ s ++ "'"],
      some (focusedUsage lv.bin lv.spec st.used lv.takesCommand), true⟩
  | none =>
    let usage := some (focusedUsage lv.bin lv.spec st.used lv.takesCommand)
    let usage := if st.used.isEmpty then some (fullUsage lv.bin lv.spec lv.takesCommand) else usage
    let inCommands := if !lv.takesCommand then [] else
      subcommands.filterMap fun c =>
        match similarLong c name, rest.idxOf? c.name with
        | some s, some i => some (i, c.name ++ " --" ++ s)
        | _, _ => none
    let best := inCommands.foldl (fun (b : Option (Nat × String)) x =>
      match b with
      | some y => if x.1 < y.1 then some x else some y
      | none => some x) none
    match best with
    | some (_, s) => ⟨message, ["'" ++ s ++ "' exists"], usage, true⟩
    | none => ⟨message, [], usage, true⟩

/-- The error of a word that is not an option where no value is expected. -/
def unexpectedWord (lv : Level) (st : LevelState) (word : String) : Complaint :=
  let full := some (fullUsage lv.bin lv.spec lv.takesCommand)
  if !lv.takesCommand then ⟨"unexpected argument '" ++ word ++ "' found", [], full, true⟩
  else if st.trailing && commandNames.contains word then
    ⟨"unexpected argument '" ++ word ++ "' found",
      ["subcommand '" ++ word ++ "' exists; to use it, remove the '--' before it"], full, true⟩
  else ⟨"unrecognized subcommand '" ++ word ++ "'",
      (similarTip "subcommand" (similarNames word commandNames)).toList, full, true⟩

/-- Where reading a command's arguments ended. -/
inductive LevelEnd where
  /-- The words ran out. -/
  | done (st : LevelState)
  /-- A command starts, with the words after it. -/
  | command (st : LevelState) (c : CommandSpec) (rest : List String)
  /-- The help command starts, with the words after it. -/
  | helpCommand (rest : List String)

/-- Reads a cluster of one-letter options, such as `-hV`. -/
def scanShort (lv : Level) (st : LevelState) : List Char → Except Halt LevelState
  | [] => .ok st
  | c :: more =>
    match lv.spec.options.find? (·.short == some c) with
    | none =>
      .error (.error ⟨"unexpected argument '-" ++ String.singleton c ++ "' found", [],
        some (fullUsage lv.bin lv.spec lv.takesCommand), true⟩)
    | some o => do
      let st ← settle lv st
      match o.action with
      | .help => .error (.help "")
      | .version => .error .version
      | _ =>
        match commit lv st o [] .commandLine with
        | (st, none) => scanShort lv st more
        | (_, some e) => .error (.error e)

/-- The usage items of the error for a value attached to a flag: the options
given so far that are not required, the group right after the first of its
options given, and then the flag. An option still waiting for its value does
not count yet. -/
def attachedValueItems (lv : Level) (st : LevelState) (o : OptionSpec) : List UsageItem :=
  let required (l : String) : Bool := lv.spec.options.any fun p => p.long == l && p.required
  let step (acc : List UsageItem × Bool) (l : String) : List UsageItem × Bool :=
    let (items, grouped) := acc
    let own := if required l then [] else [UsageItem.option l]
    if !grouped && lv.spec.group.contains l then (items ++ own ++ [.group], true)
    else (items ++ own, grouped)
  (st.used.foldl step ([], false)).1 ++ [.option o.long]

/-- Reads a long option with its attached value, if any. -/
def scanLong (lv : Level) (st : LevelState) (name : String) (attached : Option String)
    (rest : List String) : Except Halt LevelState :=
  match lv.spec.options.find? (·.long == name) with
  | none => .error (.error (unknownLong lv st name rest))
  | some o =>
    if o.takesValue then do
      let st ← settle lv st
      match attached with
      | some v =>
        match commit lv st o [v] .commandLine with
        | (st, none) => .ok st
        | (_, some e) => .error (.error e)
      | none => .ok { st with pending := some (o, []), awaiting := true }
    else
      match attached with
      | some v =>
        .error (.error ⟨"unexpected value '" ++ v ++ "' for '" ++ o.display ++
          "' found; no more were expected", [],
          some (groupedUsage lv.bin lv.spec (attachedValueItems lv st o) lv.takesCommand), true⟩)
      | none => do
        let st ← settle lv st
        match o.action with
        | .help => .error (.help "")
        | .version => .error .version
        | _ =>
          match commit lv st o [] .commandLine with
          | (st, none) => .ok st
          | (_, some e) => .error (.error e)

/-- Reads a command's arguments up to the end or the next command. -/
def scan (lv : Level) : List String → LevelState → Except Halt LevelEnd
  | [], st => .ok (.done st)
  | a :: rest, st =>
    if st.trailing then
      .error (.error (unexpectedWord lv (resolvePending lv st).1 a))
    else if a == "--" then scan lv rest { st with trailing := true }
    else if a.startsWith "--" then
      let body := (a.drop 2).toString
      let (name, attached) := match body.splitOn "=" with
        | [n] => (n, none)
        | n :: vs => (n, some ("=".intercalate vs))
        | [] => (body, none)
      match scanLong lv { st with awaiting := false } name attached rest with
      | .ok st => scan lv rest st
      | .error h => .error h
    else if a.startsWith "-" && a.length > 1 then
      match scanShort lv { st with awaiting := false } (a.drop 1).toString.toList with
      | .ok st => scan lv rest st
      | .error h => .error h
    else if st.awaiting then
      let pending := st.pending.map fun (o, vs) => (o, vs ++ [a])
      scan lv rest { st with pending, awaiting := false }
    else if lv.takesCommand && commandNames.contains a then
      if a == helpCommandName then .ok (.helpCommand rest)
      else match subcommands.find? (·.name == a) with
        | some c => .ok (.command st c rest)
        | none => .ok (.helpCommand rest)
    else .error (.error (unexpectedWord lv (resolvePending lv st).1 a))

/-- Ends a command's arguments: completes the pending option, then reads the
options not given from the environment and gives defaults. -/
def finish (lookup : String → Option String) (lv : Level) (st : LevelState) :
    Except Halt LevelState := do
  let st ← settle lv st
  let st ← lv.spec.options.foldlM (fun st o =>
    match o.env.bind lookup with
    | some v =>
      if st.has o.long then .ok st
      else match commit lv st o [v] .environment with
        | (st, none) => .ok st
        | (_, some e) => .error (.error e)
    | none => .ok st) st
  .ok (lv.spec.options.foldl (fun st o =>
    match o.defaultValue with
    | some d =>
      if st.has o.long then st
      else match readValue o d with
        | .ok v => { st with entries := st.entries ++ [⟨o.long, some v, .defaultValue⟩] }
        | .error _ => st
    | none => st) st)

/-- Checks that a command's required options were given. -/
def checkRequired (lv : Level) (st : LevelState) : Except Halt Unit :=
  let missing := lv.spec.options.filter fun o => o.required && !st.has o.long
  if missing.isEmpty then .ok ()
  else .error (.error ⟨"the following required arguments were not provided:" ++
    String.join (missing.map fun o => "\n  " ++ o.display), [],
    some (focusedUsage lv.bin lv.spec (st.used ++ missing.map (·.long)) lv.takesCommand), true⟩)

/-- The help the help command shows for the words after it. -/
def helpFor (lookup : String → Option String) : List String → Halt
  | [] => .help (rootHelp lookup)
  | n :: more =>
    if n == helpCommandName then
      match more with
      | [] => .help helpCommandHelp
      | m :: _ => .error ⟨"unrecognized subcommand '" ++ m ++ "'", [], some helpCommandUsage, false⟩
    else match subcommands.find? (·.name == n) with
      | some c =>
        match more with
        | [] => .help (subcommandHelp lookup c)
        | m :: _ =>
          .error ⟨"unrecognized subcommand '" ++ m ++ "'", [],
            some (fullUsage (programName ++ " " ++ c.name) c false), true⟩
      | none =>
        .error ⟨"unrecognized subcommand '" ++ n ++ "'", [],
          some (fullUsage programName rootCommand true), true⟩

/-- The program's level. -/
def rootLevel : Level := ⟨programName, rootCommand, true⟩

/-- A command's level. -/
def commandLevel (c : CommandSpec) : Level := ⟨programName ++ " " ++ c.name, c, false⟩

/-- Fills in the help text of a help stop for a level. -/
def helpOf (lookup : String → Option String) (lv : Level) : Halt → Halt
  | .help "" => .help (if lv.takesCommand then rootHelp lookup else subcommandHelp lookup lv.spec)
  | h => h

/-- Reads the whole command line: the program's options, and the command
with its options. -/
def readCommandLine (lookup : String → Option String) (args : List String) :
    Except Halt (LevelState × CommandSpec × LevelState) :=
  match scan rootLevel args {} with
  | .error h => .error (helpOf lookup rootLevel h)
  | .ok (.helpCommand rest) => .error (helpFor lookup rest)
  | .ok (.done st) => do
    let st ← finish lookup rootLevel st
    if st.used.isEmpty then .error (.bare (rootHelp lookup))
    else .error (.error ⟨"'" ++ programName ++ "' requires a subcommand but one was not provided\n  [subcommands: " ++
      ", ".intercalate commandNames ++ "]", [], some (fullUsage programName rootCommand true), true⟩)
  | .ok (.command rootSt c rest) =>
    let lv := commandLevel c
    match scan lv rest {} with
    | .error h => .error (helpOf lookup lv h)
    | .ok (.helpCommand _) => .error (helpFor lookup [])
    | .ok (.command ..) => .error (helpFor lookup [])
    | .ok (.done st) => do
      let st ← finish lookup lv st
      checkRequired lv st
      let rootSt ← finish lookup rootLevel rootSt
      .ok (rootSt, c, st)

theorem readInt64_digits : readInt64 "4096" = .ok 4096 := by rfl

end LaunchBench.Cli
