import LaunchBench.Platform
/-!
The command line of the harness, and how it is shown.

The program takes options that hold for every command (the settings file,
the application registry, the iteration count, cold starts, keeping the
workspace, the port), and one of three commands: `start-stop` for an
application and mode, `dev-loop` for an application, and `list`. A fourth
command, `help`, shows the help of the program or of a command.

Help is the command's description, its usage line, its commands, its
arguments and its options, each option with its help and, where it has
them, the environment variable it is read from, with that variable's value,
and its default. Every option has a place in the help, and options with the
same place are ordered by name, a one-letter name before a long one. The
names of options are padded to one column, and so are those of commands.

A usage line names the command, `[OPTIONS]` when it has optional ones, its
required options, and `<COMMAND>` when a command must follow. When an error
concerns some options, the usage names only the required options and those.

* **`usage_root`**: the program's usage line.
-/

namespace LaunchBench.Cli

/-- What kind of value an option takes. -/
inductive ValueKind where
  /-- Any text. -/
  | text
  /-- A path: any text but the empty one. -/
  | path
  /-- A count: an unsigned 32-bit number. -/
  | count
  /-- A port: an unsigned 16-bit number. -/
  | port
  /-- A mode's name. -/
  | mode
deriving Repr, DecidableEq

/-- What an option does. -/
inductive Action where
  /-- Takes a value, named in the help. -/
  | set (kind : ValueKind) (valueName : String)
  /-- Is on when given. -/
  | flag
  /-- Shows the help. -/
  | help
  /-- Shows the version. -/
  | version
deriving Repr, DecidableEq

/-- An option of the command line. -/
structure OptionSpec where
  /-- Its long name, after `--`. -/
  long : String
  /-- Its one-letter name, after `-`. -/
  short : Option Char
  /-- What it does. -/
  action : Action
  /-- Its help. -/
  help : String
  /-- The environment variable it is read from when not given. -/
  env : Option String
  /-- Its value when neither given nor in the environment. -/
  defaultValue : Option String
  /-- Whether it must be given. -/
  required : Bool
  /-- Its place in the help. -/
  order : Nat
deriving Repr, DecidableEq

namespace OptionSpec

/-- Whether the option takes a value. -/
def takesValue (o : OptionSpec) : Bool :=
  match o.action with
  | .set .. => true
  | _ => false

/-- The option as written in help and errors: `--port <PORT>`, `--cold-start`. -/
def display (o : OptionSpec) : String :=
  match o.action with
  | .set _ v => "--" ++ o.long ++ " <" ++ v ++ ">"
  | _ => "--" ++ o.long

end OptionSpec

/-- The place in the help of options the program adds itself. -/
def builtinOrder : Nat := 999

/-- An option that takes a value. -/
def valueOption (long valueName : String) (kind : ValueKind) (help : String) (order : Nat) :
    OptionSpec :=
  ⟨long, none, .set kind valueName, help, none, none, false, order⟩

/-- A flag. -/
def flagOption (long help : String) (order : Nat) : OptionSpec :=
  ⟨long, none, .flag, help, none, none, false, order⟩

/-- The option that shows help. -/
def helpOption : OptionSpec := ⟨"help", some 'h', .help, "Print help", none, none, false, builtinOrder⟩

/-- The option that shows the version. -/
def versionOption : OptionSpec :=
  ⟨"version", some 'V', .version, "Print version", none, none, false, builtinOrder⟩

/-- The environment variable that names the settings file. -/
def configVariable : String := "STARTSTOP_CONFIG"

/-- The options every command takes. -/
def globalOptions : List OptionSpec :=
  [{ valueOption "config" "CONFIG" .path
      "Harness config file (default: ./startstop.conf when present)" 0 with env := some configVariable },
   valueOption "apps" "APPS" .path "Application registry" 1,
   valueOption "iterations" "ITERATIONS" .count "Start/stop cycles per scenario" 2,
   flagOption "cold-start" "Drop the page cache before every start" 3,
   flagOption "no-cleanup" "Keep the scenario workspace after the run" 4,
   valueOption "port" "PORT" .port "HTTP port the application listens on" 5]

/-- The option naming the application. -/
def appOption : OptionSpec :=
  { valueOption "app" "APP" .text "Application name from the registry" 0 with required := true }

/-- The option naming the mode. -/
def modeOption : OptionSpec :=
  { valueOption "mode" "MODE" .mode "Mode: jvm or native" 1 with defaultValue := some "jvm" }

/-- A command of the program. -/
structure CommandSpec where
  /-- Its name. -/
  name : String
  /-- What it does. -/
  about : String
  /-- Its options, in the order they are looked up. -/
  options : List OptionSpec
  /-- The long names of the options the command declares itself, in order. They form
  one group, which some usage lines show as a whole once one of them is given. -/
  group : List String
deriving Repr

/-- The name of the program. -/
def programName : String := "startstop"

/-- The version of the program. -/
def programVersion : String := "0.1.0"

/-- The program itself, as a command. -/
def rootCommand : CommandSpec :=
  ⟨programName, "Start/stop and dev-loop measurement harness", globalOptions ++ [helpOption, versionOption],
    globalOptions.map (·.long)⟩

/-- A command with its own options, then the global ones and help. -/
def subcommand (name about : String) (own : List OptionSpec) : CommandSpec :=
  ⟨name, about, own ++ globalOptions ++ [helpOption], own.map (·.long)⟩

/-- The commands that run something. -/
def subcommands : List CommandSpec :=
  [subcommand "start-stop" "Build once, then start and stop the application repeatedly" [appOption, modeOption],
   subcommand "dev-loop" "Start in dev mode and measure a live reload" [appOption],
   subcommand "list" "List registered applications" []]

/-- The name of the help command. -/
def helpCommandName : String := "help"

/-- What the help command does. -/
def helpCommandAbout : String := "Print this message or the help of the given subcommand(s)"

/-- The names of every command, the help command last. -/
def commandNames : List String := subcommands.map (·.name) ++ [helpCommandName]

/-- Spaces. -/
def spaces (n : Nat) : String := String.ofList (List.replicate n ' ')

/-- A text padded with spaces on the right to `width` characters. -/
def padTo (width : Nat) (s : String) : String := s ++ spaces (width - s.length)

/-- The key that orders options of the same place: the one-letter name,
lowered and marked by its case, else the long name. -/
def OptionSpec.sortKey (o : OptionSpec) : String :=
  match o.short with
  | some c => String.singleton c.toLower ++ (if c.isLower then "0" else "1")
  | none => o.long

/-- The options in help order: by place, then by key. -/
def helpOrder (os : List OptionSpec) : List OptionSpec :=
  os.mergeSort fun a b => a.order < b.order || (a.order == b.order && decide (a.sortKey ≤ b.sortKey))

/-- The bracketed notes after an option's help: its environment variable
with that variable's value, and its default. -/
def notes (lookup : String → Option String) (o : OptionSpec) : List String :=
  (o.env.map fun v => "[env: " ++ v ++ "=" ++ (lookup v).getD "" ++ "]").toList ++
    (o.defaultValue.map fun d => "[default: " ++ d ++ "]").toList

/-- The lines of an options section. -/
def optionLines (lookup : String → Option String) (os : List OptionSpec) : List String :=
  let width := os.foldl (fun w o => max w o.display.length) 0
  (helpOrder os).map fun o =>
    let short := match o.short with
      | some c => "-" ++ String.singleton c ++ ", "
      | none => "    "
    let text := " ".intercalate ((if o.help.isEmpty then [] else [o.help]) ++ notes lookup o)
    "  " ++ short ++ padTo (width + 2) o.display ++ text

/-- The lines of a commands section. -/
def commandLines (cs : List (String × String)) : List String :=
  let width := cs.foldl (fun w c => max w c.1.length) 0
  cs.map fun (n, a) => "  " ++ padTo (width + 2) n ++ a

/-- Whether a command has options that may be left out. -/
def hasOptionalOptions (c : CommandSpec) : Bool :=
  c.options.any fun o => !o.required && (o.action == .flag || o.takesValue)

/-- The full usage of a command called `bin`. -/
def fullUsage (bin : String) (c : CommandSpec) (takesCommand : Bool) : String :=
  " ".intercalate ([bin] ++ (if hasOptionalOptions c then ["[OPTIONS]"] else []) ++
    ((c.options.filter (·.required)).map (·.display)) ++ (if takesCommand then ["<COMMAND>"] else []))

/-- The usage of a command called `bin` that names only its required options
and the options `used`, each once. -/
def focusedUsage (bin : String) (c : CommandSpec) (used : List String) (takesCommand : Bool) : String :=
  let named := ((c.options.filter (·.required)).map (·.long) ++ used).eraseDups
  let shown := named.filterMap fun l => (c.options.find? (·.long == l)).map (·.display)
  " ".intercalate ([bin] ++ shown ++ (if takesCommand then ["<COMMAND>"] else []))

/-- An item of a usage line: an option by its long name, or the command's group. -/
inductive UsageItem where
  | option (long : String)
  | group
deriving Repr, DecidableEq

/-- The group as a usage line shows it: its options between angle brackets,
separated by bars. -/
def groupDisplay (c : CommandSpec) : String :=
  "<" ++ "|".intercalate (c.group.filterMap fun l => (c.options.find? (·.long == l)).map (·.display)) ++ ">"

/-- The usage of a command called `bin` that names its required options and the
`items`: the options each once, leaving out those of the group when the group is
named, and then the group. -/
def groupedUsage (bin : String) (c : CommandSpec) (items : List UsageItem) (takesCommand : Bool) :
    String :=
  let all := (c.options.filter (·.required)).map (UsageItem.option ·.long) ++ items
  let hasGroup := all.contains .group
  let members := if hasGroup then c.group else []
  let named := (all.filterMap fun
    | .option l => if members.contains l then none else some l
    | .group => none).eraseDups
  let shown := named.filterMap fun l => (c.options.find? (·.long == l)).map (·.display)
  " ".intercalate ([bin] ++ shown ++ (if hasGroup then [groupDisplay c] else []) ++
    (if takesCommand then ["<COMMAND>"] else []))

/-- The help of a command called `bin`; `commands` lists the commands it takes. -/
def helpText (lookup : String → Option String) (bin : String) (c : CommandSpec)
    (commands : List (String × String)) : String :=
  let usage := fullUsage bin c !commands.isEmpty
  let sections :=
    (if commands.isEmpty then [] else ["Commands:\n" ++ "\n".intercalate (commandLines commands)]) ++
    ["Options:\n" ++ "\n".intercalate (optionLines lookup c.options)]
  c.about ++ "\n\nUsage: " ++ usage ++ "\n\n" ++ "\n\n".intercalate sections ++ "\n"

/-- The help of the program. -/
def rootHelp (lookup : String → Option String) : String :=
  helpText lookup programName rootCommand
    (subcommands.map (fun c => (c.name, c.about)) ++ [(helpCommandName, helpCommandAbout)])

/-- The usage of the help command. -/
def helpCommandUsage : String := programName ++ " " ++ helpCommandName ++ " [COMMAND]..."

/-- The help of the help command. -/
def helpCommandHelp : String :=
  helpCommandAbout ++ "\n\nUsage: " ++ helpCommandUsage ++
    "\n\nArguments:\n  [COMMAND]...  Print help for the subcommand(s)\n"

/-- The help of a command. -/
def subcommandHelp (lookup : String → Option String) (c : CommandSpec) : String :=
  helpText lookup (programName ++ " " ++ c.name) c []

/-- The version line. -/
def versionText : String := programName ++ " " ++ programVersion ++ "\n"

theorem usage_root : fullUsage programName rootCommand true = "startstop [OPTIONS] <COMMAND>" := by
  decide

end LaunchBench.Cli
