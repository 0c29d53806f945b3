import LaunchBench.Cli.Parse
import LaunchBench.Scenario.Run
import LaunchBench.Settings.File
import LaunchBench.App.Load
/-!
Running the program.

The settings are built in layers: the defaults, then the settings file (the
one named on the command line or in the environment, else `startstop.conf`
in the working directory when there is one), then the environment's
`STARTSTOP_*` variables, then the options of the command line. Relative
paths are then read from the settings file's directory, or from the working
directory when no file was read. The registry is read, and the command runs:
`list` prints each application with its directory and pages, and the two
scenario commands run their scenario and print a summary when it passed.

An error of the program is printed with the chain of errors that caused it,
each after a colon, and ends the program with code 1; so does a scenario that
failed, printed with the application's name. An error on the command line
ends it with code 2, and help or the version with code 0.

* **`run_version`**: `-V` prints the version and changes nothing.
-/

namespace LaunchBench.Cli

open Host

/-- What a run of the program wrote and how it ended. -/
structure Outcome where
  /-- What it wrote on its output. -/
  stdout : String
  /-- What it wrote on its errors. -/
  stderr : String
  /-- Its exit code. -/
  code : Nat
deriving Repr, DecidableEq

/-- The command to run. -/
inductive Command where
  /-- Start and stop an application in a mode. -/
  | startStop (app : String) (mode : Mode)
  /-- Run an application's development loop. -/
  | devLoop (app : String)
  /-- List the applications. -/
  | list
deriving Repr, DecidableEq

/-- What the command line asks for. -/
structure Invocation where
  /-- The settings file. -/
  config : Option String
  /-- The registry. -/
  apps : Option String
  /-- The number of iterations. -/
  iterations : Option Nat
  /-- Whether to start cold. -/
  coldStart : Bool
  /-- Whether to keep the workspace. -/
  noCleanup : Bool
  /-- The port. -/
  port : Option Nat
  /-- The command. -/
  command : Command
deriving Repr

/-- The value of an option given to the program or to its command: the one
from the stronger source, the command's when both are as strong. -/
def mergedValue (root sub : LevelState) (long : String) : Option Value :=
  let pick (st : LevelState) := st.entries.find? (·.long == long)
  match pick root, pick sub with
  | some r, some s => if r.source.rank > s.source.rank then r.value else s.value
  | some r, none => r.value
  | none, some s => s.value
  | none, none => none

/-- The text of a value. -/
def Value.text? : Option Value → Option String
  | some (.text s) => some s
  | _ => none

/-- The number of a value. -/
def Value.number? : Option Value → Option Nat
  | some (.number n) => some n
  | _ => none

/-- What a command line read without error asks for. -/
def Invocation.ofRead (root : LevelState) (c : CommandSpec) (sub : LevelState) : Invocation :=
  let v := mergedValue root sub
  let command := match c.name with
    | "start-stop" =>
      let mode := match v "mode" with
        | some (.mode m) => m
        | _ => .jvm
      .startStop ((Value.text? (v "app")).getD "") mode
    | "dev-loop" => .devLoop ((Value.text? (v "app")).getD "")
    | _ => .list
  ⟨Value.text? (v "config"), Value.text? (v "apps"), Value.number? (v "iterations"),
    (v "cold-start").isSome, (v "no-cleanup").isSome, Value.number? (v "port"), command⟩

/-- An error with the errors that caused it, outermost first. -/
abbrev Failure := List String

/-- A settings error with its cause. -/
def settingsFailure (e : SettingsError) : Failure :=
  match e with
  | .unreadable r => [e.message, r.message]
  | _ => [e.message]

/-- A registry error with its cause. -/
def registryFailure (e : App.RegistryError) : Failure :=
  match e with
  | .unreadable _ r => [e.message, r.message]
  | .invalid _ src te => [e.message, te.render src]
  | _ => [e.message]

/-- The settings file read when none is named. -/
def defaultConfigFile : String := "startstop.conf"

/-- The settings file read: the one named, else `startstop.conf` in the working directory
when there is one. -/
def configPath (w : World) (cwd : Location) (inv : Invocation) : Option HostPath :=
  match inv.config with
  | some p => some p
  | none => if w.files.existsAt cwd defaultConfigFile then some defaultConfigFile else none

/-- The directory relative paths are read from: the settings file's, joined to the working
directory `base`, or `base` itself when no file is read or the file's path names no
directory. -/
def configDir (base : HostPath) (path : Option HostPath) : HostPath :=
  match path.bind HostPath.parent? with
  | some p => if p.isEmpty then base else HostPath.join base p
  | none => base

/-- The options of the command line over the settings; the registry named there is read
from the working directory `base`. -/
def Invocation.applyFlags (inv : Invocation) (base : HostPath) (c : Settings) : Settings :=
  { c with
    appsFile := (inv.apps.map (HostPath.join base)).getD c.appsFile
    iterations := inv.iterations.getD c.iterations
    port := inv.port.getD c.port
    -- the two switches can only turn a cold start on and the cleanup off
    coldStart := inv.coldStart || c.coldStart
    cleanup := !inv.noCleanup && c.cleanup }

/-- The user's home directory: `HOME` when it is set and not empty, else the one the host's
user database gives the user, if any. -/
def homeDir (lookup : String → Option String) (accountHome : Option HostPath) : Option HostPath :=
  ((lookup "HOME").filter (!·.isEmpty)).or accountHome

/-- Builds the settings: defaults, file, environment, command line, and
relative paths read from the file's directory or the working directory. -/
def loadSettings (w : World) (lookup : String → Option String) (accountHome : Option HostPath)
    (cwd : Location) (inv : Invocation) : Except Failure Settings := do
  let base := cwd.render
  let path := configPath w cwd inv
  let c := Settings.atHome (homeDir lookup accountHome)
  let c ← match path with
    | some p =>
      match c.loadFile w.files cwd p with
      | (c, none) => pure c
      | (_, some e) => throw (("loading " ++ p) :: settingsFailure e)
    | none => pure c
  let c ← match c.applyEnv lookup with
    | (c, none) => pure c
    | (_, some e) => throw (settingsFailure e)
  if inv.iterations = some 0 then throw ["--iterations must be positive"]
  pure ((inv.applyFlags base c).resolvePaths (configDir base path))

/-- A text padded with spaces on the right to `width` characters. -/
def padRight (width : Nat) (s : String) : String := s ++ spaces (width - s.length)

/-- The line of an application in the list. -/
def listLine (d : App.Descriptor) : String :=
  padRight 24 d.name ++ " " ++ padRight 32 d.dir ++ " " ++ " ".intercalate (d.pages.map (·.path))

/-- The summary printed after a scenario passed. -/
def summary (r : Report) : String :=
  "PASSED " ++ r.app ++ " (" ++ r.mode.name ++ ")\n" ++
    (match r.trimmedRssKb with
      | some v => "  rss_kb (trimmed mean):                 " ++ toString v ++ "\n"
      | none => "") ++
    (match r.trimmedFirstRequestMs with
      | some v => "  time_to_first_ok_request_ms (trimmed): " ++ toString v ++ "\n"
      | none => "") ++
    (match r.measurements.head? with
      | some first =>
        "  " ++ first.headerMarkdown ++ "\n  " ++ first.dividerMarkdown ++ "\n" ++
          String.join (r.measurements.map fun m => "  " ++ m.lineMarkdown ++ "\n")
      | none => "") ++
    (match r.archive with
      | some a => "  logs: " ++ a ++ "\n"
      | none => "")

/-- The outcome of a failure of the program. -/
def failed (f : Failure) : Outcome := ⟨"", "error: " ++ ": ".intercalate f ++ "\n", 1⟩

/-- Runs a scenario of a named application: start and stop in a mode, or the
development loop when no mode is given. -/
def runScenario (w : World) (env : List (String × String)) (cwd : Location) (network : Probe.Network)
    (settings : Settings) (registry : App.Registry) (name : String) (mode : Option Mode) :
    World × Outcome :=
  match registry.get? name with
  | .error e => (w, failed (registryFailure e))
  | .ok app =>
    let o : Orchestrator := ⟨settings, .linux, network, env, cwd, World.waitChild⟩
    match mode with
    | some m =>
      if m.isDevLoop then (w, failed ["mode " ++ m.name ++ " runs through the dev-loop command"])
      else report app (o.runStartStop w app m)
    | none => report app (o.runDevLoop w app)
where
  /-- The outcome of a scenario. -/
  report (app : App.Descriptor) : World × Except ScenarioError Report → World × Outcome
    | (w, .ok r) => (w, ⟨summary r, "", 0⟩)
    | (w, .error e) => (w, ⟨"", "FAILED " ++ app.name ++ ": " ++ e.message ++ "\n", 1⟩)

/-- Runs what the command line asks for. -/
def execute (w : World) (env : List (String × String)) (accountHome : Option HostPath)
    (cwd : Location) (network : Probe.Network) (inv : Invocation) : World × Outcome :=
  let lookup (n : String) := (env.find? (·.1 == n)).map (·.2)
  match loadSettings w lookup accountHome cwd inv with
  | .error f => (w, failed f)
  | .ok settings =>
    match App.Registry.load w.files cwd settings.appsFile with
    | .error e => (w, failed (("loading " ++ settings.appsFile) :: registryFailure e))
    | .ok registry =>
      match inv.command with
      | .list => (w, ⟨String.join (registry.apps.map fun d => listLine d ++ "\n"), "", 0⟩)
      | .startStop name mode => runScenario w env cwd network settings registry name (some mode)
      | .devLoop name => runScenario w env cwd network settings registry name none

/-- Runs the program with its arguments, its environment, the home directory the host's user
database gives its user, and its working directory. -/
def run (w : World) (args : List String) (env : List (String × String))
    (accountHome : Option HostPath) (cwd : Location) (network : Probe.Network) : World × Outcome :=
  let lookup (n : String) := (env.find? (·.1 == n)).map (·.2)
  match readCommandLine lookup args with
  | .error (.help text) => (w, ⟨text, "", 0⟩)
  | .error .version => (w, ⟨versionText, "", 0⟩)
  | .error (.bare text) => (w, ⟨"", text, 2⟩)
  | .error (.error c) => (w, ⟨"", c.render, 2⟩)
  | .ok (root, c, sub) => execute w env accountHome cwd network (Invocation.ofRead root c sub)

theorem run_version (w : World) (env : List (String × String)) (home : Option HostPath)
    (cwd : Location) (n : Probe.Network) : run w ["-V"] env home cwd n = (w, ⟨versionText, "", 0⟩) := by
  simp +decide [run, readCommandLine, helpOf, scan, rootLevel,
    scanShort, rootCommand, globalOptions, helpOption, versionOption, valueOption, flagOption, settle,
    resolvePending, bind, Except.bind]

end LaunchBench.Cli
