import LaunchBench.Scenario.Error
import LaunchBench.Settings.Basic
import LaunchBench.Command.Builder
import LaunchBench.App.Load
import LaunchBench.Report
import LaunchBench.Sampling
/-!
The state of a scenario and its workspace.

A scenario runs one application in one mode in its own workspace,
`<workspace>/<app>-<mode>`: the application's sources are copied to `app`
below it, or generated into a directory named after the application, and
every log goes to `logs`. Preparing the workspace removes what an earlier
run left there first. The copy leaves out build output (`target`) and
version control (`.git`), and takes only directories and regular files.

The stages of a scenario change the host and the scenario's report, and stop
at their first error; what they did before the error stays done, so the
cleanup that follows sees the host as the error left it. `Stage` is that kind
of computation: a state of the host and the scenario, and an error that keeps
the state.

* **`copySources_zero`**: copying with no depth left changes nothing.
-/

namespace LaunchBench

open Host Clock

/-- The instant, in milliseconds since 1970, at which the host's clock reads zero. -/
def clockEpochMs : Nat := 1735689600000

/-- The wall-clock time of the host. -/
def Host.World.now (w : World) : Timestamp := Timestamp.ofUnixMillis (clockEpochMs + w.clock)

/-- What runs scenarios: the settings, the host family, how processes are
supervised and pages probed, the harness's environment and directory, and how
the runtime waits for the commands it started. -/
structure Orchestrator where
  /-- The settings. -/
  settings : Settings
  /-- The host family. -/
  os : OsFamily
  /-- The network the probes go through. -/
  network : Probe.Network
  /-- The harness's environment. -/
  env : List (String × String)
  /-- The harness's directory, which relative paths start from. -/
  cwd : Location
  /-- How the runtime waits for a started command. -/
  waitChild : ChildWait

namespace Orchestrator

/-- The supervisor of the scenario's commands. -/
def supervisor (o : Orchestrator) : Supervisor :=
  ⟨o.settings.stopWaitSec * 1000, o.env, o.cwd, o.waitChild⟩

/-- The prober of the application's pages. -/
def prober (o : Orchestrator) : Probe.Prober :=
  ⟨o.network, ⟨o.settings.connectTimeoutMs, o.settings.requestTimeoutMs, o.settings.probePollMs,
    o.settings.portPollMs⟩⟩

/-- A variable of the harness's environment. -/
def lookup (o : Orchestrator) (name : String) : Option String :=
  (o.env.find? (·.1 == name)).map (·.2)

/-- How long a started application may take to answer, in milliseconds. -/
def startTimeoutMs (o : Orchestrator) : Nat := o.settings.startTimeoutS * 1000

end Orchestrator

/-- One application in one mode, while it runs. -/
structure Scenario where
  /-- The application. -/
  app : App.Descriptor
  /-- The mode. -/
  mode : Mode
  /-- The scenario's workspace. -/
  root : HostPath
  /-- Where the application's sources go. -/
  appDir : HostPath
  /-- Where the logs go. -/
  logsDir : HostPath
  /-- The log lines the application may print. -/
  whitelist : Whitelist
  /-- The application's budgets. -/
  thresholds : ThresholdSet
  /-- How commands are built. -/
  commands : CommandBuilder
  /-- What happened so far. -/
  report : Report
  /-- The application's process while it runs, for the cleanup to stop. -/
  process : Option Child

/-- The directories of a scenario. -/
structure ScenarioDirs where
  /-- The scenario's workspace. -/
  root : HostPath
  /-- Where the application's sources go. -/
  appDir : HostPath
  /-- Where the logs go. -/
  logsDir : HostPath

/-- Where an application works in a mode: `<workspace>/<app>-<mode>`, with the sources in
`app` below it, or in a directory named after the application when they are generated,
and the logs in `logs`. -/
def scenarioDirs (workspaceDir : HostPath) (name : String) (mode : Mode) : ScenarioDirs :=
  let root := workspaceDir.join (name ++ "-" ++ mode.name)
  { root, appDir := if mode == .generator then root.join name else root.join "app",
    logsDir := root.join "logs" }

/-- The path of a log of the scenario. -/
def Scenario.logPath (s : Scenario) (name : String) : HostPath := s.logsDir.join name

/-- The host and a scenario, as the stages go. -/
structure Progress where
  /-- The host. -/
  world : World
  /-- The scenario. -/
  scenario : Scenario

/-- A stage of a scenario: it changes the host and the scenario, and may fail,
keeping what it changed. -/
abbrev Stage := EStateM ScenarioError Progress

namespace Stage

/-- The scenario as it is now. -/
def scenario : Stage Scenario := do return (← get).scenario

/-- The host as it is now. -/
def world : Stage World := do return (← get).world

/-- Replaces the host. -/
def setWorld (w : World) : Stage Unit := modify fun p => { p with world := w }

/-- Changes the scenario. -/
def updateScenario (f : Scenario → Scenario) : Stage Unit :=
  modify fun p => { p with scenario := f p.scenario }

/-- Changes the report. -/
def updateReport (f : Report → Report) : Stage Unit :=
  updateScenario fun s => { s with report := f s.report }

/-- Adds a step to the timeline, stamped with the host's time now. -/
def addStep (kind iteration : String) (duration : Option Nat) (message : String) : Stage Unit := do
  let w ← world
  updateReport (·.addStep ⟨w.now, kind, iteration, duration, message⟩)

/-- Adds a command to the report. -/
def addCommand (c : String) : Stage Unit := updateReport (·.addCommand c)

/-- Fails with an error, or goes on with a value. -/
def lift {ε α : Type} (wrap : ε → ScenarioError) : Except ε α → Stage α
  | .ok a => pure a
  | .error e => throw (wrap e)

end Stage

/-- Removes a workspace: a directory with everything in it, or a link. -/
def removeTree (fs : FileTree) (loc : Location) : Except Errno FileTree :=
  match fs.lstat loc with
  | .ok .dir => fs.removeAll loc
  | .ok (.link _) => fs.unlink loc
  | .ok _ => .error .notDirectory
  | .error e => .error e

/-- The directories a copy of sources leaves out. -/
def skippedSourceDirs : List String := ["target", ".git"]

/-- A run of operations on the host's files. An operation that fails stops the run, and the
files stay as the operations before it left them. -/
abbrev FileOps := EStateM Errno FileTree

namespace FileOps

/-- An operation that changes the files, or fails and changes nothing. -/
def change (f : FileTree → Except Errno FileTree) : FileOps Unit := fun fs =>
  match f fs with
  | .ok fs' => .ok () fs'
  | .error e => .error e fs

/-- An operation that reads the files, or fails. -/
def query {α : Type} (f : FileTree → Except Errno α) : FileOps α := fun fs =>
  match f fs with
  | .ok a => .ok a fs
  | .error e => .error e fs

end FileOps

/-- Copies the directories and regular files below `src` to `dest`, leaving out the skipped
directories; `depth` bounds the directories descended. A failure stops the copy, and what was
copied before it stays. -/
def copySources (src dest : Location) : Nat → FileOps Unit
  | 0 => pure ()
  | depth + 1 => do
    FileOps.change (·.mkdirAll dest)
    let children ← FileOps.query (·.list src)
    children.forM fun (name, e) =>
      match e with
      | .dir =>
        if skippedSourceDirs.contains name then pure ()
        else copySources (src ++ [name]) (dest ++ [name]) depth
      | .file data exec => do
        FileOps.change (·.write (dest ++ [name]) data false)
        if exec then modify (·.setExecutable (dest ++ [name]))
      | .program _ => do
        let data ← FileOps.query (·.read (src ++ [name]))
        FileOps.change (·.write (dest ++ [name]) data false)
        modify (·.setExecutable (dest ++ [name]))
      | _ => pure ()

namespace Orchestrator

/-- Fails with a host error. -/
def hostStep {α : Type} (r : Except Errno α) : Stage α := Stage.lift (fun e => .io (.os e)) r

/-- Runs operations on the host's files; what they changed stays, also when one fails. -/
def hostOps {α : Type} (m : FileOps α) : Stage α := do
  let w ← Stage.world
  match m.run w.files with
  | .ok a files =>
    Stage.setWorld { w with files }
    pure a
  | .error e files =>
    Stage.setWorld { w with files }
    throw (.io (.os e))

/-- Makes the scenario of an application in a mode: its paths, whitelist,
budgets and commands. -/
def newScenario (o : Orchestrator) (w : World) (app : App.Descriptor) (mode : Mode) :
    Except ScenarioError Scenario := do
  let dirs := scenarioDirs o.settings.workspaceDir app.name mode
  let commands := ((CommandBuilder.ofSettings o.settings o.os).withParam "app" app.name).withParam
    "extensions" (",".intercalate app.extensions) |>.withEnv "QUARKUS_HTTP_PORT"
    (toString o.settings.port)
  let whitelist ← (Whitelist.build app.whitelist o.os).mapError .whitelist
  let thresholds ← (app.loadThresholds w.files o.cwd o.settings.repoDir o.lookup).mapError
    (fun e => .apps (.thresholds e))
  pure { app, mode, root := dirs.root, appDir := dirs.appDir, logsDir := dirs.logsDir, whitelist,
         thresholds, commands,
         report := Report.new app.name mode o.os w.now, process := none }

/-- Makes the workspace afresh and copies the sources into it, unless they
are generated. -/
def prepare (o : Orchestrator) : Stage Unit := do
  let s ← Stage.scenario
  let w ← Stage.world
  let rootLoc ← hostStep (locate o.cwd s.root)
  let files ← if w.files.exists? rootLoc then hostStep (removeTree w.files rootLoc) else pure w.files
  Stage.setWorld { w with files }
  let logsLoc ← hostStep (locate o.cwd s.logsDir)
  let files ← hostStep (files.mkdirAll logsLoc)
  Stage.setWorld { w with files }
  if s.mode != .generator then
    let source := s.app.sourceDir o.settings.repoDir
    let sourceLoc := (locate o.cwd source).toOption.filter files.isDir
    match sourceLoc with
    | none => throw (.missingSources source)
    | some sourceLoc =>
      let appLoc ← hostStep (locate o.cwd s.appDir)
      hostOps (copySources sourceLoc appLoc (files.entries.length + 1))
  Stage.addStep "PREPARE" "" none s.root

/-- Replaces the text `before` by `after` in a file; the text must be there. -/
def applyEdit (o : Orchestrator) (file : HostPath) (before after : String) : Stage Unit := do
  let w ← Stage.world
  let content ← Stage.lift .io (w.files.readTextAt o.cwd file)
  if !Text.containsText content before then throw (.editNotApplied file before)
  let loc ← hostStep (locate o.cwd file)
  let files ← hostStep (w.files.write loc (Text.utf8Bytes (Text.replaceAll content before after)) false)
  Stage.setWorld { w with files }

end Orchestrator

theorem copySources_zero (src dest : Location) (fs : FileTree) :
    (copySources src dest 0).run fs = .ok () fs :=
  rfl

end LaunchBench

