import LaunchBench.Scenario.Stages
import LaunchBench.Archive
/-!
Whole scenarios.

A scenario is made for an application and a mode, its stages run until the
first error, and then the cleanup runs, whatever the stages did. The cleanup
kills an application still running, finishes the report with the error, if
any, and archives: a fresh bundle directory gets every log, a manifest of
their digests and the report. The workspace is removed only when the
settings ask for it and everything reached the bundle, so nothing is lost.
Nothing that fails in the cleanup changes the scenario's result.

Only the start and stop modes run start and stop scenarios; a development
loop runs in development mode, or in generator mode for a generated
application.

* **`runStartStop_devLoop`**: a start and stop scenario in a development
  mode fails at once and leaves the host as it was.
-/

namespace LaunchBench

open Host

namespace Orchestrator

/-- Copies the logs and the report into a fresh bundle; `true` only when every
log and the report made it. -/
def archive (o : Orchestrator) (w : World) (s : Scenario) : World × Scenario × Bool :=
  match Archive.createBundleDir w.files o.cwd o.settings.archiveDir s.app.name s.mode w.now with
  | .error _ => (w, s, false)
  | .ok (files, bundle) =>
    let s := { s with report := { s.report with archive := some bundle } }
    let (files, logs) := Archive.archiveLogs files o.cwd s.logsDir bundle
    let complete := match logs with
      | .ok logs => logs.isComplete
      | .error _ => false
    match Archive.writeReport files o.cwd bundle s.report with
    | (files, .ok ()) => ({ w with files }, s, complete)
    | (files, .error _) => ({ w with files }, s, false)

/-- Stops what is left, finishes the report, archives, and removes the
workspace when that is asked for and safe. -/
def cleanup (o : Orchestrator) (p : Progress) (failure : Option ScenarioError) : Progress :=
  let w := match p.scenario.process with
    | some c => (o.supervisor.stop p.world c true).1
    | none => p.world
  let s := { p.scenario with
    process := none
    report := p.scenario.report.finish (failure.map ScenarioError.message) w.now }
  let (w, s, archived) := o.archive w s
  let w := if !o.settings.cleanup || !archived then w
    else match locate o.cwd s.root with
      | .ok loc =>
        if w.files.exists? loc then
          match removeTree w.files loc with
          | .ok files => { w with files }
          | .error _ => w
        else w
      | .error _ => w
  ⟨w, s⟩

/-- Runs stages on a new scenario, then the cleanup; gives the report, or the
first error. -/
def runScenario (o : Orchestrator) (w : World) (app : App.Descriptor) (mode : Mode)
    (stages : Stage Unit) : World × Except ScenarioError Report :=
  match o.newScenario w app mode with
  | .error e => (w, .error e)
  | .ok s =>
    match stages.run ⟨w, s⟩ with
    | .ok () p =>
      let p := o.cleanup p none
      (p.world, .ok p.scenario.report)
    | .error e p =>
      let p := o.cleanup p (some e)
      (p.world, .error e)

/-- Builds once, then starts and stops the application. -/
def runStartStop (o : Orchestrator) (w : World) (app : App.Descriptor) (mode : Mode) :
    World × Except ScenarioError Report :=
  if mode.isDevLoop then (w, .error (.unsupportedMode mode))
  else o.runScenario w app mode o.startStopStages

/-- The mode of an application's development loop. -/
def devLoopMode (app : App.Descriptor) : Mode := if app.generated then .generator else .dev

/-- Starts the application in development mode, edits a source file and
measures the reload. -/
def runDevLoop (o : Orchestrator) (w : World) (app : App.Descriptor) :
    World × Except ScenarioError Report :=
  o.runScenario w app (devLoopMode app) o.devLoopStages

theorem runStartStop_devLoop (o : Orchestrator) (w : World) (app : App.Descriptor) (mode : Mode)
    (h : mode.isDevLoop = true) : o.runStartStop w app mode = (w, .error (.unsupportedMode mode)) := by
  simp [runStartStop, h]

end Orchestrator

end LaunchBench
