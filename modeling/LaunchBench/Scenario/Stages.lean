import LaunchBench.Scenario.Workspace
import LaunchBench.Measurement.Log
/-!
The stages of a scenario.

A build step runs a command to its end within the build time limit, records
how it ended, and fails unless it succeeded with a clean log. Starting the
application records its process, then waits for the readiness page, checks
the other pages and samples the process. Stopping asks the application and
everything it started to end, then waits for the port to close. A run's log
must be clean, may have to name the expected listening host, and gives the
start and stop times of the measurement.

A start and stop scenario builds once and then starts and stops the
application as many times as the settings say; the trimmed means of memory
and time to the first good answer are checked against the budgets. A
development loop starts the application once in development mode, after
generating it if it is generated, makes the reload edit and times until the
page shows it.

* **`withSample_unknown`**: a sample with neither value known adds nothing
  to a measurement.
-/

namespace LaunchBench

open Host

/-- Sets the sampled values that are known on a measurement. -/
def withSample (b : MeasurementBuilder) (sample : ResourceSample) :
    Except NonPositive MeasurementBuilder := do
  let b ← if sample.rssKb > 0 then b.put .rss sample.rssKb else pure b
  if sample.openFds > 0 then b.put .openFds sample.openFds else pure b

/-- A count of milliseconds entered as a signed 64-bit number: its low 64 bits read in two's
complement, so that counts from `2^63` on read as negative. -/
def asSigned64 (n : Nat) : Int :=
  if n % Nat.pow 2 64 < Nat.pow 2 63 then (n % Nat.pow 2 64 : Nat)
  else ((n % Nat.pow 2 64 : Nat) : Int) - (Nat.pow 2 64 : Nat)

/-- The measurement of one start and stop cycle: the application and mode, the build time,
the time to the first good answer, the start and stop times of the run's log and the known
sampled values, entered in that order. -/
def iterationMeasurement (os : OsFamily) (app : String) (mode : Mode) (buildMs firstOk : Nat)
    (times : StartStop) (sample : ResourceSample) : Except NonPositive MeasurementBuilder := do
  let b := ((MeasurementBuilder.new os).app app).mode mode
  let b ← b.put .buildTime (asSigned64 buildMs)
  let b ← b.put .timeToFirstOkRequest (asSigned64 firstOk)
  let b ← b.put .startedIn times.startedMs
  let b ← b.put .stoppedIn times.stoppedMs
  withSample b sample

/-- The measurement of a development loop: as for a start and stop cycle, without a build
time, and with the reload time when an edit was made. -/
def devLoopMeasurement (os : OsFamily) (app : String) (mode : Mode) (firstOk : Nat)
    (times : StartStop) (reload : Option Nat) (sample : ResourceSample) :
    Except NonPositive MeasurementBuilder := do
  let b := ((MeasurementBuilder.new os).app app).mode mode
  let b ← b.put .timeToFirstOkRequest (asSigned64 firstOk)
  let b ← b.put .startedIn times.startedMs
  let b ← b.put .stoppedIn times.stoppedMs
  let b ← match reload with
    | some ms => b.put .timeToReload (asSigned64 ms)
    | none => pure b
  withSample b sample

/-- How long a command that drops the page cache may run. -/
def dropCachesLimitMs : Nat := 60000

namespace Orchestrator

open Stage

/-- Flushes and drops the page cache before a cold start, as far as the host
allows; nothing that goes wrong here stops the scenario. -/
def dropCaches (o : Orchestrator) : Stage Unit := do
  let w ← world
  let w := (cacheDropCommands o.os).foldl (fun w argv =>
    match spawn w harnessPid o.cwd [(0, .null), (1, .null), (2, .null)] argv o.env (pathOf o.env) with
    | .error _ => w
    | .ok (w, pid) =>
      let w := w.wait dropCachesLimitMs fun w => !w.running pid
      match w.reap pid with
      | (w, some _) => w
      | (w, none) => (w.deliver pid Signal.kill |>.reap pid).1) w
  setWorld w

/-- Runs a build-like step to its end and checks its log; gives the
milliseconds it took, at least 1. -/
def buildStep (o : Orchestrator) (template : Template) (step : String) : Stage Nat := do
  let s ← scenario
  let log := s.logPath (step ++ ".log")
  let workdir := if template == .generate then s.root else s.appDir
  let command ← lift .command (s.commands.build template workdir log)
  addCommand command.display
  let w ← world
  let started := w.clock
  let (w, r) := o.supervisor.runBounded w command (o.settings.buildTimeoutSec * 1000)
  setWorld w
  let status ← lift .supervisor r
  let elapsed := max 1 (w.clock - started)
  addStep step.toUpper "" (some elapsed) ("exit code " ++ ScenarioError.showCode status.code?)
  if !status.success then throw (.stepFailed step status.code? log)
  lift .log (ensureClean s.whitelist w.files o.cwd log)
  pure elapsed

/-- Starts the application, waits until it is ready, checks its other pages
and samples it; gives the time to the first good answer and the sample. -/
def startAndProbe (o : Orchestrator) (command : Command) (iteration : Nat) :
    Stage (Nat × ResourceSample) := do
  let s ← scenario
  let some readiness := s.app.readiness? | throw (.noReadinessUrl s.app.name)
  let base := o.settings.baseUrl
  let (w, r) := o.supervisor.start (← world) command
  setWorld w
  let child ← lift .supervisor r
  updateScenario fun s => { s with process := some child }
  addStep "START" (toString iteration) none ("pid " ++ toString child.pid)
  let (w, r) := o.prober.waitForContent (← world) (Probe.joinUrl base readiness.path) o.startTimeoutMs
    readiness.expected
  setWorld w
  let firstOk ← lift .probe r
  addStep "READY" (toString iteration) (some firstOk) ""
  let (w, r) := o.prober.probeAll (← world)  base
    (s.app.additionalPages.map fun p => (p.path, p.expected)) o.startTimeoutMs
  setWorld w
  lift .probe r
  let (w, sample) := (← world).sample o.env o.cwd child.pid
  setWorld w
  addStep "SAMPLE" (toString iteration) none
    ("rss_kb=" ++ toString sample.rssKb ++ " fds=" ++ toString sample.openFds)
  pure (firstOk, sample)

/-- Stops the application gracefully, then checks that its port closed. A stop that fails
ends the stage with its error and the process still held. -/
def stopAndVerify (o : Orchestrator) (iteration : Nat) : Stage Unit := do
  let w ← world
  let started := w.clock
  let w ← match (← scenario).process with
    | some c =>
      match o.supervisor.stop w c false with
      | (w, c, .error e) => do
        setWorld w
        updateScenario fun s => { s with process := some c }
        throw (.supervisor e)
      | (w, _, .ok ()) => pure w
    | none => pure w
  setWorld w
  updateScenario fun s => { s with process := none }
  addStep "STOP" (toString iteration) (some (w.clock - started)) ""
  let timeoutS := o.settings.portCloseTimeoutSec
  let (w, closed) := o.prober.waitForPortClosed w o.settings.host o.settings.port (timeoutS * 1000)
  setWorld w
  if !closed then throw (.portStillOpen o.settings.host o.settings.port timeoutS)

/-- Checks a run's log and reads its start and stop times. -/
def validateRunLog (o : Orchestrator) (log : HostPath) : Stage StartStop := do
  let s ← scenario
  let w ← world
  lift .log (ensureClean s.whitelist w.files o.cwd log)
  if let some host := o.settings.expectedListenHost then
    lift .log (checkListeningHost w.files o.cwd log host)
  lift .log (parseStartStopFile w.files o.cwd log)

/-- Appends a measurement to the file of its mode; a failed write is let go. -/
def record (o : Orchestrator) (m : Measurement) : Stage Unit := do
  let w ← world
  let s ← scenario
  match appendMeasurement m w.files o.cwd (o.settings.measurementsLog s.mode) with
  | .ok files => setWorld { w with files }
  | .error _ => pure ()

/-- Checks observed values against the budgets, when there are any. -/
def checkThresholds (o : Orchestrator) (observed : Observed) : Stage Unit := do
  let s ← scenario
  if s.thresholds.isEmpty then return
  let result := s.thresholds.check o.os s.mode observed
  addStep "THRESHOLDS" "" none (match result with
    | .ok () => "within budget"
    | .error e => e.message)
  lift .threshold result

/-- One start and stop of the application. -/
def startStopIteration (o : Orchestrator) (iteration buildMs : Nat) : Stage Measurement := do
  if o.settings.coldStart then o.dropCaches
  let s ← scenario
  let log := s.logPath ("run-" ++ toString iteration ++ ".log")
  let command ← lift .command (s.commands.build (Template.forRun s.mode) s.appDir log)
  if iteration == 1 then addCommand command.display
  let (firstOk, sample) ← o.startAndProbe command iteration
  o.stopAndVerify iteration
  let times ← o.validateRunLog log
  let b ← lift .measurement
    (iterationMeasurement o.os s.app.name s.mode buildMs firstOk times sample)
  o.record b.record
  pure b.record

/-- Runs the iterations in order, adding each measurement to the report. -/
def runIterations (o : Orchestrator) (buildMs : Nat) : List Nat → Stage Unit
  | [] => pure ()
  | i :: rest => do
    let m ← o.startStopIteration i buildMs
    updateReport fun r => { r with measurements := r.measurements ++ [m] }
    o.runIterations buildMs rest

/-- Builds once, then starts and stops the application as often as the
settings say, and checks the trimmed means against the budgets. -/
def startStopStages (o : Orchestrator) : Stage Unit := do
  o.prepare
  let template ← lift .command (Template.forBuild (← scenario).mode)
  let buildMs ← o.buildStep template "build"
  o.runIterations buildMs ((List.range o.settings.iterations).map (· + 1))
  let ms := (← scenario).report.measurements
  let rss ← lift (fun _ => .overflow) (trimmedMean (ms.filterMap (·.rssKb)))
  let ttfr ← lift (fun _ => .overflow) (trimmedMean (ms.filterMap (·.timeToFirstOkRequestMs)))
  updateReport fun r => { r with trimmedRssKb := rss, trimmedFirstRequestMs := ttfr }
  o.checkThresholds { rssKb := rss.map Int.toNat, timeToFirstOkRequestMs := ttfr.map Int.toNat }

/-- Starts the application in development mode, after generating it when it
is generated, and times the reload of the edit. -/
def devLoopStages (o : Orchestrator) : Stage Unit := do
  o.prepare
  let s ← scenario
  if s.mode == .generator then
    let _ ← o.buildStep .generate "generate"
    let w ← world
    let generated := (locate o.cwd s.appDir).toOption.any w.files.isDir
    if !generated then throw (.missingSources s.appDir)
  let log := s.logPath "dev.log"
  let command ← lift .command (s.commands.build .dev s.appDir log)
  addCommand command.display
  let (firstOk, sample) ← o.startAndProbe command 1
  let reload ← match s.app.edit with
    | none => pure none
    | some edit => do
      o.applyEdit (s.appDir.join edit.file) edit.before edit.after
      let (w, r) := o.prober.waitForContent (← world) (Probe.joinUrl o.settings.baseUrl edit.path)
        o.startTimeoutMs edit.expected
      setWorld w
      let elapsed ← lift .probe r
      addStep "RELOAD" "" (some elapsed) edit.file
      pure (some elapsed)
  o.stopAndVerify 1
  let times ← o.validateRunLog log
  let b ← lift .measurement
    (devLoopMeasurement o.os s.app.name s.mode firstOk times reload sample)
  let m := b.record
  o.record m
  updateReport fun r => { r with measurements := r.measurements ++ [m] }
  o.checkThresholds { rssKb := m.rssKb.map Int.toNat, timeToFirstOkRequestMs := some firstOk,
                      timeToReloadMs := reload }

end Orchestrator

theorem withSample_unknown (b : MeasurementBuilder) :
    withSample b ⟨-1, -1⟩ = .ok b := by
  simp [withSample]
  rfl

end LaunchBench
