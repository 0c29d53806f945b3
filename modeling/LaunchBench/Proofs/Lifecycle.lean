import Mathlib
import LaunchBench.Scenario.Run
import LaunchBench.Proofs.Stage
import LaunchBench.Proofs.Workspace
import LaunchBench.Proofs.ProcessStop
/-!
The application's process over a scenario.

A scenario holds at most one process of the application. Starting the application stores
the process the supervisor started, stopping it gracefully lets it go, and the cleanup stops
with force whatever is still held. The report's timeline tells the same story: a `START`
step naming the process is added as soon as it is stored, and a `STOP` step as soon as it is
let go. Replaying the starts and stops of a timeline as a small automaton (nothing held; a
start holds the process it names; a stop lets it go; anything else is out of order) gives
the process the timeline says is held.

The stages keep the two in step. Run from a state that holds nothing and whose timeline has
every start stopped, as a new scenario is, each stage program ends with the replay of its
timeline naming exactly the process held, and holding nothing when it succeeds. A start is
recorded whenever a process is stored, so a replay in order means that no process was ever
stored over one still held, and that every process the timeline starts is either stopped
by a later `STOP` or is the one still held, which the cleanup stops with force.

Each stage has a Hoare triple, and `mvcgen` composes a stage's triple from the triples of
the stages it runs and of the stage primitives (`Proofs.Stage`).

A graceful stop that fails keeps its process held, the same process, so the timeline's last
start still names it and the cleanup stops it. A bounded run is the one place a process is let
go otherwise: when its wait fails it returns the error, and the command is killed through its
dropped handle, neither seen to end nor stopped with what it started.

* **`stages_release_process`**: run from a state holding nothing, the start and stop stage
  programs keep the timeline's replay in step with the process held, and hold nothing when
  they succeed. The cleanup is stopping the held process with force and then cleaning up
  with nothing held, and a bounded run sees its command end, stops it with force, or returns
  the error of a wait that failed.
-/

namespace LaunchBench

open Host Std.Do

set_option mvcgen.warning false

/-! ### Replaying the timeline -/

/-- The message of the timeline's start of a process. -/
def startMessage (c : Child) : String := "pid " ++ toString c.pid

/-- One step of the replay of a timeline. The state is the start message of the process
held, if any, or `none` once a start or a stop came out of order. A start holds a process
when none is held, a stop lets the held one go, and other steps change nothing. -/
def holdStep : Option (Option String) → Step → Option (Option String)
  | none, _ => none
  | some held, st =>
    if st.kind = "START" then (if held.isNone then some (some st.message) else none)
    else if st.kind = "STOP" then (if held.isSome then some none else none)
    else some held

/-- The replay of a timeline from nothing held: the start message of the process it leaves
held, or `none` when its starts and stops do not alternate. -/
def heldBy (steps : List Step) : Option (Option String) := steps.foldl holdStep (some none)

@[simp] theorem heldBy_append (l l' : List Step) :
    heldBy (l ++ l') = l'.foldl holdStep (heldBy l) :=
  List.foldl_append

theorem holdStep_other {held : Option String} {st : Step} (h₁ : st.kind ≠ "START")
    (h₂ : st.kind ≠ "STOP") : holdStep (some held) st = some held := by
  simp [holdStep, h₁, h₂]

theorem holdStep_start {st : Step} (h : st.kind = "START") :
    holdStep (some none) st = some (some st.message) := by
  simp [holdStep, h]

theorem holdStep_stop {held : Option String} {st : Step} (hh : held.isSome) (h : st.kind = "STOP") :
    holdStep (some held) st = some none := by
  simp [holdStep, h, hh]

/-- The timeline's replay names the process the scenario holds. -/
def Tracked (p : Progress) : Prop :=
  heldBy p.scenario.report.steps = some (p.scenario.process.map startMessage)

/-- Nothing held, and every start of the timeline stopped. -/
def Idle (p : Progress) : Prop := Tracked p ∧ p.scenario.process = none

/-- A process held: the one the timeline's last start names. -/
def Busy (p : Progress) : Prop := Tracked p ∧ p.scenario.process.isSome

/-- A scenario just made holds nothing and has an empty timeline. -/
theorem newScenario_idle {o : Orchestrator} {w : World} {app : App.Descriptor} {mode : Mode}
    {s : Scenario} (h : o.newScenario w app mode = .ok s) (w' : World) : Idle ⟨w', s⟩ := by
  obtain ⟨wl, th, cb, rfl⟩ := newScenario_shape h
  exact ⟨rfl, rfl⟩

/-! ### The stages -/

namespace Orchestrator

variable (o : Orchestrator)

theorem prepare_spec :
    ⦃fun p => ⌜Idle p⌝⦄ o.prepare ⦃post⟨fun _ p => ⌜Idle p⌝, fun _ p => ⌜Idle p⌝⟩⦄ := by
  mvcgen [prepare, hostStep, hostOps, Stage.lift]
  all_goals simp_all +zetaDelta [Idle, Tracked, holdStep_other]

theorem dropCaches_spec :
    ⦃fun p => ⌜Idle p⌝⦄ o.dropCaches ⦃post⟨fun _ p => ⌜Idle p⌝, fun _ p => ⌜Idle p⌝⟩⦄ := by
  mvcgen [dropCaches]

/-- A build step adds no start or stop when its name is none. -/
theorem buildStep_spec (t : Template) (step : String)
    (h : step.toUpper ≠ "START" ∧ step.toUpper ≠ "STOP") :
    ⦃fun p => ⌜Idle p⌝⦄ o.buildStep t step ⦃post⟨fun _ p => ⌜Idle p⌝, fun _ p => ⌜Idle p⌝⟩⦄ := by
  mvcgen [buildStep, Stage.lift]
  all_goals simp_all +zetaDelta [Idle, Tracked, holdStep_other]

/-- The build steps a scenario runs are named neither start nor stop. -/
theorem buildSteps_quiet :
    ("build".toUpper ≠ "START" ∧ "build".toUpper ≠ "STOP") ∧
      ("generate".toUpper ≠ "START" ∧ "generate".toUpper ≠ "STOP") := by
  decide +kernel

theorem validateRunLog_spec (log : HostPath) :
    ⦃fun p => ⌜Idle p⌝⦄ o.validateRunLog log ⦃post⟨fun _ p => ⌜Idle p⌝, fun _ p => ⌜Idle p⌝⟩⦄ := by
  mvcgen [validateRunLog, Stage.lift]

theorem record_spec (m : Measurement) :
    ⦃fun p => ⌜Idle p⌝⦄ o.record m ⦃post⟨fun _ p => ⌜Idle p⌝, fun _ p => ⌜Idle p⌝⟩⦄ := by
  mvcgen [record]

theorem checkThresholds_spec (obs : Observed) :
    ⦃fun p => ⌜Idle p⌝⦄ o.checkThresholds obs ⦃post⟨fun _ p => ⌜Idle p⌝, fun _ p => ⌜Idle p⌝⟩⦄ := by
  mvcgen [checkThresholds, Stage.lift]
  all_goals simp_all +zetaDelta [Idle, Tracked, holdStep_other]

/-- The reload edit leaves the held process held. -/
theorem applyEdit_spec (file : HostPath) (before after : String) :
    ⦃fun p => ⌜Busy p⌝⦄ o.applyEdit file before after
      ⦃post⟨fun _ p => ⌜Busy p⌝, fun _ p => ⌜Busy p⌝⟩⦄ := by
  mvcgen [applyEdit, Stage.lift, hostStep]

/-- Starting the application from nothing held holds the process started, the one the
timeline's new start names; a failure before the start holds nothing still. -/
theorem startAndProbe_spec (c : Command) (i : Nat) :
    ⦃fun p => ⌜Idle p⌝⦄ o.startAndProbe c i
      ⦃post⟨fun _ p => ⌜Busy p⌝, fun _ p => ⌜Tracked p⌝⟩⦄ := by
  mvcgen [startAndProbe, hostStep, Stage.lift]
  all_goals simp_all +zetaDelta [Idle, Busy, Tracked, holdStep_other, holdStep_start, startMessage]

/-- Stopping the application lets the held process go, whether the port then closes or
not; a stop that fails keeps it held, the same process, for the cleanup. -/
theorem stopAndVerify_spec (i : Nat) :
    ⦃fun p => ⌜Busy p⌝⦄ o.stopAndVerify i ⦃post⟨fun _ p => ⌜Idle p⌝, fun _ p => ⌜Tracked p⌝⟩⦄ := by
  mvcgen [stopAndVerify]
  -- the failed stop stores the command it was given back, which `stopOn_pid` says is the
  -- process the timeline's start names
  case vc1 c hheld w' c' e hstop =>
    have hpid : c'.pid = c.pid :=
      (congrArg (fun r => r.2.1.pid) hstop).symm.trans (Supervisor.stop_pid _ _ c false)
    simp_all [Busy, Tracked, startMessage]
  all_goals simp_all +zetaDelta [Idle, Busy, Tracked, holdStep_stop]

/-- One start and stop: the application is started from nothing held and stopped before
the iteration ends. -/
theorem startStopIteration_spec (i buildMs : Nat) :
    ⦃fun p => ⌜Idle p⌝⦄ o.startStopIteration i buildMs
      ⦃post⟨fun _ p => ⌜Idle p⌝, fun _ p => ⌜Tracked p⌝⟩⦄ := by
  -- the caches are dropped and the command built with nothing held, so the start may store
  -- its process; the stop lets it go before the run's log is read
  mvcgen [startStopIteration, Stage.lift, dropCaches_spec, startAndProbe_spec,
    stopAndVerify_spec, validateRunLog_spec, record_spec]
  all_goals simp_all +zetaDelta [Idle, Busy, Tracked]

/-- The iterations, by induction on the list: each starts where the last left nothing held. -/
theorem runIterations_spec (buildMs : Nat) (l : List Nat) :
    ⦃fun p => ⌜Idle p⌝⦄ o.runIterations buildMs l
      ⦃post⟨fun _ p => ⌜Idle p⌝, fun _ p => ⌜Tracked p⌝⟩⦄ := by
  induction l with
  | nil => mvcgen [runIterations]
  | cons i rest ih =>
    mvcgen [runIterations, startStopIteration_spec, ih]

theorem startStopStages_spec :
    ⦃fun p => ⌜Idle p⌝⦄ o.startStopStages ⦃post⟨fun _ p => ⌜Idle p⌝, fun _ p => ⌜Tracked p⌝⟩⦄ := by
  -- the build step's name is neither a start nor a stop
  mvcgen [startStopStages, Stage.lift, prepare_spec, buildStep_spec, runIterations_spec,
    checkThresholds_spec]
  all_goals simp_all +zetaDelta [Idle, Tracked, buildSteps_quiet]

theorem devLoopStages_spec :
    ⦃fun p => ⌜Idle p⌝⦄ o.devLoopStages ⦃post⟨fun _ p => ⌜Idle p⌝, fun _ p => ⌜Tracked p⌝⟩⦄ := by
  -- the reload edit and the wait for its page run while the process is held
  mvcgen [devLoopStages, Stage.lift, prepare_spec, buildStep_spec, startAndProbe_spec,
    applyEdit_spec, stopAndVerify_spec, validateRunLog_spec, record_spec, checkThresholds_spec]
  all_goals simp_all +zetaDelta [Idle, Busy, Tracked, holdStep_other, buildSteps_quiet]

end Orchestrator

/-! ### Letting the process go -/

/-- The held process stopped with force, and nothing held after. -/
def Orchestrator.releaseHeld (o : Orchestrator) (p : Progress) : Progress :=
  match p.scenario.process with
  | some c => ⟨(o.supervisor.stop p.world c true).1, { p.scenario with process := none }⟩
  | none => p

theorem Orchestrator.archive_process (o : Orchestrator) (w : World) (s : Scenario) :
    (o.archive w s).2.1.process = s.process := by
  unfold archive
  split
  · rfl
  · dsimp only
    split <;> rfl

/-- The cleanup is stopping the held process with force, then cleaning up with nothing
held. -/
theorem Orchestrator.cleanup_releaseHeld (o : Orchestrator) (p : Progress)
    (f : Option ScenarioError) :
    o.cleanup p f = o.cleanup (o.releaseHeld p) f := by
  unfold releaseHeld
  split
  · next c h => simp only [cleanup, h]
  · rfl

theorem Orchestrator.cleanup_process (o : Orchestrator) (p : Progress) (f : Option ScenarioError) :
    (o.cleanup p f).scenario.process = none := by
  simp only [cleanup, archive_process]

/-- How a bounded run lets its command go, with what it returns: the command did not start;
or the wait saw its end and its status is returned; or the limit passed, at once for a limit of
zero, and it was stopped with force; or the wait failed, and only the command itself was killed,
through its handle, neither seen to end nor stopped with what it started. -/
inductive Supervisor.EndsBounded (sup : Supervisor) (w : World) (cmd : Command) (t : Nat) :
    World × Except SupervisorError ExitStatus → Prop
  | unstarted {e : SupervisorError} :
      (sup.start w cmd).2 = .error e → EndsBounded sup w cmd t ((sup.start w cmd).1, .error e)
  | ended {c : Child} {w' : World} {st : ExitStatus} :
      (sup.start w cmd).2 = .ok c → t ≠ 0 →
      sup.waitChild (sup.start w cmd).1 c.pid t = (w', .ok (some st)) →
      EndsBounded sup w cmd t (w', .ok st)
  | timedOut {c : Child} {w' : World} :
      (sup.start w cmd).2 = .ok c →
      (t = 0 ∧ w' = (sup.start w cmd).1 ∨
        sup.waitChild (sup.start w cmd).1 c.pid t = (w', .ok none)) →
      EndsBounded sup w cmd t ((sup.stop w' c true).1, .error (.timeout cmd.display (t / 1000)))
  | waitFailed {c : Child} {w' : World} {e : IoError} :
      (sup.start w cmd).2 = .ok c → t ≠ 0 →
      sup.waitChild (sup.start w cmd).1 c.pid t = (w', .error e) →
      EndsBounded sup w cmd t (sup.host.killHandle w' c.pid, .error (.io e))

theorem Supervisor.runBounded_ends (sup : Supervisor) (w : World) (cmd : Command) (t : Nat) :
    sup.EndsBounded w cmd t (sup.runBounded w cmd t) := by
  obtain ⟨⟨w₁, started⟩, hs⟩ : ∃ r, sup.start w cmd = r := ⟨_, rfl⟩
  have hw₁ : (sup.start w cmd).1 = w₁ := by rw [hs]
  unfold runBounded
  rw [hs]
  cases started with
  | error e => exact hw₁ ▸ .unstarted (by rw [hs])
  | ok c =>
    have hc : (sup.start w cmd).2 = .ok c := by rw [hs]
    dsimp only
    by_cases ht : t = 0
    · -- a limit of zero is reached at once
      simp only [ht, beq_self_eq_true, if_true]
      exact .timedOut hc (.inl ⟨rfl, hw₁.symm⟩)
    · -- otherwise the wait's answer decides
      simp only [beq_iff_eq, ht, if_false]
      rcases hwait : sup.waitChild w₁ c.pid t with ⟨w', e | _ | st⟩
      · exact .waitFailed hc ht (hw₁ ▸ hwait)
      · exact .timedOut hc (.inr (hw₁ ▸ hwait))
      · exact .ended hc ht (hw₁ ▸ hwait)

/-! ### Scenarios -/

/-- How a stage program leaves the application's process: on success nothing is held and
every start of the timeline is stopped; on failure the timeline's replay names the process
still held. -/
def Releases (stages : Stage Unit) (p : Progress) : Prop :=
  stages.EndsIn p (fun _ q => Idle q) Tracked

/-- What a scenario does with the application's process, run by `o` from the state `p`. -/
structure ReleasesProcess (o : Orchestrator) (p : Progress) : Prop where
  /-- The start and stop stages keep the timeline's replay in step with the process held. -/
  startStop : Releases o.startStopStages p
  /-- So does the development loop. -/
  devLoop : Releases o.devLoopStages p
  /-- The cleanup stops what is held with force, and holds nothing after. -/
  cleanup : ∀ q f, o.cleanup q f = o.cleanup (o.releaseHeld q) f ∧
    (o.cleanup q f).scenario.process = none
  /-- A bounded run sees its command end, or stops it with force, or returns the error of a
  wait that failed. -/
  bounded : ∀ w cmd t, o.supervisor.EndsBounded w cmd t (o.supervisor.runBounded w cmd t)
  /-- Every scenario made holds nothing and has every start of its timeline stopped. -/
  fresh : ∀ w app mode s, o.newScenario w app mode = .ok s → ∀ w', Idle ⟨w', s⟩

/-- Run from a state that holds nothing, a scenario's stages never store a process over one
still held, and let go of every process they start: by a graceful stop that the timeline
records, by a stop with force in a bounded run, or by the cleanup's stop with force of the
process still held, a graceful stop that failed included, after which nothing is held. The one
exception is a bounded run whose wait fails: it returns the wait's error, having killed only
the command itself. -/
theorem stages_release_process (o : Orchestrator) (p : Progress) (hp : Idle p) :
    ReleasesProcess o p where
  startStop := Stage.endsIn_of_spec o.startStopStages_spec hp
  devLoop := Stage.endsIn_of_spec o.devLoopStages_spec hp
  cleanup q f := ⟨o.cleanup_releaseHeld q f, o.cleanup_process q f⟩
  bounded := o.supervisor.runBounded_ends
  fresh _ _ _ _ h w' := newScenario_idle h w'

/-- A JVM scenario of an application on a fresh host, with an empty timeline. -/
theorem stages_release_process_fresh :
    Idle ⟨default, {
      app := ⟨"fake", "fake", [⟨"/", "Hello"⟩], [], none, [], false⟩, mode := .jvm,
      root := "fake-jvm", appDir := "fake-jvm/app", logsDir := "fake-jvm/logs",
      whitelist := ⟨.linux, [], [], []⟩, thresholds := .empty, commands := ⟨.linux, {}, .empty, .empty⟩,
      report := Report.new "fake" .jvm .linux default, process := none }⟩ ∧
    ReleasesProcess ⟨Settings.atHome none, .linux, .down, [], [], World.waitChild⟩ ⟨default, {
      app := ⟨"fake", "fake", [⟨"/", "Hello"⟩], [], none, [], false⟩, mode := .jvm,
      root := "fake-jvm", appDir := "fake-jvm/app", logsDir := "fake-jvm/logs",
      whitelist := ⟨.linux, [], [], []⟩, thresholds := .empty, commands := ⟨.linux, {}, .empty, .empty⟩,
      report := Report.new "fake" .jvm .linux default, process := none }⟩ :=
  ⟨⟨rfl, rfl⟩, stages_release_process _ _ ⟨rfl, rfl⟩⟩

end LaunchBench
