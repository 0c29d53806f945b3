import Mathlib
import LaunchBench.Scenario.Workspace
/-!
Hoare triples for stages.

A stage changes the host and the scenario and may fail, keeping what it changed; `Std.Do`
gives such computations triples `⦃P⦄ m ⦃post⟨ok, err⟩⦄`, where `ok` holds of the value and
the final state of a run that succeeds and `err` of the state a failure leaves. The stage
primitives get their triples here in the form `mvcgen` uses, the weakest precondition of an
arbitrary postcondition, so that the triple of a stage written with them is generated from
its code.

* **`Stage.endsIn_of_spec`**: a triple read on a run: from a state meeting the precondition,
  the run ends as the postconditions say.
-/

namespace LaunchBench

open Host Std.Do

set_option mvcgen.warning false

@[spec] theorem Stage.world_spec
    (Q : PostCond World (.except ScenarioError (.arg Progress .pure))) :
    ⦃fun p => Q.1 p.world p⦄ Stage.world ⦃Q⦄ := by
  mvcgen [Stage.world]

@[spec] theorem Stage.scenario_spec
    (Q : PostCond Scenario (.except ScenarioError (.arg Progress .pure))) :
    ⦃fun p => Q.1 p.scenario p⦄ Stage.scenario ⦃Q⦄ := by
  mvcgen [Stage.scenario]

@[spec] theorem Stage.setWorld_spec (w : World)
    (Q : PostCond Unit (.except ScenarioError (.arg Progress .pure))) :
    ⦃fun p => Q.1 () { p with world := w }⦄ Stage.setWorld w ⦃Q⦄ := by
  mvcgen [Stage.setWorld]

@[spec] theorem Stage.updateScenario_spec (f : Scenario → Scenario)
    (Q : PostCond Unit (.except ScenarioError (.arg Progress .pure))) :
    ⦃fun p => Q.1 () { p with scenario := f p.scenario }⦄ Stage.updateScenario f ⦃Q⦄ := by
  mvcgen [Stage.updateScenario]

@[spec] theorem Stage.updateReport_spec (f : Report → Report)
    (Q : PostCond Unit (.except ScenarioError (.arg Progress .pure))) :
    ⦃fun p => Q.1 () { p with scenario := { p.scenario with report := f p.scenario.report } }⦄
      Stage.updateReport f ⦃Q⦄ := by
  mvcgen [Stage.updateReport]

@[spec] theorem Stage.addStep_spec (kind iteration : String) (duration : Option Nat)
    (message : String) (Q : PostCond Unit (.except ScenarioError (.arg Progress .pure))) :
    ⦃fun p => Q.1 () { p with scenario := { p.scenario with
      report := p.scenario.report.addStep ⟨p.world.now, kind, iteration, duration, message⟩ } }⦄
      Stage.addStep kind iteration duration message ⦃Q⦄ := by
  mvcgen [Stage.addStep]

@[spec] theorem Stage.addCommand_spec (c : String)
    (Q : PostCond Unit (.except ScenarioError (.arg Progress .pure))) :
    ⦃fun p => Q.1 () { p with scenario := { p.scenario with
      report := p.scenario.report.addCommand c } }⦄ Stage.addCommand c ⦃Q⦄ := by
  mvcgen [Stage.addCommand]

@[simp] theorem Report.addStep_steps (r : Report) (st : Step) :
    (r.addStep st).steps = r.steps ++ [st] := rfl

@[simp] theorem Report.addCommand_steps (r : Report) (c : String) :
    (r.addCommand c).steps = r.steps := rfl

/-- How a run of a stage ends: `ok` holds of its value and final state, or `err` of the
state a failure leaves. -/
def Stage.EndsIn {α : Type} (m : Stage α) (p : Progress) (ok : α → Progress → Prop)
    (err : Progress → Prop) : Prop :=
  match m.run p with
  | .ok a q => ok a q
  | .error _ q => err q

/-- A stage's triple, read on a run: from a state meeting the precondition, the run ends as
the postconditions say. -/
theorem Stage.endsIn_of_spec {α : Type} {m : Stage α} {P : Progress → Prop}
    {Q : α → Progress → Prop} {E : Progress → Prop}
    (h : ⦃fun p => ⌜P p⌝⦄ m ⦃post⟨fun a p => ⌜Q a p⌝, fun _ p => ⌜E p⌝⟩⦄)
    {p : Progress} (hp : P p) : m.EndsIn p Q E := by
  refine EStateM.of_wp_run_eq (x := m.run p) rfl
    (fun r => match r with | .ok a q => Q a q | .error _ q => E q) ?_
  exact fun _ => h p hp

end LaunchBench
