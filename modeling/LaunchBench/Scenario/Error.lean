import LaunchBench.Supervisor
import LaunchBench.Probe.Prober
import LaunchBench.Log.File
import LaunchBench.Whitelist
import LaunchBench.Measurement
import LaunchBench.Threshold
import LaunchBench.App.Registry
/-!
Why a scenario failed.

A scenario fails with the first error of any stage: a failed operation on
the host, a command that could not be built, started or finished, a probe
that timed out, a log with offending lines, a bad whitelist, budget or
measurement, or one of the scenario's own checks: a build step that did not
succeed, a port still open after the stop, a reload edit whose text was not
found, sources that are missing, a mode the scenario does not run, or an
application with no page to probe.

Each error has a kind, and the errors that wrap another also name the kind of
the one inside, its cause.

* **`cause_of_missingSources`**: the scenario's own checks have no cause.
-/

namespace LaunchBench

open Host

/-- The kind of a command error. -/
def CommandError.kind : CommandError → String
  | .empty _ => "Empty"
  | .unresolvedPlaceholder .. => "UnresolvedPlaceholder"
  | .unterminated _ => "Unterminated"
  | .noTemplateForMode .. => "NoTemplateForMode"

/-- The kind of a threshold error. -/
def ThresholdError.kind : ThresholdError → String
  | .unreadable _ => "Read"
  | .invalidLine _ => "InvalidLine"
  | .invalidValue .. => "InvalidValue"
  | .missing _ => "Missing"
  | .exceeded _ => "Exceeded"

/-- The name a mode has as a kind. -/
def Mode.kindName : Mode → String
  | .jvm => "Jvm"
  | .native => "Native"
  | .dev => "Dev"
  | .generator => "Generator"

/-- Why a scenario failed. -/
inductive ScenarioError where
  /-- The host refused an operation. -/
  | io (e : IoError)
  /-- A command could not be built. -/
  | command (e : CommandError)
  /-- A command could not be started or did not finish. -/
  | supervisor (e : SupervisorError)
  /-- A page was not served in time. -/
  | probe (e : Probe.ProbeError)
  /-- A log failed its checks. -/
  | log (e : LogError)
  /-- A whitelist pattern is not valid. -/
  | whitelist (e : WhitelistError)
  /-- A measurement value was refused. -/
  | measurement (e : NonPositive)
  /-- A budget was exceeded or missing. -/
  | threshold (e : ThresholdError)
  /-- The application's description or budgets could not be read. -/
  | apps (e : App.RegistryError)
  /-- A build step ended without success: its name, exit code and log. -/
  | stepFailed (step : String) (code : Option Nat) (log : HostPath)
  /-- The port still accepted connections after the stop. -/
  | portStillOpen (host : String) (port : Nat) (seconds : Nat)
  /-- The reload edit's text was not in its file. -/
  | editNotApplied (file : HostPath) (before : String)
  /-- The application's sources are not there. -/
  | missingSources (path : HostPath)
  /-- The scenario does not run the mode. -/
  | unsupportedMode (mode : Mode)
  /-- The application declares no page to probe. -/
  | noReadinessUrl (app : String)
  /-- A sum of measurements left the 64-bit range. -/
  | overflow

namespace ScenarioError

/-- An optional exit code as the runtime shows it. -/
def showCode : Option Nat → String
  | some c => "Some(" ++ toString c ++ ")"
  | none => "None"

/-- The error's text. -/
def message : ScenarioError → String
  | .io e => "io error: " ++ e.message
  | .command e => e.message
  | .supervisor e => e.message
  | .probe e => e.message
  | .log e => e.message
  | .whitelist e => e.message
  | .measurement e => e.message
  | .threshold e => e.message
  | .apps e => e.message
  | .stepFailed step code path => step ++ " failed with exit code " ++ showCode code ++ "; see " ++ path
  | .portStillOpen host port s =>
    host ++ ":" ++ toString port ++ " still accepting connections " ++ toString s ++ "s after stop"
  | .editNotApplied file before =>
    "reload edit not applied: " ++ Text.quote before ++ " not found in " ++ file
  | .missingSources p => "application sources not found: " ++ p
  | .unsupportedMode m => "mode " ++ m.name ++ " is not supported by this scenario"
  | .noReadinessUrl a => "application " ++ a ++ " declares no probe URL"
  | .overflow => "attempt to add with overflow"

/-- The error's kind. -/
def kind : ScenarioError → String
  | .io _ => "Io"
  | .command _ => "Command"
  | .supervisor _ => "Supervisor"
  | .probe _ => "Probe"
  | .log _ => "Log"
  | .whitelist _ => "Whitelist"
  | .measurement _ => "Measurement"
  | .threshold _ => "Threshold"
  | .apps _ => "Apps"
  | .stepFailed .. => "StepFailed"
  | .portStillOpen .. => "PortStillOpen"
  | .editNotApplied .. => "ReloadEditNotApplied"
  | .missingSources _ => "MissingSources"
  | .unsupportedMode _ => "UnsupportedMode"
  | .noReadinessUrl _ => "NoReadinessUrl"
  | .overflow => "panic"

/-- The kind of the error inside, for the errors that wrap one. -/
def cause? : ScenarioError → Option String
  | .io e => some e.causeName
  | .command e => some e.kind
  | .supervisor e => some e.kind
  | .probe _ => some "Timeout"
  | .log e => some e.kind
  | .whitelist _ => some "InvalidPattern"
  | .measurement _ => some "NonPositive"
  | .threshold e => some e.kind
  | .apps e => some e.kind
  | .unsupportedMode m => some m.kindName
  | _ => none

theorem cause_of_missingSources (p : HostPath) : (missingSources p).cause? = none := rfl

end ScenarioError

end LaunchBench
