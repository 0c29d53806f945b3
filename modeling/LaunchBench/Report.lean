import LaunchBench.Clock.Timestamp
import LaunchBench.Measurement
import LaunchBench.Text.Json
/-!
Scenario reports.

A report is filled in while a scenario runs: the commands as run, a timeline
of steps, the measurements, the trimmed means and, after cleanup, where the
logs were archived. Finishing it stamps the end and sets the outcome: passed
without an error, failed with one.

It is written twice: as text for people (`Report.render`), where each step
is one line of fixed-width columns and line breaks in step messages become
spaces, and as JSON (`Report.toJson`), with timestamps in RFC 3339 with `Z`,
where the measurements are left out.
-/

namespace LaunchBench

open LaunchBench.Clock LaunchBench.Text

/-- One entry of a scenario's timeline. -/
structure Step where
  /-- When it happened. -/
  timestamp : Timestamp
  /-- What happened: `BUILD`, `START`, `READY`, `STOP`, ... -/
  kind : String
  /-- The iteration, empty for steps of the whole scenario. -/
  iteration : String
  /-- How long it took, when timed. -/
  durationMs : Option Nat
  /-- Free text. -/
  message : String
deriving Repr

namespace Step

/-- A new step of a kind, at an instant. -/
def new (kind : String) (now : Timestamp) : Step := ⟨now, kind, "", none, ""⟩

/-- Pads a text with spaces on the right to `width` characters. -/
def padRight (width : Nat) (s : String) : String :=
  s ++ String.ofList (List.replicate (width - s.length) ' ')

/-- Pads a text with spaces on the left to `width` characters. -/
def padLeft (width : Nat) (s : String) : String :=
  String.ofList (List.replicate (width - s.length) ' ') ++ s

/-- A message on one line: tabs, line feeds and carriage returns become spaces. -/
def oneLine (s : String) : String :=
  s.map fun c => if c == '\t' || c == '\n' || c == '\r' then ' ' else c

/-- The step as a line of the timeline. -/
def line (s : Step) : String :=
  let duration := match s.durationMs with | some d => toString d ++ "ms" | none => ""
  s.timestamp.clockMillis ++ "  " ++ padRight 10 s.kind ++ " " ++ padLeft 4 s.iteration ++ " " ++
    padLeft 9 duration ++ "  " ++ oneLine s.message

/-- The step as JSON. -/
def toJson (s : Step) : JsonValue :=
  .obj [("timestamp", .str s.timestamp.rfc3339Z), ("kind", .str s.kind),
    ("iteration", .str s.iteration), ("duration_ms", .ofOption (fun d => .num d) s.durationMs),
    ("message", .str s.message)]

end Step

/-- How a scenario ended, or that it has not yet. -/
inductive Outcome where
  | running
  | passed
  | failed
deriving Repr, DecidableEq

namespace Outcome

/-- The outcome as shown in text. -/
def label : Outcome → String
  | running => "RUNNING"
  | passed => "PASSED"
  | failed => "FAILED"

/-- The outcome as written in JSON. -/
def jsonName : Outcome → String
  | running => "running"
  | passed => "passed"
  | failed => "failed"

end Outcome

/-- Everything needed to tell what a scenario did. -/
structure Report where
  /-- The application. -/
  app : String
  /-- The mode. -/
  mode : Mode
  /-- The host's family. -/
  os : OsFamily
  /-- When the scenario started. -/
  startedAt : Timestamp
  /-- When it finished. -/
  finishedAt : Option Timestamp
  /-- How it ended. -/
  outcome : Outcome
  /-- The error that ended it. -/
  error : Option String
  /-- Commands as run. -/
  commands : List String
  /-- The timeline. -/
  steps : List Step
  /-- The measurements. -/
  measurements : List Measurement
  /-- Trimmed mean of the resident memory. -/
  trimmedRssKb : Option Int
  /-- Trimmed mean of the time to the first good answer. -/
  trimmedFirstRequestMs : Option Int
  /-- Where the logs went. -/
  archive : Option String

namespace Report

/-- A report of a scenario that has just started. -/
def new (app : String) (mode : Mode) (os : OsFamily) (now : Timestamp) : Report :=
  ⟨app, mode, os, now, none, .running, none, [], [], [], none, none, none⟩

/-- Adds a step at the end of the timeline. -/
def addStep (r : Report) (s : Step) : Report := { r with steps := r.steps ++ [s] }

/-- Adds a command. -/
def addCommand (r : Report) (c : String) : Report := { r with commands := r.commands ++ [c] }

/-- Finishes the report at `now`: failed with an error, passed without. -/
def finish (r : Report) (error : Option String) (now : Timestamp) : Report :=
  { r with finishedAt := some now, outcome := if error.isSome then .failed else .passed, error }

/-- The report as text. -/
def render (r : Report) : String :=
  let head := "Scenario: " ++ r.app ++ " (" ++ r.mode.name ++ ") on " ++ r.os.name ++ "\n" ++
    "Started:  " ++ r.startedAt.rfc3339 ++ "\n" ++
    (match r.finishedAt with | some f => "Finished: " ++ f.rfc3339 ++ "\n" | none => "") ++
    "Outcome:  " ++ r.outcome.label ++ "\n" ++
    (match r.error with | some e => "\nFailure:\n" ++ e ++ "\n" | none => "")
  let commands := if r.commands.isEmpty then ""
    else "\nCommands:\n" ++ String.join (r.commands.map fun c => "  " ++ c ++ "\n")
  let steps := if r.steps.isEmpty then ""
    else "\nTimeline:\n" ++ String.join (r.steps.map fun s => "  " ++ s.line ++ "\n")
  let measurements := match r.measurements.head? with
    | none => ""
    | some first =>
      "\nMeasurements:\n" ++ first.headerMarkdown ++ "\n" ++ first.dividerMarkdown ++ "\n" ++
        String.join (r.measurements.map fun m => m.lineMarkdown ++ "\n")
  let means := if r.trimmedRssKb.isNone && r.trimmedFirstRequestMs.isNone then ""
    else "\nTrimmed means:\n" ++
      (match r.trimmedRssKb with | some v => "  RSSKb: " ++ toString v ++ "\n" | none => "") ++
      (match r.trimmedFirstRequestMs with
        | some v => "  timeToFirstOKRequestMs: " ++ toString v ++ "\n" | none => "")
  head ++ commands ++ steps ++ measurements ++ means

/-- The report as JSON; measurements are left out. -/
def toJson (r : Report) : JsonValue :=
  .obj [("app", .str r.app), ("mode", .str r.mode.name), ("os", .str r.os.summaryName),
    ("started_at", .str r.startedAt.rfc3339Z),
    ("finished_at", .ofOption (fun t => .str t.rfc3339Z) r.finishedAt),
    ("outcome", .str r.outcome.jsonName), ("error", .ofOption .str r.error),
    ("commands", .arr (r.commands.map .str)), ("steps", .arr (r.steps.map Step.toJson)),
    ("trimmed_rss_kb", .ofOption .num r.trimmedRssKb),
    ("trimmed_time_to_first_ok_request_ms", .ofOption .num r.trimmedFirstRequestMs),
    ("archive", .ofOption .str r.archive)]

end Report

end LaunchBench
