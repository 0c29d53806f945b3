import LaunchBench.Platform
import LaunchBench.Host.Errno
import LaunchBench.KeyMap
import LaunchBench.Text.Blank
import LaunchBench.Text.Lines
import LaunchBench.Text.Numeral
import LaunchBench.Text.UpperCase
/-!
Performance budgets.

An application may set budgets for its resident memory, its time to the
first successful request and its reload time, per host family and mode,
under keys such as `linux.jvm.RSS.threshold.kB`. Budgets are read from
`key = value` lines (blank lines and `#` comments skipped, the last value of
a key winning), and each can be overridden by an environment variable named
after its key: upper case, with `.` and `-` turned into `_`.

Checking observed values looks at the three metrics in order, skips those
not observed, fails on the first observed metric without a budget, and
otherwise reports every value above its budget.
-/

namespace LaunchBench

/-- The budget key of resident memory. -/
def rssKey (os : OsFamily) (m : Mode) : String :=
  os.name ++ "." ++ m.name ++ ".RSS.threshold.kB"

/-- The budget key of the time to the first successful request. -/
def firstRequestKey (os : OsFamily) (m : Mode) : String :=
  os.name ++ "." ++ m.name ++ ".time.to.first.ok.request.threshold.ms"

/-- The budget key of the reload time. -/
def reloadKey (os : OsFamily) (m : Mode) : String :=
  os.name ++ "." ++ m.name ++ ".time.to.reload.threshold.ms"

/-- The environment variable that overrides a budget. -/
def envName (key : String) : String :=
  String.ofList ((Text.toUpperFull key).toList.map fun c => if c = '.' || c = '-' then '_' else c)

/-- A value observed above its budget. -/
structure Violation where
  key : String
  observed : Nat
  threshold : Nat
  deriving DecidableEq, Repr

/-- Why budgets could not be read or were not met. -/
inductive ThresholdError where
  /-- The budget file could not be read; the reason is the system's text. -/
  | unreadable (reason : Host.IoError)
  | invalidLine (line : String)
  | invalidValue (key value : String)
  /-- An observed metric without a budget. -/
  | missing (key : String)
  | exceeded (violations : List Violation)
  deriving DecidableEq, Repr

namespace ThresholdError

def message : ThresholdError → String
  | unreadable r => "failed to read thresholds: " ++ r.message
  | invalidLine l => "invalid threshold line: " ++ l
  | invalidValue k v => "invalid threshold value for " ++ k ++ ": " ++ v
  | missing k => "no threshold configured for " ++ k
  | exceeded vs => "threshold exceeded:" ++ String.join (vs.map fun v =>
      "\n  " ++ v.key ++ ": observed " ++ toString v.observed ++ " exceeds threshold " ++
        toString v.threshold)

end ThresholdError

/-- The values observed in a run; `none` skips a metric. -/
structure Observed where
  rssKb : Option Nat := none
  timeToFirstOkRequestMs : Option Nat := none
  timeToReloadMs : Option Nat := none
  deriving DecidableEq, Repr

/-- The observed values with their budget keys, in the order they are checked: resident
memory, time to the first successful request, reload time. -/
def Observed.metrics (o : Observed) (os : OsFamily) (m : Mode) : List (String × Option Nat) :=
  [(rssKey os m, o.rssKb), (firstRequestKey os m, o.timeToFirstOkRequestMs),
    (reloadKey os m, o.timeToReloadMs)]

/-- The budgets of one application. -/
abbrev ThresholdSet := KeyMap Nat

namespace ThresholdSet

/-- Reads a budget value: trimmed, an unsigned 64-bit numeral. -/
def readValue (key value : String) : Except ThresholdError Nat :=
  let v := Text.trimBlank value
  match Text.readWord? 64 v with
  | some n => .ok n
  | none => .error (.invalidValue key v)

/-- Adds the budgets of some lines to a set. -/
def addLines (acc : ThresholdSet) : List String → Except ThresholdError ThresholdSet
  | [] => .ok acc
  | line :: rest =>
    let trimmed := Text.trimChars line.toList
    if trimmed.isEmpty || trimmed.head? = some '#' then addLines acc rest
    else
      match trimmed.idxOf? '=' with
      | none => .error (.invalidLine line)
      | some i =>
        let key := String.ofList (Text.trimChars (trimmed.take i))
        match readValue key (String.ofList (trimmed.drop (i + 1))) with
        | .error e => .error e
        | .ok v => addLines (KeyMap.insert acc key v) rest

/-- Reads budgets from the text of a budget file. -/
def parse (content : String) : Except ThresholdError ThresholdSet :=
  addLines .empty (Text.lines content)

/-- Overrides budgets from the environment, visiting keys in order. -/
def withEnv (t : ThresholdSet) (lookup : String → Option String) :
    Except ThresholdError ThresholdSet :=
  t.toList.foldlM (fun acc (k, _) =>
    match lookup (envName k) with
    | none => .ok acc
    | some raw => (readValue k raw).map fun v => KeyMap.insert acc k v) t

/-- Checks one metric, given the violations found before it: a metric not observed is
skipped, one without a budget stops the check, and one above its budget is a violation. -/
def checkMetric (t : ThresholdSet) (acc : List Violation) :
    String × Option Nat → Except ThresholdError (List Violation)
  | (_, none) => .ok acc
  | (key, some observed) =>
    match KeyMap.get? t key with
    | none => .error (.missing key)
    | some threshold =>
      .ok (if observed > threshold then acc ++ [⟨key, observed, threshold⟩] else acc)

/-- Checks observed values against the budgets of a host family and mode. -/
def check (t : ThresholdSet) (os : OsFamily) (m : Mode) (o : Observed) :
    Except ThresholdError Unit := do
  let violations ← (o.metrics os m).foldlM t.checkMetric []
  if violations.isEmpty then return () else throw (.exceeded violations)

end ThresholdSet

end LaunchBench
