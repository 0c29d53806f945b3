import LaunchBench.Platform
/-!
Measurements of one run.

A measurement records, for one start and stop cycle or one development
loop, the application and mode and up to seven numbers: build time, time to
the first successful request, reload time, start and stop times reported by
the application, resident memory and open file descriptors. It is shown as a
CSV or Markdown header and row holding only the fields that are set, always
in the same column order.

Numbers enter through a builder that refuses zero and negative values, with
one exception: on Windows a stop time that is not positive is left unset,
because Windows does not always report one.

The trimmed mean of a series drops one smallest and one largest value once
there are at least three, and divides the sum of the rest by their count,
rounding toward zero; the sum is taken in 64-bit arithmetic and fails when
it overflows.
-/

namespace LaunchBench

/-- The numeric fields of a measurement. -/
inductive Metric where
  | buildTime
  | timeToFirstOkRequest
  | timeToReload
  | startedIn
  | stoppedIn
  | rss
  | openFds
  deriving DecidableEq, Repr

namespace Metric

/-- All numeric fields, in column order. -/
def all : List Metric :=
  [buildTime, timeToFirstOkRequest, timeToReload, startedIn, stoppedIn, rss, openFds]

/-- The field's column name. -/
def column : Metric → String
  | buildTime => "buildTimeMs"
  | timeToFirstOkRequest => "timeToFirstOKRequestMs"
  | timeToReload => "timeToReloadMs"
  | startedIn => "startedInMs"
  | stoppedIn => "stoppedInMs"
  | rss => "RSSKb"
  | openFds => "FDs"

end Metric

/-- One measurement; unset fields are not shown. -/
structure Measurement where
  app : Option String := none
  mode : Option Mode := none
  buildTimeMs : Option Int := none
  timeToFirstOkRequestMs : Option Int := none
  timeToReloadMs : Option Int := none
  startedInMs : Option Int := none
  stoppedInMs : Option Int := none
  rssKb : Option Int := none
  openFds : Option Int := none
  deriving DecidableEq, Repr, Inhabited

namespace Measurement

/-- The value of a numeric field. -/
def get (m : Measurement) : Metric → Option Int
  | .buildTime => m.buildTimeMs
  | .timeToFirstOkRequest => m.timeToFirstOkRequestMs
  | .timeToReload => m.timeToReloadMs
  | .startedIn => m.startedInMs
  | .stoppedIn => m.stoppedInMs
  | .rss => m.rssKb
  | .openFds => m.openFds

/-- Sets a numeric field. -/
def set (m : Measurement) (k : Metric) (v : Int) : Measurement :=
  match k with
  | .buildTime => { m with buildTimeMs := some v }
  | .timeToFirstOkRequest => { m with timeToFirstOkRequestMs := some v }
  | .timeToReload => { m with timeToReloadMs := some v }
  | .startedIn => { m with startedInMs := some v }
  | .stoppedIn => { m with stoppedInMs := some v }
  | .rss => { m with rssKb := some v }
  | .openFds => { m with openFds := some v }

/-- The set fields as (column, value) pairs, in column order. -/
def cells (m : Measurement) : List (String × String) :=
  (m.app.map fun a => ("App", a)).toList ++ (m.mode.map fun md => ("Mode", md.name)).toList ++
    Metric.all.filterMap fun k => (m.get k).map fun v => (k.column, toString v)

def headerCsv (m : Measurement) : String := ",".intercalate (m.cells.map Prod.fst)
def lineCsv (m : Measurement) : String := ",".intercalate (m.cells.map Prod.snd)
def headerMarkdown (m : Measurement) : String := "|" ++ "|".intercalate (m.cells.map Prod.fst) ++ "|"
def dividerMarkdown (m : Measurement) : String :=
  "|" ++ "|".intercalate (m.cells.map fun _ => "---") ++ "|"
def lineMarkdown (m : Measurement) : String := "|" ++ "|".intercalate (m.cells.map Prod.snd) ++ "|"

theorem get_set_self (m : Measurement) (k : Metric) (v : Int) : (m.set k v).get k = some v := by
  cases k <;> rfl

end Measurement

/-- A value refused by the measurement builder. -/
structure NonPositive where
  field : String
  value : Int
  deriving DecidableEq, Repr

/-- The refusal's text. -/
def NonPositive.message (e : NonPositive) : String :=
  e.field ++ " must be a positive integer, got " ++ toString e.value

/-- Builds a measurement, refusing values that are not positive. -/
structure MeasurementBuilder where
  os : OsFamily
  record : Measurement := {}
  deriving Repr

namespace MeasurementBuilder

def new (os : OsFamily) : MeasurementBuilder := { os }

def app (b : MeasurementBuilder) (a : String) : MeasurementBuilder :=
  { b with record := { b.record with app := some a } }

def mode (b : MeasurementBuilder) (m : Mode) : MeasurementBuilder :=
  { b with record := { b.record with mode := some m } }

/-- Sets a numeric field; a value that is not positive is refused, except a stop time on
Windows, which is then left unset. -/
def put (b : MeasurementBuilder) (k : Metric) (v : Int) : Except NonPositive MeasurementBuilder :=
  if v ≤ 0 then
    if k = .stoppedIn && b.os.isWindows then .ok b
    else .error ⟨k.column, v⟩
  else .ok { b with record := b.record.set k v }

end MeasurementBuilder

/-- A sum of 64-bit numbers that left the 64-bit range. -/
structure AdditionOverflow where
  deriving DecidableEq, Repr

/-- Adds numbers from left to right in 64-bit signed arithmetic, failing at the first
partial sum outside its range. -/
def sum64 : Int → List Int → Except AdditionOverflow Int
  | acc, [] => .ok acc
  | acc, x :: xs =>
    let s := acc + x
    if s < -Int.pow 2 63 || s ≥ Int.pow 2 63 then .error {} else sum64 s xs

/-- The values kept for a trimmed mean: sorted, without one smallest and one largest
when there are at least three. -/
def trimmedValues (values : List Int) : List Int :=
  let sorted := values.mergeSort fun a b => decide (a ≤ b)
  if sorted.length ≥ 3 then (sorted.drop 1).dropLast else sorted

/-- The trimmed mean of a series: `none` for no values. -/
def trimmedMean (values : List Int) : Except AdditionOverflow (Option Int) :=
  if values.isEmpty then .ok none
  else
    let kept := trimmedValues values
    (sum64 0 kept).map fun s => some (s.tdiv kept.length)

end LaunchBench
