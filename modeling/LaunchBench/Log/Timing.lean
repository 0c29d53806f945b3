import LaunchBench.Decimal.Shortest
import LaunchBench.Text.Lines
/-!
Start and stop times in logs.

An application reports how long it took to start and to stop, as
`started in 1.234s` or, in coloured output, as `started in` followed later on
the line by the colour code `188m` and the number. A line is searched for the
plain form first and for the coloured form second; of several mentions on a
line, the leftmost that reads wins. The first line that reports a start
gives the start time, and likewise for the stop time.

Times are kept as binary64 numbers of seconds, rounded from the decimal
text, and turned into whole milliseconds by multiplying by 1000 in binary64
and rounding half away from zero.
-/

namespace LaunchBench

open Decimal

/-- A number at the start of a text: ASCII digits, then optionally a point and more
digits. Gives the digits before and after the point and the rest of the text. -/
def readSeconds (cs : List Char) : Option (List Char × List Char × List Char) :=
  let whole := cs.takeWhile Char.isDigit
  if whole.isEmpty then none
  else
    let rest := cs.dropWhile Char.isDigit
    match rest with
    | '.' :: more =>
      let frac := more.takeWhile Char.isDigit
      if frac.isEmpty then some (whole, [], rest) else some (whole, frac, more.dropWhile Char.isDigit)
    | _ => some (whole, [], rest)

/-- The binary64 number nearest a decimal written as whole and fractional digits. -/
def secondsValue (whole frac : List Char) : Binary64 :=
  Binary64.ofDecimal ((whole ++ frac).foldl (fun n c => 10 * n + (c.toNat - 48)) 0) frac.length

/-- The plain form at the start of a text: the key, a number, then `s`. -/
def plainSecondsAt (key : List Char) (t : List Char) : Option Binary64 :=
  if key.isPrefixOf t then
    match readSeconds (t.drop key.length) with
    | some (w, f, 's' :: _) => some (secondsValue w f)
    | _ => none
  else none

/-- The plain form: the key, a number, then `s`, where it first occurs. -/
def plainSeconds (key : List Char) (line : List Char) : Option Binary64 :=
  (Text.suffixes line).findSome? (plainSecondsAt key)

/-- A number after the colour code `188m`, at the start of a text. -/
def markedSecondsAt (u : List Char) : Option Binary64 :=
  if "188m".toList.isPrefixOf u then
    (readSeconds (u.drop 4)).map fun (w, f, _) => secondsValue w f
  else none

/-- The coloured form at the start of a text: the key, then the first `188m` followed by
a number. -/
def colouredSecondsAt (key : List Char) (t : List Char) : Option Binary64 :=
  if key.isPrefixOf t then (Text.suffixes (t.drop key.length)).findSome? markedSecondsAt
  else none

/-- The coloured form: the key, then the first `188m` followed by a number, where the key
first occurs with one. -/
def colouredSeconds (key : List Char) (line : List Char) : Option Binary64 :=
  (Text.suffixes line).findSome? (colouredSecondsAt key)

/-- The time a line reports after a key, in the plain form or else the coloured form. -/
def reportedSeconds (key : String) (line : String) : Option Binary64 :=
  match plainSeconds key.toList line.toList with
  | some v => some v
  | none => colouredSeconds key.toList line.toList

/-- The start and stop times a log reports, in seconds. -/
structure StartStop where
  startedS : Option Binary64 := none
  stoppedS : Option Binary64 := none
  deriving DecidableEq, Repr

/-- Whole milliseconds of a binary64 number of seconds: times 1000, rounded half away from
zero, clamped to the 64-bit signed range; -1 when there is no time. -/
def millisOf : Option Binary64 → Int
  | none => -1
  | some x =>
    let y := x.scale 1000
    let maxI64 : Int := Int.pow 2 63 - 1
    match y.decode with
    | .nan => 0
    | .infinite neg => if neg then -Int.pow 2 63 else maxI64
    | .finite neg m q _ =>
      let mag : Nat :=
        if q ≥ 0 then m * Nat.pow 2 q.toNat
        else
          let d := Nat.pow 2 q.natAbs
          m / d + (if 2 * (m % d) ≥ d then 1 else 0)
      let v : Int := if neg then -(mag : Int) else mag
      max (-Int.pow 2 63) (min maxI64 v)

namespace StartStop

def startedMs (t : StartStop) : Int := millisOf t.startedS
def stoppedMs (t : StartStop) : Int := millisOf t.stoppedS

/-- Takes the times of one more line, keeping those already found. -/
def addLine (t : StartStop) (line : String) : StartStop :=
  { startedS := t.startedS <|> reportedSeconds "started in " line
    stoppedS := t.stoppedS <|> reportedSeconds "stopped in " line }

end StartStop

/-- The first start and stop times a log reports. -/
def parseStartStop (content : String) : StartStop :=
  (Text.lines content).foldl StartStop.addLine {}

end LaunchBench
