/-!
Instants of UTC time, as read from and written in RFC 3339 text.

An instant is a calendar day, a second of that day and a fraction of a
second in nanoseconds. A fraction of a full second or more marks a leap
second: the second is then written as `60`. Reading accepts `T`, `t` or a
space between date and time, any number of fraction digits (the first nine
count), and an offset `Z`, `z` or `±HH:MM` below a day, which is taken off to
give UTC; a leap second keeps its fraction through that shift.

* **`daysOfCivil`** and **`civilOfDays`** convert between calendar dates and
  days since 1970-01-01 in the proleptic Gregorian calendar.
-/

namespace LaunchBench.Clock

/-- Whether a year has 29 February. -/
def isLeapYear (y : Int) : Bool := y % 4 == 0 && (y % 100 != 0 || y % 400 == 0)

/-- The days of a month of a year. -/
def monthLength (y : Int) (m : Nat) : Nat :=
  match m with
  | 2 => if isLeapYear y then 29 else 28
  | 4 | 6 | 9 | 11 => 30
  | _ => 31

/-- Days from 1970-01-01 to a date (negative before it). -/
def daysOfCivil (y : Int) (m d : Nat) : Int :=
  let y := if m ≤ 2 then y - 1 else y
  -- division by a positive number rounds down, so eras start at multiples of 400
  let era := y / 400
  let yoe := y - era * 400
  let mp : Int := if m > 2 then (m : Int) - 3 else (m : Int) + 9
  let doy := (153 * mp + 2) / 5 + (d : Int) - 1
  let doe := yoe * 365 + yoe / 4 - yoe / 100 + doy
  era * 146097 + doe - 719468

/-- The date of a day counted from 1970-01-01. -/
def civilOfDays (z : Int) : Int × Nat × Nat :=
  let z := z + 719468
  let era := z / 146097
  let doe := z - era * 146097
  let yoe := (doe - doe / 1460 + doe / 36524 - doe / 146096) / 365
  let y := yoe + era * 400
  let doy := doe - (365 * yoe + yoe / 4 - yoe / 100)
  let mp := (5 * doy + 2) / 153
  let d := doy - (153 * mp + 2) / 5 + 1
  let m := if mp < 10 then mp + 3 else mp - 9
  ((if m ≤ 2 then y + 1 else y), m.toNat, d.toNat)

/-- An instant in UTC. -/
structure Timestamp where
  /-- Days since 1970-01-01. -/
  day : Int
  /-- Seconds since midnight, below 86400. -/
  second : Nat
  /-- Nanoseconds; from 10^9 on, a leap second. -/
  nanos : Nat
deriving Repr, DecidableEq, Inhabited

namespace Timestamp

/-- Two digits, zero-padded. -/
def twoDigits (n : Nat) : String :=
  if n < 10 then "0" ++ toString n else toString n

/-- A number zero-padded to `width` digits. -/
def padded (width n : Nat) : String :=
  let s := toString n
  String.ofList (List.replicate (width - s.length) '0') ++ s

/-- A year with at least four digits; one outside `0..=9999` carries its sign, as
ISO 8601 asks: `0042`, `-0001`, `+10000`. -/
def yearText (y : Int) : String :=
  if 0 ≤ y && y ≤ 9999 then padded 4 y.toNat
  else (if y < 0 then "-" else "+") ++ padded 4 y.natAbs

/-- `YYYY-MM-DDTHH:MM:SS`: the date, and the time with a leap second as 60. -/
def dateAndTime (t : Timestamp) : String :=
  let (y, m, d) := civilOfDays t.day
  let sec := t.second % 60 + (if t.nanos ≥ Nat.pow 10 9 then 1 else 0)
  yearText y ++ "-" ++ twoDigits m ++ "-" ++ twoDigits d ++ "T" ++
    twoDigits (t.second / 3600) ++ ":" ++ twoDigits (t.second / 60 % 60) ++ ":" ++ twoDigits sec

/-- The fraction of a second with as few digits as it needs, in groups of three. -/
def fractionText (t : Timestamp) : String :=
  let n := t.nanos % Nat.pow 10 9
  if n == 0 then ""
  else if n % 1000000 == 0 then "." ++ padded 3 (n / 1000000)
  else if n % 1000 == 0 then "." ++ padded 6 (n / 1000)
  else "." ++ padded 9 n

/-- RFC 3339 with a numeric UTC offset: `2024-01-02T03:04:05.100+00:00`. -/
def rfc3339 (t : Timestamp) : String :=
  t.dateAndTime ++ t.fractionText ++ "+00:00"

/-- RFC 3339 with `Z` for UTC: `2024-01-02T03:04:05.100Z`. -/
def rfc3339Z (t : Timestamp) : String :=
  t.dateAndTime ++ t.fractionText ++ "Z"

/-- The time of day to the millisecond, the fraction cut off: `03:04:05.123`. -/
def clockMillis (t : Timestamp) : String :=
  let sec := t.second % 60 + (if t.nanos ≥ Nat.pow 10 9 then 1 else 0)
  twoDigits (t.second / 3600) ++ ":" ++ twoDigits (t.second / 60 % 60) ++ ":" ++ twoDigits sec ++
    "." ++ padded 3 (t.nanos % Nat.pow 10 9 / 1000000)

/-- The instant a number of milliseconds after 1970-01-01T00:00:00Z. -/
def ofUnixMillis (ms : Nat) : Timestamp :=
  ⟨(ms / 86400000 : Nat), ms / 1000 % 86400, ms % 1000 * 1000000⟩

/-- `YYYYMMDD-HHMMSS`, the date and time of day without separators. -/
def compactStamp (t : Timestamp) : String :=
  let (y, m, d) := civilOfDays t.day
  yearText y ++ twoDigits m ++ twoDigits d ++ "-" ++
    twoDigits (t.second / 3600) ++ twoDigits (t.second / 60 % 60) ++ twoDigits (t.second % 60)

/-- The instant a local date and time at an offset (in seconds east of UTC) stands for. -/
def ofLocal (y : Int) (m d : Nat) (second nanos : Nat) (offset : Int) : Timestamp :=
  let total := daysOfCivil y m d * 86400 + second - offset
  ⟨total / 86400, (total % 86400).toNat, nanos⟩

/-- Reads exactly `n` ASCII digits. -/
def digits (n : Nat) (cs : List Char) : Option (Nat × List Char) :=
  let ds := cs.take n
  if ds.length == n && ds.all Char.isDigit then
    some (ds.foldl (fun a c => 10 * a + (c.toNat - '0'.toNat)) 0, cs.drop n)
  else none

/-- Reads the fraction digits of a second: the first nine count, more are skipped. -/
def fraction (cs : List Char) : Option (Nat × List Char) :=
  let ds := cs.takeWhile Char.isDigit
  if ds.isEmpty then none
  else
    let kept := ds.take 9
    some (kept.foldl (fun a c => 10 * a + (c.toNat - '0'.toNat)) 0 * Nat.pow 10 (9 - kept.length),
      cs.drop ds.length)

/-- Reads a UTC offset in seconds: `Z`, `z`, or a sign and `HH:MM` below 24 hours. -/
def offset (cs : List Char) : Option (Int × List Char) :=
  match cs with
  | 'Z' :: rest | 'z' :: rest => some (0, rest)
  | c :: rest =>
    let sign : Option Int := if c == '+' then some 1 else if c == '-' || c == '−' then some (-1) else none
    match sign with
    | none => none
    | some s => do
      let (h, rest) ← digits 2 rest
      let rest ← match rest with | ':' :: r => some r | _ => none
      let (m, rest) ← digits 2 rest
      if h > 23 || m > 59 then none else some (s * ((h : Int) * 3600 + m * 60), rest)
  | [] => none

/-- Reads an RFC 3339 date and time with offset, as an instant in UTC. -/
def parse? (s : String) : Option Timestamp := do
  let cs := s.toList
  let (y, cs) ← digits 4 cs
  let cs ← match cs with | '-' :: r => some r | _ => none
  let (mo, cs) ← digits 2 cs
  let cs ← match cs with | '-' :: r => some r | _ => none
  let (d, cs) ← digits 2 cs
  let cs ← match cs with | 'T' :: r | 't' :: r | ' ' :: r => some r | _ => none
  let (h, cs) ← digits 2 cs
  let cs ← match cs with | ':' :: r => some r | _ => none
  let (mi, cs) ← digits 2 cs
  let cs ← match cs with | ':' :: r => some r | _ => none
  let (sec, cs) ← digits 2 cs
  let (nanos, cs) ← match cs with
    | '.' :: r => fraction r
    | _ => some (0, cs)
  let (off, cs) ← offset cs
  if !cs.isEmpty then none
  else if mo < 1 || mo > 12 || d < 1 || d > monthLength y mo || h > 23 || mi > 59 || sec > 60 then none
  else
    let (sec, nanos) := if sec == 60 then (59, nanos + Nat.pow 10 9) else (sec, nanos)
    some (ofLocal y mo d (h * 3600 + mi * 60 + sec) nanos off)

example : (parse? "2024-02-29T23:30:00-02:00").map rfc3339 = some "2024-03-01T01:30:00+00:00" := by
  decide
example : (parse? "2016-12-31T23:59:60.5Z").map clockMillis = some "23:59:60.500" := by decide

end Timestamp

end LaunchBench.Clock
