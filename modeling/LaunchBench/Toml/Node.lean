import LaunchBench.Decimal.Shortest
/-!
The tree a TOML document is read into.

Every value remembers the stretch of the document it was written in, so that
an error found while decoding the tree can point at it. Tables remember how
they came to be: written as a header, made on the way to a deeper header
(implicit), made by a dotted key, or written inline. Those facts decide which
later definitions are allowed to extend a table.

Positions count characters from the start of the document.
-/

namespace LaunchBench.Toml

open LaunchBench.Decimal

/-- A stretch of the document: from `start` up to, not including, `stop`. -/
structure Span where
  /-- The first character. -/
  start : Nat
  /-- The first character after the stretch. -/
  stop : Nat
deriving Repr, DecidableEq, Inhabited

/-- A key as written: its name, its spelling in the document (with quotes if it
had them), and where it stands. -/
structure Key where
  /-- The name the key stands for. -/
  name : String
  /-- The key as written. -/
  raw : String
  /-- Where it was written. -/
  span : Option Span
deriving Repr, Inhabited

/-- A calendar date. -/
structure Date where
  /-- Four-digit year. -/
  year : Nat
  /-- Month, 1 to 12. -/
  month : Nat
  /-- Day of the month. -/
  day : Nat
deriving Repr, DecidableEq

/-- A time of day, to the nanosecond. -/
structure Time where
  /-- Hour, 0 to 23. -/
  hour : Nat
  /-- Minute, 0 to 59. -/
  minute : Nat
  /-- Second, 0 to 60. -/
  second : Nat
  /-- Nanoseconds. -/
  nanosecond : Nat
deriving Repr, DecidableEq

/-- The offset of a date-time from UTC. -/
inductive Offset where
  /-- Written as `Z`. -/
  | utc
  /-- A signed number of minutes. -/
  | minutes (m : Int)
deriving Repr, DecidableEq

/-- A date, a time, or both, with an offset only when both are given. -/
structure Datetime where
  /-- The date, if written. -/
  date : Option Date
  /-- The time, if written. -/
  time : Option Time
  /-- The offset, if written. -/
  offset : Option Offset
deriving Repr, DecidableEq

/-- How a table came to be. -/
structure TableForm where
  /-- Written between braces. -/
  inline : Bool := false
  /-- Made on the way to a deeper definition, not written itself. -/
  implicit : Bool := false
  /-- Made by a dotted key. -/
  dotted : Bool := false
deriving Repr, DecidableEq, Inhabited

/-- A node of a TOML document. -/
inductive Node where
  /-- A string. -/
  | str (s : String) (span : Span)
  /-- A 64-bit signed integer. -/
  | int (i : Int) (span : Span)
  /-- A binary64 number. -/
  | float (x : Binary64) (span : Span)
  /-- A boolean. -/
  | bool (b : Bool) (span : Span)
  /-- A date, time or date-time. -/
  | datetime (d : Datetime) (span : Span)
  /-- An array value, written between brackets. -/
  | array (elems : List Node) (span : Span)
  /-- A table: its entries in the order they were defined. -/
  | table (form : TableForm) (entries : List (Key × Node)) (span : Option Span)
  /-- An array of tables, one table for each double-bracket header. -/
  | tables (elems : List Node) (span : Option Span)
deriving Repr, Inhabited

namespace Node

/-- Where the node was written, when it was written at all. -/
def span? : Node → Option Span
  | str _ s | int _ s | float _ s | bool _ s | datetime _ s | array _ s => some s
  | table _ _ s | tables _ s => s

/-- The name of a value's kind, as errors about extending a value name it. -/
def kindName : Node → String
  | str .. => "string"
  | int .. => "integer"
  | float .. => "float"
  | bool .. => "boolean"
  | datetime .. => "datetime"
  | array .. => "array"
  | table form .. => if form.inline then "inline table" else "table"
  | tables .. => "array of tables"

end Node

end LaunchBench.Toml
