import LaunchBench.Toml.Document
import LaunchBench.Text.Quoted
/-!
Decoding a TOML tree into typed records.

A decoder asks a node for one kind of data and refuses any other kind with
"invalid type: <what it found>, expected <what it wanted>". Records decode
from a table by key, checking each entry in the table's order: a key the
record does not know is refused when the record is closed and skipped
otherwise, and after the last entry the first field in declaration order that
is neither given nor optional is reported missing. A record also decodes
from an array, field by field in order, where a missing field that is not
optional is an "invalid length".

A date or time decodes as a table with one private key, so a record refuses
it through that key, and text decoders see a map.

Every error points at the innermost node that has a place in the document;
an entry without a place of its own points at its key.
-/

namespace LaunchBench.Toml

open LaunchBench.Decimal LaunchBench.Text

/-- What a decoder found instead of what it wanted. -/
inductive Unexpected where
  /-- A boolean. -/
  | bool (b : Bool)
  /-- An integer. -/
  | signed (i : Int)
  /-- A float. -/
  | float (x : Binary64)
  /-- A string. -/
  | str (s : String)
  /-- A table, or a date or time. -/
  | map
  /-- An array. -/
  | seq

/-- A float's text with a decimal point: `1` is written `1.0`. -/
def withPoint (x : Binary64) : String :=
  let s := x.display
  match x.decode with
  | .finite .. => if s.contains '.' then s else s ++ ".0"
  | _ => s

/-- How an unexpected kind of data is named in a message. -/
def Unexpected.describe : Unexpected → String
  | .bool b => "boolean `" ++ (if b then "true" else "false") ++ "`"
  | .signed i => "integer `" ++ toString i ++ "`"
  | .float x => "floating point `" ++ withPoint x ++ "`"
  | .str s => "string " ++ quote s
  | .map => "map"
  | .seq => "sequence"

/-- The kind of data a node offers to a decoder. -/
def Node.unexpected : Node → Unexpected
  | .str s _ => .str s
  | .int i _ => .signed i
  | .float x _ => .float x
  | .bool b _ => .bool b
  | .datetime .. | .table .. => .map
  | .array .. | .tables .. => .seq

/-- A decoding error and the stretch of the document it points at. -/
structure DecodeError where
  /-- What is wrong. -/
  message : String
  /-- Where, when known. -/
  span : Option Span
deriving Repr, Inhabited

/-- The error for a node of the wrong kind. -/
def invalidType (n : Node) (expected : String) : DecodeError :=
  ⟨"invalid type: " ++ n.unexpected.describe ++ ", expected " ++ expected, none⟩

/-- Gives an error the place `sp` when it has none yet. -/
def within (sp : Option Span) : Except DecodeError α → Except DecodeError α
  | .error e => .error { e with span := e.span <|> sp }
  | r => r

/-- A decoder of nodes. -/
abbrev Decoder (α : Type) := Node → Except DecodeError α

/-- Text, where `expected` names what is wanted ("a string", "path string"). -/
def text (expected : String) : Decoder String := fun n =>
  within n.span? <| match n with
    | .str s _ => .ok s
    | _ => .error (invalidType n expected)

/-- A string. -/
def string : Decoder String := text "a string"

/-- A path, written as a string. -/
def path : Decoder String := text "path string"

/-- A boolean. -/
def boolean : Decoder Bool := fun n =>
  within n.span? <| match n with
    | .bool b _ => .ok b
    | _ => .error (invalidType n "a boolean")

/-- A list, from an array or an array of tables. -/
def list (d : Decoder α) : Decoder (List α) := fun n =>
  within n.span? <| match n with
    | .array es _ | .tables es _ => es.mapM fun e => within e.span? (d e)
    | _ => .error (invalidType n "a sequence")

/-- The shape of a record: its name, its fields with whether each may be left
out, and whether keys it does not know are refused. -/
structure RecordShape where
  /-- The record's name. -/
  name : String
  /-- Field names, each with whether it is optional. -/
  fields : List (String × Bool)
  /-- Whether unknown keys are refused. -/
  closed : Bool

namespace RecordShape

/-- What a record is called in "expected" texts. -/
def expecting (r : RecordShape) : String := "struct " ++ r.name

/-- The error for a key the record does not know. -/
def unknownField (r : RecordShape) (k : String) : String :=
  let names := r.fields.map fun f => "`" ++ f.1 ++ "`"
  "unknown field `" ++ k ++ "`, " ++
    match names with
    | [] => "there are no fields"
    | [a] => "expected " ++ a
    | [a, b] => "expected " ++ a ++ " or " ++ b
    | _ => "expected one of " ++ ", ".intercalate names

/-- The error for an array too short for the record. -/
def tooShort (r : RecordShape) (i : Nat) : DecodeError :=
  let n := r.fields.length
  ⟨"invalid length " ++ toString i ++ ", expected " ++ r.expecting ++ " with " ++ toString n ++
    (if n == 1 then " element" else " elements"), none⟩

/-- The first field that is neither given nor optional. -/
def firstMissing (r : RecordShape) (given : List (Option Node)) : Option String :=
  ((r.fields.zip given).find? fun (f, g) => !f.2 && g.isNone).map (·.1.1)

/-- Records the entries of a table, checking each known one in order. -/
def takeEntries (r : RecordShape) (check : Nat → Node → Except DecodeError Unit) :
    List (Key × Node) → List (Option Node) → Except DecodeError (List (Option Node))
  | [], acc => .ok acc
  | (k, v) :: rest, acc =>
    match r.fields.findIdx? (·.1 == k.name) with
    | none => if r.closed then .error ⟨r.unknownField k.name, k.span⟩ else r.takeEntries check rest acc
    | some i => do
      within k.span (check i v)
      r.takeEntries check rest (acc.set i (some v))

/-- Records the items of an array as the fields in order, checking each. -/
def takeItems (r : RecordShape) (check : Nat → Node → Except DecodeError Unit) :
    Nat → List (String × Bool) → List Node → Except DecodeError (List (Option Node))
  | _, [], _ => .ok []
  | i, f :: fs, items =>
    match items with
    | e :: es => do
      within e.span? (check i e)
      let rest ← r.takeItems check (i + 1) fs es
      .ok (some e :: rest)
    | [] =>
      if f.2 then do
        let rest ← r.takeItems check (i + 1) fs []
        .ok (none :: rest)
      else .error (r.tooShort i)

/-- The node given for each field, in field order, after every given node was
checked by `check` (with its field's index) in the order the document gives
them, and every field that is not optional was found. -/
def collect (r : RecordShape) (check : Nat → Node → Except DecodeError Unit) (n : Node) :
    Except DecodeError (List (Option Node)) :=
  within n.span? <| match n with
    | .table _ entries _ => do
      let given ← r.takeEntries check entries (List.replicate r.fields.length none)
      match r.firstMissing given with
      | some f => .error ⟨"missing field `" ++ f ++ "`", none⟩
      | none => .ok given
    | .datetime .. =>
      if r.closed then .error ⟨r.unknownField "$__toml_private_datetime", none⟩
      else
        let given := List.replicate r.fields.length none
        match r.firstMissing given with
        | some f => .error ⟨"missing field `" ++ f ++ "`", none⟩
        | none => .ok given
    | .array es _ | .tables es _ => r.takeItems check 0 r.fields es
    | _ => .error (invalidType n r.expecting)

end RecordShape

/-- Checks a node with a decoder, keeping only the verdict. -/
def checkWith (d : Decoder α) (n : Node) : Except DecodeError Unit :=
  (d n).map fun _ => ()

/-- The checks of a record's fields, by index. -/
def checksOf (ds : List (Node → Except DecodeError Unit)) (i : Nat) (n : Node) :
    Except DecodeError Unit :=
  match ds[i]? with
  | some d => d n
  | none => .ok ()

/-- The value of a field that must be given. -/
def required (given : List (Option Node)) (i : Nat) (name : String) (d : Decoder α) :
    Except DecodeError α :=
  match given[i]? with
  | some (some n) => d n
  | _ => .error ⟨"missing field `" ++ name ++ "`", none⟩

/-- The value of a field that may be left out, with its value when it is. -/
def optional (given : List (Option Node)) (i : Nat) (d : Decoder α) (dflt : α) :
    Except DecodeError α :=
  match given[i]? with
  | some (some n) => d n
  | _ => .ok dflt

/-- A decoding error as a document error, pointing at its stretch in bytes. -/
def DecodeError.toError (src : String) (e : DecodeError) : Error :=
  ⟨e.message, e.span.map fun sp =>
    (sp.start, (String.ofList ((src.toList.drop sp.start).take (sp.stop - sp.start))).utf8ByteSize)⟩

end LaunchBench.Toml
