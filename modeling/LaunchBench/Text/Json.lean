/-!
JSON values and their text.

Summaries are written as JSON. Strings escape the quote, the backslash and
every control character below U+0020 (with the short forms `\b \f \n \r \t`
where they exist, `\u00xx` with lower-case hex otherwise); all other
characters are written as themselves. Objects keep their keys in the order
given. The pretty form puts each member on its own line, indented by two
spaces per level, with `": "` after a key; empty arrays and objects stay `[]`
and `{}`.
-/

namespace LaunchBench.Text

/-- A JSON value with integer numbers. -/
inductive JsonValue where
  /-- `null`. -/
  | null
  /-- `true` or `false`. -/
  | bool (b : Bool)
  /-- An integer. -/
  | num (i : Int)
  /-- A string. -/
  | str (s : String)
  /-- An array. -/
  | arr (xs : List JsonValue)
  /-- An object, its members in order. -/
  | obj (kvs : List (String × JsonValue))
deriving Repr, Inhabited

namespace JsonValue

/-- An optional value, `null` when absent. -/
def ofOption (f : α → JsonValue) : Option α → JsonValue
  | some a => f a
  | none => .null

/-- How one character is written inside a JSON string. -/
def escapeChar (c : Char) : String :=
  match c with
  | '"' => "\\\""
  | '\\' => "\\\\"
  | '\x08' => "\\b"
  | '\x0c' => "\\f"
  | '\n' => "\\n"
  | '\r' => "\\r"
  | '\t' => "\\t"
  | _ =>
    if c.toNat < 0x20 then
      let h := Nat.toDigits 16 c.toNat
      "\\u" ++ String.ofList (List.replicate (4 - h.length) '0' ++ h)
    else String.singleton c

/-- A string in quotes, escaped. -/
def quoteString (s : String) : String :=
  "\"" ++ String.join (s.toList.map escapeChar) ++ "\""

mutual

/-- The value on one line, without blanks. -/
def compact : JsonValue → String
  | .null => "null"
  | .bool b => if b then "true" else "false"
  | .num i => toString i
  | .str s => quoteString s
  | .arr xs => "[" ++ compactItems xs ++ "]"
  | .obj kvs => "\x7b" ++ compactMembers kvs ++ "\x7d"

/-- Array items on one line. -/
def compactItems : List JsonValue → String
  | [] => ""
  | [x] => compact x
  | x :: xs => compact x ++ "," ++ compactItems xs

/-- Object members on one line. -/
def compactMembers : List (String × JsonValue) → String
  | [] => ""
  | [(k, v)] => quoteString k ++ ":" ++ compact v
  | (k, v) :: kvs => quoteString k ++ ":" ++ compact v ++ "," ++ compactMembers kvs

end

/-- The indentation of a level. -/
def indent (level : Nat) : String := String.ofList (List.replicate (2 * level) ' ')

mutual

/-- The value laid out over lines, its inner lines indented from `level`. -/
def pretty (level : Nat) : JsonValue → String
  | .arr [] => "[]"
  | .obj [] => "\x7b\x7d"
  | .arr xs => "[\n" ++ prettyItems (level + 1) xs ++ "\n" ++ indent level ++ "]"
  | .obj kvs => "\x7b\n" ++ prettyMembers (level + 1) kvs ++ "\n" ++ indent level ++ "\x7d"
  | v => compact v

/-- Array items, one per line. -/
def prettyItems (level : Nat) : List JsonValue → String
  | [] => ""
  | [x] => indent level ++ pretty level x
  | x :: xs => indent level ++ pretty level x ++ ",\n" ++ prettyItems level xs

/-- Object members, one per line. -/
def prettyMembers (level : Nat) : List (String × JsonValue) → String
  | [] => ""
  | [(k, v)] => indent level ++ quoteString k ++ ": " ++ pretty level v
  | (k, v) :: kvs => indent level ++ quoteString k ++ ": " ++ pretty level v ++ ",\n" ++
    prettyMembers level kvs

end

end JsonValue

end LaunchBench.Text
