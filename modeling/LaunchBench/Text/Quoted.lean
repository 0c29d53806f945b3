import LaunchBench.Text.Printable
/-!
Quoted text.

Error messages show texts such as patterns in double quotes. Inside the
quotes a backslash, a double quote, a tab, a carriage return, a line feed and
NUL are written as backslash escapes, every character that is not printable
(see `escapedChars`) as `\u{hex}` with lower-case digits, and every other
character as itself.
-/

namespace LaunchBench.Text

/-- The lower-case hexadecimal digits of a number, without leading zeros. -/
def hexLower (n : Nat) : String :=
  String.ofList (Nat.toDigits 16 n)

/-- How one character is written inside quotes. -/
def quoteChar (c : Char) : String :=
  match c with
  | '\x00' => "\\0"
  | '\t' => "\\t"
  | '\r' => "\\r"
  | '\n' => "\\n"
  | '\\' => "\\\\"
  | '"' => "\\\""
  | _ => if escapedChars.has c then "\\u\x7b" ++ hexLower c.toNat ++ "\x7d" else String.singleton c

/-- A text in double quotes, with escapes. -/
def quote (s : String) : String :=
  "\"" ++ String.join (s.toList.map quoteChar) ++ "\""

end LaunchBench.Text
