/-!
Decimal numerals.

A numeral is an optional sign followed by one or more ASCII digits, and
nothing else: no blanks, no digit separators, no other scripts' digits. A
numeral for a word of `bits` bits must denote a value below `2 ^ bits`; a
minus sign is allowed only where the value is signed.
-/

namespace LaunchBench.Text

/-- The value of a nonempty run of ASCII digits, read as a decimal numeral. -/
def digitsValue? (cs : List Char) : Option Nat :=
  if cs.isEmpty || !cs.all Char.isDigit then none
  else some (cs.foldl (fun n c => 10 * n + (c.toNat - '0'.toNat)) 0)

/-- Reads an unsigned numeral: an optional plus sign, then digits. -/
def readNat? (s : String) : Option Nat :=
  match s.toList with
  | '+' :: rest => digitsValue? rest
  | cs => digitsValue? cs

/-- Reads a signed numeral: an optional plus or minus sign, then digits. -/
def readInt? (s : String) : Option Int :=
  match s.toList with
  | '-' :: rest => (digitsValue? rest).map fun n => -(n : Int)
  | '+' :: rest => (digitsValue? rest).map fun n => (n : Int)
  | cs => (digitsValue? cs).map fun n => (n : Int)

/-- Reads an unsigned numeral whose value fits in `bits` bits. -/
def readWord? (bits : Nat) (s : String) : Option Nat :=
  (readNat? s).filter (· < Nat.pow 2 bits)

/-- Reads a signed numeral whose value fits in a 64-bit two's-complement word. -/
def readInt64? (s : String) : Option Int :=
  (readInt? s).filter fun v => decide (-Int.pow 2 63 ≤ v ∧ v < Int.pow 2 63)

example : readWord? 16 "+80" = some 80 ∧ readWord? 16 "65536" = none ∧ readWord? 16 "-0" = none := by
  decide
example : readInt64? "-9223372036854775808" = some (-9223372036854775808) := by decide

end LaunchBench.Text
