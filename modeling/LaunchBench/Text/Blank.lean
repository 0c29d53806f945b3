/-!
Blank characters: the characters with the Unicode property White_Space.

Trimming a value, splitting a command line into words and reading a number
from a tool's output all treat exactly these characters as blank, so the
table is kept in one place.

* **`isBlank_of_isWhitespace`**: every character that core calls whitespace
  is blank here too.
-/

namespace LaunchBench.Text

/-- A character is blank when it has the Unicode property White_Space. -/
def isBlank (c : Char) : Bool :=
  let n := c.toNat
  (0x09 ≤ n && n ≤ 0x0D) || n == 0x20 || n == 0x85 || n == 0xA0 || n == 0x1680 ||
    (0x2000 ≤ n && n ≤ 0x200A) || n == 0x2028 || n == 0x2029 || n == 0x202F ||
    n == 0x205F || n == 0x3000

/-- Removes blank characters from both ends of a list of characters. -/
def trimChars (cs : List Char) : List Char :=
  ((cs.dropWhile isBlank).reverse.dropWhile isBlank).reverse

/-- Removes blank characters from both ends of a text. -/
def trimBlank (s : String) : String :=
  String.ofList (trimChars s.toList)

/-- Removes blank characters from the start of a text. -/
def trimBlankStart (s : String) : String :=
  String.ofList (s.toList.dropWhile isBlank)

/-- Removes blank characters from the end of a text. -/
def trimBlankEnd (s : String) : String :=
  String.ofList (s.toList.reverse.dropWhile isBlank).reverse

/-- Splits a list of characters into its maximal runs of non-blank characters. -/
def splitOnBlanks (cs : List Char) : List (List Char) :=
  (cs.splitOnP isBlank).filter (fun w => !w.isEmpty)

/-- Splits a text into its words: the maximal runs of non-blank characters, in order. -/
def words (s : String) : List String :=
  (splitOnBlanks s.toList).map String.ofList

theorem isBlank_of_isWhitespace {c : Char} (h : c.isWhitespace = true) : isBlank c = true := by
  simp only [Char.isWhitespace, Bool.or_eq_true, decide_eq_true_eq] at h
  simp only [isBlank, Bool.or_eq_true, Bool.and_eq_true, decide_eq_true_eq, beq_iff_eq]
  rcases h with ((h | h) | h) | h <;> subst h <;> decide

end LaunchBench.Text
