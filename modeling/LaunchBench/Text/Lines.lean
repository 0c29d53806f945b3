/-!
Lines of a text.

A text is cut at every line feed; a carriage return directly before a line
feed belongs to the line ending, and a line ending after the last line does
not start another line. A carriage return anywhere else is part of its line.
-/

namespace LaunchBench.Text

/-- Drops the carriage return that ends a piece, if it has one. -/
def dropReturn (cs : List Char) : List Char :=
  match cs.getLast? with
  | some '\r' => cs.dropLast
  | _ => cs

/-- Cuts characters at line feeds; `cur` holds the current line, last character first. -/
def lineCharsFrom : List Char → List Char → List (List Char)
  | [], cur => if cur.isEmpty then [] else [cur.reverse]
  | c :: rest, cur =>
    if c = '\n' then dropReturn cur.reverse :: lineCharsFrom rest []
    else lineCharsFrom rest (c :: cur)

/-- The lines of a list of characters, each without its line ending. -/
def lineChars (cs : List Char) : List (List Char) :=
  lineCharsFrom cs []

/-- The lines of a text: cut at line feeds, with a carriage return before one removed. -/
def lines (s : String) : List String :=
  (lineChars s.toList).map String.ofList

/-- The suffixes of a list, longest first, the list itself and the empty one included. -/
def suffixes {α : Type} : List α → List (List α)
  | [] => [[]]
  | x :: xs => (x :: xs) :: suffixes xs

/-- Whether `needle` occurs in `hay` as a run of consecutive characters. -/
def containsText (hay needle : String) : Bool :=
  (suffixes hay.toList).any fun t => needle.toList.isPrefixOf t

/-- Replaces each occurrence of `pat` by `rep`, left to right and without
overlaps; an empty pattern occurs before every character and at the end.
`fuel` bounds the characters read. -/
def replaceChars (pat rep : List Char) : Nat → List Char → List Char
  | 0, cs => cs
  | fuel + 1, cs =>
    if pat.isEmpty then
      match cs with
      | [] => rep
      | c :: rest => rep ++ c :: replaceChars pat rep fuel rest
    else if pat.isPrefixOf cs then rep ++ replaceChars pat rep fuel (cs.drop pat.length)
    else
      match cs with
      | [] => []
      | c :: rest => c :: replaceChars pat rep fuel rest

/-- A text with each occurrence of `pat` replaced by `rep`. -/
def replaceAll (s pat rep : String) : String :=
  String.ofList (replaceChars pat.toList rep.toList (s.length + 1) s.toList)

example : replaceAll "Hello Hello" "Hello" "Bye" = "Bye Bye" := by decide
example : replaceAll "ab" "" "-" = "-a-b-" := by decide

example : lines "a\r\nb\rc\n\nd\r" = ["a", "b\rc", "", "d\r"] := by decide
example : lines "" = [] ∧ lines "\n" = [""] := by decide

end LaunchBench.Text
