import LaunchBench.Pattern.Syntax
import LaunchBench.Text.Lines
/-!
The text of a pattern error.

An error is shown as the pattern with the stretch at fault marked by carets
under it, followed by the description of the cause. A pattern of several
lines is shown between two rules of tildes with numbered lines; a stretch
that runs over several lines is named by its lines and columns instead.
-/

namespace LaunchBench.Pattern

/-- A place in the pattern: line and column, both counted from 1, columns in characters. -/
structure Place where
  line : Nat
  column : Nat
  deriving DecidableEq, Repr

/-- The place of a character offset in a text. -/
def placeOf (text : List Char) (offset : Nat) : Place :=
  (text.take offset).foldl (fun p c => if c = '\n' then ⟨p.line + 1, 1⟩ else ⟨p.line, p.column + 1⟩)
    ⟨1, 1⟩

/-- Pads a number on the left with spaces to a width. -/
def padLeft (n : Nat) (width : Nat) : String :=
  let s := toString n
  String.ofList (List.replicate (width - s.length) ' ') ++ s

/-- Renders an error of a pattern. -/
def Error.render (e : Error) (pattern : String) : String :=
  let cs := pattern.toList
  let spans := e.span :: e.aux.toList
  let places := spans.map fun sp => (placeOf cs sp.start, placeOf cs sp.stop)
  let lines := Text.lines pattern
  let lineCount := lines.length + (if cs.getLast? = some '\n' then 1 else 0)
  let width := if lineCount ≤ 1 then 0 else (toString lineCount).length
  let padding := if width = 0 then 4 else width + 2
  let oneLine := places.filter fun (a, b) => a.line = b.line
  let multi := places.filter fun (a, b) => a.line ≠ b.line
  let sortPlaces (ps : List (Place × Place)) :=
    ps.mergeSort fun (a1, b1) (a2, b2) =>
      a1.line < a2.line || (a1.line = a2.line && (a1.column < a2.column ||
        (a1.column = a2.column && (b1.line < b2.line || (b1.line = b2.line && b1.column ≤ b2.column)))))
  let notes (i : Nat) : Option String :=
    let here := sortPlaces (oneLine.filter fun (a, _) => a.line = i + 1)
    if here.isEmpty then none
    else
      let (marks, _) := here.foldl (fun (acc : String × Nat) (a, b) =>
        let gap := (a.column - 1) - acc.2
        let len := max 1 (b.column - a.column)
        (acc.1 ++ String.ofList (List.replicate gap ' ') ++ String.ofList (List.replicate len '^'),
          acc.2 + gap + len)) ("", 0)
      some (String.ofList (List.replicate padding ' ') ++ marks)
  let notated := String.join (lines.zipIdx.map fun (l, i) =>
    let head := if width > 0 then padLeft (i + 1) width ++ ": " else "    "
    head ++ l ++ "\n" ++ match notes i with
      | some n => n ++ "\n"
      | none => "")
  if cs.contains '\n' then
    let rule := String.ofList (List.replicate 79 '~')
    let multiNotes := (sortPlaces multi).map fun (a, b) =>
      "on line " ++ toString a.line ++ " (column " ++ toString a.column ++ ") through line " ++
        toString b.line ++ " (column " ++ toString (b.column - 1) ++ ")"
    "regex parse error:\n" ++ rule ++ "\n" ++ notated ++ rule ++ "\n" ++
      (if multiNotes.isEmpty then "" else "\n".intercalate multiNotes ++ "\n") ++
      "error: " ++ e.kind.description
  else
    "regex parse error:\n" ++ notated ++ "error: " ++ e.kind.description

end LaunchBench.Pattern
