import LaunchBench.Pattern.Reader
import LaunchBench.Pattern.Depth
import LaunchBench.Pattern.Lower
import LaunchBench.Pattern.Footprint
import LaunchBench.Pattern.Automaton
import LaunchBench.Pattern.ErrorText
/-!
Compiled patterns.

A pattern is compiled by reading its text, checking how deeply it nests,
lowering the syntax tree, and checking that its automata fit the size
limit. A compiled pattern keeps its text, and is matched against a line by
searching for a match anywhere in it.
-/

namespace LaunchBench.Pattern

/-- Why a pattern could not be compiled. -/
inductive Failure where
  /-- The text could not be read or lowered. -/
  | malformed (e : Error)
  /-- The compiled automata would take more than `limit` bytes. -/
  | tooBig (limit : Nat)
  deriving DecidableEq, Repr, Inhabited

/-- The text of a failure to compile a pattern. -/
def Failure.render : Failure → String → String
  | .malformed e, pattern => e.render pattern
  | .tooBig limit, _ => "Compiled regex exceeds size limit of " ++ toString limit ++ " bytes."

/-- A compiled pattern. -/
structure Compiled where
  source : String
  automaton : Automaton
  deriving Inhabited

/-- Reads, checks and lowers a pattern. -/
def compile (text : String) : Except Failure Compiled := do
  let ast ← (read text).mapError .malformed
  if let some e := ast.nestingError then throw (.malformed e)
  let node ← (lower ast).mapError .malformed
  if !node.fitsLimit then throw (.tooBig sizeLimit)
  return { source := text, automaton := node.automaton }

/-- Whether the pattern matches somewhere in a text. -/
def Compiled.isMatch (p : Compiled) (s : String) : Bool :=
  p.automaton.search s.toList.toArray

end LaunchBench.Pattern
