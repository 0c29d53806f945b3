import LaunchBench.Whitelist
import LaunchBench.Text.Lines
/-!
Error and warning signals in logs.

A line carries a signal when it contains `ERROR`, `WARN` or `SLF4J:` in any
case (letters compared by simple case folding). A line with a signal is
whitelisted when a whitelist pattern covers it, and offending otherwise. The
offending lines of a log are collected sorted and without repeats. On
Windows, once an offending line shows the shutdown race, the race's own
noise is dropped from them.
-/

namespace LaunchBench

open Pattern in
/-- The node that matches a word, letters compared up to case. -/
def foldedWord (w : String) : Node :=
  Node.concatOf (w.toList.map fun c => Node.ofClass (CharClass.single c.toNat).foldCase false)

/-- The words that make a line a signal. -/
def signalWords : List String := ["ERROR", "WARN", "SLF4J:"]

/-- The automaton that finds a signal word anywhere in a line. -/
def signalAutomaton : Pattern.Automaton :=
  (Pattern.Node.altOf (signalWords.map foldedWord)).automaton

/-- Whether a line contains a signal word, up to case. -/
def hasSignal (line : String) : Bool :=
  signalAutomaton.search line.toList.toArray

/-- How a line of a log counts. -/
inductive Classification where
  | clean
  | whitelisted
  | offending
  deriving DecidableEq, Repr

namespace Classification

def name : Classification → String
  | clean => "clean"
  | whitelisted => "whitelisted"
  | offending => "offending"

end Classification

/-- Classifies a line: no signal, a whitelisted signal, or an offending one. -/
def classify (w : Whitelist) (line : String) : Classification :=
  if !hasSignal line then .clean
  else if w.isWhitelisted line then .whitelisted
  else .offending

/-- Sorts texts by code point and drops repeats. -/
def sortedUnique (xs : List String) : List String :=
  let sorted := xs.mergeSort fun a b => decide (a ≤ b)
  sorted.foldr (fun x acc => match acc with
    | y :: _ => if x = y then acc else x :: acc
    | [] => [x]) []

/-- The offending lines of a log, sorted and without repeats. -/
def offendingLines (w : Whitelist) (content : String) : List String :=
  let found := sortedUnique ((Text.lines content).filter fun l => classify w l = .offending)
  if w.handlesShutdownRace && found.any (Text.containsText · shutdownRaceMarker) then
    found.filter fun l => !w.isShutdownRaceNoise l
  else found

end LaunchBench
