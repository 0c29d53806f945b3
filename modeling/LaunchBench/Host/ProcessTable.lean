import LaunchBench.Text.Blank
import LaunchBench.Text.Lines
import LaunchBench.Text.Numeral
/-!
Process tables and the descendants of a process.

A process table is the text a host lists its processes in: one line per
process, the process id and its parent's id as the first two words. A line
whose first two words are not both 32-bit process ids is skipped, so headers
and broken lines cost nothing.

The descendants of a process are found breadth first: its children in table
order, then their children, and so on. A process is listed once, at its first
discovery, and the starting process is never listed, even when a cycle in the
table leads back to it.

The walk's fuel, one more than the number of rows, is never used up before
the queue is empty, so the bound changes nothing.
-/

namespace LaunchBench.Host

open LaunchBench.Text

/-- A row of a process table: a process and its parent. -/
structure Link where
  /-- The process. -/
  child : Nat
  /-- Its parent. -/
  parent : Nat
deriving Repr, DecidableEq

/-- Reads a row: the first two words must be process ids, the rest is ignored. -/
def Link.ofLine? (line : String) : Option Link :=
  match words line with
  | c :: p :: _ =>
    match readWord? 32 c, readWord? 32 p with
    | some c, some p => some ⟨c, p⟩
    | _, _ => none
  | _ => none

/-- A process table: the rows that could be read, in the table's order. -/
structure ProcessTable where
  /-- The rows, in order. -/
  links : List Link
deriving Repr

namespace ProcessTable

/-- Reads a process table, skipping every line that is not a row. -/
def ofText (s : String) : ProcessTable :=
  ⟨(lines s).filterMap Link.ofLine?⟩

/-- The children of a process, in table order and with repeats. -/
def childrenOf (t : ProcessTable) (p : Nat) : List Nat :=
  (t.links.filter (·.parent == p)).map (·.child)

/-- The processes of `cs` that are new: neither `root` nor in `seen`, nor an
earlier member of `cs`, in order. -/
def fresh (root : Nat) : List Nat → List Nat → List Nat
  | _, [] => []
  | seen, c :: cs =>
    if c == root || seen.contains c then fresh root seen cs
    else c :: fresh root (seen ++ [c]) cs

/-- One breadth-first step per unit of fuel: the head of the queue hands its
new children to the end of the queue and of the list found so far. -/
def walk (t : ProcessTable) (root : Nat) : Nat → List Nat → List Nat → List Nat
  | 0, _, found => found
  | _ + 1, [], found => found
  | n + 1, p :: queue, found =>
    let new := fresh root found (t.childrenOf p)
    walk t root n (queue ++ new) (found ++ new)

/-- The descendants of `root`, breadth first, each once, `root` itself never. -/
def descendants (t : ProcessTable) (root : Nat) : List Nat :=
  t.walk root (t.links.length + 1) [root] []

end ProcessTable

/-- The descendants of `root` in the process table written as `text`. -/
def descendantsIn (text : String) (root : Nat) : List Nat :=
  (ProcessTable.ofText text).descendants root

example : descendantsIn "  PID  PPID\n 1 0\n 10 1\n 11 10\n 12 10\n 13 11\n 20 1\n 21 20\n" 0 =
    [1, 10, 20, 11, 12, 21, 13] := by decide +kernel
example : descendantsIn "2 1\n1 2" 1 = [2] := by decide +kernel

end LaunchBench.Host
