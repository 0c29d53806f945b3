import LaunchBench.Pattern.Node
/-!
Matching with an automaton.

A lowered pattern is compiled into an automaton of steps over characters: a
step consumes one character of a class, checks an assertion, forks into two
steps, or accepts. Compilation works backwards from the step that follows a
piece, so every piece is compiled knowing its continuation. A repetition
compiles its body once per copy it needs: a bounded one once per copy up to
its bound, an unbounded one once per mandatory copy, the last of which loops.

A search runs all threads at once. At each position it follows forks and
assertions from the live steps, marking each step with the position it was
reached at so that no step is followed twice; a thread is also started at
every position, so that a match may begin anywhere. The cost is bounded by
the number of steps times the length of the text, whatever the pattern.

* **`Automaton.search_empty_accept`**: the automaton that accepts at once
  finds a match in any text.
-/

namespace LaunchBench.Pattern

/-- One step of an automaton; targets are indices of steps. -/
inductive Step where
  /-- Consumes a character within one of the sorted ranges. -/
  | chars (ranges : Array (Nat × Nat)) (next : Nat)
  /-- Goes on where the assertion holds. -/
  | look (l : Look) (next : Nat)
  /-- Goes on at both targets. -/
  | fork (first second : Nat)
  /-- A match ends here. -/
  | accept
  deriving Inhabited

/-- A compiled pattern: its steps and where matching starts. -/
structure Automaton where
  steps : Array Step
  start : Nat
  deriving Inhabited

/-- Whether a code point lies in one of the sorted ranges with index in `[lo, hi)`. -/
def rangesContain (rs : Array (Nat × Nat)) (n : Nat) (lo hi : Nat) : Bool :=
  if lo < hi then
    let mid := (lo + hi) / 2
    match rs[mid]? with
    | none => false
    | some (a, b) =>
      if n < a then rangesContain rs n lo mid
      else if b < n then rangesContain rs n (mid + 1) hi
      else true
  else false
termination_by hi - lo

/-! ### Building -/

/-- Building steps: the steps made so far. -/
abbrev BuildM := StateM (Array Step)

/-- Adds a step and gives its index. -/
def emit (s : Step) : BuildM Nat :=
  modifyGet fun steps => (steps.size, steps.push s)

/-- Compiles a piece given its continuation, giving its first step. -/
abbrev Piece := Nat → BuildM Nat

/-- A run of characters. -/
def runPiece : List Char → Piece
  | [], k => pure k
  | c :: cs, k => do
    let rest ← runPiece cs k
    emit (.chars #[(c.toNat, c.toNat)] rest)

/-- Pieces one after the other. -/
def chainPieces : List Piece → Piece
  | [], k => pure k
  | p :: ps, k => do p (← chainPieces ps k)

/-- A choice between pieces that all go on at the same continuation. -/
def forkPieces : List Piece → Piece
  | [], k => emit (.chars #[] k)
  | [p], k => p k
  | p :: ps, k => do
    let a ← p k
    let b ← forkPieces ps k
    emit (.fork a b)

/-- `n` copies of a piece, one after the other. -/
def copies (p : Piece) : Nat → Piece
  | 0, k => pure k
  | n + 1, k => do p (← copies p n k)

/-- `n` optional copies of a piece: each may stop the repetition. -/
def optionalCopies (p : Piece) : Nat → Piece
  | 0, k => pure k
  | n + 1, k => do
    let rest ← optionalCopies p n k
    let body ← p rest
    emit (.fork body k)

/-- Any number of copies of a piece: a fork that loops back through the body. -/
def loopPiece (p : Piece) : Piece := fun k => do
  let loop ← emit (.fork 0 0)
  let body ← p loop
  modify fun steps => steps.setIfInBounds loop (.fork body k)
  return loop

/-- One or more copies of a piece: the body, then a fork back to it. -/
def plusPiece (p : Piece) : Piece := fun k => do
  let loop ← emit (.fork 0 0)
  let body ← p loop
  modify fun steps => steps.setIfInBounds loop (.fork body k)
  return body

mutual
/-- The piece of a node. -/
def Node.piece : Node → Piece
  | .empty => pure
  | .literal cs => runPiece cs
  | .chars c _ => fun k => emit (.chars c.ranges.toArray k)
  | .look l => fun k => emit (.look l k)
  | .rep lo hi _ a =>
    let body := Node.piece a
    match lo, hi with
    | 0, none => loopPiece body
    | lo + 1, none => fun k => do copies body lo (← plusPiece body k)
    | lo, some h => fun k => do copies body lo (← optionalCopies body (h - lo) k)
  | .capture _ _ a => Node.piece a
  | .concat as => chainPieces (Node.pieces as)
  | .alt as => forkPieces (Node.pieces as)

/-- The pieces of a list of nodes. -/
def Node.pieces : List Node → List Piece
  | [] => []
  | a :: as => Node.piece a :: Node.pieces as
end

/-- The automaton of a node: its piece, followed by acceptance. -/
def Node.automaton (n : Node) : Automaton :=
  let (start, steps) := (do n.piece (← emit .accept)).run #[]
  { steps, start }

/-! ### Searching -/

/-- The threads at one position: the marks of the steps reached there, the character
steps waiting for the next character, and whether a match was found. -/
structure Threads where
  marks : Array Nat
  waiting : List Nat
  found : Bool

/-- Follows forks and assertions from the steps on the stack, at a position with
`before` and `after` around it and mark `gen`; each step is followed once. -/
def Automaton.close (m : Automaton) (before after : Option Char) (gen : Nat) :
    Nat → List Nat → Threads → Threads
  | 0, _, th => th
  | _, [], th => th
  | fuel + 1, s :: stack, th =>
    if th.marks[s]?.getD gen == gen then m.close before after gen fuel stack th
    else
      let th := { th with marks := th.marks.setIfInBounds s gen }
      match m.steps[s]? with
      | some (.chars _ _) => m.close before after gen fuel stack { th with waiting := s :: th.waiting }
      | some (.look l next) =>
        m.close before after gen fuel (if l.holds before after then next :: stack else stack) th
      | some (.fork a b) => m.close before after gen fuel (a :: b :: stack) th
      | some .accept => { th with found := true }
      | none => m.close before after gen fuel stack th

/-- The steps that the waiting character steps lead to after reading `c`. -/
def Automaton.advance (m : Automaton) (c : Char) (waiting : List Nat) : List Nat :=
  waiting.filterMap fun s =>
    match (m.steps[s]? : Option Step) with
    | some (.chars rs next) => if rangesContain rs c.toNat 0 rs.size then some next else none
    | _ => none

/-- Runs the threads from position `i` of the text, with `seeds` the steps reached by
reading the character before it. -/
def Automaton.runFrom (m : Automaton) (text : Array Char) : Nat → Nat → List Nat → Array Nat → Bool
  | 0, _, _, _ => false
  | fuel + 1, i, seeds, marks =>
    let before := if i = 0 then none else text[i - 1]?
    let after := text[i]?
    let stack := seeds ++ [m.start]
    let th := m.close before after (i + 1) (2 * m.steps.size + stack.length + 1) stack
      { marks, waiting := [], found := false }
    if th.found then true
    else match after with
      | none => false
      | some c => m.runFrom text fuel (i + 1) (m.advance c th.waiting.reverse) th.marks

/-- Whether the automaton matches somewhere in a text. -/
def Automaton.search (m : Automaton) (text : Array Char) : Bool :=
  m.runFrom text (text.size + 1) 0 [] (Array.replicate m.steps.size 0)

theorem Automaton.search_empty_accept (text : Array Char) :
    Automaton.search ⟨#[.accept], 0⟩ text = true := by
  simp [Automaton.search, Automaton.runFrom, Automaton.close]

end LaunchBench.Pattern
