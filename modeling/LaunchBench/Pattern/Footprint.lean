import LaunchBench.Pattern.Node
import LaunchBench.Text.Utf8Ranges
/-!
The memory an automaton compiled from a pattern takes.

A pattern is compiled into two automata over the bytes of UTF-8 text: one
that reads forwards, keeping capture groups, and one that reads backwards
without them. Each state takes 32 bytes; a state that chooses a byte range
keeps 8 bytes per range when it has several, and a fork keeps 4 bytes per
branch. A compiled pattern may take at most `sizeLimit` bytes in either
direction.

The pieces compile as follows.

* A run of characters takes a state per byte, an assertion or the empty
  node one state.
* A class within ASCII takes a state choosing among its ranges and an end
  state. A larger class is cut into sequences of byte ranges: forwards they
  form a tree whose equal subtrees are shared, backwards a fork over chains
  that share their first bytes.
* A sequence links its pieces; an alternative forks into its branches and
  joins them again, except that branches which are all runs of characters
  form a trie.
* Repetitions copy their body: `n` mandatory copies, then a fork before each
  optional copy, or a loop back for an unbounded one.

Linking the end of a piece that is itself a fork adds one more branch to it.

* **`Cost.times_zero`**: no copies compile to one empty state.
-/

namespace LaunchBench.Pattern

/-- The most memory, in bytes, that a compiled pattern may take. -/
def sizeLimit : Nat := 10485760

/-- What compiling a piece adds to an automaton: states, the memory its states keep
besides themselves, and whether it ends in a fork. -/
structure Cost where
  states : Nat
  extra : Nat
  endsInFork : Bool
  deriving Inhabited, DecidableEq, Repr

namespace Cost

/-- The memory that linking the end of the piece to what follows adds. -/
def link (c : Cost) : Nat := if c.endsInFork then 4 else 0

/-- The cost of `n` linked copies of a piece; no copies compile to one empty state. -/
def times (c : Cost) (n : Nat) : Cost :=
  if n = 0 then ⟨1, 0, false⟩
  else ⟨n * c.states, n * c.extra + (n - 1) * c.link, c.endsInFork⟩

theorem times_zero (c : Cost) : c.times 0 = ⟨1, 0, false⟩ := rfl

end Cost

/-! ### Classes beyond ASCII -/

/-- A state the forward compiler of a class has not finished: its transitions so far, as
first byte, last byte and target, and the byte range whose target is not known yet. -/
structure OpenState where
  done : Array (Nat × Nat × Nat) := #[]
  pending : Option (Nat × Nat) := none
  deriving Inhabited

/-- The transitions of an open state once its pending range leads to `target`. -/
def OpenState.close (s : OpenState) (target : Nat) : Array (Nat × Nat × Nat) :=
  match s.pending with
  | some (a, z) => s.done.push (a, z, target)
  | none => s.done

/-- The forward compiler of a class. Finished states are shared by their transitions, kept
as a table from transitions to state; the open states form the path from the root to the
last sequence added. The class's end state is `0`. -/
structure SharedTree where
  finished : List (Array (Nat × Nat × Nat) × Nat) := []
  count : Nat := 0
  extra : Nat := 0
  path : Array OpenState := #[{}]

namespace SharedTree

/-- Finishes a state, sharing an equal finished one. -/
def finish (b : SharedTree) (t : Array (Nat × Nat × Nat)) : SharedTree × Nat :=
  match b.finished.lookup t with
  | some id => (b, id)
  | none =>
    let id := b.count + 1
    ({ b with finished := (t, id) :: b.finished, count := id, extra := b.extra + 8 * t.size }, id)

/-- Finishes the open states below depth `keep`, deepest first, and gives the state at
depth `keep` its pending transition. -/
def closeFrom (b : SharedTree) (keep : Nat) : SharedTree :=
  let rec go : Nat → SharedTree → Nat → SharedTree
    | 0, b, _ => b
    | fuel + 1, b, next =>
      if keep + 1 < b.path.size then
        let top := b.path.back?.getD default
        let (b, id) := { b with path := b.path.pop }.finish (top.close next)
        go fuel b id
      else
        { b with path := b.path.modify (b.path.size - 1) fun s => ⟨s.close next, none⟩ }
  go b.path.size b 0

/-- Adds a sequence of byte ranges, sharing the open states it agrees with. -/
def add (b : SharedTree) (seq : List (Nat × Nat)) : SharedTree :=
  let shared := ((seq.zip b.path.toList).takeWhile fun (r, s) => s.pending = some r).length
  let b := b.closeFrom shared
  match seq.drop shared with
  | [] => b
  | r :: rs =>
    let path := b.path.modify (b.path.size - 1) fun s => { s with pending := some r }
    { b with path := path ++ (rs.map fun r => ({ pending := some r } : OpenState)).toArray }

end SharedTree

/-- The sequences of byte ranges of a class. -/
def classSequences (c : CharClass) : List (List (Nat × Nat)) :=
  c.ranges.flatMap fun (lo, hi) => Text.utf8Sequences lo hi

/-- The forward cost of a class beyond ASCII: the end state and the shared tree. -/
def forwardClassCost (c : CharClass) : Cost :=
  let b := (classSequences c).foldl SharedTree.add {}
  let b := b.closeFrom 0
  let (b, _) := b.finish (b.path[0]?.getD default).done
  ⟨b.count + 1, b.extra, false⟩

/-- The backward cost of a class beyond ASCII: a fork and an end state, and a chain per
sequence whose leading ranges are shared with earlier chains. The chains made so far are
kept as a table from a state and a byte range to the state that range leads to. -/
def backwardClassCost (c : CharClass) : Cost :=
  let seqs := classSequences c
  let step (st : Nat × List ((Nat × Nat × Nat) × Nat) × Nat) (r : Nat × Nat) :=
    let (src, cache, count) := st
    match cache.lookup (src, r.1, r.2) with
    | some id => (id, cache, count)
    | none => (count + 1, ((src, r.1, r.2), count + 1) :: cache, count + 1)
  let (_, count) := seqs.foldl (fun (acc : List ((Nat × Nat × Nat) × Nat) × Nat) seq =>
    let (_, cache, count) := seq.foldl step (0, acc.1, acc.2)
    (cache, count)) ([], 0)
  ⟨count + 2, 4 * seqs.length, false⟩

/-! ### Alternatives of literal runs -/

/-- A state of the trie of literal branches: its transitions by byte, in increasing order
within each group, and where each group ended when a branch stopped here. Later groups
are tried only after the match that ends a group. -/
structure TrieNode where
  edges : Array (Nat × Nat) := #[]
  groupEnds : Array Nat := #[]
  deriving Inhabited

/-- Adds a branch, given by its bytes in the order they are read, to a trie. -/
def trieInsert (t : Array TrieNode) (bytes : List Nat) : Array TrieNode :=
  let (t, last) := bytes.foldl (fun (acc : Array TrieNode × Nat) b =>
    let (t, cur) := acc
    let node := t[cur]?.getD {}
    let start := node.groupEnds.back?.getD 0
    let active := node.edges.extract start node.edges.size
    match active.find? (·.1 == b) with
    | some (_, child) => (t, child)
    | none =>
      let child := t.size
      let pos := start + (active.filter (·.1 < b)).size
      let edges := (node.edges.extract 0 pos).push (b, child) ++ node.edges.extract pos node.edges.size
      ((t.modify cur fun n => { n with edges }).push {}, child)) (t, 0)
  let node := t[last]?.getD {}
  if node.edges.isEmpty && !node.groupEnds.isEmpty then t
  else t.modify last fun n => { n with groupEnds := n.groupEnds.push n.edges.size }

/-- The states and extra memory that a trie state and the states below it compile to: a
choice per nonempty group, and a fork over the groups and the matches between them. -/
def trieCost (t : Array TrieNode) : Nat → Nat → Nat × Nat
  | 0, _ => (0, 0)
  | fuel + 1, s =>
    let node := t[s]?.getD {}
    let ends := node.groupEnds.toList ++ [node.edges.size]
    let starts := 0 :: node.groupEnds.toList
    let groups := (starts.zip ends).map fun (a, z) => node.edges.extract a z
    let below := groups.foldl (fun acc g => g.foldl (fun acc (_, child) =>
      if (t[child]?.getD {}).edges.isEmpty then acc
      else
        let (st, ex) := trieCost t fuel child
        (acc.1 + st, acc.2 + ex)) acc) (0, 0)
    let choices := groups.filter (!·.isEmpty)
    let branches := choices.length + (groups.length - 1)
    (below.1 + choices.length + 1,
      below.2 + (choices.map fun g => if g.size ≥ 2 then 8 * g.size else 0).foldr (· + ·) 0 + 4 * branches)

/-- The cost of an alternative whose branches are all literal runs. -/
def literalAltCost (forward : Bool) (branches : List (List Char)) : Cost :=
  let t := branches.foldl (fun t cs =>
    let bytes := Text.charsBytes cs
    trieInsert t (if forward then bytes else bytes.reverse)) #[{}]
  let (st, ex) := trieCost t t.size 0
  ⟨st + 1, ex, false⟩

/-! ### Whole patterns -/

/-- The cost of pieces linked one after the other, in the order they are read. -/
def sequenceCost (forward : Bool) (cs : List Cost) : Cost :=
  let order := if forward then cs else cs.reverse
  let links := ((order.dropLast).map Cost.link).foldr (· + ·) 0
  ⟨(cs.map (·.states)).foldr (· + ·) 0, (cs.map (·.extra)).foldr (· + ·) 0 + links,
    (order.getLast?.map (·.endsInFork)).getD false⟩

/-- The cost of a fork into branches that join again. -/
def forkCost : List Cost → Cost
  | [] => ⟨1, 0, false⟩
  | [c] => c
  | cs => ⟨(cs.map (·.states)).foldr (· + ·) 0 + 2,
      (cs.map (·.extra)).foldr (· + ·) 0 + 4 * cs.length + (cs.map Cost.link).foldr (· + ·) 0, false⟩

/-- The cost of repeating a body of cost `s` from `lo` to `hi` times; `bodyMin` is the
fewest characters the body matches. -/
def repCost (lo : Nat) (hi : Option Nat) (bodyMin : Option Nat) (s : Cost) : Cost :=
  match lo, hi with
  | 0, some 1 => ⟨s.states + 2, s.extra + 8 + s.link, false⟩
  | 0, none =>
    if 0 < bodyMin.getD 0 then ⟨s.states + 1, s.extra + 4 + s.link, true⟩
    else ⟨s.states + 3, s.extra + 16 + s.link, false⟩
  | 1, none => ⟨s.states + 1, s.extra + 4 + s.link, true⟩
  | n, none =>
    let p := s.times (n - 1)
    ⟨p.states + s.states + 1, p.extra + s.extra + p.link + s.link + 4, true⟩
  | lo, some hi =>
    if lo = hi then s.times lo
    else
      let p := s.times lo
      let k := hi - lo
      ⟨p.states + 1 + k * (s.states + 1), p.extra + k * (s.extra + 8) + p.link + k * s.link, false⟩

/-- The literal runs of branches that are all literal runs. -/
def literalBranches : List Node → Option (List (List Char))
  | [] => some []
  | .literal cs :: rest => (literalBranches rest).map (cs :: ·)
  | _ => none

mutual
/-- The cost of a node, compiled forwards or backwards. -/
def Node.cost (forward : Bool) : Node → Cost
  | .empty => ⟨1, 0, false⟩
  | .literal cs => ⟨(Text.charsBytes cs).length, 0, false⟩
  | .chars c _ =>
    if c.isAscii then ⟨2, 8 * c.ranges.length, false⟩
    else if forward then forwardClassCost c else backwardClassCost c
  | .look _ => ⟨1, 0, false⟩
  | .capture _ _ a =>
    let s := Node.cost forward a
    if forward then ⟨s.states + 2, s.extra + s.link, false⟩ else s
  | .concat as => sequenceCost forward (Node.costs forward as)
  | .alt as =>
    match literalBranches as with
    | some runs => if 2 ≤ runs.length then literalAltCost forward runs
      else forkCost (Node.costs forward as)
    | none => forkCost (Node.costs forward as)
  | .rep lo hi _ a => repCost lo hi a.minLength (Node.cost forward a)

/-- The costs of a list of nodes. -/
def Node.costs (forward : Bool) : List Node → List Cost
  | [] => []
  | a :: as => Node.cost forward a :: Node.costs forward as
end

/-- The memory of the forward and the backward automaton of a pattern. Forwards the
pattern is wrapped in the capture group of the whole match, and both directions add a
start state, a match state, and a few bytes of bookkeeping for the one pattern. -/
def Node.footprint (n : Node) : Nat × Nat :=
  let f := n.cost true
  let b := n.cost false
  (32 * (f.states + 4) + f.extra + f.link + 28, 32 * (b.states + 2) + b.extra + b.link + 4)

/-- Whether both automata of a pattern stay within the size limit. -/
def Node.fitsLimit (n : Node) : Bool :=
  let (f, b) := n.footprint
  f ≤ sizeLimit && b ≤ sizeLimit

end LaunchBench.Pattern
