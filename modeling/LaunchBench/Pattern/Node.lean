import LaunchBench.Pattern.Class
import LaunchBench.Pattern.Unicode.Word
/-!
The matchable form of a pattern.

A lowered pattern is a tree of nodes: runs of literal characters, single
characters drawn from a class, zero-width assertions about the neighbouring
characters, repetitions, capture groups, sequences and alternatives. Flags
have been resolved away: case-insensitive parts carry their folding in their
classes, and each assertion says exactly which line endings and word
characters it uses.

Nodes are built by smart constructors that keep one form for each shape:

* `Node.concatOf` flattens nested sequences, joins adjacent runs of
  characters and drops empty items;
* `Node.altOf` flattens nested alternatives, turns an alternative of single
  characters or classes into one class, and factors out a common leading
  part of sequences;
* `Node.repOf` repeats a node that only matches the empty text at most
  once, and drops trivial repetitions;
* `Node.ofClass` turns an empty class into the node that never matches and
  a class of one member into that character.

The size of the automaton compiled from a node depends on this form, so the
constructors are part of what a pattern means.

* **`Node.ofClass_empty`**: an empty class never matches.
-/

namespace LaunchBench.Pattern

/-- Zero-width assertions, resolved to what they look at. -/
inductive Look where
  | start | finish
  | startLF | endLF | startCRLF | endCRLF
  | wordAscii | notWordAscii | wordUnicode | notWordUnicode
  | wordStartAscii | wordEndAscii | wordStartUnicode | wordEndUnicode
  | wordStartHalfAscii | wordEndHalfAscii | wordStartHalfUnicode | wordEndHalfUnicode
  deriving DecidableEq, Repr, BEq

/-- An ASCII word character: a letter, a digit or an underscore. -/
def isAsciiWord (c : Char) : Bool := c.isAlphanum || c = '_'

/-- A word character in the Unicode sense. -/
def isUnicodeWord (c : Char) : Bool := Unicode.wordTable.has c

namespace Look

/-- Whether the assertion holds between `before` and `after`, the characters on either
side of a position (`none` at an end of the text). -/
def holds (l : Look) (before after : Option Char) : Bool :=
  let wa (o : Option Char) := (o.map isAsciiWord).getD false
  let wu (o : Option Char) := (o.map isUnicodeWord).getD false
  match l with
  | start => before.isNone
  | finish => after.isNone
  | startLF => before.isNone || before = some '\n'
  | endLF => after.isNone || after = some '\n'
  | startCRLF => before.isNone || before = some '\n' || (before = some '\r' && after ≠ some '\n')
  | endCRLF => after.isNone || after = some '\r' || (after = some '\n' && before ≠ some '\r')
  | wordAscii => wa before != wa after
  | notWordAscii => wa before == wa after
  | wordUnicode => wu before != wu after
  | notWordUnicode => wu before == wu after
  | wordStartAscii => !wa before && wa after
  | wordEndAscii => wa before && !wa after
  | wordStartUnicode => !wu before && wu after
  | wordEndUnicode => wu before && !wu after
  | wordStartHalfAscii => !wa before
  | wordEndHalfAscii => !wa after
  | wordStartHalfUnicode => !wu before
  | wordEndHalfUnicode => !wu after

end Look

/-- A lowered pattern. -/
inductive Node where
  /-- Matches the empty text. -/
  | empty
  /-- Matches a run of characters, at least one. -/
  | literal (cs : List Char)
  /-- Matches one character of the class; `bytes` marks a class built with Unicode off. -/
  | chars (c : CharClass) (bytes : Bool)
  /-- Matches the empty text where the assertion holds. -/
  | look (l : Look)
  /-- Matches `a` at least `lo` times and at most `hi` times (`none`: no bound). -/
  | rep (lo : Nat) (hi : Option Nat) (greedy : Bool) (a : Node)
  /-- Matches `a`, recording it as the capture group `index`. -/
  | capture (index : Nat) (name : Option String) (a : Node)
  /-- Matches its items one after the other; there are at least two. -/
  | concat (as : List Node)
  /-- Matches one of its branches; there are at least two. -/
  | alt (as : List Node)
  deriving Inhabited, BEq

namespace Node

/-- The node that matches nothing: the empty class. -/
def fail : Node := .chars CharClass.empty true

/-- The node of a class: the empty class matches nothing, and a class of one member is
that character. -/
def ofClass (c : CharClass) (bytes : Bool) : Node :=
  if c.ranges.isEmpty then fail
  else match c.singleton? with
    | some n => .literal [Char.ofNat n]
    | none => .chars c bytes

theorem ofClass_empty (bytes : Bool) : ofClass CharClass.empty bytes = fail := by
  simp [ofClass, CharClass.empty]

mutual
/-- The fewest characters a match takes; `none` if nothing can match. -/
def minLength : Node → Option Nat
  | empty => some 0
  | literal cs => some cs.length
  | chars c _ => if c.ranges.isEmpty then none else some 1
  | look _ => some 0
  | rep lo _ _ a => (minLength a).map (· * lo)
  | capture _ _ a => minLength a
  | concat as => minLengthSum as
  | alt as => minLengthLeast as

/-- The fewest characters a sequence takes. -/
def minLengthSum : List Node → Option Nat
  | [] => some 0
  | a :: as =>
    match minLength a, minLengthSum as with
    | some x, some y => some (x + y)
    | _, _ => none

/-- The fewest characters a branch takes; `none` as soon as one branch cannot match. -/
def minLengthLeast : List Node → Option Nat
  | [] => none
  | [a] => minLength a
  | a :: as =>
    match minLength a, minLengthLeast as with
    | some x, some y => some (min x y)
    | _, _ => none
end

mutual
/-- The most characters a match takes; `none` if there is no bound or nothing can match. -/
def maxLength : Node → Option Nat
  | empty => some 0
  | literal cs => some cs.length
  | chars c _ => if c.ranges.isEmpty then none else some 1
  | look _ => some 0
  | rep _ hi _ a => hi.bind fun h => (maxLength a).map (· * h)
  | capture _ _ a => maxLength a
  | concat as => maxLengthSum as
  | alt as => maxLengthMost as

/-- The most characters a sequence takes. -/
def maxLengthSum : List Node → Option Nat
  | [] => some 0
  | a :: as =>
    match maxLength a, maxLengthSum as with
    | some x, some y => some (x + y)
    | _, _ => none

/-- The most characters a branch takes; `none` as soon as one branch has no bound. -/
def maxLengthMost : List Node → Option Nat
  | [] => none
  | [a] => maxLength a
  | a :: as =>
    match maxLength a, maxLengthMost as with
    | some x, some y => some (max x y)
    | _, _ => none
end

mutual
/-- The number of nodes in a tree. -/
def weight : Node → Nat
  | rep _ _ _ a => weight a + 1
  | capture _ _ a => weight a + 1
  | concat as => weightAll as + 1
  | alt as => weightAll as + 1
  | _ => 1

/-- The number of nodes in a list of trees. -/
def weightAll : List Node → Nat
  | [] => 0
  | a :: as => weight a + weightAll as
end

/-- Adds an item to a sequence kept last item first: empty items vanish and a run of
characters joins the run before it. -/
def pushItem (acc : List Node) : Node → List Node
  | .empty => acc
  | .literal cs =>
    match acc with
    | .literal ds :: rest => .literal (ds ++ cs) :: rest
    | _ => .literal cs :: acc
  | n => n :: acc

/-- The sequence of some nodes, in normal form. -/
def concatOf (items : List Node) : Node :=
  let flat := items.foldl (fun acc n =>
    match n with
    | .concat subs => subs.foldl pushItem acc
    | n => pushItem acc n) []
  match flat.reverse with
  | [] => .empty
  | [a] => a
  | as => .concat as

/-- The characters of branches that are each a single character. -/
def singleChars : List Node → Option (List Char)
  | [] => some []
  | .literal [c] :: rest => (singleChars rest).map (c :: ·)
  | _ => none

/-- The union of branches that are each a class. -/
def classUnion : List Node → Option CharClass
  | [] => some CharClass.empty
  | .chars c _ :: rest => (classUnion rest).map c.union
  | _ => none

/-- The items of branches that are each a sequence. -/
def sequences : List Node → Option (List (List Node))
  | [] => some []
  | .concat xs :: rest => (sequences rest).map (xs :: ·)
  | _ => none

/-- The length of the longest common beginning of two lists of nodes. -/
def commonPrefixLength : List Node → List Node → Nat
  | a :: as, b :: bs => if a == b then commonPrefixLength as bs + 1 else 0
  | _, _ => 0

/-- Alternatives in normal form, with at most `fuel` rounds of factoring. -/
def altWith : Nat → List Node → Node
  | fuel, subs =>
    let flat := subs.flatMap fun n =>
      match n with
      | .alt xs => xs
      | n => [n]
    match flat with
    | [] => fail
    | [a] => a
    | _ =>
      match singleChars flat with
      | some cs => ofClass (CharClass.ofRanges (cs.map fun c => (c.toNat, c.toNat))) false
      | none =>
        match classUnion flat with
        | some c => ofClass c false
        | none =>
          match fuel, sequences flat with
          | fuel + 1, some (first :: others) =>
            let len := others.foldl (fun l xs => commonPrefixLength (first.take l) xs) first.length
            if len = 0 then .alt flat
            else
              let suffixes := (first :: others).map fun xs => concatOf (xs.drop len)
              concatOf (first.take len ++ [altWith fuel suffixes])
          | _, _ => .alt flat

/-- The alternatives between some nodes, in normal form. Every round of factoring takes
nodes away, so the weight of the branches bounds the rounds. -/
def altOf (subs : List Node) : Node :=
  altWith (weightAll subs) subs

/-- The repetition of `a` from `lo` to `hi` times, in normal form. -/
def repOf (lo : Nat) (hi : Option Nat) (greedy : Bool) (a : Node) : Node :=
  let (lo, hi) :=
    if a.maxLength = some 0 then (min lo 1, some (match hi with | some h => min h 1 | none => 1))
    else (lo, hi)
  if lo = 0 && hi = some 0 then .empty
  else if lo = 1 && hi = some 1 then a
  else .rep lo hi greedy a

end Node

end LaunchBench.Pattern
