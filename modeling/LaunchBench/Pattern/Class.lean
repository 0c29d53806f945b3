import LaunchBench.Text.RangeTable
import LaunchBench.Pattern.Unicode.CaseFold
/-!
Character classes as sets of code points.

A class is a sorted list of disjoint inclusive ranges of code points, no two
of them touching, so that every set has exactly one form. The set
operations of bracketed classes (union, intersection, difference and
symmetric difference), negation and case folding all work on that form.

Negation depends on what the class ranges over. A class of characters is
negated within the Unicode scalar values, which leave out the surrogates
`D800`–`DFFF`; a class of bytes, used when Unicode is off, is negated within
`0`–`FF`.

Case folding adds to a class every character equal to one of its members up
to simple case folding; with Unicode off only ASCII letters fold.

* **`normalize_nil`**: the empty list of ranges is already in normal form.
-/

namespace LaunchBench.Pattern

/-- Merges a list of ranges sorted by their first code point, joining ranges that
overlap or touch. -/
def mergeSorted : List (Nat × Nat) → List (Nat × Nat)
  | [] => []
  | [r] => [r]
  | (a, b) :: (c, d) :: rest =>
    if c ≤ b + 1 then mergeSorted ((a, max b d) :: rest)
    else (a, b) :: mergeSorted ((c, d) :: rest)
termination_by rs => rs.length

/-- The normal form of a list of ranges: empty ranges dropped, sorted, merged. -/
def normalize (rs : List (Nat × Nat)) : List (Nat × Nat) :=
  mergeSorted ((rs.filter fun r => r.1 ≤ r.2).mergeSort fun x y => x.1 ≤ y.1)

theorem normalize_nil : normalize [] = [] := by
  simp [normalize, mergeSorted]

/-- The ranges of the points of `[start, top]` outside the sorted ranges `rs`. -/
def gaps (top : Nat) : List (Nat × Nat) → Nat → List (Nat × Nat)
  | [], start => if start ≤ top then [(start, top)] else []
  | (a, b) :: rest, start =>
    (if start < a then [(start, min (a - 1) top)] else []) ++ gaps top rest (b + 1)

/-- The common points of two normal lists of ranges. -/
def meet : List (Nat × Nat) → List (Nat × Nat) → List (Nat × Nat)
  | [], _ => []
  | _, [] => []
  | (a, b) :: xs, (c, d) :: ys =>
    let lo := max a c
    let hi := min b d
    let rest := if b < d then meet xs ((c, d) :: ys) else meet ((a, b) :: xs) ys
    if lo ≤ hi then (lo, hi) :: rest else rest
termination_by xs ys => xs.length + ys.length

/-- The largest code point. -/
def maxCodePoint : Nat := 0x10FFFF

/-- A set of code points, or of bytes when Unicode is off. -/
structure CharClass where
  /-- Sorted, disjoint, non-touching inclusive ranges. -/
  ranges : List (Nat × Nat)
  deriving Inhabited, DecidableEq, Repr

namespace CharClass

def empty : CharClass := ⟨[]⟩

/-- The code points from `lo` to `hi`. -/
def ofRange (lo hi : Nat) : CharClass := ⟨normalize [(lo, hi)]⟩

/-- One code point. -/
def single (n : Nat) : CharClass := ⟨[(n, n)]⟩

/-- The class of a list of ranges in any order. -/
def ofRanges (rs : List (Nat × Nat)) : CharClass := ⟨normalize rs⟩

/-- The class of a table. -/
def ofTable (t : Text.RangeTable) : CharClass := ⟨normalize t.ranges.toList⟩

def union (x y : CharClass) : CharClass := ⟨normalize (x.ranges ++ y.ranges)⟩

def inter (x y : CharClass) : CharClass := ⟨meet x.ranges y.ranges⟩

def diff (x y : CharClass) : CharClass := ⟨meet x.ranges (gaps maxCodePoint y.ranges 0)⟩

def symmDiff (x y : CharClass) : CharClass := (x.diff y).union (y.diff x)

/-- The union of a list of classes. -/
def unionAll (xs : List CharClass) : CharClass := ⟨normalize (xs.flatMap (·.ranges))⟩

/-- The Unicode scalar values: every code point but the surrogates. -/
def scalars : CharClass := ⟨[(0, 0xD7FF), (0xE000, maxCodePoint)]⟩

/-- The scalar values outside a class of characters. -/
def negate (x : CharClass) : CharClass := scalars.diff x

/-- The bytes outside a class of bytes. -/
def negateBytes (x : CharClass) : CharClass := ⟨gaps 0xFF x.ranges 0⟩

/-- Whether a code point is in the class. -/
def contains (x : CharClass) (n : Nat) : Bool :=
  x.ranges.any fun r => r.1 ≤ n && n ≤ r.2

/-- Whether every member is an ASCII character. -/
def isAscii (x : CharClass) : Bool := x.ranges.all fun r => r.2 < 128

/-- The one member of a class with exactly one member. -/
def singleton? (x : CharClass) : Option Nat :=
  match x.ranges with
  | [(a, b)] => if a = b then some a else none
  | _ => none

/-- The number of members. -/
def count (x : CharClass) : Nat := (x.ranges.map fun r => r.2 + 1 - r.1).foldr (· + ·) 0

/-- Adds every character equal to a member up to simple case folding. -/
def foldCase (x : CharClass) : CharClass :=
  let extra := Unicode.caseOrbits.entries.toList.filterMap fun (n, orbit) =>
    if x.contains n then some (orbit.map fun m => (m, m)) else none
  ⟨normalize (x.ranges ++ extra.flatten)⟩

/-- Adds the other case of every ASCII letter in the class. -/
def foldAsciiCase (x : CharClass) : CharClass :=
  let shifted := x.ranges.flatMap fun (a, b) =>
    let upper := (if max a 65 ≤ min b 90 then [(max a 65 + 32, min b 90 + 32)] else [])
    let lower := (if max a 97 ≤ min b 122 then [(max a 97 - 32, min b 122 - 32)] else [])
    upper ++ lower
  ⟨normalize (x.ranges ++ shifted)⟩

end CharClass

end LaunchBench.Pattern
