/-!
Tables of code points.

A property of characters is stored as a sorted list of disjoint ranges of
code points, written in hexadecimal (`30-39 41-5A 5F`), and looked up by
binary search. A character mapping is stored as entries `from:to,to` and is
looked up the same way.
-/

namespace LaunchBench.Text

/-- The value of a hexadecimal numeral; characters other than hex digits count as zero. -/
def hexValue (s : String) : Nat :=
  s.toList.foldl (fun n c =>
    let d := if '0' ≤ c && c ≤ '9' then c.toNat - '0'.toNat
      else if 'A' ≤ c && c ≤ 'F' then c.toNat - 'A'.toNat + 10
      else if 'a' ≤ c && c ≤ 'f' then c.toNat - 'a'.toNat + 10
      else 0
    16 * n + d) 0

/-- A set of code points as sorted, disjoint, inclusive ranges. -/
structure RangeTable where
  ranges : Array (Nat × Nat)
  deriving Inhabited

namespace RangeTable

/-- Reads ranges written as `lo-hi` or `cp`, separated by spaces. -/
def ofHex (s : String) : RangeTable :=
  ⟨((s.splitOn " ").filter (· ≠ "")).toArray.map fun item =>
    match item.splitOn "-" with
    | [lo, hi] => (hexValue lo, hexValue hi)
    | _ => (hexValue item, hexValue item)⟩

/-- Whether `n` lies in one of the ranges with index in `[lo, hi)`. -/
def searchIn (rs : Array (Nat × Nat)) (n : Nat) (lo hi : Nat) : Bool :=
  if lo < hi then
    let mid := (lo + hi) / 2
    match rs[mid]? with
    | none => false
    | some (a, b) =>
      if n < a then searchIn rs n lo mid
      else if b < n then searchIn rs n (mid + 1) hi
      else true
  else false
termination_by hi - lo

/-- Whether a code point is in the table. -/
def contains (t : RangeTable) (n : Nat) : Bool :=
  searchIn t.ranges n 0 t.ranges.size

/-- Whether a character is in the table. -/
def has (t : RangeTable) (c : Char) : Bool :=
  t.contains c.toNat

end RangeTable

/-- A mapping from code points to lists of code points, sorted by source. -/
structure CharMap where
  entries : Array (Nat × List Nat)
  deriving Inhabited

namespace CharMap

/-- Reads entries written as `from:to,to,...`, separated by spaces. -/
def ofHex (s : String) : CharMap :=
  ⟨((s.splitOn " ").filter (· ≠ "")).toArray.map fun item =>
    match item.splitOn ":" with
    | [src, dst] => (hexValue src, (dst.splitOn ",").map hexValue)
    | _ => (hexValue item, [])⟩

/-- The image of `n` among the entries with index in `[lo, hi)`. -/
def searchIn (es : Array (Nat × List Nat)) (n : Nat) (lo hi : Nat) : Option (List Nat) :=
  if lo < hi then
    let mid := (lo + hi) / 2
    match es[mid]? with
    | none => none
    | some (a, v) =>
      if n < a then searchIn es n lo mid
      else if a < n then searchIn es n (mid + 1) hi
      else some v
  else none
termination_by hi - lo

/-- The image of a code point, if the mapping has an entry for it. -/
def find? (m : CharMap) (n : Nat) : Option (List Nat) :=
  searchIn m.entries n 0 m.entries.size

/-- Builds a mapping that sends each member of a group to the whole group. The groups
are written as code points separated by spaces, and separated from each other by `;`. -/
def ofGroups (s : String) : CharMap :=
  let groups := ((s.splitOn ";").filter (· ≠ "")).map fun g =>
    ((g.splitOn " ").filter (· ≠ "")).map hexValue
  let pairs := groups.flatMap fun g => g.map fun m => (m, g)
  ⟨(pairs.mergeSort fun a b => a.1 ≤ b.1).toArray⟩

end CharMap

end LaunchBench.Text
