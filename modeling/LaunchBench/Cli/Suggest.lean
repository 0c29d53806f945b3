import LaunchBench.Decimal.Binary64
/-!
Suggestions for mistyped names.

A name is compared with each candidate by Jaro similarity: characters match
when they are equal and no further apart than half the longer length less
one, each character of the candidate matching at most once; half the matched
characters that come in a different order are transpositions. The
similarity of `a` and `b` with `m` matches and `t` transpositions is
`(m / |a| + m / |b| + (m - t) / m) / 3`, computed in binary64 with each
quotient and sum rounded to nearest. Candidates above the binary64 number
nearest `0.7` are suggested, the least similar first, so the best one is
last. The rounding matters: one match of a single letter with a ten-letter
name scores `2.1 / 3`, which rounds just above the threshold.

* **`similarNames_similar`**: every name suggested is similar enough.
-/

namespace LaunchBench.Cli

/-- Marks the characters of `a` that match one of `b`, with the flags of
`b`'s matched characters and the number of matches. -/
def jaroMatches (a b : List Char) : List Bool × List Bool × Nat :=
  let range := max a.length b.length / 2 - 1
  (List.range a.length).foldl (fun (acc : List Bool × List Bool × Nat) i =>
    let (aFlags, bFlags, m) := acc
    let c := a.getD i ' '
    let lo := i - range
    let hi := min b.length (i + range + 1)
    match (List.range hi).find? (fun j => lo ≤ j && b.getD j ' ' == c && !bFlags.getD j true) with
    | some j => (aFlags ++ [true], bFlags.set j true, m + 1)
    | none => (aFlags ++ [false], bFlags, m)) ([], List.replicate b.length false, 0)

/-- The characters whose flag is set, in order. -/
def flagged (cs : List Char) (flags : List Bool) : List Char :=
  (cs.zip flags).filterMap fun (c, f) => if f then some c else none

/-- The Jaro similarity of two texts, in binary64. -/
def similarity (a b : String) : Decimal.Binary64 :=
  let a := a.toList
  let b := b.toList
  if a.isEmpty && b.isEmpty then Decimal.Binary64.ofRatio 1 1
  else if a.isEmpty || b.isEmpty then ⟨0⟩
  else
    let (aFlags, bFlags, m) := jaroMatches a b
    if m == 0 then ⟨0⟩
    else
      let t := (((flagged a aFlags).zip (flagged b bFlags)).filter fun (x, y) => x != y).length / 2
      (((Decimal.Binary64.ofRatio m a.length).add (Decimal.Binary64.ofRatio m b.length)).add
        (Decimal.Binary64.ofRatio (m - t) m)).divNat 3

/-- The least similarity worth a suggestion, exclusive: the binary64 number nearest `0.7`. -/
def similarityThreshold : Decimal.Binary64 := Decimal.Binary64.ofRatio 7 10

/-- The candidates similar enough to `v` to suggest, least similar first. -/
def similarNames (v : String) (candidates : List String) : List String :=
  let scored := candidates.filterMap fun c =>
    let s := similarity v c
    if similarityThreshold.lt s then some (s, c) else none
  (scored.mergeSort fun x y => !y.1.lt x.1).map (·.2)

theorem similarNames_similar (v c : String) (cs : List String) (h : c ∈ similarNames v cs) :
    similarityThreshold.lt (similarity v c) = true := by
  simp only [similarNames, List.mem_map] at h
  obtain ⟨⟨s, c'⟩, hmem, rfl⟩ := h
  rw [List.mem_mergeSort] at hmem
  simp only [List.mem_filterMap] at hmem
  obtain ⟨c'', _, hc⟩ := hmem
  by_cases hs : similarityThreshold.lt (similarity v c'') = true
  · simp [hs] at hc
    obtain ⟨rfl, rfl⟩ := hc
    exact hs
  · simp [hs] at hc

end LaunchBench.Cli
