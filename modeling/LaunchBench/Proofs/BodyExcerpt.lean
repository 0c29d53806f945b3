import Mathlib.Data.String.Basic
import LaunchBench.Probe.Prober
/-!
Cutting a body to an excerpt.

A probe that runs out of time shows the last body it got, cut to `maxExcerpt`, 2048 bytes. A
body that fits is shown whole. A longer one is cut where stepping back one byte at a time from
byte 2048 first meets a character boundary, and `...` marks the cut. The byte offsets that are
character boundaries are exactly the ends of the body's prefixes (`isValid_iff_exists_split`), so the
slice up to the cut never splits a character, and it is the longest prefix that fits. A
character takes at most four bytes, so a boundary lies at most three bytes before any offset
within the text (`exists_boundary_near`), and the search steps back at most three times.

* **`excerpt_spec`**: a body of at most 2048 bytes is its own excerpt; a longer body's excerpt
  is its longest prefix of at most 2048 bytes followed by `...`, cut at a character boundary
  that the search reaches in at most three steps back, so that at least 2045 bytes are kept.
-/

namespace LaunchBench.Probe

/-! ### Character boundaries -/

/-- The byte offsets of a text that are character boundaries are the ends of its prefixes. -/
theorem isValid_iff_exists_split {s : String} {i : Nat} :
    String.Pos.Raw.isValid s ⟨i⟩ = true ↔ ∃ p q, s = p ++ q ∧ i = p.utf8ByteSize := by
  rw [String.Pos.Raw.isValid_eq_true_iff, String.Pos.Raw.isValid_iff_exists_append]
  simp only [String.rawEndPos, String.Pos.Raw.mk.injEq]

/-- Every byte offset within a list of characters is at most three bytes past the end of one of
its prefixes: the prefixes grow one character, at most four bytes, at a time. -/
theorem exists_take_near (cs : List Char) :
    ∀ i ≤ String.utf8Len cs, ∃ k, String.utf8Len (cs.take k) ≤ i ∧ i ≤ String.utf8Len (cs.take k) + 3 := by
  induction cs with
  | nil =>
    intro i hi
    exact ⟨0, by simp_all⟩
  | cons c cs ih =>
    intro i hi
    have hc := c.utf8Size_le_four
    rw [String.utf8Len_cons] at hi
    by_cases hfirst : i < c.utf8Size
    · -- the offset falls inside the first character: the empty prefix is near enough
      exact ⟨0, by simp, by simp; omega⟩
    · obtain ⟨k, h₁, h₂⟩ := ih (i - c.utf8Size) (by omega)
      refine ⟨k + 1, ?_, ?_⟩ <;> simp only [List.take_succ_cons, String.utf8Len_cons] <;> omega

/-- Within a text, a character boundary lies at most three bytes before any offset. -/
theorem exists_boundary_near {s : String} {i : Nat} (hi : i ≤ s.utf8ByteSize) :
    ∃ j ≤ i, i ≤ j + 3 ∧ String.Pos.Raw.isValid s ⟨j⟩ = true := by
  rw [← String.utf8Len_toList] at hi
  obtain ⟨k, h₁, h₂⟩ := exists_take_near s.toList i hi
  refine ⟨_, h₁, h₂, ?_⟩
  rw [String.Pos.Raw.isValid_eq_true_iff, String.Pos.Raw.isValid_iff_exists_take_toList]
  exact ⟨k, by rw [String.utf8ByteSize_ofList]⟩

/-! ### The search for a boundary -/

section Search

variable (s : String)

theorem boundaryAtOrBefore_le (i : Nat) : boundaryAtOrBefore s i ≤ i := by
  induction i with
  | zero => exact Nat.le_refl _
  | succ i ih =>
    unfold boundaryAtOrBefore
    split <;> omega

/-- The search ends on a boundary: the start of a text is one. -/
theorem isValid_boundaryAtOrBefore (i : Nat) :
    String.Pos.Raw.isValid s ⟨boundaryAtOrBefore s i⟩ = true := by
  induction i with
  | zero => exact String.Pos.Raw.isValid_eq_true_iff.2 String.Pos.Raw.isValid_zero
  | succ i ih =>
    unfold boundaryAtOrBefore
    split
    · assumption
    · exact ih

/-- The search stops at the last boundary at or before where it starts. -/
theorem le_boundaryAtOrBefore {i j : Nat} (hj : j ≤ i) (hv : String.Pos.Raw.isValid s ⟨j⟩ = true) :
    j ≤ boundaryAtOrBefore s i := by
  induction i with
  | zero => exact hj
  | succ i ih =>
    unfold boundaryAtOrBefore
    split
    · exact hj
    · next hnot =>
      -- the start is no boundary, so the boundary `j` lies before it
      have hne : j ≠ i + 1 := fun h => hnot (h ▸ hv)
      exact ih (by omega)

/-- Started within the text, the search steps back at most three bytes. -/
theorem boundaryAtOrBefore_near {i : Nat} (hi : i ≤ s.utf8ByteSize) :
    i ≤ boundaryAtOrBefore s i + 3 := by
  obtain ⟨j, hj, hij, hv⟩ := exists_boundary_near hi
  have := le_boundaryAtOrBefore s hj hv
  omega

end Search

/-! ### The slice -/

/-- Slicing a text from its start to the end of one of its prefixes gives that prefix. -/
theorem extract_append_end (p q : String) : String.Pos.Raw.extract (p ++ q) 0 ⟨p.utf8ByteSize⟩ = p := by
  rw [String.Pos.Raw.extract.eq_1]
  by_cases hp : p = ""
  · subst hp
    simp
  · have hlen : p.utf8ByteSize ≠ 0 := fun h => hp (String.utf8ByteSize_eq_zero_iff.1 h)
    obtain ⟨c, cs, hcs⟩ : ∃ c cs, p.toList = c :: cs := by
      cases h : p.toList with
      | nil => exact absurd (String.toList_eq_nil_iff.1 h) hp
      | cons c cs => exact ⟨c, cs, rfl⟩
    -- the slice starts at once, at offset zero, and takes the prefix's characters
    have htake : String.Pos.Raw.extract.go₂ (p.toList ++ q.toList) 0 ⟨p.utf8ByteSize⟩ = p.toList :=
      String.Pos.Raw.extract.go₂_append_left _ _ 0 _ (by rw [String.utf8Len_toList, Nat.add_zero])
    rw [if_neg (by simp only [String.Pos.Raw.byteIdx_zero]; omega), String.toList_append, hcs,
      List.cons_append, String.Pos.Raw.extract.go₁.eq_2, if_pos rfl, ← List.cons_append, ← hcs,
      htake, String.ofList_toList]

/-- A body longer than the limit is cut at the boundary the search reaches, which is where the
longest prefix that fits ends. -/
theorem excerpt_of_long {b : String} (hlong : maxExcerpt < b.utf8ByteSize) :
    ∃ kept rest, b = kept ++ rest ∧ kept.utf8ByteSize = boundaryAtOrBefore b maxExcerpt ∧
      excerpt b = kept ++ "..." := by
  obtain ⟨kept, rest, hsplit, hend⟩ := isValid_iff_exists_split.1 (isValid_boundaryAtOrBefore b maxExcerpt)
  refine ⟨kept, rest, hsplit, hend.symm, ?_⟩
  rw [excerpt, if_neg (Nat.not_le.2 hlong), hend]
  nth_rewrite 1 [hsplit]
  rw [extract_append_end]

/-- The excerpt of a body: the body itself when it has at most 2048 bytes; otherwise its longest
prefix of at most 2048 bytes, followed by `...`. That prefix ends at the boundary where the
search stepping back from byte 2048 stops, after at most three steps, so it keeps at least 2045
bytes, and the slice up to it is at a character boundary. -/
theorem excerpt_spec (b : String) :
    (b.utf8ByteSize ≤ maxExcerpt → excerpt b = b) ∧
      (maxExcerpt < b.utf8ByteSize →
        ∃ kept rest, b = kept ++ rest ∧ excerpt b = kept ++ "..." ∧
          kept.utf8ByteSize ≤ maxExcerpt ∧
          (∀ p q, b = p ++ q → p.utf8ByteSize ≤ maxExcerpt → p.utf8ByteSize ≤ kept.utf8ByteSize) ∧
          kept.utf8ByteSize = boundaryAtOrBefore b maxExcerpt ∧
          maxExcerpt - boundaryAtOrBefore b maxExcerpt ≤ 3 ∧ maxExcerpt - 3 ≤ kept.utf8ByteSize ∧
          String.Pos.Raw.isValid b ⟨boundaryAtOrBefore b maxExcerpt⟩ = true) := by
  refine ⟨fun hshort => by rw [excerpt, if_pos hshort], fun hlong => ?_⟩
  obtain ⟨kept, rest, hsplit, hend, hcut⟩ := excerpt_of_long hlong
  have hle := boundaryAtOrBefore_le b maxExcerpt
  have hnear := boundaryAtOrBefore_near b (Nat.le_of_lt hlong)
  refine ⟨kept, rest, hsplit, hcut, by omega, fun p q hpq hp => ?_, hend, by omega, by omega,
    isValid_boundaryAtOrBefore b maxExcerpt⟩
  -- every prefix that fits ends at a boundary the search passes
  rw [hend]
  exact le_boundaryAtOrBefore b hp (isValid_iff_exists_split.2 ⟨p, q, hpq, rfl⟩)

end LaunchBench.Probe
