import Mathlib.Data.Nat.Digits.Defs
import LaunchBench.Host.Tools
import LaunchBench.Proofs.SettingValues
/-!
Reading a number from a tool's answer.

A process status tool answers with a header, blank lines and a number, in some order. The
number read is the value of the first line that is a decimal numeral once the blanks at its
ends are trimmed (`DigitLine`); later lines are never read, not even when that first numeral is
too large for a signed 64-bit word, which gives `-1`, "not known", as no numeral at all does.
The value `-1` is never a value read, so a caller that falls back on another source when the
answer is negative falls back exactly when nothing was read.

* **`firstNumber_spec`**: the answer is `-1` or a value of at least zero; it is `n` exactly
  when the first numeral line spells `n` and `n` fits the word, and `-1` exactly when no line
  is a numeral or the first numeral is too large.
-/

namespace LaunchBench.Host

open Text

/-- `l`, with the blanks at its ends trimmed, is a run of one or more ASCII digits spelling `v`
in decimal. -/
def DigitLine (l : String) (v : Nat) : Prop :=
  (trimBlank l).toList ≠ [] ∧ (∀ c ∈ (trimBlank l).toList, c.isDigit = true) ∧
    v = Nat.ofDigits 10 ((trimBlank l).toList.reverse.map digitValue)

/-- The first line of `out` that is a numeral, once trimmed, spells `v`. -/
def FirstDigitLine (out : String) (v : Nat) : Prop :=
  ∃ pre l post, lines out = pre ++ l :: post ∧ (∀ m ∈ pre, ∀ u, ¬ DigitLine m u) ∧ DigitLine l v

/-- The test a trimmed line passes to be read. -/
def numeralTest (t : String) : Bool := !t.isEmpty && t.all Char.isDigit

theorem DigitLine.unique {l : String} {v v' : Nat} (h : DigitLine l v) (h' : DigitLine l v') :
    v = v' :=
  h.2.2.trans h'.2.2.symm

/-- A trimmed line passes the test exactly when the line is a numeral, and then its digits are
read as the value it spells. -/
theorem numeralTest_iff (l : String) :
    numeralTest (trimBlank l) = true ↔ ∃ v, DigitLine l v := by
  simp only [numeralTest, Bool.and_eq_true, Bool.not_eq_true', String.isEmpty_eq_false_iff,
    String.all_bool_eq, List.all_eq_true, ne_eq, ← String.toList_eq_nil_iff]
  constructor
  · rintro ⟨hne, hall⟩
    exact ⟨_, hne, hall, rfl⟩
  · rintro ⟨v, hne, hall, -⟩
    exact ⟨hne, hall⟩

/-- The test as the search applies it, to the trimmed line. -/
theorem numeralTest_comp_iff (l : String) :
    (numeralTest ∘ trimBlank) l = true ↔ ∃ v, DigitLine l v := by
  rw [Function.comp_apply]
  exact numeralTest_iff l

theorem digitsValue?_of_digitLine {l : String} {v : Nat} (h : DigitLine l v) :
    digitsValue? (trimBlank l).toList = some v :=
  digitsValue?_eq_some_iff.2 h

/-- The model's search is the test on trimmed lines. -/
theorem firstNumber_find (out : String) :
    ((lines out).map trimBlank).find? (fun l => !l.isEmpty && l.all Char.isDigit) =
      ((lines out).find? (numeralTest ∘ trimBlank)).map trimBlank :=
  List.find?_map

/-- The first numeral line, found by the search through the lines. -/
theorem find?_eq_some_iff_first {out : String} {v : Nat} :
    FirstDigitLine out v ↔
      ∃ l, (lines out).find? (numeralTest ∘ trimBlank) = some l ∧ DigitLine l v := by
  constructor
  · rintro ⟨pre, l, post, hsplit, hpre, hl⟩
    refine ⟨l, List.find?_eq_some_iff_append.2 ⟨?_, pre, post, hsplit, fun m hm => ?_⟩, hl⟩
    · exact (numeralTest_comp_iff l).2 ⟨v, hl⟩
    · -- a line before it is no numeral, so it fails the test
      have hfail : ¬ ∃ u, DigitLine m u := fun ⟨u, hu⟩ => hpre m hm u hu
      rw [Bool.not_eq_true', ← Bool.not_eq_true, numeralTest_comp_iff]
      exact hfail
  · rintro ⟨l, hfind, hl⟩
    obtain ⟨-, pre, post, hsplit, hpre⟩ := List.find?_eq_some_iff_append.1 hfind
    refine ⟨pre, l, post, hsplit, fun m hm u hu => ?_, hl⟩
    have hfail := hpre m hm
    rw [Bool.not_eq_true', ← Bool.not_eq_true, numeralTest_comp_iff] at hfail
    exact hfail ⟨u, hu⟩

/-- When no line is a numeral, nothing is read. -/
theorem firstNumber_of_none {out : String} (h : ∀ l ∈ lines out, ∀ v, ¬ DigitLine l v) :
    firstNumber out = -1 := by
  have hnone : (lines out).find? (numeralTest ∘ trimBlank) = none :=
    List.find?_eq_none.2 fun l hl hpass => by
      obtain ⟨v, hv⟩ := (numeralTest_comp_iff l).1 hpass
      exact h l hl v hv
  simp only [firstNumber, firstNumber_find, hnone, Option.map_none]

/-- The first numeral line gives its value when the value fits a signed 64-bit word, and
`-1` otherwise. -/
theorem firstNumber_of_first {out : String} {v : Nat} (h : FirstDigitLine out v) :
    firstNumber out = if v < 2 ^ 63 then (v : Int) else -1 := by
  obtain ⟨l, hfind, hl⟩ := find?_eq_some_iff_first.1 h
  simp only [firstNumber, firstNumber_find, hfind, Option.map_some, digitsValue?_of_digitLine hl]
  rfl

/-- Either some line is a numeral, and then a first one spells a value, or none is. -/
theorem firstDigitLine_or_none (out : String) :
    (∃ v, FirstDigitLine out v) ∨ ∀ l ∈ lines out, ∀ v, ¬ DigitLine l v := by
  cases hfind : (lines out).find? (numeralTest ∘ trimBlank) with
  | some l =>
    obtain ⟨v, hv⟩ := (numeralTest_comp_iff l).1 (List.find?_some hfind)
    exact .inl ⟨v, find?_eq_some_iff_first.2 ⟨l, hfind, hv⟩⟩
  | none =>
    refine .inr fun l hl v hv => ?_
    exact List.find?_eq_none.1 hfind l hl ((numeralTest_comp_iff l).2 ⟨v, hv⟩)

theorem FirstDigitLine.unique {out : String} {v v' : Nat} (h : FirstDigitLine out v)
    (h' : FirstDigitLine out v') : v = v' := by
  obtain ⟨l, hfind, hl⟩ := find?_eq_some_iff_first.1 h
  obtain ⟨l', hfind', hl'⟩ := find?_eq_some_iff_first.1 h'
  rw [hfind] at hfind'
  cases hfind'
  exact hl.unique hl'

theorem FirstDigitLine.exists_line {out : String} {v : Nat} (h : FirstDigitLine out v) :
    ∃ l ∈ lines out, DigitLine l v := by
  obtain ⟨pre, l, post, hsplit, -, hl⟩ := h
  exact ⟨l, by simp [hsplit], hl⟩

/-- The number read from a tool's answer: `-1` or a value of at least zero; a value `n`
exactly when the first line that is a numeral once trimmed spells `n` and `n` fits a signed
64-bit word; and `-1` exactly when no line is a numeral or the first numeral is too large for
the word, whatever the lines after it hold. -/
theorem firstNumber_spec (out : String) :
    (firstNumber out = -1 ∨ 0 ≤ firstNumber out) ∧
      (∀ n : Nat, firstNumber out = n ↔ n < 2 ^ 63 ∧ FirstDigitLine out n) ∧
      (firstNumber out = -1 ↔
        (∀ l ∈ lines out, ∀ v, ¬ DigitLine l v) ∨ ∃ v, 2 ^ 63 ≤ v ∧ FirstDigitLine out v) := by
  rcases firstDigitLine_or_none out with ⟨v, hv⟩ | hnone
  · have hrun := firstNumber_of_first hv
    by_cases hfit : v < 2 ^ 63
    · -- the first numeral fits: it is the answer, and `-1` is not
      rw [if_pos hfit] at hrun
      refine ⟨.inr (by omega), fun n => ?_, ?_⟩
      · rw [hrun, Nat.cast_inj]
        exact ⟨fun h => h ▸ ⟨hfit, hv⟩, fun ⟨_, hn⟩ => hv.unique hn⟩
      · rw [hrun]
        refine ⟨fun h => by omega, ?_⟩
        rintro (h | ⟨u, hu, hu'⟩)
        · obtain ⟨l, hl, hlv⟩ := hv.exists_line
          exact absurd hlv (h l hl v)
        · exact absurd (hv.unique hu' ▸ hu) (by omega)
    · -- the first numeral is too large: nothing is read, whatever follows it
      rw [if_neg hfit] at hrun
      refine ⟨.inl hrun, fun n => ?_, ?_⟩
      · rw [hrun]
        refine ⟨fun h => by omega, fun ⟨hn, hnv⟩ => absurd (hv.unique hnv ▸ hn) hfit⟩
      · exact ⟨fun _ => .inr ⟨v, by omega, hv⟩, fun _ => hrun⟩
  · have hrun := firstNumber_of_none hnone
    refine ⟨.inl hrun, fun n => ?_, ⟨fun _ => .inl hnone, fun _ => hrun⟩⟩
    rw [hrun]
    refine ⟨fun h => by omega, fun ⟨_, hn⟩ => ?_⟩
    obtain ⟨l, hl, hlv⟩ := hn.exists_line
    exact absurd hlv (hnone l hl n)

end LaunchBench.Host
