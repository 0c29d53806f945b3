import Mathlib.Algebra.Order.BigOperators.Group.List
import Mathlib.Tactic.Linarith
import LaunchBench.Measurement
/-!
Trimmed means.

The trimmed mean of a series sorts it, drops one smallest and one largest value once there are
at least three, and divides the sum of the rest by their count, rounding toward zero. The sum
is taken from left to right in 64-bit signed arithmetic and stops at the first partial sum
outside that range.

* **`trimmedValues_eq`**: the values kept are any ascending arrangement of the series less its
  first and last, so they depend on the values and not on their order.
* **`sum64_eq_ok_iff`**: a 64-bit sum goes through exactly when every partial sum is in range,
  and then it is the sum (`sum64_eq_ok`).
* **`tdiv_mem_bounds`**: a truncated quotient of a sum of `n` values lies between their least
  and their greatest value.
* **`trimmedMean_eq_error_iff`**, **`trimmedMean_of_inWord64`**, **`trimmedMean_perm`**,
  **`trimmedMean_mem_bounds`**, **`trimmedMean_pos`**: the mean of any series, in terms of
  `trimmedValues`.
* **`trimmedMean_spec`**: the trimmed mean is absent exactly for no values; it fails exactly
  when a partial sum of the kept values leaves the 64-bit range, and is otherwise their sum
  divided by their count; it does not depend on the order of the series, lies between the
  least and the greatest value kept, and is positive, so exactly a natural number, for a
  series of positive values.

Design note: what is kept is described by `Trims` on an ascending arrangement of the series,
not through the sorting function the mean uses, so the statement says which values are kept
without naming how they are sorted.
-/

namespace LaunchBench

/-- A value in the 64-bit signed range. -/
def InWord64 (x : Int) : Prop := -2 ^ 63 ≤ x ∧ x < 2 ^ 63

/-- `kept` is what a trimmed mean keeps of the ascending series `s`: all of it when it has
fewer than three values, else all but its first and its last. -/
inductive Trims : List Int → List Int → Prop
  | short {s : List Int} : s.length < 3 → Trims s s
  | inner {a b : Int} {kept : List Int} : kept ≠ [] → Trims (a :: (kept ++ [b])) kept

/-! ### The 64-bit sum -/

/-- The range test of `sum64`, read as `InWord64`. -/
theorem sum64_outOfRange_iff (s : Int) :
    (s < -Int.pow 2 63 || s ≥ Int.pow 2 63) = true ↔ ¬ InWord64 s := by
  have hpow : Int.pow 2 63 = 2 ^ 63 := rfl
  simp only [InWord64, hpow, Bool.or_eq_true, decide_eq_true_eq]
  omega

/-- A 64-bit sum from `acc` goes through exactly when every partial sum stays in range. The
induction is on the values, over any starting sum in range. -/
theorem sum64_eq_ok_iff {acc : Int} (hacc : InWord64 acc) (l : List Int) :
    (∃ r, sum64 acc l = .ok r) ↔ ∀ n, InWord64 (acc + (l.take n).sum) := by
  induction l generalizing acc with
  | nil => simp [sum64, hacc]
  | cons x xs ih =>
    by_cases hx : InWord64 (acc + x)
    · -- in range: the rest is summed from the new partial sum
      have hstep : sum64 acc (x :: xs) = sum64 (acc + x) xs := by
        rw [sum64, if_neg (by rw [sum64_outOfRange_iff]; exact not_not.2 hx)]
      rw [hstep, ih hx]
      constructor
      · intro h n
        cases n with
        | zero => simpa using hacc
        | succ n => simpa [add_assoc] using h n
      · intro h n
        simpa [add_assoc] using h (n + 1)
    · -- out of range: the sum stops here, at its first partial sum
      have hstep : sum64 acc (x :: xs) = .error {} := by
        rw [sum64, if_pos ((sum64_outOfRange_iff _).2 hx)]
      simp only [hstep, reduceCtorEq, exists_false, false_iff, not_forall]
      exact ⟨1, by simpa using hx⟩

/-- A 64-bit sum from zero goes through exactly when every partial sum is in range. -/
theorem sum64_zero_eq_ok_iff (l : List Int) :
    (∃ r, sum64 0 l = .ok r) ↔ ∀ n, InWord64 (l.take n).sum := by
  simpa using sum64_eq_ok_iff (by simp [InWord64] : InWord64 0) l

/-- A 64-bit sum that goes through is the sum. -/
theorem sum64_eq_ok {acc r : Int} {l : List Int} (h : sum64 acc l = .ok r) :
    r = acc + l.sum := by
  induction l generalizing acc with
  | nil => simpa [sum64, eq_comm] using h
  | cons x xs ih =>
    simp only [sum64] at h
    split at h
    · cases h
    · rw [ih h, List.sum_cons, add_assoc]

/-! ### The values kept -/

theorem pairwise_mergeSort_le (v : List Int) :
    (v.mergeSort fun a b => decide (a ≤ b)).Pairwise (· ≤ ·) := by
  simpa using @List.pairwise_mergeSort Int (fun a b => decide (a ≤ b))
    (fun a b c hab hbc => by simp only [decide_eq_true_eq] at *; omega)
    (fun a b => by simp only [Bool.or_eq_true, decide_eq_true_eq]; omega) v

/-- Sorting by `≤` gives the one ascending arrangement of a series. -/
theorem mergeSort_eq_of_sorted {v s : List Int} (hperm : s.Perm v)
    (hsorted : s.Pairwise (· ≤ ·)) : v.mergeSort (fun a b => decide (a ≤ b)) = s :=
  List.Perm.eq_of_pairwise (fun _ _ _ _ hab hba => le_antisymm hab hba)
    (pairwise_mergeSort_le v) hsorted ((List.mergeSort_perm v _).trans hperm.symm)

/-- The values a trimmed mean keeps are those `Trims` keeps of any ascending arrangement. -/
theorem trimmedValues_eq {v s kept : List Int} (hperm : s.Perm v) (hsorted : s.Pairwise (· ≤ ·))
    (htrim : Trims s kept) : trimmedValues v = kept := by
  simp only [trimmedValues, mergeSort_eq_of_sorted hperm hsorted]
  cases htrim with
  | short hs => rw [if_neg (by omega)]
  | inner hk =>
    have hlen : 3 ≤ kept.length + 2 := by
      have := List.length_pos_iff.2 hk
      omega
    simp [hlen]

/-- Reordering a series keeps the same values. -/
theorem trimmedValues_perm {v v' : List Int} (h : v'.Perm v) :
    trimmedValues v' = trimmedValues v := by
  simp only [trimmedValues]
  rw [mergeSort_eq_of_sorted ((List.mergeSort_perm v _).trans h.symm) (pairwise_mergeSort_le v)]

/-- Every value kept is a value of the series. -/
theorem mem_of_mem_trimmedValues {v : List Int} {x : Int} (hx : x ∈ trimmedValues v) :
    x ∈ v := by
  unfold trimmedValues at hx
  dsimp only at hx
  split at hx
  · exact List.mem_mergeSort.1 (List.mem_of_mem_drop ((List.dropLast_prefix _).subset hx))
  · exact List.mem_mergeSort.1 hx

/-- A nonempty series keeps a value: at least one of three or more is left once two are
dropped. -/
theorem trimmedValues_ne_nil {v : List Int} (hv : v ≠ []) : trimmedValues v ≠ [] := by
  have hlen : (v.mergeSort fun a b => decide (a ≤ b)).length = v.length := List.length_mergeSort _
  have hpos := List.length_pos_iff.2 hv
  unfold trimmedValues
  dsimp only
  split <;> rw [← List.length_pos_iff]
  · simp only [List.length_dropLast, List.length_drop, hlen]
    omega
  · omega

/-! ### The mean -/

/-- A truncated quotient by `n` of a sum of `n` values lies between the least and the greatest
value; rounding toward zero moves a negative quotient up and a positive one down. -/
theorem tdiv_mem_bounds {lo hi s n : Int} (hn : 0 < n) (hlo : n * lo ≤ s) (hhi : s ≤ n * hi) :
    lo ≤ s.tdiv n ∧ s.tdiv n ≤ hi := by
  rcases le_or_gt 0 s with hs | hs
  · rw [Int.tdiv_eq_ediv_of_nonneg hs]
    constructor
    · rw [Int.le_ediv_iff_mul_le hn]; linarith
    · rw [Int.ediv_le_iff_le_mul hn]; linarith
  · -- a negative sum: its quotient is minus that of its negation
    have hneg : s.tdiv n = -((-s) / n) := by
      rw [← Int.tdiv_eq_ediv_of_nonneg (by omega), Int.neg_tdiv, neg_neg]
    rw [hneg]
    constructor
    · have : (-s) / n ≤ -lo := by rw [Int.ediv_le_iff_le_mul hn]; linarith
      omega
    · have : -hi ≤ (-s) / n := by rw [Int.le_ediv_iff_mul_le hn]; linarith
      omega

/-- The truncated mean of a nonempty list lies between its least and its greatest value. -/
theorem mean_mem_bounds {l : List Int} (hl : l ≠ []) :
    ∃ lo hi, l.min? = some lo ∧ l.max? = some hi ∧
      lo ≤ l.sum.tdiv l.length ∧ l.sum.tdiv l.length ≤ hi := by
  obtain ⟨lo, hlo⟩ := Option.ne_none_iff_exists'.1 (mt List.min?_eq_none_iff.1 hl)
  obtain ⟨hi, hhi⟩ := Option.ne_none_iff_exists'.1 (mt List.max?_eq_none_iff.1 hl)
  have hlo' := (List.min?_eq_some_iff.1 hlo).2
  have hhi' := (List.max?_eq_some_iff.1 hhi).2
  have hsum₁ : (l.length : Int) * lo ≤ l.sum := by
    simpa [nsmul_eq_mul] using List.card_nsmul_le_sum l lo hlo'
  have hsum₂ : l.sum ≤ (l.length : Int) * hi := by
    simpa [nsmul_eq_mul] using List.sum_le_card_nsmul l hi hhi'
  have hn : (0 : Int) < l.length := by exact_mod_cast List.length_pos_iff.2 hl
  exact ⟨lo, hi, hlo, hhi, tdiv_mem_bounds hn hsum₁ hsum₂⟩

theorem trimmedMean_nil : trimmedMean [] = .ok none := rfl

theorem trimmedMean_of_ne_nil {v : List Int} (hv : v ≠ []) :
    trimmedMean v = (sum64 0 (trimmedValues v)).map
      fun s => some (s.tdiv (trimmedValues v).length) := by
  simp [trimmedMean, hv]

/-- A nonempty series has a mean, or fails. -/
theorem trimmedMean_ne_none {v : List Int} (hv : v ≠ []) : trimmedMean v ≠ .ok none := by
  rw [trimmedMean_of_ne_nil hv]
  cases sum64 0 (trimmedValues v) <;> simp [Except.map]

/-- The mean is absent exactly for no values. -/
theorem trimmedMean_eq_none_iff {v : List Int} : trimmedMean v = .ok none ↔ v = [] := by
  refine ⟨fun h => ?_, fun h => h ▸ trimmedMean_nil⟩
  by_contra hv
  exact trimmedMean_ne_none hv h

/-- A mean that is there is the kept values' sum divided by their count. -/
theorem trimmedMean_eq_some {v : List Int} {q : Int} (hq : trimmedMean v = .ok (some q)) :
    v ≠ [] ∧ q = (trimmedValues v).sum.tdiv (trimmedValues v).length := by
  have hv : v ≠ [] := by rintro rfl; cases hq
  rw [trimmedMean_of_ne_nil hv] at hq
  cases hs : sum64 0 (trimmedValues v) with
  | error e => rw [hs] at hq; cases hq
  | ok r =>
    rw [hs] at hq
    simp only [Except.map, Except.ok.injEq, Option.some.injEq] at hq
    rw [← hq, sum64_eq_ok hs, zero_add]
    exact ⟨hv, rfl⟩

/-- The mean fails exactly when a partial sum of the kept values leaves the 64-bit range. -/
theorem trimmedMean_eq_error_iff (v : List Int) :
    (∃ e, trimmedMean v = .error e) ↔ ∃ n, ¬ InWord64 ((trimmedValues v).take n).sum := by
  by_cases hv : v = []
  · subst hv
    simp [trimmedMean_nil, trimmedValues, InWord64]
  · rw [trimmedMean_of_ne_nil hv]
    have hok := sum64_zero_eq_ok_iff (trimmedValues v)
    cases hs : sum64 0 (trimmedValues v) with
    | error e =>
      simp only [hs, reduceCtorEq, exists_false, false_iff, not_forall] at hok
      exact ⟨fun _ => hok, fun _ => ⟨e, rfl⟩⟩
    | ok r =>
      have hall := hok.1 ⟨r, hs⟩
      simp [Except.map, hall]

/-- With every partial sum of the kept values in range, the mean is their sum divided by their
count. -/
theorem trimmedMean_of_inWord64 {v : List Int} (hv : v ≠ [])
    (hrange : ∀ n, InWord64 ((trimmedValues v).take n).sum) :
    trimmedMean v = .ok (some ((trimmedValues v).sum.tdiv (trimmedValues v).length)) := by
  obtain ⟨r, hr⟩ := (sum64_zero_eq_ok_iff (trimmedValues v)).2 hrange
  rw [trimmedMean_of_ne_nil hv, hr, sum64_eq_ok hr, zero_add]
  rfl

/-- Reordering a series does not change its mean. -/
theorem trimmedMean_perm {v v' : List Int} (h : v'.Perm v) : trimmedMean v' = trimmedMean v := by
  by_cases hv : v = []
  · subst hv
    rw [List.Perm.eq_nil h]
  · have hv' : v' ≠ [] := fun h' => hv (List.Perm.eq_nil (h' ▸ h.symm))
    rw [trimmedMean_of_ne_nil hv, trimmedMean_of_ne_nil hv', trimmedValues_perm h]

/-- A mean lies between the least and the greatest value kept. -/
theorem trimmedMean_mem_bounds {v : List Int} {q : Int} (hq : trimmedMean v = .ok (some q)) :
    ∃ lo hi, (trimmedValues v).min? = some lo ∧ (trimmedValues v).max? = some hi ∧
      lo ≤ q ∧ q ≤ hi := by
  obtain ⟨hv, rfl⟩ := trimmedMean_eq_some hq
  exact mean_mem_bounds (trimmedValues_ne_nil hv)

/-- The mean of positive values is positive: every kept value is one of them, and the mean is
at least the least of those. -/
theorem trimmedMean_pos {v : List Int} (hpos : ∀ x ∈ v, 0 < x) {q : Int}
    (hq : trimmedMean v = .ok (some q)) : 0 < q := by
  obtain ⟨lo, -, hlo, -, hq₁, -⟩ := trimmedMean_mem_bounds hq
  have hlo_pos : 0 < lo :=
    hpos lo (mem_of_mem_trimmedValues (List.min?_eq_some_iff.1 hlo).1)
  omega

/-- The trimmed mean of a series of 64-bit values. It is absent exactly when there are no
values. Otherwise the values kept are an ascending arrangement of the series less one least
and one greatest value once there are three, and the mean fails exactly when a partial sum of
the kept values, added in ascending order, leaves the 64-bit range; else it is their sum
divided by their count, rounded toward zero. It does not depend on the order of the series,
lies between the least and the greatest value kept, and for a series of positive values is
positive, so that reading it as a natural number is exact. -/
theorem trimmedMean_spec (v s kept : List Int) (hperm : s.Perm v) (hsorted : s.Pairwise (· ≤ ·))
    (htrim : Trims s kept) :
    (trimmedMean v = .ok none ↔ v = []) ∧
    ((∃ e, trimmedMean v = .error e) ↔ ∃ n, ¬ InWord64 (kept.take n).sum) ∧
    (v ≠ [] → (∀ n, InWord64 (kept.take n).sum) →
      trimmedMean v = .ok (some (kept.sum.tdiv kept.length))) ∧
    (∀ v', v'.Perm v → trimmedMean v' = trimmedMean v) ∧
    (∀ q, trimmedMean v = .ok (some q) →
      ∃ lo hi, kept.min? = some lo ∧ kept.max? = some hi ∧ lo ≤ q ∧ q ≤ hi) ∧
    ((∀ x ∈ v, 0 < x) → ∀ q, trimmedMean v = .ok (some q) →
      0 < q ∧ (q.toNat : Int) = q) := by
  have hkept := trimmedValues_eq hperm hsorted htrim
  subst hkept
  refine ⟨trimmedMean_eq_none_iff, trimmedMean_eq_error_iff v,
    fun hv hrange => trimmedMean_of_inWord64 hv hrange, fun v' hv' => trimmedMean_perm hv',
    fun q hq => trimmedMean_mem_bounds hq, fun hpos q hq => ?_⟩
  have hq_pos := trimmedMean_pos hpos hq
  exact ⟨hq_pos, Int.toNat_of_nonneg hq_pos.le⟩

/-- The series `1, 100, 10, 20, 1000` sorts to `1, 10, 20, 100, 1000`, keeps `10, 20, 100`, and
has the trimmed mean `43`. -/
theorem trimmedMean_drops_extremes :
    ([1, 10, 20, 100, 1000] : List Int).Perm [1, 100, 10, 20, 1000] ∧
      ([1, 10, 20, 100, 1000] : List Int).Pairwise (· ≤ ·) ∧
      Trims [1, 10, 20, 100, 1000] [10, 20, 100] ∧
      trimmedMean [1, 100, 10, 20, 1000] = .ok (some 43) := by
  have hperm : ([1, 10, 20, 100, 1000] : List Int).Perm [1, 100, 10, 20, 1000] := by decide
  have hsorted : ([1, 10, 20, 100, 1000] : List Int).Pairwise (· ≤ ·) := by decide
  have htrim : Trims [1, 10, 20, 100, 1000] [10, 20, 100] :=
    @Trims.inner 1 1000 [10, 20, 100] (by decide)
  -- every partial sum of `10, 20, 100` is one of `0, 10, 30, 130`
  have hrange : ∀ n, InWord64 (([10, 20, 100] : List Int).take n).sum := by
    intro n
    rcases n with _ | _ | _ | n <;> simp [InWord64]
  refine ⟨hperm, hsorted, htrim, ?_⟩
  rw [(trimmedMean_spec [1, 100, 10, 20, 1000] _ _ hperm hsorted htrim).2.2.1 (by decide) hrange]
  rfl

end LaunchBench
