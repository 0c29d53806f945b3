import Mathlib.Data.List.Forall2
import LaunchBench.Threshold
/-!
The budget gate.

Checking observed values against the budgets goes through the metrics in a fixed order,
memory first, then the time to the first successful request, then the reload time. A metric
that was not observed is skipped; the first observed one without a budget stops the check,
whatever was found before it; every other observed value above its budget is a violation.

* **`foldlM_checkMetric`**: the metrics checked in turn fail with the first observed one that
  has no budget, and otherwise give the violations in order.
* **`check_of_missing`**, **`check_of_present`**: the check's result once the first observed
  metric without a budget is known.
* **`check_eq_ok_iff`**: the check passes exactly when every observed value has a budget and
  is at most that budget.
* **`check_mono`**: what passes still passes against budgets no smaller with values no larger.
* **`check_spec`**: the check's result in closed form, and its monotonicity: what passes still
  passes against larger budgets with values that are smaller or not observed.
-/

namespace LaunchBench

namespace ThresholdSet

/-- The observed metrics with their keys, in order; a metric not observed is left out. -/
def scanned (ms : List (String × Option Nat)) : List (String × Nat) :=
  ms.filterMap fun p => p.2.map (p.1, ·)

/-- The key of the first scanned metric that has no budget. -/
def firstMissing? (t : ThresholdSet) (sc : List (String × Nat)) : Option String :=
  (sc.find? fun p => (KeyMap.get? t p.1).isNone).map Prod.fst

/-- The scanned metrics above their budgets, in order, each with its value and its budget. -/
def violations (t : ThresholdSet) (sc : List (String × Nat)) : List Violation :=
  sc.filterMap fun p =>
    (KeyMap.get? t p.1).bind fun th => if th < p.2 then some ⟨p.1, p.2, th⟩ else none

variable {t : ThresholdSet}

@[simp] theorem scanned_nil : scanned [] = [] := rfl

@[simp] theorem scanned_none (k : String) (ms : List (String × Option Nat)) :
    scanned ((k, none) :: ms) = scanned ms := rfl

@[simp] theorem scanned_some (k : String) (x : Nat) (ms : List (String × Option Nat)) :
    scanned ((k, some x) :: ms) = (k, x) :: scanned ms := rfl

theorem firstMissing?_absent {k : String} (hk : KeyMap.get? t k = none) (x : Nat)
    (sc : List (String × Nat)) : firstMissing? t ((k, x) :: sc) = some k := by
  simp [firstMissing?, hk]

theorem firstMissing?_present {k : String} {th : Nat} (hk : KeyMap.get? t k = some th) (x : Nat)
    (sc : List (String × Nat)) : firstMissing? t ((k, x) :: sc) = firstMissing? t sc := by
  simp [firstMissing?, hk]

theorem violations_present {k : String} {th : Nat} (hk : KeyMap.get? t k = some th) (x : Nat)
    (sc : List (String × Nat)) :
    violations t ((k, x) :: sc) =
      (if th < x then [⟨k, x, th⟩] else []) ++ violations t sc := by
  by_cases hx : th < x <;> simp [violations, hk, hx]

/-- The metrics checked in turn, from the violations `acc` found before them: the first
observed metric without a budget stops the check with its key; otherwise the violations of
these metrics follow `acc`. The induction is on the metrics, over any violations found before. -/
theorem foldlM_checkMetric (ms : List (String × Option Nat)) (acc : List Violation) :
    (∀ k, firstMissing? t (scanned ms) = some k →
      ms.foldlM t.checkMetric acc = .error (.missing k)) ∧
    (firstMissing? t (scanned ms) = none →
      ms.foldlM t.checkMetric acc = .ok (acc ++ violations t (scanned ms))) := by
  induction ms generalizing acc with
  | nil => simp [firstMissing?, violations, pure, Except.pure]
  | cons p ms ih =>
    obtain ⟨k, _ | x⟩ := p
    · -- not observed: skipped
      simpa [List.foldlM_cons, checkMetric, bind, Except.bind] using ih acc
    · cases hk : KeyMap.get? t k with
      | none =>
        -- observed without a budget: the check stops here
        simp [firstMissing?_absent hk, List.foldlM_cons, checkMetric, hk, bind, Except.bind]
      | some th =>
        -- within or above the budget: the violation, if any, is added and the check goes on
        rw [scanned_some, firstMissing?_present hk, violations_present hk]
        have hstep : ((k, some x) :: ms).foldlM t.checkMetric acc =
            ms.foldlM t.checkMetric (acc ++ if th < x then [⟨k, x, th⟩] else []) := by
          by_cases hx : th < x <;> simp [List.foldlM_cons, checkMetric, hk, hx, bind, Except.bind]
        rw [hstep, ← List.append_assoc]
        exact ih _

theorem firstMissing?_eq_none_iff {sc : List (String × Nat)} :
    firstMissing? t sc = none ↔ ∀ p ∈ sc, ∃ th, KeyMap.get? t p.1 = some th := by
  simp [firstMissing?, List.find?_eq_none, Option.ne_none_iff_exists']

theorem violations_eq_nil_iff {sc : List (String × Nat)} :
    violations t sc = [] ↔ ∀ p ∈ sc, ∀ th, KeyMap.get? t p.1 = some th → p.2 ≤ th := by
  simp only [violations, List.filterMap_eq_nil_iff, Option.bind_eq_none_iff,
    ite_eq_right_iff, reduceCtorEq, imp_false, Nat.not_lt]

/-- Every scanned value has a budget and is within it exactly when none lacks a budget and none
is above its budget. -/
theorem within_iff {sc : List (String × Nat)} :
    (∀ p ∈ sc, ∃ th, KeyMap.get? t p.1 = some th ∧ p.2 ≤ th) ↔
      firstMissing? t sc = none ∧ violations t sc = [] := by
  rw [firstMissing?_eq_none_iff, violations_eq_nil_iff]
  constructor
  · intro h
    refine ⟨fun p hp => (h p hp).imp fun _ => And.left, fun p hp th hth => ?_⟩
    obtain ⟨th', hth', hle⟩ := h p hp
    rw [hth] at hth'
    cases hth'
    exact hle
  · rintro ⟨hpresent, hwithin⟩ p hp
    obtain ⟨th, hth⟩ := hpresent p hp
    exact ⟨th, hth, hwithin p hp th hth⟩

section Check

variable {os : OsFamily} {m : Mode} {o : Observed}

theorem check_of_missing {k : String} (hk : firstMissing? t (scanned (o.metrics os m)) = some k) :
    t.check os m o = .error (.missing k) := by
  simp only [check, (foldlM_checkMetric (o.metrics os m) []).1 k hk, bind, Except.bind]

theorem check_of_present (hf : firstMissing? t (scanned (o.metrics os m)) = none) :
    t.check os m o =
      if violations t (scanned (o.metrics os m)) = [] then .ok ()
      else .error (.exceeded (violations t (scanned (o.metrics os m)))) := by
  simp only [check, (foldlM_checkMetric (o.metrics os m) []).2 hf, List.nil_append, bind,
    Except.bind]
  by_cases hv : violations t (scanned (o.metrics os m)) = []
  · simp [hv, pure, Except.pure]
  · simp [hv, throw, throwThe, MonadExceptOf.throw]

/-- The check passes exactly when every observed value has a budget and is at most it. -/
theorem check_eq_ok_iff :
    t.check os m o = .ok () ↔
      ∀ p ∈ scanned (o.metrics os m), ∃ th, KeyMap.get? t p.1 = some th ∧ p.2 ≤ th := by
  rw [within_iff]
  cases hf : firstMissing? t (scanned (o.metrics os m)) with
  | some k => simp [check_of_missing hf]
  | none =>
    rw [check_of_present hf]
    by_cases hv : violations t (scanned (o.metrics os m)) = [] <;> simp [hv]

end Check

/-- Observed values one at a time no larger, over the same keys. -/
theorem scanned_below {ms' ms : List (String × Option Nat)}
    (h : List.Forall₂ (fun p' p => p'.1 = p.1 ∧ p'.2 ≤ p.2) ms' ms) :
    ∀ q' ∈ scanned ms', ∃ q ∈ scanned ms, q'.1 = q.1 ∧ q'.2 ≤ q.2 := by
  induction h with
  | nil => simp
  | @cons p' p ms' ms hp _ ih =>
    -- a value that is not observed is skipped; an observed one was observed before
    have ih' :
        ∀ q' ∈ scanned ms', ∃ q ∈ scanned (p :: ms), q'.1 = q.1 ∧ q'.2 ≤ q.2 := by
      intro q' hq'
      obtain ⟨q, hq, hq'q⟩ := ih q' hq'
      obtain ⟨k, _ | x⟩ := p
      · exact ⟨q, hq, hq'q⟩
      · exact ⟨q, List.mem_cons_of_mem _ hq, hq'q⟩
    obtain ⟨k', _ | x'⟩ := p'
    · simpa using ih'
    · obtain ⟨k, _ | x⟩ := p
      · simp at hp
      · obtain ⟨rfl, hle⟩ := hp
        simp only [scanned_some, List.mem_cons]
        rintro q' (rfl | hq')
        · exact ⟨(k', x), .inl rfl, rfl, by simpa using hle⟩
        · simpa using ih' q' hq'

/-- What passes still passes against budgets no smaller with values no larger. -/
theorem check_mono {t' : ThresholdSet} {os : OsFamily} {m : Mode} {o o' : Observed}
    (hok : t.check os m o = .ok ()) (ht : ∀ k, KeyMap.get? t k ≤ KeyMap.get? t' k)
    (h₁ : o'.rssKb ≤ o.rssKb) (h₂ : o'.timeToFirstOkRequestMs ≤ o.timeToFirstOkRequestMs)
    (h₃ : o'.timeToReloadMs ≤ o.timeToReloadMs) : t'.check os m o' = .ok () := by
  -- each value now observed was observed before, no smaller, and within a budget of `t`
  rw [check_eq_ok_iff] at hok ⊢
  have hbelow : ∀ q' ∈ scanned (o'.metrics os m),
      ∃ q ∈ scanned (o.metrics os m), q'.1 = q.1 ∧ q'.2 ≤ q.2 :=
    scanned_below (by simp [Observed.metrics, h₁, h₂, h₃])
  intro q' hq'
  obtain ⟨q, hq, hkey, hle⟩ := hbelow q' hq'
  obtain ⟨th, hth, hqth⟩ := hok q hq
  have ht' := ht q.1
  rw [hth] at ht'
  cases ht'' : KeyMap.get? t' q.1 with
  | none => rw [ht''] at ht'; simp at ht'
  | some th' =>
    rw [ht'', Option.some_le_some] at ht'
    exact ⟨th', hkey ▸ ht'', by omega⟩

/-- The budget gate. The observed metrics are checked in the order memory, time to the first
successful request, reload time, those not observed being skipped. The first of them without a
budget fails the check with its key, even after a value above its budget. Otherwise every
observed value above its budget is reported, in that order with the value and the budget, and
the check passes when there is none: a value equal to its budget passes. So the gate is
monotone: what passes still passes against budgets that keep every key with a budget at least
as large, with values that are not observed where they were not, and no larger elsewhere. -/
theorem check_spec (t : ThresholdSet) (os : OsFamily) (m : Mode) (o : Observed) :
    let sc := scanned [(rssKey os m, o.rssKb), (firstRequestKey os m, o.timeToFirstOkRequestMs),
      (reloadKey os m, o.timeToReloadMs)]
    (∀ k, firstMissing? t sc = some k → t.check os m o = .error (.missing k)) ∧
    (firstMissing? t sc = none →
      t.check os m o =
        if violations t sc = [] then .ok () else .error (.exceeded (violations t sc))) ∧
    (t.check os m o = .ok () → ∀ (t' : ThresholdSet) (o' : Observed),
      (∀ k, KeyMap.get? t k ≤ KeyMap.get? t' k) → o'.rssKb ≤ o.rssKb →
      o'.timeToFirstOkRequestMs ≤ o.timeToFirstOkRequestMs →
      o'.timeToReloadMs ≤ o.timeToReloadMs → t'.check os m o' = .ok ()) := by
  intro sc
  exact ⟨fun k hk => check_of_missing hk, check_of_present,
    fun hok t' o' ht h₁ h₂ h₃ => check_mono hok ht h₁ h₂ h₃⟩

end ThresholdSet

end LaunchBench
