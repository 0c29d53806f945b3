import LaunchBench.App.Load
import LaunchBench.Scenario.Stages
import LaunchBench.Proofs.ThresholdFile
import LaunchBench.Proofs.Workspace
/-!
Budgets overridden from the environment.

Every budget of an application can be overridden by the environment variable named after its
key. The keys are visited in order, each replaced in place by the value of its own variable,
trimmed, when it has one; the first variable that spells no budget stops the overrides. A
variable never adds a key nor removes one, and keys whose names give the same variable take
the same value. An application without a budget file has no budgets whatever the environment
holds, and then the budget gate is not run at all.

* **`ThresholdSet.foldlM_envStep_ok`**: the overrides of some keys, when each variable
  present reads as a budget: which value each key then has.
* **`ThresholdSet.foldlM_envStep_eq_error`**: the overrides stop at the first key whose variable
  spells no budget.
* **`ThresholdSet.withEnv_eq_map`**: a table overridden keeps its keys in place, each with the
  value of its variable or its own.
* **`ThresholdSet.withEnv_spec`**: when the overrides succeed, what they give, which error
  they fail with, and that an absent budget file leaves no budgets and no gate.
-/

namespace LaunchBench

namespace ThresholdSet

/-- The budget the environment `lookup` sets for a key: the value of its variable, trimmed,
when it reads as a budget. -/
def envOverride (lookup : String → Option String) (k : String) : Option Nat :=
  (lookup (envName k)).bind fun r => Text.readWord? 64 (Text.trimBlank r)

/-- The variable of a key, if the environment has one, spells a budget once trimmed. -/
def OverrideReads (lookup : String → Option String) (k : String) : Prop :=
  ∀ r, lookup (envName k) = some r → IsBudget (Text.trimBlank r)

/-- One override: the budget of an entry's key is replaced by the value of its variable. -/
def envStep (lookup : String → Option String) (acc : ThresholdSet) (p : String × Nat) :
    Except ThresholdError ThresholdSet :=
  match lookup (envName p.1) with
  | none => .ok acc
  | some raw => (readValue p.1 raw).map fun v => KeyMap.insert acc p.1 v

theorem withEnv_eq_foldlM (t : ThresholdSet) (lookup : String → Option String) :
    withEnv t lookup = t.toList.foldlM (envStep lookup) t := rfl

variable {lookup : String → Option String} {acc acc' t t' : ThresholdSet} {p : String × Nat}

theorem envStep_none (h : lookup (envName p.1) = none) (acc : ThresholdSet) :
    envStep lookup acc p = .ok acc := by
  simp [envStep, h]

theorem envStep_budget {r : String} {n : Nat} (h : lookup (envName p.1) = some r)
    (hn : Text.readWord? 64 (Text.trimBlank r) = some n) (acc : ThresholdSet) :
    envStep lookup acc p = .ok (KeyMap.insert acc p.1 n) := by
  simp [envStep, h, readValue, hn, Except.map]

theorem envStep_unreadable {r : String} (h : lookup (envName p.1) = some r)
    (hn : Text.readWord? 64 (Text.trimBlank r) = none) (acc : ThresholdSet) :
    envStep lookup acc p = .error (.invalidValue p.1 (Text.trimBlank r)) := by
  simp [envStep, h, readValue, hn, Except.map]

theorem overrideReads_iff {k : String} :
    OverrideReads lookup k ↔ ∀ r, lookup (envName k) = some r →
      (Text.readWord? 64 (Text.trimBlank r)).isSome := by
  simp only [OverrideReads, isBudget_iff]

theorem overrideReads_of_none {k : String} (h : lookup (envName k) = none) :
    OverrideReads lookup k := by
  intro r hr
  rw [h] at hr
  cases hr

theorem overrideReads_of_budget {k r : String} {n : Nat} (h : lookup (envName k) = some r)
    (hn : Text.readWord? 64 (Text.trimBlank r) = some n) : OverrideReads lookup k := by
  intro r' hr'
  rw [h, Option.some.injEq] at hr'
  subst hr'
  exact isBudget_iff.2 (by rw [hn]; rfl)

theorem envOverride_of_none {k : String} (h : lookup (envName k) = none) :
    envOverride lookup k = none := by
  simp [envOverride, h]

theorem envOverride_of_budget {k r : String} {n : Nat} (h : lookup (envName k) = some r)
    (hn : Text.readWord? 64 (Text.trimBlank r) = some n) : envOverride lookup k = some n := by
  simp [envOverride, h, hn]

/-- The overrides of some entries over a table, when every variable present reads as a budget:
a key among the entries takes its override if it has one, and every key keeps its value
otherwise. The induction is on the entries, over the table overridden so far. -/
theorem foldlM_envStep_ok {l : List (String × Nat)} (hl : ∀ q ∈ l, OverrideReads lookup q.1)
    (acc : ThresholdSet) :
    ∃ acc', l.foldlM (envStep lookup) acc = .ok acc' ∧
      ∀ k, KeyMap.get? acc' k =
        if k ∈ l.map Prod.fst then (envOverride lookup k).or (KeyMap.get? acc k)
        else KeyMap.get? acc k := by
  induction l generalizing acc with
  | nil => exact ⟨acc, rfl, fun k => by simp⟩
  | cons q l ih =>
    have hrest := ih fun q' hq' => hl q' (List.mem_cons_of_mem q hq')
    cases hq : lookup (envName q.1) with
    | none =>
      -- no variable: the table stays, and so does the key's value
      obtain ⟨acc', hfold, hget⟩ := hrest acc
      refine ⟨acc', by rw [List.foldlM_cons, envStep_none hq]; exact hfold, fun k => ?_⟩
      rw [hget]
      by_cases hk : k = q.1
      · subst hk
        simp [envOverride_of_none hq]
      · simp only [List.map_cons, List.mem_cons, hk, false_or]
    | some r =>
      obtain ⟨n, hn⟩ :=
        Option.isSome_iff_exists.1 (overrideReads_iff.1 (hl q List.mem_cons_self) r hq)
      obtain ⟨acc', hfold, hget⟩ := hrest (KeyMap.insert acc q.1 n)
      refine ⟨acc', by rw [List.foldlM_cons, envStep_budget hq hn]; exact hfold, fun k => ?_⟩
      rw [hget, KeyMap.get?_insert]
      by_cases hk : k = q.1
      · -- the key's override, whether a later entry visits it again or not
        subst hk
        simp [envOverride_of_budget hq hn]
      · simp only [List.map_cons, List.mem_cons, hk, false_or, if_false]

/-- The overrides stop at the first entry whose variable spells no budget, named by its key and
its trimmed text. -/
theorem foldlM_envStep_eq_error {l : List (String × Nat)} {e : ThresholdError}
    (h : l.foldlM (envStep lookup) acc = .error e) :
    ∃ pre q post r, l = pre ++ q :: post ∧ (∀ q' ∈ pre, OverrideReads lookup q'.1) ∧
      lookup (envName q.1) = some r ∧ ¬ IsBudget (Text.trimBlank r) ∧
      e = .invalidValue q.1 (Text.trimBlank r) := by
  induction l generalizing acc with
  | nil => cases h
  | cons q l ih =>
    -- the entries before the one that stops are read and passed
    have hnext : ∀ acc₁, envStep lookup acc q = .ok acc₁ → OverrideReads lookup q.1 →
        ∃ pre q' post r, q :: l = pre ++ q' :: post ∧
          (∀ q'' ∈ pre, OverrideReads lookup q''.1) ∧
          lookup (envName q'.1) = some r ∧ ¬ IsBudget (Text.trimBlank r) ∧
          e = .invalidValue q'.1 (Text.trimBlank r) := by
      intro acc₁ hstep hread
      rw [List.foldlM_cons, hstep] at h
      obtain ⟨pre, q', post, r, rfl, hpre, hr⟩ := ih h
      exact ⟨q :: pre, q', post, r, rfl, List.forall_mem_cons.2 ⟨hread, hpre⟩, hr⟩
    cases hq : lookup (envName q.1) with
    | none => exact hnext acc (envStep_none hq acc) (overrideReads_of_none hq)
    | some r =>
      cases hn : Text.readWord? 64 (Text.trimBlank r) with
      | none =>
        -- this variable stops the overrides
        rw [List.foldlM_cons, envStep_unreadable hq hn] at h
        cases h
        refine ⟨[], q, l, r, rfl, by simp, hq, fun hb => ?_, rfl⟩
        rw [isBudget_iff, hn] at hb
        cases hb
      | some n => exact hnext _ (envStep_budget hq hn acc) (overrideReads_of_budget hq hn)

theorem foldlM_envStep_reads {l : List (String × Nat)}
    (h : l.foldlM (envStep lookup) acc = .ok acc') : ∀ q ∈ l, OverrideReads lookup q.1 := by
  induction l generalizing acc with
  | nil => simp
  | cons q l ih =>
    rw [List.forall_mem_cons]
    cases hq : lookup (envName q.1) with
    | none =>
      rw [List.foldlM_cons, envStep_none hq] at h
      exact ⟨overrideReads_of_none hq, ih h⟩
    | some r =>
      cases hn : Text.readWord? 64 (Text.trimBlank r) with
      | none =>
        rw [List.foldlM_cons, envStep_unreadable hq hn] at h
        cases h
      | some n =>
        rw [List.foldlM_cons, envStep_budget hq hn] at h
        exact ⟨overrideReads_of_budget hq hn, ih h⟩

/-! ### Tables with their keys in place -/

theorem listGet?_map_values (l : List (String × Nat)) (g : String → Nat → Nat) (k : String) :
    KeyMap.listGet? (l.map fun q => (q.1, g q.1 q.2)) k = (KeyMap.listGet? l k).map (g k) := by
  induction l with
  | nil => rfl
  | cons q l ih =>
    obtain ⟨k', v'⟩ := q
    simp only [List.map_cons, KeyMap.listGet?_cons]
    split
    · next hk => subst hk; rfl
    · exact ih

/-- A table overridden keeps its keys in place, each with the value of its variable or its
own. -/
theorem withEnv_eq_map (h : withEnv t lookup = .ok t') :
    t'.toList = t.toList.map fun q => (q.1, (envOverride lookup q.1).getD q.2) := by
  rw [withEnv_eq_foldlM] at h
  obtain ⟨t'', hfold, hget⟩ := foldlM_envStep_ok (foldlM_envStep_reads h) t
  rw [h, Except.ok.injEq] at hfold
  subst hfold
  -- the mapped pairs stay sorted, so lookups decide the list
  refine KeyMap.eq_of_listGet? t'.sorted (List.pairwise_map.2 t.sorted) fun k => ?_
  change t'.get? k = _
  rw [hget, listGet?_map_values t.toList fun k v => (envOverride lookup k).getD v]
  change _ = (t.get? k).map _
  cases hv : KeyMap.get? t k with
  | none => rw [if_neg (show k ∉ t.toList.map Prod.fst from KeyMap.get?_eq_none_iff.1 hv)]; rfl
  | some v =>
    -- a key of the table: its value, overridden if its variable gives one
    rw [if_pos (show k ∈ t.toList.map Prod.fst from KeyMap.mem_keys_of_get? hv)]
    cases envOverride lookup k <;> rfl

/-- A key's budget after the overrides: its own, replaced by its variable's when that gives
one. -/
theorem get?_withEnv (h : withEnv t lookup = .ok t') (k : String) :
    t'.get? k = (t.get? k).map fun v => (envOverride lookup k).getD v := by
  change KeyMap.listGet? t'.toList k = _
  rw [withEnv_eq_map h, listGet?_map_values t.toList fun k v => (envOverride lookup k).getD v]
  rfl

theorem withEnv_ok_iff :
    (∃ t', withEnv t lookup = .ok t') ↔ ∀ k ∈ KeyMap.keys t, OverrideReads lookup k := by
  rw [withEnv_eq_foldlM]
  constructor
  · rintro ⟨t', h⟩ k hk
    obtain ⟨q, hq, rfl⟩ := List.mem_map.1 hk
    exact foldlM_envStep_reads h q hq
  · intro h
    obtain ⟨t', hfold, -⟩ := foldlM_envStep_ok (fun q hq => h q.1 (List.mem_map_of_mem hq)) t
    exact ⟨t', hfold⟩

/-- The overrides of a table stop at its smallest key whose variable spells no budget. -/
theorem withEnv_eq_error {e : ThresholdError} (h : withEnv t lookup = .error e) :
    ∃ k r, k ∈ KeyMap.keys t ∧ lookup (envName k) = some r ∧
      ¬ IsBudget (Text.trimBlank r) ∧ e = .invalidValue k (Text.trimBlank r) ∧
      ∀ k' ∈ KeyMap.keys t, k' < k → OverrideReads lookup k' := by
  rw [withEnv_eq_foldlM] at h
  obtain ⟨pre, q, post, r, hsplit, hpre, hr, hbad, rfl⟩ := foldlM_envStep_eq_error h
  have ht := t.sorted
  rw [hsplit] at ht
  refine ⟨q.1, r, by simp [KeyMap.keys, hsplit], hr, hbad, rfl, fun k' hk' hlt => ?_⟩
  -- a key below the one that stops comes before it, where every variable was read
  obtain ⟨q', hq', rfl⟩ := List.mem_map.1 hk'
  rw [hsplit] at hq'
  rcases List.mem_append.1 hq' with hq' | hq'
  · exact hpre q' hq'
  · rcases List.mem_cons.1 hq' with rfl | hq'
    · exact absurd hlt (String.lt_irrefl _)
    · have hgt : q.1 < q'.1 := (List.pairwise_cons.1 (List.pairwise_append.1 ht).2.1).1 q' hq'
      exact absurd hlt (String.lt_asymm hgt)

/-- Keys whose names give the same variable take the same value from it. -/
theorem withEnv_shared_variable (h : withEnv t lookup = .ok t')
    {k₁ k₂ r : String} (h₁ : k₁ ∈ KeyMap.keys t) (h₂ : k₂ ∈ KeyMap.keys t)
    (hname : envName k₁ = envName k₂) (hr : lookup (envName k₁) = some r) :
    KeyMap.get? t' k₁ = KeyMap.get? t' k₂ := by
  have hreads := withEnv_ok_iff.1 ⟨t', h⟩
  obtain ⟨n, hn⟩ := Option.isSome_iff_exists.1 (overrideReads_iff.1 (hreads k₁ h₁) r hr)
  have hov₁ : envOverride lookup k₁ = some n := envOverride_of_budget hr hn
  have hov₂ : envOverride lookup k₂ = some n := envOverride_of_budget (hname ▸ hr) hn
  obtain ⟨v₁, hv₁⟩ := KeyMap.exists_get?_of_mem_keys h₁
  obtain ⟨v₂, hv₂⟩ := KeyMap.exists_get?_of_mem_keys h₂
  rw [get?_withEnv h, get?_withEnv h, hv₁, hv₂, hov₁, hov₂]
  rfl

end ThresholdSet

/-! ### No budget file -/

namespace App

/-- Without a budget file an application has no budgets, whatever the environment holds. -/
theorem loadThresholds_of_absent {d : Descriptor} {fs : Host.FileTree} {cwd : Host.Location}
    {repo : HostPath} (h : fs.existsAt cwd ((d.sourceDir repo).join thresholdFile) = false)
    (lookup : String → Option String) : d.loadThresholds fs cwd repo lookup = .ok .empty := by
  simp [Descriptor.loadThresholds, loadThresholdFile, h, ThresholdSet.withEnv, bind,
    Except.bind, pure, Except.pure]

end App

namespace Orchestrator

/-- A scenario holds the budgets its application's budget file gives. -/
theorem newScenario_thresholds {o : Orchestrator} {w : Host.World} {app : App.Descriptor}
    {mode : Mode} {s : Scenario} (h : o.newScenario w app mode = .ok s) :
    app.loadThresholds w.files o.cwd o.settings.repoDir o.lookup = .ok s.thresholds := by
  unfold Orchestrator.newScenario at h
  -- the whitelist is left unevaluated: only whether it was built matters here
  generalize Whitelist.build app.whitelist o.os = wb at h
  cases wb with
  | error e => simp [bind, Except.bind] at h
  | ok wl =>
    cases ht : app.loadThresholds w.files o.cwd o.settings.repoDir o.lookup with
    | error e => simp [ht, bind, Except.bind] at h
    | ok th =>
      simp only [ht, mapError_ok, bind, Except.bind, pure, Except.pure, Except.ok.injEq] at h
      rw [← h]

/-- With no budgets the gate is skipped: nothing is checked, recorded or changed. -/
theorem checkThresholds_of_empty (o : Orchestrator) (obs : Observed) {p : Progress}
    (h : p.scenario.thresholds = .empty) : (o.checkThresholds obs).run p = .ok () p := by
  simp [checkThresholds, Stage.scenario, h]

end Orchestrator

namespace ThresholdSet

/-- Overriding budgets from the environment. A table is overridden exactly when each of its
keys whose variable is set has a value that spells a budget once trimmed. The result then has the table's keys in place, each with the
value of its variable or, without one, its own; so keys whose names give the same set
variable take the same value. Otherwise the error names the smallest key whose variable
spells no budget, with that value trimmed. An application without a budget file has no
budgets whatever the environment holds, and a scenario made for it skips the budget gate. -/
theorem withEnv_spec (t : ThresholdSet) (lookup : String → Option String) :
    ((∃ t', withEnv t lookup = .ok t') ↔ ∀ k ∈ KeyMap.keys t, OverrideReads lookup k) ∧
    (∀ t', withEnv t lookup = .ok t' →
      t'.toList = t.toList.map (fun q => (q.1, (envOverride lookup q.1).getD q.2)) ∧
      ∀ k₁ ∈ KeyMap.keys t, ∀ k₂ ∈ KeyMap.keys t, ∀ r, envName k₁ = envName k₂ →
        lookup (envName k₁) = some r → KeyMap.get? t' k₁ = KeyMap.get? t' k₂) ∧
    (∀ e, withEnv t lookup = .error e → ∃ k r, k ∈ KeyMap.keys t ∧
      lookup (envName k) = some r ∧ ¬ IsBudget (Text.trimBlank r) ∧
      e = .invalidValue k (Text.trimBlank r) ∧
      ∀ k' ∈ KeyMap.keys t, k' < k → OverrideReads lookup k') ∧
    (∀ (d : App.Descriptor) fs cwd repo,
      fs.existsAt cwd ((d.sourceDir repo).join App.thresholdFile) = false →
      d.loadThresholds fs cwd repo lookup = .ok .empty) ∧
    (∀ (o : Orchestrator) (w : Host.World) app mode s, o.newScenario w app mode = .ok s →
      w.files.existsAt o.cwd ((app.sourceDir o.settings.repoDir).join App.thresholdFile) = false →
      s.thresholds = .empty ∧ ∀ obs (p : Progress), p.scenario.thresholds = s.thresholds →
        (o.checkThresholds obs).run p = .ok () p) := by
  refine ⟨withEnv_ok_iff, fun t' h => ⟨withEnv_eq_map h, ?_⟩,
    fun e h => withEnv_eq_error h,
    fun d fs cwd repo habsent => App.loadThresholds_of_absent habsent lookup, ?_⟩
  · intro k₁ h₁ k₂ h₂ r hname hr
    exact withEnv_shared_variable h h₁ h₂ hname hr
  · intro o w app mode s hs habsent
    -- the scenario holds what the missing file gives: nothing
    have hempty : s.thresholds = .empty := by
      have hload := Orchestrator.newScenario_thresholds hs
      rw [App.loadThresholds_of_absent habsent] at hload
      exact (Except.ok.inj hload).symm
    exact ⟨hempty, fun obs p hp =>
      Orchestrator.checkThresholds_of_empty o obs (hp.trans hempty)⟩

/-- Two keys whose names differ only where the variable name cannot tell them apart, both
overridden by a spaced `7`. -/
theorem withEnv_spec_every_key :
    (withEnv ⟨[("a-b", 1), ("a.b", 2)], by decide⟩ (fun _ => some " 7")).map KeyMap.toList =
      .ok [("a-b", 7), ("a.b", 7)] := by
  have hspec := withEnv_spec ⟨[("a-b", 1), ("a.b", 2)], by decide⟩ (fun _ => some " 7")
  have hseven : Text.readWord? 64 (Text.trimBlank " 7") = some 7 := by decide
  obtain ⟨t', ht'⟩ := hspec.1.2 fun k _ r hr => isBudget_iff.2 (by
    cases hr
    rw [hseven]
    rfl)
  rw [ht']
  show Except.ok t'.toList = _
  rw [(hspec.2.1 t' ht').1]
  simp [envOverride, hseven]

end ThresholdSet

end LaunchBench
