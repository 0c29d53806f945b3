import LaunchBench.Proofs.ContentProbe
import LaunchBench.Proofs.Lifecycle
import LaunchBench.Scenario.Run
/-!
Which values a measurement refuses.

A measurement's numbers enter through a builder that refuses values that are not positive,
except a stop time on Windows, which is then left out. A start and stop cycle enters its build
time, its time to the first good answer, the start and stop times its log reports and the
sampled values it has; a development loop enters the same without a build time, with its
reload time when an edit was made. The build step and the probes measure at least one
millisecond, and unknown samples are left out, so only the log's times can be refused.

* **`MeasurementBuilder.putTimes_eq_error_iff`**: entering a log's start and stop times fails
  exactly when the start time is not positive, which is reported first, or, off Windows, when
  the stop time is not positive.
* **`withSample_ok`**: entering a sample never fails.
* **`Probe.Prober.waitForContent_pos`**, **`Orchestrator.buildStep_pos`**,
  **`Orchestrator.startAndProbe_pos`**: the measured durations are positive.
* **`measurementRefusal_spec`**: both measurements fail exactly as their log's times do, and
  the durations entered into them are positive.
-/

namespace LaunchBench

open Host Std.Do

set_option mvcgen.warning false

/-- The error with which the start and stop times of a run's log refuse a measurement on a
host of the family `os`: a start time that is not positive, which is checked first, or, off
Windows, a stop time that is not positive. -/
def RefusesTimes (os : OsFamily) (times : StartStop) (e : NonPositive) : Prop :=
  (times.startedMs ≤ 0 ∧ e = ⟨"startedInMs", times.startedMs⟩) ∨
    (0 < times.startedMs ∧ os.isWindows = false ∧ times.stoppedMs ≤ 0 ∧
      e = ⟨"stoppedInMs", times.stoppedMs⟩)

/-- The times refuse a measurement exactly when the start time is not positive or, off
Windows, the stop time is not positive. -/
theorem exists_refusesTimes_iff (os : OsFamily) (times : StartStop) :
    (∃ e, RefusesTimes os times e) ↔
      times.startedMs ≤ 0 ∨ (os.isWindows = false ∧ times.stoppedMs ≤ 0) := by
  constructor
  · rintro ⟨e, ⟨hle, -⟩ | ⟨-, hw, hle, -⟩⟩
    · exact .inl hle
    · exact .inr ⟨hw, hle⟩
  · rintro (hle | ⟨hw, hle⟩)
    · exact ⟨_, .inl ⟨hle, rfl⟩⟩
    · by_cases hs : times.startedMs ≤ 0
      · exact ⟨_, .inl ⟨hs, rfl⟩⟩
      · exact ⟨_, .inr ⟨by omega, hw, hle, rfl⟩⟩

/-- A measurement fails exactly when the start and stop times of its log are refused, and then
with their error. -/
def FailsAsTimes (os : OsFamily) (times : StartStop)
    (r : Except NonPositive MeasurementBuilder) : Prop :=
  ((∃ e, r = .error e) ↔
      times.startedMs ≤ 0 ∨ (os.isWindows = false ∧ times.stoppedMs ≤ 0)) ∧
    ∀ e, r = .error e ↔ RefusesTimes os times e

theorem FailsAsTimes.of_iff {os : OsFamily} {times : StartStop}
    {r : Except NonPositive MeasurementBuilder} (h : ∀ e, r = .error e ↔ RefusesTimes os times e) :
    FailsAsTimes os times r :=
  ⟨by simp only [h]; exact exists_refusesTimes_iff os times, h⟩

/-! ### The builder -/

theorem ok_bind {ε α β : Type} (a : α) (f : α → Except ε β) : (Except.ok a >>= f) = f a := rfl

theorem error_bind {ε α β : Type} (e : ε) (f : α → Except ε β) :
    (Except.error e >>= f) = Except.error e := rfl

namespace MeasurementBuilder

variable {b b' : MeasurementBuilder} {k : Metric} {x : Int} {e : NonPositive}

theorem put_pos (b : MeasurementBuilder) (k : Metric) (hx : 0 < x) :
    b.put k x = .ok { b with record := b.record.set k x } := by
  simp [put, Int.not_le.2 hx]

theorem put_os (h : b.put k x = .ok b') : b'.os = b.os := by
  unfold put at h
  split at h
  · split at h
    · cases h
      rfl
    · cases h
  · cases h
    rfl

/-- A value is refused exactly when it is not positive, unless it is a stop time on
Windows. -/
theorem put_eq_error_iff :
    b.put k x = .error e ↔
      x ≤ 0 ∧ ¬ (k = .stoppedIn ∧ b.os.isWindows = true) ∧ e = ⟨k.column, x⟩ := by
  unfold put
  by_cases hx : x ≤ 0
  · by_cases hw : k = .stoppedIn ∧ b.os.isWindows = true
    · simp [hx, hw]
    · have hw' : (k = .stoppedIn && b.os.isWindows) = false := by
        cases hb : b.os.isWindows <;> simp_all
      simp only [hx, if_true, hw', Bool.false_eq_true, if_false, Except.error.injEq, hw,
        not_false_eq_true, true_and]
      exact eq_comm
  · simp [hx]

/-- A value that is entered is positive, unless it is a stop time on Windows. -/
theorem pos_of_put_eq_ok (h : b.put k x = .ok b')
    (hk : ¬ (k = .stoppedIn ∧ b.os.isWindows = true)) : 0 < x := by
  apply Int.lt_of_not_ge
  intro hle
  rw [put_eq_error_iff.2 ⟨hle, hk, rfl⟩] at h
  cases h

/-- Entering a log's times, the start time and then the stop time, and after them values that
are never refused, fails exactly as `RefusesTimes` says. -/
theorem putTimes_eq_error_iff (b : MeasurementBuilder) (times : StartStop)
    (rest : MeasurementBuilder → Except NonPositive MeasurementBuilder)
    (hrest : ∀ b', ∃ b'', rest b' = .ok b'') :
    (b.put .startedIn times.startedMs >>= fun b => b.put .stoppedIn times.stoppedMs >>= rest) =
        .error e ↔ RefusesTimes b.os times e := by
  unfold RefusesTimes
  cases hs : b.put .startedIn times.startedMs with
  | error e₁ =>
    -- the start time is refused
    obtain ⟨hle, -, rfl⟩ := put_eq_error_iff.1 hs
    simp only [error_bind, Except.error.injEq]
    constructor
    · rintro rfl
      exact .inl ⟨hle, rfl⟩
    · rintro (⟨-, rfl⟩ | ⟨hpos, -⟩)
      · rfl
      · omega
  | ok b₁ =>
    -- the start time is accepted, so it is positive, and the stop time decides
    have hpos : 0 < times.startedMs := pos_of_put_eq_ok hs (by simp)
    simp only [ok_bind]
    cases hs' : b₁.put .stoppedIn times.stoppedMs with
    | error e₂ =>
      obtain ⟨hle, hw, rfl⟩ := put_eq_error_iff.1 hs'
      rw [put_os hs] at hw
      simp only [error_bind, Except.error.injEq]
      constructor
      · rintro rfl
        exact .inr ⟨hpos, by simpa using hw, hle, rfl⟩
      · rintro (⟨hle', -⟩ | ⟨-, -, -, rfl⟩)
        · omega
        · rfl
    | ok b₂ =>
      -- the stop time is accepted too, and nothing after it is refused
      obtain ⟨b₃, hb₃⟩ := hrest b₂
      simp only [ok_bind, hb₃, reduceCtorEq, false_iff, not_or, not_and]
      refine ⟨fun hle => absurd hpos (by omega), fun _ hw hle => ?_⟩
      have hstop := pos_of_put_eq_ok hs' (by simp [put_os hs, hw])
      omega

end MeasurementBuilder

/-- Entering a sample never fails: only known, positive values are entered. -/
theorem withSample_ok (b : MeasurementBuilder) (sample : ResourceSample) :
    ∃ b', withSample b sample = .ok b' := by
  -- the descriptor count, entered last, only when it is known
  have hfds : ∀ b₁ : MeasurementBuilder, ∃ b₂,
      (if sample.openFds > 0 then b₁.put .openFds sample.openFds else pure b₁) =
        (.ok b₂ : Except NonPositive MeasurementBuilder) := by
    intro b₁
    split
    · exact ⟨_, MeasurementBuilder.put_pos _ _ ‹_›⟩
    · exact ⟨b₁, rfl⟩
  unfold withSample
  dsimp only
  split
  · rw [MeasurementBuilder.put_pos _ _ ‹_›, ok_bind]
    exact hfds _
  · exact hfds b

/-! ### The two measurements -/

section Chains

variable {os : OsFamily} {app : String} {mode : Mode} {times : StartStop}
  {sample : ResourceSample} {e : NonPositive}

/-- A count below `2^63` is entered as itself. -/
theorem asSigned64_of_lt {n : Nat} (h : n < 2 ^ 63) : asSigned64 n = n := by
  have hmod : n % 2 ^ 64 = n := Nat.mod_eq_of_lt (h.trans (by norm_num))
  rw [asSigned64, Nat.pow_eq, Nat.pow_eq, hmod, if_pos h]

theorem asSigned64_pos {n : Nat} (hpos : 0 < n) (h : n < 2 ^ 63) : 0 < asSigned64 n := by
  rw [asSigned64_of_lt h]
  exact Int.ofNat_lt.2 hpos

/-- A start and stop cycle's measurement, with build and first-answer times that are positive
and below `2^63`, fails exactly as its log's times do. -/
theorem iterationMeasurement_eq_error_iff {buildMs firstOk : Nat} (hbuild : 0 < buildMs)
    (hbuild' : buildMs < 2 ^ 63) (hfirst : 0 < firstOk) (hfirst' : firstOk < 2 ^ 63) :
    iterationMeasurement os app mode buildMs firstOk times sample = .error e ↔
      RefusesTimes os times e := by
  -- the build time and the time to the first answer are entered as positive, so accepted
  simp only [iterationMeasurement, MeasurementBuilder.put_pos _ _ (asSigned64_pos hbuild hbuild'),
    MeasurementBuilder.put_pos _ _ (asSigned64_pos hfirst hfirst'), ok_bind]
  exact MeasurementBuilder.putTimes_eq_error_iff _ times _ fun b => withSample_ok b sample

/-- A development loop's measurement, with first-answer and reload times that are positive and
below `2^63`, fails exactly as its log's times do. -/
theorem devLoopMeasurement_eq_error_iff {firstOk : Nat} {reload : Option Nat}
    (hfirst : 0 < firstOk) (hfirst' : firstOk < 2 ^ 63)
    (hreload : ∀ ms, reload = some ms → 0 < ms ∧ ms < 2 ^ 63) :
    devLoopMeasurement os app mode firstOk times reload sample = .error e ↔
      RefusesTimes os times e := by
  simp only [devLoopMeasurement, MeasurementBuilder.put_pos _ _ (asSigned64_pos hfirst hfirst'),
    ok_bind]
  refine MeasurementBuilder.putTimes_eq_error_iff _ times _ fun b => ?_
  -- a reload time, when there is one, is entered as positive, and the sample is never refused
  cases reload with
  | none => exact withSample_ok b sample
  | some ms =>
    obtain ⟨hpos, hlt⟩ := hreload ms rfl
    simp only [MeasurementBuilder.put_pos _ _ (asSigned64_pos hpos hlt), ok_bind]
    exact withSample_ok _ sample

end Chains

/-! ### The durations measured -/

namespace Probe.Prober

/-- A probe that succeeds took at least a millisecond: its wait succeeded within its rounds,
with the milliseconds it measured. -/
theorem waitForContent_pos (p : Prober) {w : World} {url expected : String} {timeoutMs n : Nat}
    (h : (p.waitForContent w url timeoutMs expected).2 = .ok n) : 0 < n := by
  simp only [waitForContent, awaitContent] at h
  -- a wait whose rounds run out fails
  rcases hrun : p.config.waitForContent p.network.host url timeoutMs expected true
    (rounds timeoutMs) w with _ | ⟨w', _ | x⟩
  · simp [hrun, Except.map] at h
  · simp [hrun, Except.map] at h
  · simp only [hrun, Option.getD_some, Except.map, Except.ok.injEq] at h
    subst h
    exact ProberConfig.contentLoop_ok_pos _ _ hrun

end Probe.Prober

namespace Orchestrator

variable (o : Orchestrator)

/-- A build step that succeeds took at least a millisecond. -/
theorem buildStep_pos (t : Template) (step : String) :
    ⦃fun _ => ⌜True⌝⦄ o.buildStep t step ⦃post⟨fun ms _ => ⌜0 < ms⌝, fun _ _ => ⌜True⌝⟩⦄ := by
  mvcgen [buildStep, Stage.lift]
  all_goals simp +zetaDelta

/-- The application answered its readiness page after at least a millisecond. -/
theorem startAndProbe_pos (c : Command) (i : Nat) :
    ⦃fun _ => ⌜True⌝⦄ o.startAndProbe c i ⦃post⟨fun r _ => ⌜0 < r.1⌝, fun _ _ => ⌜True⌝⟩⦄ := by
  mvcgen [startAndProbe, Stage.lift]
  all_goals exact Probe.Prober.waitForContent_pos _ ‹_›

end Orchestrator

/-- What can refuse the measurements of a scenario run by `o`. -/
structure MeasurementRefusals (o : Orchestrator) : Prop where
  /-- A start and stop cycle's measurement, given a build time and a time to the first answer
  that are positive and below `2^63` milliseconds, fails exactly as the start and stop times of
  its log refuse it. -/
  iteration : ∀ app mode buildMs firstOk times sample, 0 < buildMs → buildMs < 2 ^ 63 →
    0 < firstOk → firstOk < 2 ^ 63 →
    FailsAsTimes o.os times (iterationMeasurement o.os app mode buildMs firstOk times sample)
  /-- So does a development loop's measurement, given a time to the first answer and a reload
  time, if any, that are positive and below `2^63` milliseconds. -/
  devLoop : ∀ app mode firstOk times reload sample, 0 < firstOk → firstOk < 2 ^ 63 →
    (∀ ms, reload = some ms → 0 < ms ∧ ms < 2 ^ 63) →
    FailsAsTimes o.os times (devLoopMeasurement o.os app mode firstOk times reload sample)
  /-- The build time a build step gives is positive. -/
  build : ∀ t step,
    ⦃fun _ => ⌜True⌝⦄ o.buildStep t step ⦃post⟨fun ms _ => ⌜0 < ms⌝, fun _ _ => ⌜True⌝⟩⦄
  /-- The time to the first answer that starting the application gives is positive. -/
  firstAnswer : ∀ c i,
    ⦃fun _ => ⌜True⌝⦄ o.startAndProbe c i ⦃post⟨fun r _ => ⌜0 < r.1⌝, fun _ _ => ⌜True⌝⟩⦄
  /-- Every wait for a page, the reload's included, that succeeds gives a positive time. -/
  pageWait : ∀ w url timeoutMs expected n,
    (o.prober.waitForContent w url timeoutMs expected).2 = .ok n → 0 < n

/-- The measurements of a scenario can be refused only for the times of the run's log. The
measurement of a start and stop cycle, and that of a development loop, fail exactly when the
start time the log reports is not positive (a log that reports none gives `-1`), or, off
Windows, when its stop time is not positive; the error then names the
start time, which is checked first, or the stop time. The build time, the time to the first
answer and the reload time they are given are positive, being measured as at least a
millisecond, and, below `2^63` milliseconds, are entered as themselves; the sampled values are
entered only when known; so none of these is ever refused. -/
theorem measurementRefusal_spec (o : Orchestrator) : MeasurementRefusals o where
  iteration _ _ _ _ _ _ hbuild hbuild' hfirst hfirst' :=
    .of_iff fun _ => iterationMeasurement_eq_error_iff hbuild hbuild' hfirst hfirst'
  devLoop _ _ _ _ _ _ hfirst hfirst' hreload :=
    .of_iff fun _ => devLoopMeasurement_eq_error_iff hfirst hfirst' hreload
  build := o.buildStep_pos
  firstAnswer := o.startAndProbe_pos
  pageWait _ _ _ _ _ h := Probe.Prober.waitForContent_pos _ h

end LaunchBench
