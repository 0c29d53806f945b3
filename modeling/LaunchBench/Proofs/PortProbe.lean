import LaunchBench.Proofs.ContentProbe
import LaunchBench.Proofs.Lifecycle
/-!
Waiting for a port to close, on any host, and the stop that waits for it.

A port check is run on the host that keeps a record of its calls (`ProbeHost.traced`). Its
record is described round by round (`PortCalls`): rounds that go on (`PortRound`), each a
connection attempt that does not find the port closed, with time left after it, then a sleep;
and a last attempt (`PortEnd`), which finds the port refused or reset, or leaves no time. Every
attempt is given the connection bound or the time left, whichever is less, but at least a
millisecond, so an attempt is made even with no time at all; unlike a wait for a page, the
check reads the clock only after an attempt.

* **`ProberConfig.portLoop_traced`**: the run lemma, by induction on the rounds over the three
  equations of a round (`portLoop_closed`, `portLoop_expired`, `portLoop_next`).
* **`ProberConfig.portLoop_isSome`**: on a steady host with a positive pause, a check ends
  within one round more than its milliseconds; so the world's prober never runs out of rounds
  (`Prober.waitForPortClosed_eq`).
* **`Orchestrator.stopAndVerify_verdict`**: a stop fails with the error of its graceful stop of
  the held process when that fails; otherwise it fails, and then only with `portStillOpen`,
  exactly when the port check made after it says the port stayed open.
* **`portClose_spec`**: on every host, whatever its connections find and however its clock
  moves, a port check says closed only right after an attempt refused or reset, says open only
  after an attempt that left no time, gives every attempt a positive bound when the connection
  bound is positive, makes exactly one attempt with no time, and ends on a steady clock with a
  positive pause; and after a graceful stop that succeeded, a stop fails with `portStillOpen`
  exactly when its check says open.
-/

namespace LaunchBench

open Host Std.Do

set_option mvcgen.warning false

namespace Probe

namespace ProberConfig

/-- One round of a port check that goes on: an attempt, given the connection bound or the time
left but at least a millisecond, that does not find the port closed; then, with time left, a
sleep for the pause or the time left, whichever is less. -/
def PortRound (c : ProberConfig) (host : String) (port T started : Nat)
    (round : List ProbeCall) : Prop :=
  ∃ t r t', round = [.connect t host port (min c.connectTimeoutMs (max (T - (t - started)) 1)) r,
      .sleep t' (min c.portPollMs (T - (t' - started)))] ∧
    r.isClosed = false ∧ 0 < T - (t' - started)

/-- The last attempt of a port check, with the clock at `now` after it: an attempt, given the
connection bound or the time left but at least a millisecond, whose finding is the answer, and
which leaves no time unless it found the port closed. -/
def PortEnd (c : ProberConfig) (host : String) (port T started now : Nat)
    (fin : List ProbeCall) (closed : Bool) : Prop :=
  ∃ t r, fin = [.connect t host port (min c.connectTimeoutMs (max (T - (t - started)) 1)) r] ∧
    closed = r.isClosed ∧ (r.isClosed = false → T - (now - started) = 0)

/-- The calls and the answer of a port check started at `started`, ending with the clock at
`now`: rounds that go on, then the last attempt. -/
def PortCalls (c : ProberConfig) (host : String) (port T started : Nat) (calls : List ProbeCall)
    (now : Nat) (closed : Bool) : Prop :=
  ∃ (rounds : List (List ProbeCall)) (fin : List ProbeCall), calls = rounds.flatten ++ fin ∧
    (∀ r ∈ rounds, c.PortRound host port T started r) ∧ c.PortEnd host port T started now fin closed

section Round

variable {σ : Type} (c : ProberConfig) (h : ProbeHost σ) {host : String} {port T started n : Nat}
  {s s₁ : σ} {r : Connection}

/-- The attempt finds the port refused or reset: the check ends with it. -/
theorem portLoop_closed
    (hc : h.connect s host port (min c.connectTimeoutMs (max (T - (h.clock s - started)) 1)) =
      (s₁, r))
    (hr : r.isClosed = true) :
    c.portLoop h host port T started (n + 1) s = some (s₁, true) := by
  simp [portLoop, hc, hr]

/-- The attempt does not find the port closed and leaves no time: the check gives up. -/
theorem portLoop_expired
    (hc : h.connect s host port (min c.connectTimeoutMs (max (T - (h.clock s - started)) 1)) =
      (s₁, r))
    (hr : r.isClosed = false) (ht : T - (h.clock s₁ - started) = 0) :
    c.portLoop h host port T started (n + 1) s = some (s₁, false) := by
  simp [portLoop, hc, hr, ht]

/-- The attempt does not find the port closed and leaves time: the check sleeps and goes on. -/
theorem portLoop_next
    (hc : h.connect s host port (min c.connectTimeoutMs (max (T - (h.clock s - started)) 1)) =
      (s₁, r))
    (hr : r.isClosed = false) (ht : T - (h.clock s₁ - started) ≠ 0) :
    c.portLoop h host port T started (n + 1) s =
      c.portLoop h host port T started n
        (h.sleep s₁ (min c.portPollMs (T - (h.clock s₁ - started)))) := by
  simp [portLoop, hc, hr, ht]

end Round

section Runs

variable {σ : Type} (c : ProberConfig) (h : ProbeHost σ) {host : String} {port T started : Nat}

/-- A check that ends on a host ends the same on the host with a record, whose record is the
calls its rounds and last attempt describe. The induction is on the rounds, over the state and
the record so far. -/
theorem portLoop_traced (log : List ProbeCall) {n : Nat} {s s' : σ} {closed : Bool}
    (hrun : c.portLoop h host port T started n s = some (s', closed)) :
    ∃ (rounds : List (List ProbeCall)) (fin : List ProbeCall),
      c.portLoop h.traced host port T started n (s, log) =
        some ((s', log ++ rounds.flatten ++ fin), closed) ∧
      (∀ r ∈ rounds, c.PortRound host port T started r) ∧
      c.PortEnd host port T started (h.clock s') fin closed := by
  induction n generalizing s log with
  | zero => cases hrun
  | succ n ih =>
    rcases hc : h.connect s host port (min c.connectTimeoutMs (max (T - (h.clock s - started)) 1))
      with ⟨s₁, r⟩
    have hc' := h.traced_connect log hc
    cases hr : r.isClosed with
    | true =>
      -- refused or reset: the check ends
      rw [portLoop_closed c h hc hr] at hrun
      obtain ⟨rfl, rfl⟩ := Prod.mk.inj (Option.some.inj hrun)
      refine ⟨[], _, ?_, by simp, h.clock s, r, rfl, hr.symm, fun hopen => by simp [hr] at hopen⟩
      rw [portLoop_closed c h.traced hc' hr]
      simp
    | false =>
      by_cases ht : T - (h.clock s₁ - started) = 0
      · -- no time left after the attempt: the check gives up
        rw [portLoop_expired c h hc hr ht] at hrun
        obtain ⟨rfl, rfl⟩ := Prod.mk.inj (Option.some.inj hrun)
        refine ⟨[], _, ?_, by simp, h.clock s, r, rfl, hr.symm, fun _ => ht⟩
        rw [portLoop_expired c h.traced hc' hr ht]
        simp
      · -- a round that goes on: the attempt, then the sleep
        rw [portLoop_next c h hc hr ht] at hrun
        obtain ⟨rounds, fin, hrun', hrounds, hend⟩ := ih (log ++ [ProbeCall.connect
          (h.clock s) host port (min c.connectTimeoutMs (max (T - (h.clock s - started)) 1)) r,
          ProbeCall.sleep (h.clock s₁) (min c.portPollMs (T - (h.clock s₁ - started)))]) hrun
        refine ⟨[.connect (h.clock s) host port
            (min c.connectTimeoutMs (max (T - (h.clock s - started)) 1)) r,
          .sleep (h.clock s₁) (min c.portPollMs (T - (h.clock s₁ - started)))] :: rounds, fin,
          ?_, ?_, hend⟩
        · rw [portLoop_next c h.traced hc' hr ht, ProbeHost.traced_clock, ProbeHost.traced_sleep]
          simp only [List.append_assoc, List.singleton_append] at hrun' ⊢
          rw [hrun']
          simp
        · intro round hmem
          rcases List.mem_cons.1 hmem with rfl | hmem
          · exact ⟨_, _, _, rfl, hr, by omega⟩
          · exact hrounds round hmem

/-- The record changes none of the host's answers: a check on the host with a record ends as
on the host. -/
theorem portLoop_traced_forget (log : List ProbeCall) {n : Nat} {s : σ} :
    (c.portLoop h.traced host port T started n (s, log)).map (fun a => (a.1.1, a.2)) =
      c.portLoop h host port T started n s := by
  induction n generalizing s log with
  | zero => rfl
  | succ n ih =>
    rcases hc : h.connect s host port (min c.connectTimeoutMs (max (T - (h.clock s - started)) 1))
      with ⟨s₁, r⟩
    have hc' := h.traced_connect log hc
    cases hr : r.isClosed with
    | true =>
      rw [portLoop_closed c h.traced hc' hr, portLoop_closed c h hc hr]
      rfl
    | false =>
      by_cases ht : T - (h.clock s₁ - started) = 0
      · rw [portLoop_expired c h.traced hc' hr ht, portLoop_expired c h hc hr ht]
        rfl
      · rw [portLoop_next c h.traced hc' hr ht, portLoop_next c h hc hr ht,
          ProbeHost.traced_clock, ProbeHost.traced_sleep]
        exact ih _

/-- More rounds keep an answer. -/
theorem portLoop_mono {n : Nat} {s : σ} {a : σ × Bool}
    (hrun : c.portLoop h host port T started n s = some a) (k : Nat) :
    c.portLoop h host port T started (n + k) s = some a := by
  induction n generalizing s with
  | zero => cases hrun
  | succ n ih =>
    rw [Nat.add_right_comm]
    rcases hc : h.connect s host port (min c.connectTimeoutMs (max (T - (h.clock s - started)) 1))
      with ⟨s₁, r⟩
    cases hr : r.isClosed with
    | true =>
      rw [portLoop_closed c h hc hr] at hrun ⊢
      exact hrun
    | false =>
      by_cases ht : T - (h.clock s₁ - started) = 0
      · rw [portLoop_expired c h hc hr ht] at hrun ⊢
        exact hrun
      · rw [portLoop_next c h hc hr ht] at hrun ⊢
        exact ih hrun

/-- On a steady host with a positive pause, a check started at `started` ends within one round
more than the milliseconds it has left: a round that goes on ends with a sleep of at least a
millisecond while time is left. -/
theorem portLoop_isSome (hh : h.Steady) (hp : 0 < c.portPollMs) :
    ∀ (n : Nat) (s : σ), T - (h.clock s - started) < n → started ≤ h.clock s →
      (c.portLoop h host port T started n s).isSome := by
  intro n
  induction n with
  | zero => intro s hlt; omega
  | succ n ih =>
    intro s hlt hstart
    rcases hc : h.connect s host port (min c.connectTimeoutMs (max (T - (h.clock s - started)) 1))
      with ⟨s₁, r⟩
    cases hr : r.isClosed with
    | true =>
      rw [portLoop_closed c h hc hr]
      rfl
    | false =>
      by_cases ht : T - (h.clock s₁ - started) = 0
      · rw [portLoop_expired c h hc hr ht]
        rfl
      · rw [portLoop_next c h hc hr ht]
        -- the attempt does not turn the clock back, and the sleep lasts as asked
        have h₁ : h.clock s ≤ h.clock s₁ := by
          have := hh.connect s host port
            (min c.connectTimeoutMs (max (T - (h.clock s - started)) 1))
          rwa [hc] at this
        have h₂ := hh.sleep s₁ (min c.portPollMs (T - (h.clock s₁ - started)))
        exact ih _ (by omega) (by omega)

end Runs

/-- With a positive connection bound, every attempt of a check is given a positive bound. -/
theorem PortCalls.bound_pos {c : ProberConfig} {host : String} {port T started now : Nat}
    {calls : List ProbeCall} {closed : Bool} (hcalls : c.PortCalls host port T started calls now closed)
    (hct : 0 < c.connectTimeoutMs) {t : Nat} {host' : String} {port' bound : Nat} {r : Connection}
    (hmem : ProbeCall.connect t host' port' bound r ∈ calls) : 0 < bound := by
  obtain ⟨rounds, fin, rfl, hrounds, t₁, r₁, rfl, -, -⟩ := hcalls
  -- every attempt's bound is the connection bound or at least a millisecond
  have hmin : ∀ x, 0 < min c.connectTimeoutMs (max x 1) := fun x => by omega
  rcases List.mem_append.1 hmem with hmem | hmem
  · obtain ⟨round, hround, hin⟩ := List.mem_flatten.1 hmem
    obtain ⟨t₂, r₂, t₃, rfl, -, -⟩ := hrounds round hround
    simp only [List.mem_cons, ProbeCall.connect.injEq, reduceCtorEq, List.not_mem_nil,
      or_false] at hin
    obtain ⟨-, -, -, rfl, -⟩ := hin
    exact hmin _
  · simp only [List.mem_singleton, ProbeCall.connect.injEq] at hmem
    obtain ⟨-, -, -, rfl, -⟩ := hmem
    exact hmin _

/-- With no time, a check makes exactly one attempt, given the connection bound or a
millisecond, whichever is less. -/
theorem PortCalls.noTime {c : ProberConfig} {host : String} {port started now : Nat}
    {calls : List ProbeCall} {closed : Bool} (hcalls : c.PortCalls host port 0 started calls now closed) :
    ∃ t r, calls = [.connect t host port (min c.connectTimeoutMs 1) r] := by
  obtain ⟨rounds, fin, rfl, hrounds, t, r, rfl, -, -⟩ := hcalls
  -- a round that goes on needs time left after its attempt
  cases rounds with
  | nil => exact ⟨t, r, by simp⟩
  | cons round rounds =>
    obtain ⟨_, _, _, -, -, hleft⟩ := hrounds round List.mem_cons_self
    omega

end ProberConfig

/-- What a check that `host` and `port` closed, within `T` milliseconds, does on the host `h`
from the state `s₀`. -/
structure PortWait {σ : Type} (c : ProberConfig) (h : ProbeHost σ) (host : String) (port T : Nat)
    (s₀ : σ) : Prop where
  /-- A check that ends makes, on the host with a record, the calls of rounds that go on and
  then its last attempt: it says closed only right after an attempt refused or reset, and says
  open only after an attempt that left no time; every attempt is given the connection bound or
  the time left, but at least a millisecond. -/
  calls : ∀ n s' closed, c.waitForPortClosed h host port T n s₀ = some (s', closed) →
    ∃ calls, c.waitForPortClosed h.traced host port T n (s₀, []) = some ((s', calls), closed) ∧
      c.PortCalls host port T (h.clock s₀) calls (h.clock s') closed
  /-- The record changes none of the answers. -/
  forget : ∀ n, (c.waitForPortClosed h.traced host port T n (s₀, [])).map
    (fun a => (a.1.1, a.2)) = c.waitForPortClosed h host port T n s₀
  /-- With a positive connection bound, every attempt is given a positive bound. -/
  boundPos : 0 < c.connectTimeoutMs → ∀ n s' calls closed,
    c.waitForPortClosed h.traced host port T n (s₀, []) = some ((s', calls), closed) →
    ∀ t host' port' bound r, ProbeCall.connect t host' port' bound r ∈ calls → 0 < bound
  /-- With no time, a check makes exactly one attempt. -/
  noTime : T = 0 → ∀ n s' calls closed,
    c.waitForPortClosed h.traced host port T n (s₀, []) = some ((s', calls), closed) →
    ∃ t r, calls = [.connect t host port (min c.connectTimeoutMs 1) r]
  /-- More rounds keep an answer. -/
  mono : ∀ n k a, c.waitForPortClosed h host port T n s₀ = some a →
    c.waitForPortClosed h host port T (n + k) s₀ = some a
  /-- On a host whose clock never goes back and whose sleeps last as asked, with a positive
  pause, the check ends within `T + 1` rounds. -/
  ends : h.Steady → 0 < c.portPollMs → (c.waitForPortClosed h host port T (T + 1) s₀).isSome

section Wait

variable {σ : Type} (c : ProberConfig) (h : ProbeHost σ) {host : String} {port T n : Nat}
  {s₀ s' : σ} {closed : Bool}

/-- A check that ends on a host makes on the host with a record the calls its rounds and last
attempt describe. -/
theorem ProberConfig.waitForPortClosed_traced
    (hrun : c.waitForPortClosed h host port T n s₀ = some (s', closed)) :
    ∃ calls, c.waitForPortClosed h.traced host port T n (s₀, []) = some ((s', calls), closed) ∧
      c.PortCalls host port T (h.clock s₀) calls (h.clock s') closed := by
  rw [ProberConfig.waitForPortClosed] at hrun
  obtain ⟨rounds, fin, htr, hrounds, hend⟩ := c.portLoop_traced h [] hrun
  refine ⟨rounds.flatten ++ fin, ?_, rounds, fin, rfl, hrounds, hend⟩
  rw [ProberConfig.waitForPortClosed, ProbeHost.traced_clock, htr, List.nil_append]

/-- Every record of a check that ends is one that its rounds and last attempt describe. -/
theorem ProberConfig.portCalls_of_traced {calls : List ProbeCall}
    (hrun : c.waitForPortClosed h.traced host port T n (s₀, []) = some ((s', calls), closed)) :
    c.PortCalls host port T (h.clock s₀) calls (h.clock s') closed := by
  -- the check ends on the host too, with the same answer
  have hplain : c.waitForPortClosed h host port T n s₀ = some (s', closed) := by
    rw [ProberConfig.waitForPortClosed, ← c.portLoop_traced_forget h []]
    rw [ProberConfig.waitForPortClosed, ProbeHost.traced_clock] at hrun
    rw [hrun]
    rfl
  obtain ⟨calls', htr, hcalls⟩ := c.waitForPortClosed_traced h hplain
  rw [hrun, Option.some.injEq, Prod.mk.injEq, Prod.mk.injEq] at htr
  rw [htr.1.2]
  exact hcalls

end Wait

/-- A port check, on every host. -/
theorem portWait {σ : Type} (c : ProberConfig) (h : ProbeHost σ) (host : String) (port T : Nat)
    (s₀ : σ) : PortWait c h host port T s₀ where
  calls _ _ _ hrun := c.waitForPortClosed_traced h hrun
  forget _ := c.portLoop_traced_forget h []
  boundPos hct _ _ _ _ hrun _ _ _ _ _ hmem := (c.portCalls_of_traced h hrun).bound_pos hct hmem
  noTime hT _ _ _ _ hrun := by
    subst hT
    exact (c.portCalls_of_traced h hrun).noTime
  mono _ k _ hrun := c.portLoop_mono h hrun k
  ends hh hp := c.portLoop_isSome h hh hp (T + 1) s₀ (by omega) (Nat.le_refl _)

/-- With a positive pause, a prober's port check on the host's world never runs out of rounds:
its answer is the check's own. -/
theorem Prober.waitForPortClosed_eq (p : Prober) (hp : 0 < p.config.portPollMs) (w : World)
    (host : String) (port T : Nat) :
    p.config.waitForPortClosed p.network.host host port T (Prober.rounds T) w =
      some (p.waitForPortClosed w host port T) := by
  obtain ⟨a, ha⟩ := Option.isSome_iff_exists.1 ((portWait p.config p.network.host host port T w).ends
    p.network.host_steady hp)
  rw [Prober.waitForPortClosed, Prober.rounds, ha]
  rfl

end Probe

/-- A stage's triple whose error postcondition reads the error, read on a run: from a state
meeting the precondition, a run that succeeds meets `Q` and a run that fails meets `E`. -/
theorem Stage.outcome_of_spec {α : Type} {m : Stage α} {P : Progress → Prop}
    {Q : α → Progress → Prop} {E : ScenarioError → Progress → Prop}
    (h : ⦃fun p => ⌜P p⌝⦄ m ⦃post⟨fun a p => ⌜Q a p⌝, fun e p => ⌜E e p⌝⟩⦄)
    {p : Progress} (hp : P p) :
    (∀ a q, m.run p = .ok a q → Q a q) ∧ (∀ e q, m.run p = .error e q → E e q) := by
  -- the result read by its constructor, not by a `match`, whose matcher the flat file may share
  have hrun := EStateM.of_wp_run_eq (x := m.run p) rfl
    (fun r => EStateM.Result.casesOn (motive := fun _ => Prop) r Q E) (fun _ => h p hp)
  constructor
  · intro a q hr
    rw [hr] at hrun
    exact hrun
  · intro e q hr
    rw [hr] at hrun
    exact hrun

namespace Orchestrator

/-- The host after the first part of a stop: the held process, if any, stopped gracefully. -/
def stoppedWorld (o : Orchestrator) (p : Progress) : World :=
  match p.scenario.process with
  | some c => (o.supervisor.stop p.world c false).1
  | none => p.world

/-- The error of the first part of a stop, the graceful stop of the held process, when it
fails. -/
def heldStopError (o : Orchestrator) (p : Progress) : Option SupervisorError :=
  match p.scenario.process with
  | some c =>
    match (o.supervisor.stop p.world c false).2.2 with
    | .error e => some e
    | .ok () => none
  | none => none

/-- A stop fails with the error of the graceful stop of the held process when that fails.
Otherwise it succeeds when the port check made after it says the port closed, and fails with
`portStillOpen`, naming the host, the port and the seconds waited, when it says open. -/
theorem stopAndVerify_verdict (o : Orchestrator) (i : Nat) (p₀ : Progress) :
    ⦃fun p => ⌜p = p₀⌝⦄ o.stopAndVerify i
      ⦃post⟨fun _ _ => ⌜o.heldStopError p₀ = none ∧
          (o.prober.waitForPortClosed (o.stoppedWorld p₀) o.settings.host
            o.settings.port (o.settings.portCloseTimeoutSec * 1000)).2 = true⌝,
        fun e _ => ⌜(∃ se, o.heldStopError p₀ = some se ∧ e = .supervisor se) ∨
          (o.heldStopError p₀ = none ∧
            e = .portStillOpen o.settings.host o.settings.port o.settings.portCloseTimeoutSec ∧
            (o.prober.waitForPortClosed (o.stoppedWorld p₀) o.settings.host o.settings.port
              (o.settings.portCloseTimeoutSec * 1000)).2 = false)⌝⟩⦄ := by
  mvcgen [stopAndVerify]
  -- the stage, `stoppedWorld` and `heldStopError` match on the held process each with a
  -- matcher of its own
  all_goals cases hproc : p₀.scenario.process <;>
    simp_all +zetaDelta [stoppedWorld, heldStopError]

end Orchestrator

/-- How a stop ends from the state `p`: it fails with the error of the graceful stop of the
held process exactly when that stop fails; after one that succeeds, it fails with
`portStillOpen` exactly when the port check says the port stayed open and succeeds exactly when
it says closed; it fails no other way; with a positive pause, the check's answer is its own. -/
structure StopVerdict (o : Orchestrator) (i : Nat) (p : Progress) : Prop where
  /-- The stop fails with the graceful stop's error exactly when that stop fails. -/
  stopFails : ∀ se, (∃ p', (o.stopAndVerify i).run p = .error (.supervisor se) p') ↔
    o.heldStopError p = some se
  /-- The stop fails with `portStillOpen` exactly when the graceful stop succeeded and the
  check says open. -/
  fails : (∃ p', (o.stopAndVerify i).run p =
      .error (.portStillOpen o.settings.host o.settings.port o.settings.portCloseTimeoutSec) p') ↔
    o.heldStopError p = none ∧
      (o.prober.waitForPortClosed (o.stoppedWorld p) o.settings.host o.settings.port
        (o.settings.portCloseTimeoutSec * 1000)).2 = false
  /-- The stop succeeds exactly when the graceful stop succeeded and the check says closed. -/
  succeeds : (∃ p', (o.stopAndVerify i).run p = .ok () p') ↔
    o.heldStopError p = none ∧
      (o.prober.waitForPortClosed (o.stoppedWorld p) o.settings.host o.settings.port
        (o.settings.portCloseTimeoutSec * 1000)).2 = true
  /-- With a positive pause, the check's answer is that of the loop, which ends within its
  rounds, and not the answer for rounds run out. -/
  checked : 0 < o.settings.portPollMs →
    o.prober.config.waitForPortClosed o.network.host o.settings.host o.settings.port
        (o.settings.portCloseTimeoutSec * 1000)
        (Probe.Prober.rounds (o.settings.portCloseTimeoutSec * 1000)) (o.stoppedWorld p) =
      some (o.prober.waitForPortClosed (o.stoppedWorld p) o.settings.host o.settings.port
        (o.settings.portCloseTimeoutSec * 1000))

theorem Orchestrator.stopVerdict (o : Orchestrator) (i : Nat) (p : Progress) :
    StopVerdict o i p := by
  obtain ⟨hok, herr⟩ := Stage.outcome_of_spec (o.stopAndVerify_verdict i p) rfl
  refine ⟨fun se => ⟨?_, ?_⟩, ⟨?_, ?_⟩, ⟨?_, ?_⟩, fun hp => o.prober.waitForPortClosed_eq hp _ _ _ _⟩
  · rintro ⟨p', hrun⟩
    rcases herr _ _ hrun with ⟨se', hse, he⟩ | ⟨-, he, -⟩
    · cases he
      exact hse
    · cases he
  · intro hse
    cases hrun : (o.stopAndVerify i).run p with
    | ok a q => simp [(hok a q hrun).1] at hse
    | error e q =>
      rcases herr e q hrun with ⟨se', hse', rfl⟩ | ⟨hnone, -, -⟩
      · obtain rfl : se' = se := Option.some.inj (hse'.symm.trans hse)
        exact ⟨q, rfl⟩
      · simp [hnone] at hse
  · rintro ⟨p', hrun⟩
    rcases herr _ _ hrun with ⟨se', -, he⟩ | ⟨hnone, -, hopen⟩
    · cases he
    · exact ⟨hnone, hopen⟩
  · rintro ⟨hnone, hopen⟩
    cases hrun : (o.stopAndVerify i).run p with
    | ok a q => simp [(hok a q hrun).2] at hopen
    | error e q =>
      rcases herr e q hrun with ⟨se', hse', -⟩ | ⟨-, rfl, -⟩
      · simp [hnone] at hse'
      · exact ⟨q, rfl⟩
  · rintro ⟨p', hrun⟩
    exact hok _ _ hrun
  · rintro ⟨hnone, hclosed⟩
    cases hrun : (o.stopAndVerify i).run p with
    | ok a q => exact ⟨q, rfl⟩
    | error e q =>
      rcases herr e q hrun with ⟨se', hse', -⟩ | ⟨-, -, hopen⟩
      · simp [hnone] at hse'
      · simp [hopen] at hclosed

/-- Waiting for a port to close, on every host, whatever its connections find and however its
clock moves: the check says closed only right after an attempt refused or reset, says open
only after an attempt that left no time, gives every attempt the connection bound or the time
left but at least a millisecond, so a positive bound when the connection bound is positive,
makes exactly one attempt with no time, and ends on a steady clock with a positive pause; and a
stop whose graceful stop of the held process succeeded fails, and then with `portStillOpen`,
exactly when the check after it says open. -/
theorem portClose_spec :
    (∀ {σ : Type} (c : Probe.ProberConfig) (h : Probe.ProbeHost σ) (host : String)
      (port T : Nat) (s₀ : σ), Probe.PortWait c h host port T s₀) ∧
    ∀ (o : Orchestrator) (i : Nat) (p : Progress), StopVerdict o i p :=
  ⟨fun c h host port T s₀ => Probe.portWait c h host port T s₀, Orchestrator.stopVerdict⟩

end LaunchBench
