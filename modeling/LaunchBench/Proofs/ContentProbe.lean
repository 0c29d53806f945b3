import LaunchBench.Probe.Prober
/-!
Waiting for a page, on any host.

A wait for a page is run on a host that keeps a record of every call made on it
(`ProbeHost.traced`): each request with the clock when it was made, its bound and what it
brought, each connection attempt likewise, and each sleep. The record is kept beside the host's
own state and changes none of its answers, so the traced wait is the wait itself with its calls
written down.

The record of a wait that ends is described round by round (`ContentCalls`): rounds that go on
(`ContentRound`), each a request made with time left and given the request bound or the time
left, whichever is less, that brings no body with the text, then a sleep for the poll interval
or the time left; and an end (`ContentEnd`), either a request that brings the text or no time
left before a request.

* **`ProberConfig.contentLoop_traced`**: the run lemma, by induction on the rounds over the
  three equations of a round (`contentLoop_expired`, `contentLoop_found`, `contentLoop_next`).
* **`ProberConfig.contentLoop_isSome`**: on a host whose clock never goes back and whose sleeps
  last as long as asked, with a positive poll interval, a wait ends within one round more than
  its milliseconds: every round that goes on uses up time.
* **`Network.host_steady`**: the host's world is such a host, whatever its network answers.
* **`contentWait_spec`**: on every host, whatever its requests bring and however its clock
  moves, a wait makes its requests only with time left, each given the request bound or the
  time left, ends at the first body with the text, with at least a millisecond when measured,
  and otherwise fails with the last body it got; with no time it asks nothing; and on a steady
  clock with a positive poll interval it ends.
-/

namespace LaunchBench.Probe

/-- A call a prober makes on its host, with the host's clock when it was made and the host's
answer. -/
inductive ProbeCall where
  /-- A request for a page, its bound, and the body it brought. -/
  | fetch (time : Nat) (url : String) (budget : Nat) (body : Option String)
  /-- A connection attempt, its bound, and what it found. -/
  | connect (time : Nat) (host : String) (port bound : Nat) (result : Connection)
  /-- A sleep. -/
  | sleep (time : Nat) (ms : Nat)

/-- The body a call brought. -/
def ProbeCall.body? : ProbeCall → Option String
  | .fetch _ _ _ body => body
  | _ => none

/-- The last body that the calls brought. -/
def lastBody (calls : List ProbeCall) : Option String :=
  (calls.filterMap ProbeCall.body?).getLast?

theorem lastBody_append (calls calls' : List ProbeCall) :
    lastBody (calls ++ calls') = (lastBody calls').or (lastBody calls) := by
  simp only [lastBody, List.filterMap_append, List.getLast?_append]

namespace ProbeHost

variable {σ : Type}

/-- The host with a record, in order, of every call made on it, with its clock when the call
was made and its answer. -/
def traced (h : ProbeHost σ) : ProbeHost (σ × List ProbeCall) where
  clock s := h.clock s.1
  fetch s url ms :=
    let r := h.fetch s.1 url ms
    ((r.1, s.2 ++ [.fetch (h.clock s.1) url ms r.2]), r.2)
  connect s host port ms :=
    let r := h.connect s.1 host port ms
    ((r.1, s.2 ++ [.connect (h.clock s.1) host port ms r.2]), r.2)
  sleep s ms := (h.sleep s.1 ms, s.2 ++ [.sleep (h.clock s.1) ms])

/-- A host whose clock never goes back during a request or a connection attempt, and whose
sleeps last at least as long as asked. -/
structure Steady (h : ProbeHost σ) : Prop where
  fetch : ∀ s url ms, h.clock s ≤ h.clock (h.fetch s url ms).1
  connect : ∀ s host port ms, h.clock s ≤ h.clock (h.connect s host port ms).1
  sleep : ∀ s ms, h.clock s + ms ≤ h.clock (h.sleep s ms)

variable (h : ProbeHost σ) {s s₁ : σ}

@[simp] theorem traced_clock {log : List ProbeCall} : h.traced.clock (s, log) = h.clock s := rfl

@[simp] theorem traced_sleep {log : List ProbeCall} (ms : Nat) :
    h.traced.sleep (s, log) ms = (h.sleep s ms, log ++ [.sleep (h.clock s) ms]) := rfl

theorem traced_fetch (log : List ProbeCall) {url : String} {ms : Nat} {body : Option String}
    (hf : h.fetch s url ms = (s₁, body)) :
    h.traced.fetch (s, log) url ms = ((s₁, log ++ [.fetch (h.clock s) url ms body]), body) := by
  simp [traced, hf]

theorem traced_connect (log : List ProbeCall) {host : String} {port ms : Nat} {r : Connection}
    (hc : h.connect s host port ms = (s₁, r)) :
    h.traced.connect (s, log) host port ms =
      ((s₁, log ++ [.connect (h.clock s) host port ms r]), r) := by
  simp [traced, hc]

end ProbeHost

/-- The host's world is steady, whatever its network answers: requests and connections take no
time, and a sleep with nothing to stop for lets every millisecond asked pass. -/
theorem Network.host_steady (n : Network) : n.host.Steady where
  fetch _ _ _ := Nat.le_refl _
  connect _ _ _ _ := Nat.le_refl _
  sleep w ms := by
    -- whatever deadlines come first, the wait ends by setting the clock to at least its target
    suffices h : ∀ rounds (v : Host.World),
        w.clock + ms ≤ (Host.World.runUntil (w.clock + ms) (fun _ => false) rounds v).clock from
      h _ _
    intro rounds
    induction rounds with
    | zero =>
      intro v
      exact Nat.le_max_right _ _
    | succ rounds ih =>
      intro v
      simp only [Host.World.runUntil, Bool.false_eq_true, ite_false]
      split
      · split
        · exact ih _
        · exact Nat.le_max_right _ _
      · exact Nat.le_max_right _ _

namespace ProberConfig

/-- One round of a wait for `url` that goes on: a request made with time left, given the
request bound or the time left, whichever is less, that brings no body with `expected`; then a
sleep for the poll interval or the time left, whichever is less. -/
def ContentRound (c : ProberConfig) (url expected : String) (T started : Nat)
    (round : List ProbeCall) : Prop :=
  ∃ t body t', round = [.fetch t url (min c.requestTimeoutMs (T - (t - started))) body,
      .sleep t' (min c.pollMs (T - (t' - started)))] ∧
    0 < T - (t - started) ∧ body.any (Text.containsText · expected) = false

/-- How a wait for `url` ends, after rounds whose last body was `seen`, with the clock at `now`:
a request made with time left, given the request bound or the time left, brings a body with
`expected`, and the wait gives the milliseconds since it started, at least one, when `measure`
asks for them; or no time is left, and the wait fails with an excerpt of `seen`. -/
inductive ContentEnd (c : ProberConfig) (url expected : String) (T started : Nat) (measure : Bool)
    (seen : Option String) (now : Nat) : List ProbeCall → Except ProbeError (Option Nat) → Prop
  | found {t : Nat} {body : String} : 0 < T - (t - started) →
      Text.containsText body expected = true →
      ContentEnd c url expected T started measure seen now
        [.fetch t url (min c.requestTimeoutMs (T - (t - started))) (some body)]
        (.ok (if measure then some (max (now - started) 1) else none))
  | expired : T - (now - started) = 0 →
      ContentEnd c url expected T started measure seen now []
        (.error ⟨url, expected, now - started, seen.map excerpt⟩)

/-- The calls and the result of a wait for `url` started at `started`, ending with the clock at
`now`: rounds that go on, then the end, after the last body the rounds brought. -/
def ContentCalls (c : ProberConfig) (url expected : String) (T started : Nat) (measure : Bool)
    (calls : List ProbeCall) (now : Nat) (res : Except ProbeError (Option Nat)) : Prop :=
  ∃ (rounds : List (List ProbeCall)) (fin : List ProbeCall), calls = rounds.flatten ++ fin ∧
    (∀ r ∈ rounds, c.ContentRound url expected T started r) ∧ c.ContentEnd url expected T started measure (lastBody rounds.flatten) now fin res

section Round

variable {σ : Type} (c : ProberConfig) (h : ProbeHost σ) {url expected : String}
  {T started : Nat} {measure : Bool} {n : Nat} {s s₁ : σ} {last body? : Option String}

/-- No time left: the wait fails with the last body seen, and asks nothing. -/
theorem contentLoop_expired (hr : T - (h.clock s - started) = 0) :
    c.contentLoop h url expected T started measure (n + 1) s last =
      some (s, .error ⟨url, expected, h.clock s - started, last.map excerpt⟩) := by
  simp [contentLoop, hr]

/-- Time left, and the request brings a body with the text: the wait ends. -/
theorem contentLoop_found (hr : T - (h.clock s - started) ≠ 0)
    (hf : h.fetch s url (min c.requestTimeoutMs (T - (h.clock s - started))) = (s₁, body?))
    (hb : body?.any (Text.containsText · expected) = true) :
    c.contentLoop h url expected T started measure (n + 1) s last =
      some (s₁, .ok (if measure then some (max (h.clock s₁ - started) 1) else none)) := by
  simp [contentLoop, hr, hf, hb]

/-- Time left, and the request brings no body with the text: the wait sleeps and goes on,
keeping the body if there was one. -/
theorem contentLoop_next (hr : T - (h.clock s - started) ≠ 0)
    (hf : h.fetch s url (min c.requestTimeoutMs (T - (h.clock s - started))) = (s₁, body?))
    (hb : body?.any (Text.containsText · expected) = false) :
    c.contentLoop h url expected T started measure (n + 1) s last =
      c.contentLoop h url expected T started measure n
        (h.sleep s₁ (min c.pollMs (T - (h.clock s₁ - started)))) (body?.or last) := by
  simp [contentLoop, hr, hf, hb]

end Round

section Runs

variable {σ : Type} (c : ProberConfig) (h : ProbeHost σ) {url expected : String}
  {T started : Nat} {measure : Bool}

/-- A wait that ends on a host ends the same on the host with a record, whose record is the
calls the wait's rounds and end describe. The induction is on the rounds, over the state, the
record so far and the last body seen. -/
theorem contentLoop_traced (log : List ProbeCall) {n : Nat} {s s' : σ} {last : Option String}
    {res : Except ProbeError (Option Nat)}
    (hrun : c.contentLoop h url expected T started measure n s last = some (s', res)) :
    ∃ (rounds : List (List ProbeCall)) (fin : List ProbeCall),
      c.contentLoop h.traced url expected T started measure n (s, log) last =
        some ((s', log ++ rounds.flatten ++ fin), res) ∧
      (∀ r ∈ rounds, c.ContentRound url expected T started r) ∧
      c.ContentEnd url expected T started measure ((lastBody rounds.flatten).or last)
        (h.clock s') fin res := by
  induction n generalizing s log last with
  | zero => cases hrun
  | succ n ih =>
    by_cases hr : T - (h.clock s - started) = 0
    · -- no time left: nothing more is asked
      rw [contentLoop_expired c h hr] at hrun
      obtain ⟨rfl, rfl⟩ := Prod.mk.inj (Option.some.inj hrun)
      refine ⟨[], [], ?_, by simp, ?_⟩
      · rw [contentLoop_expired c h.traced hr]
        simp
      · exact .expired hr
    · rcases hf : h.fetch s url (min c.requestTimeoutMs (T - (h.clock s - started))) with
        ⟨s₁, body?⟩
      have hf' := h.traced_fetch log hf
      cases hb : body?.any (Text.containsText · expected) with
      | true =>
        -- the request brings the text: the wait ends with it
        rw [contentLoop_found c h hr hf hb] at hrun
        obtain ⟨rfl, rfl⟩ := Prod.mk.inj (Option.some.inj hrun)
        cases body? with
        | none => cases hb
        | some body =>
          refine ⟨[], [.fetch (h.clock s) url _ (some body)], ?_, by simp, .found (by omega) hb⟩
          rw [contentLoop_found c h.traced hr hf' hb]
          simp
      | false =>
        -- a round that goes on: the request, then the sleep
        rw [contentLoop_next c h hr hf hb] at hrun
        obtain ⟨rounds, fin, hrun', hrounds, hend⟩ := ih (log ++ [ProbeCall.fetch (h.clock s)
          url (min c.requestTimeoutMs (T - (h.clock s - started))) body?,
          ProbeCall.sleep (h.clock s₁) (min c.pollMs (T - (h.clock s₁ - started)))]) hrun
        refine ⟨[.fetch (h.clock s) url (min c.requestTimeoutMs (T - (h.clock s - started))) body?,
          .sleep (h.clock s₁) (min c.pollMs (T - (h.clock s₁ - started)))] :: rounds, fin,
          ?_, ?_, ?_⟩
        · rw [contentLoop_next c h.traced hr hf' hb, ProbeHost.traced_clock,
            ProbeHost.traced_sleep]
          simp only [List.append_assoc, List.singleton_append] at hrun' ⊢
          rw [hrun']
          simp
        · intro r hmem
          rcases List.mem_cons.1 hmem with rfl | hmem
          · exact ⟨_, _, _, rfl, by omega, hb⟩
          · exact hrounds r hmem
        · -- the last body seen is the rounds' last, else this request's, else the one before
          have hseen : ((lastBody (([.fetch (h.clock s) url
              (min c.requestTimeoutMs (T - (h.clock s - started))) body?,
              .sleep (h.clock s₁) (min c.pollMs (T - (h.clock s₁ - started)))] :: rounds).flatten)).or
                last) = (lastBody rounds.flatten).or (body?.or last) := by
            rw [List.flatten_cons, lastBody_append, Option.or_assoc]
            cases body? <;> rfl
          rw [hseen]
          exact hend

/-- More rounds keep an answer. -/
theorem contentLoop_mono {n : Nat} {s : σ} {last : Option String}
    {r : σ × Except ProbeError (Option Nat)}
    (hrun : c.contentLoop h url expected T started measure n s last = some r) (k : Nat) :
    c.contentLoop h url expected T started measure (n + k) s last = some r := by
  induction n generalizing s last with
  | zero => cases hrun
  | succ n ih =>
    rw [Nat.add_right_comm]
    by_cases hr : T - (h.clock s - started) = 0
    · rw [contentLoop_expired c h hr] at hrun ⊢
      exact hrun
    · rcases hf : h.fetch s url (min c.requestTimeoutMs (T - (h.clock s - started))) with
        ⟨s₁, body?⟩
      cases hb : body?.any (Text.containsText · expected) with
      | true =>
        rw [contentLoop_found c h hr hf hb] at hrun ⊢
        exact hrun
      | false =>
        rw [contentLoop_next c h hr hf hb] at hrun ⊢
        exact ih hrun

/-- On a steady host with a positive poll interval, a wait started at `started` ends within
one round more than the milliseconds it has left: a round that goes on ends with a sleep of
at least a millisecond while time is left, so the time left falls at every round. -/
theorem contentLoop_isSome (hh : h.Steady) (hp : 0 < c.pollMs) :
    ∀ (n : Nat) (s : σ) (last : Option String), T - (h.clock s - started) < n →
      started ≤ h.clock s → (c.contentLoop h url expected T started measure n s last).isSome := by
  intro n
  induction n with
  | zero => intro s last hlt; omega
  | succ n ih =>
    intro s last hlt hstart
    by_cases hr : T - (h.clock s - started) = 0
    · rw [contentLoop_expired c h hr]
      rfl
    · rcases hf : h.fetch s url (min c.requestTimeoutMs (T - (h.clock s - started))) with
        ⟨s₁, body?⟩
      cases hb : body?.any (Text.containsText · expected) with
      | true =>
        rw [contentLoop_found c h hr hf hb]
        rfl
      | false =>
        rw [contentLoop_next c h hr hf hb]
        -- the request does not turn the clock back, and the sleep lasts as asked
        have h₁ : h.clock s ≤ h.clock s₁ := by
          have := hh.fetch s url (min c.requestTimeoutMs (T - (h.clock s - started)))
          rwa [hf] at this
        have h₂ := hh.sleep s₁ (min c.pollMs (T - (h.clock s₁ - started)))
        exact ih _ _ (by omega) (by omega)

/-- A measured wait that succeeds gives at least a millisecond: it ends at a body with the
text, where it gives the milliseconds since it started or one. -/
theorem contentLoop_ok_pos {n : Nat} {s s' : σ} {last : Option String} {x : Option Nat}
    (hrun : c.contentLoop h url expected T started true n s last = some (s', .ok x)) :
    0 < x.getD 1 := by
  obtain ⟨_, _, -, -, hend⟩ := c.contentLoop_traced h [] hrun
  cases hend
  simp only [if_true, Option.getD_some]
  exact Nat.lt_of_lt_of_le Nat.one_pos (Nat.le_max_right _ _)

end Runs

end ProberConfig

/-- What a wait for `url` to serve `expected` within `T` milliseconds does on the host `h` from
the state `s₀`. -/
structure ContentWait {σ : Type} (c : ProberConfig) (h : ProbeHost σ) (url : String) (T : Nat)
    (expected : String) (measure : Bool) (s₀ : σ) : Prop where
  /-- A wait that ends makes, on the host with a record, the calls of rounds that go on and
  then its end: requests only with time left, each given the request bound or the time left,
  the end at the first body with the text, or a failure with the last body brought. -/
  calls : ∀ n s' res, c.waitForContent h url T expected measure n s₀ = some (s', res) →
    ∃ calls, c.waitForContent h.traced url T expected measure n (s₀, []) = some ((s', calls), res) ∧
      c.ContentCalls url expected T (h.clock s₀) measure calls (h.clock s') res
  /-- With no time, a wait asks nothing and fails. -/
  noTime : T = 0 → ∀ n, 0 < n →
    c.waitForContent h url T expected measure n s₀ = some (s₀, .error ⟨url, expected, 0, none⟩)
  /-- More rounds keep an answer. -/
  mono : ∀ n k r, c.waitForContent h url T expected measure n s₀ = some r →
    c.waitForContent h url T expected measure (n + k) s₀ = some r
  /-- On a host whose clock never goes back and whose sleeps last as asked, with a positive
  poll interval, the wait ends within `T + 1` rounds. -/
  ends : h.Steady → 0 < c.pollMs →
    (c.waitForContent h url T expected measure (T + 1) s₀).isSome

/-- A wait for a page, on every host, whatever its requests bring and however its clock moves:
it asks only while time is left, giving each request the request bound or the time left, stops
at the first body with the text, with at least a millisecond when measured, and otherwise
fails with the last body it got, which a later failed request does not clear; with no time it
asks nothing; and on a steady clock with a positive poll interval it ends. -/
theorem contentWait_spec {σ : Type} (c : ProberConfig) (h : ProbeHost σ) (url expected : String)
    (T : Nat) (measure : Bool) (s₀ : σ) : ContentWait c h url T expected measure s₀ where
  calls n s' res hrun := by
    rw [ProberConfig.waitForContent] at hrun
    obtain ⟨rounds, fin, htr, hrounds, hend⟩ := c.contentLoop_traced h [] hrun
    refine ⟨rounds.flatten ++ fin, ?_, rounds, fin, rfl, hrounds, ?_⟩
    · rw [ProberConfig.waitForContent, ProbeHost.traced_clock, htr, List.nil_append]
    · rw [Option.or_none] at hend
      exact hend
  noTime hT n hn := by
    cases n with
    | zero => omega
    | succ n =>
      rw [ProberConfig.waitForContent, ProberConfig.contentLoop_expired c h (by omega)]
      simp
  mono n k r hrun := c.contentLoop_mono h hrun k
  ends hh hp := c.contentLoop_isSome h hh hp (T + 1) s₀ none (by omega) (Nat.le_refl _)

end LaunchBench.Probe
