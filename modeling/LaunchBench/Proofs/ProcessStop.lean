import Mathlib.Data.List.Forall2
import LaunchBench.Supervisor
import LaunchBench.Proofs.Descendants
/-!
What stopping a command asks of its host.

A stop is run on a host that keeps a record of every call made on it (`ProcessHost.traced`):
polls, snapshots of the descendants, signals with what each send answered, questions whether a
process is alive, kills through the command's handle, and waits with what each gave. The record
is kept beside the host's own state and changes none of its answers, so the traced stop is the
stop itself with its calls written down (`stopOn_traced`).

Each phase of a stop is read off the record once: the poll (`hasExited_traced`), a round of
signals (`signalEach_traced`), a wait (`waitExit_of_ok`, `waitExit_of_error`), the escalation with the last round
over the stragglers (`escalate_traced`, described by `Escalates`), and the graceful phase before
it (`stopOn_phases`, described by `StopsAfter`). A wait may fail, and a failed wait ends the
stop with its error there: nothing after it is asked.

* **`stopOn_calls`**: for every host, whatever it answers, a stop of a command whose end was
  seen asks nothing and changes nothing; otherwise it polls, and unless the poll sees the end it
  takes one snapshot `D`, terminates `D` and then the command unless forced, kills `D` and the
  command only when no end was seen within the grace period, and kills the processes of `D`
  still alive last, unless a wait failed first: then it returns the wait's error, and `D` is
  not killed. A failed send never changes what is asked next, and a stop that saw the end
  leaves a command that every later stop leaves alone. The host's own snapshots never list the
  command and list each process once.
* **`stopOn_wait_fails`**: on a host whose waits fail, a graceful stop terminates `D` and the
  command, returns the wait's error, and leaves a process of `D` that is alive unkilled.
-/

namespace LaunchBench

open Host

/-- A call a stop makes on its host, with the host's answer. -/
inductive HostCall where
  /-- A poll of the command for its end, and the end it saw. -/
  | poll (pid : Nat) (ended : Option ExitStatus)
  /-- A snapshot of the command's descendants. -/
  | snapshot (pid : Nat) (descendants : List Nat)
  /-- A signal sent to a process, and whether it could be sent. -/
  | signal (pid : Nat) (sig : Signal) (result : Except String Unit)
  /-- A question whether a process is alive, and the answer. -/
  | probe (pid : Nat) (alive : Bool)
  /-- A kill through the command's handle. -/
  | killHandle (pid : Nat)
  /-- A bounded wait for the command's end, and what it gave: the end, none, or an error. -/
  | wait (pid ms : Nat) (ended : Except IoError (Option ExitStatus))
deriving Repr

namespace ProcessHost

variable {σ : Type}

/-- The host with a record, in order, of every call made on it and the host's answer. -/
def traced (host : ProcessHost σ) : ProcessHost (σ × List HostCall) where
  tryWait sc pid :=
    let r := host.tryWait sc.1 pid
    ((r.1, sc.2 ++ [.poll pid r.2]), r.2)
  descendants sc pid :=
    let r := host.descendants sc.1 pid
    ((r.1, sc.2 ++ [.snapshot pid r.2]), r.2)
  signal sc pid sig :=
    let r := host.signal sc.1 pid sig
    ((r.1, sc.2 ++ [.signal pid sig r.2]), r.2)
  isAlive sc pid :=
    let r := host.isAlive sc.1 pid
    ((r.1, sc.2 ++ [.probe pid r.2]), r.2)
  killHandle sc pid := (host.killHandle sc.1 pid, sc.2 ++ [.killHandle pid])
  waitFor sc pid ms :=
    let r := host.waitFor sc.1 pid ms
    ((r.1, sc.2 ++ [.wait pid ms r.2]), r.2)

section Traced

variable (host : ProcessHost σ) (sc : σ × List HostCall) (pid : Nat)

@[simp] theorem traced_tryWait :
    host.traced.tryWait sc pid =
      (((host.tryWait sc.1 pid).1, sc.2 ++ [.poll pid (host.tryWait sc.1 pid).2]),
        (host.tryWait sc.1 pid).2) := rfl

@[simp] theorem traced_descendants :
    host.traced.descendants sc pid =
      (((host.descendants sc.1 pid).1, sc.2 ++ [.snapshot pid (host.descendants sc.1 pid).2]),
        (host.descendants sc.1 pid).2) := rfl

@[simp] theorem traced_signal (sig : Signal) :
    host.traced.signal sc pid sig =
      (((host.signal sc.1 pid sig).1, sc.2 ++ [.signal pid sig (host.signal sc.1 pid sig).2]),
        (host.signal sc.1 pid sig).2) := rfl

@[simp] theorem traced_isAlive :
    host.traced.isAlive sc pid =
      (((host.isAlive sc.1 pid).1, sc.2 ++ [.probe pid (host.isAlive sc.1 pid).2]),
        (host.isAlive sc.1 pid).2) := rfl

@[simp] theorem traced_killHandle :
    host.traced.killHandle sc pid = (host.killHandle sc.1 pid, sc.2 ++ [.killHandle pid]) := rfl

@[simp] theorem traced_waitFor (ms : Nat) :
    host.traced.waitFor sc pid ms =
      (((host.waitFor sc.1 pid ms).1, sc.2 ++ [.wait pid ms (host.waitFor sc.1 pid ms).2]),
        (host.waitFor sc.1 pid ms).2) := rfl

end Traced

end ProcessHost

/-- `calls` sends `sig` to each of `pids` in order, one call each, whatever each send answers. -/
def SendsEach (pids : List Nat) (sig : Signal) (calls : List HostCall) : Prop :=
  List.Forall₂ (fun p call => ∃ r, call = .signal p sig r) pids calls

/-- `calls` asks of each of `pids` in order whether it is alive, and kills it right after an
answer that it is, whatever the kill answers. -/
inductive KillsAlive : List Nat → List HostCall → Prop
  | nil : KillsAlive [] []
  | gone {p : Nat} {ps : List Nat} {calls : List HostCall} :
      KillsAlive ps calls → KillsAlive (p :: ps) (.probe p false :: calls)
  | alive {p : Nat} {ps : List Nat} {calls : List HostCall} {r : Except String Unit} :
      KillsAlive ps calls → KillsAlive (p :: ps) (.probe p true :: .signal p .kill r :: calls)

/-- What the end of a stop of the command `pid` asks, from the end `seen` so far, with the end
it leaves on the command and what the stop returns. When an end was seen it only kills the
processes of `D` still alive; otherwise it kills `D` and the command and waits again, and a
failed wait ends the stop with its error, before the round over the stragglers. -/
inductive Escalates (pid : Nat) (D : List Nat) :
    Option ExitStatus → List HostCall → Option ExitStatus → Except SupervisorError Unit → Prop
  /-- An end was seen: the stragglers are killed. -/
  | seen {st : ExitStatus} {stragglers : List HostCall} :
      KillsAlive D stragglers → Escalates pid D (some st) stragglers (some st) (.ok ())
  /-- No end was seen: `D` and the command are killed and waited for, then the stragglers. -/
  | killed {kills stragglers : List HostCall} {ended : Option ExitStatus} :
      SendsEach D .kill kills → KillsAlive D stragglers →
      Escalates pid D none
        (kills ++ .killHandle pid :: .wait pid killReapMs (.ok ended) :: stragglers) ended (.ok ())
  /-- The wait after the kill failed: its error ends the stop. -/
  | failed {kills : List HostCall} {e : IoError} :
      SendsEach D .kill kills →
      Escalates pid D none (kills ++ [.killHandle pid, .wait pid killReapMs (.error e)]) none
        (.error (.io e))

/-- What a stop of the command `pid` asks after its poll saw no end and it took the snapshot
`D`, with the end it leaves on the command and what it returns. A forced stop goes straight to
the escalation; otherwise it terminates each process of `D` and then the command and waits up
to `stopWaitMs`, and a failed wait ends the stop with its error. -/
inductive StopsAfter (pid stopWaitMs : Nat) (D : List Nat) (force : Bool) :
    List HostCall → Option ExitStatus → Except SupervisorError Unit → Prop
  /-- Forced: the escalation, with no end seen. -/
  | forced {rest : List HostCall} {ended : Option ExitStatus} {result : Except SupervisorError Unit} :
      force = true → Escalates pid D none rest ended result →
      StopsAfter pid stopWaitMs D force rest ended result
  /-- Terminated and waited for: the escalation from the end the wait saw, if any. -/
  | graceful {sends rest : List HostCall} {waited ended : Option ExitStatus}
      {result : Except SupervisorError Unit} :
      force = false → SendsEach (D ++ [pid]) .terminate sends →
      Escalates pid D waited rest ended result →
      StopsAfter pid stopWaitMs D force (sends ++ .wait pid stopWaitMs (.ok waited) :: rest) ended
        result
  /-- Terminated, and the wait failed: its error ends the stop. -/
  | graceFailed {sends : List HostCall} {e : IoError} :
      force = false → SendsEach (D ++ [pid]) .terminate sends →
      StopsAfter pid stopWaitMs D force (sends ++ [.wait pid stopWaitMs (.error e)]) none
        (.error (.io e))

/-- Setting a command's end to the one it has changes nothing. -/
theorem Child.with_status_eq {c : Child} {ended : Option ExitStatus} (h : c.status = ended) :
    { c with status := ended } = c := by
  subst h
  rfl

namespace Supervisor

section Traced

variable {σ : Type} (host : ProcessHost σ)

theorem hasExited_of_ended {s : σ} {c : Child} {st : ExitStatus} (h : c.status = some st) :
    hasExited host s c = (s, c, true) := by
  simp [hasExited, h]

theorem hasExited_of_running {s : σ} {c : Child} (h : c.status = none) :
    hasExited host s c = ((host.tryWait s c.pid).1, { c with status := (host.tryWait s c.pid).2 },
      (host.tryWait s c.pid).2.isSome) := by
  obtain ⟨pid, program, logFile, status⟩ := c
  subst h
  unfold hasExited
  cases host.tryWait s pid with
  | mk s' ended => cases ended <;> rfl

theorem hasExited_traced {s : σ} {log : List HostCall} {c : Child} (h : c.status = none) :
    hasExited host.traced (s, log) c =
      (((hasExited host s c).1, log ++ [.poll c.pid (host.tryWait s c.pid).2]),
        (hasExited host s c).2) := by
  rw [hasExited_of_running host h, hasExited_of_running host.traced h]
  rfl

theorem waitExit_eq (s : σ) (c : Child) (ms : Nat) :
    waitExit host s c ms =
      ((host.waitFor s c.pid ms).1,
        (host.waitFor s c.pid ms).2.map fun ended => { c with status := ended.or c.status }) := by
  unfold waitExit
  rcases host.waitFor s c.pid ms with ⟨s', e | _ | st⟩ <;> rfl

theorem waitExit_of_error {s s' : σ} {c : Child} {ms : Nat} {e : IoError}
    (h : host.waitFor s c.pid ms = (s', .error e)) : waitExit host s c ms = (s', .error e) := by
  simp [waitExit, h]

theorem waitExit_of_ok {s s' : σ} {c : Child} {ms : Nat} {ended : Option ExitStatus}
    (h : host.waitFor s c.pid ms = (s', .ok ended)) :
    waitExit host s c ms = (s', .ok { c with status := ended.or c.status }) := by
  rw [waitExit_eq, h]
  rfl

@[simp] theorem signalEach_nil (s : σ) (sig : Signal) : signalEach host s [] sig = s := rfl

@[simp] theorem signalEach_cons (s : σ) (p : Nat) (ps : List Nat) (sig : Signal) :
    signalEach host s (p :: ps) sig = signalEach host (host.signal s p sig).1 ps sig := rfl

/-- A round of signals sends one signal to each process in turn, whatever each send answers. -/
theorem signalEach_traced (s : σ) (log : List HostCall) (pids : List Nat) (sig : Signal) :
    ∃ calls, signalEach host.traced (s, log) pids sig = (signalEach host s pids sig, log ++ calls) ∧
      SendsEach pids sig calls := by
  induction pids generalizing s log with
  | nil => exact ⟨[], by simp, List.Forall₂.nil⟩
  | cons p ps ih =>
    let sent := host.signal s p sig
    obtain ⟨calls, heq, hsends⟩ := ih sent.1 (log ++ [.signal p sig sent.2])
    refine ⟨.signal p sig sent.2 :: calls, ?_, List.Forall₂.cons ⟨_, rfl⟩ hsends⟩
    rw [signalEach_cons, signalEach_cons]
    exact heq.trans (by simp [sent])

theorem killStragglers_cons (s : σ) (p : Nat) (ps : List Nat) :
    killStragglers host s (p :: ps) =
      killStragglers host
        (if (host.isAlive s p).2 then (host.signal (host.isAlive s p).1 p .kill).1
          else (host.isAlive s p).1) ps := by
  unfold killStragglers
  rw [List.foldl_cons]
  cases host.isAlive s p with
  | mk s' alive => cases alive <;> rfl

/-- The last round asks of each process in turn whether it is alive and kills it when it is. -/
theorem killStragglers_traced (s : σ) (log : List HostCall) (pids : List Nat) :
    ∃ calls, killStragglers host.traced (s, log) pids = (killStragglers host s pids, log ++ calls) ∧
      KillsAlive pids calls := by
  induction pids generalizing s log with
  | nil => exact ⟨[], by simp [killStragglers], .nil⟩
  | cons p ps ih =>
    rw [killStragglers_cons, killStragglers_cons]
    -- the traced host asks the same question and records it
    rw [ProcessHost.traced_isAlive]
    cases halive : (host.isAlive s p).2 with
    | false =>
      obtain ⟨calls, heq, hkills⟩ := ih (host.isAlive s p).1 (log ++ [.probe p false])
      exact ⟨_, by simpa using heq, .gone hkills⟩
    | true =>
      let killed := host.signal (host.isAlive s p).1 p .kill
      obtain ⟨calls, heq, hkills⟩ :=
        ih killed.1 (log ++ [.probe p true, .signal p .kill killed.2])
      rw [if_pos rfl, if_pos rfl, ProcessHost.traced_signal]
      exact ⟨.probe p true :: .signal p .kill killed.2 :: calls, by simpa using heq, .alive hkills⟩

theorem escalate_of_ended {s : σ} {c : Child} {D : List Nat} {st : ExitStatus}
    (h : c.status = some st) : escalate host s c D = (killStragglers host s D, c, .ok ()) := by
  simp [escalate, h]

theorem escalate_of_error {s s' : σ} {c : Child} {D : List Nat} {e : IoError}
    (h : c.status = none)
    (hw : host.waitFor (host.killHandle (signalEach host s D .kill) c.pid) c.pid killReapMs =
      (s', .error e)) :
    escalate host s c D = (s', c, .error (.io e)) := by
  simp [escalate, h, waitExit_of_error host hw]

theorem escalate_of_ok {s s' : σ} {c : Child} {D : List Nat} {ended : Option ExitStatus}
    (h : c.status = none)
    (hw : host.waitFor (host.killHandle (signalEach host s D .kill) c.pid) c.pid killReapMs =
      (s', .ok ended)) :
    escalate host s c D = (killStragglers host s' D, { c with status := ended }, .ok ()) := by
  simp [escalate, h, waitExit_of_ok host hw]

/-- The end of a stop, on the host and on the traced host, to the same state, end and result:
the round over the stragglers when an end was seen; otherwise the kills and a wait, which ends
the stop when it fails and is followed by the round over the stragglers when it does not. -/
theorem escalate_traced (s : σ) (log : List HostCall) (c : Child) (D : List Nat) :
    ∃ s' rest ended result,
      escalate host.traced (s, log) c D = ((s', log ++ rest), { c with status := ended }, result) ∧
      escalate host s c D = (s', { c with status := ended }, result) ∧
      Escalates c.pid D c.status rest ended result := by
  cases hseen : c.status with
  | some st =>
    -- an end was seen: only the stragglers are asked after
    obtain ⟨stragglers, hstrag, hkills⟩ := killStragglers_traced host s log D
    refine ⟨killStragglers host s D, stragglers, some st, .ok (), ?_, ?_, .seen hkills⟩
    · rw [escalate_of_ended host.traced hseen, hstrag, Child.with_status_eq hseen]
    · rw [escalate_of_ended host hseen, Child.with_status_eq hseen]
  | none =>
    obtain ⟨kills, hkill, hsends⟩ := signalEach_traced host s log D .kill
    obtain ⟨⟨s₁, waited⟩, hwait⟩ : ∃ r,
        host.waitFor (host.killHandle (signalEach host s D .kill) c.pid) c.pid killReapMs = r :=
      ⟨_, rfl⟩
    have hwait' : host.traced.waitFor (host.traced.killHandle (signalEach host.traced (s, log) D
        .kill) c.pid) c.pid killReapMs =
        ((s₁, log ++ kills ++ [.killHandle c.pid, .wait c.pid killReapMs waited]), waited) := by
      simp [hkill, hwait]
    -- the wait after the kill decides whether the stragglers are asked after
    cases waited with
    | error e =>
      refine ⟨s₁, kills ++ [.killHandle c.pid, .wait c.pid killReapMs (.error e)], none,
        .error (.io e), ?_, ?_, .failed hsends⟩
      · rw [escalate_of_error host.traced hseen hwait', Child.with_status_eq hseen]
        simp
      · rw [escalate_of_error host hseen hwait, Child.with_status_eq hseen]
    | ok ended =>
      obtain ⟨stragglers, hstrag, hkills⟩ := killStragglers_traced host s₁
        (log ++ kills ++ [.killHandle c.pid, .wait c.pid killReapMs (.ok ended)]) D
      refine ⟨killStragglers host s₁ D,
        kills ++ .killHandle c.pid :: .wait c.pid killReapMs (.ok ended) :: stragglers, ended,
        .ok (), ?_, ?_, .killed hsends hkills⟩
      · rw [escalate_of_ok host.traced hseen hwait', hstrag]
        simp
      · rw [escalate_of_ok host hseen hwait]

/-- A stop of a command whose end was seen asks nothing of its host. -/
theorem stopOn_of_ended (stopWaitMs : Nat) (s : σ) {c : Child} (force : Bool)
    (h : c.status.isSome) : stopOn host stopWaitMs s c force = (s, c, .ok ()) := by
  obtain ⟨st, hst⟩ := Option.isSome_iff_exists.1 h
  simp [stopOn, hasExited_of_ended host hst]

section Phases

variable {s s₁ s₂ s₃ : σ} {c : Child} {D : List Nat} (stopWaitMs : Nat)

/-- After a poll that saw no end and a snapshot `D`, a forced stop is its escalation. -/
theorem stopOn_forced (hnone : c.status = none) (hpoll : host.tryWait s c.pid = (s₁, none))
    (hD : host.descendants s₁ c.pid = (s₂, D)) :
    stopOn host stopWaitMs s c true = escalate host s₂ c D := by
  simp [stopOn, hasExited, hnone, hpoll, hD]

/-- A graceful stop whose wait of the grace period failed returns the wait's error. -/
theorem stopOn_graceFailed {e : IoError} (hnone : c.status = none)
    (hpoll : host.tryWait s c.pid = (s₁, none)) (hD : host.descendants s₁ c.pid = (s₂, D))
    (hw : host.waitFor (signalEach host s₂ (D ++ [c.pid]) .terminate) c.pid stopWaitMs =
      (s₃, .error e)) :
    stopOn host stopWaitMs s c false = (s₃, c, .error (.io e)) := by
  simp [stopOn, hasExited, hnone, hpoll, hD, waitExit_of_error host hw]

/-- A graceful stop whose wait of the grace period answered goes on to the escalation from the
end that wait saw. -/
theorem stopOn_graceful {waited : Option ExitStatus} (hnone : c.status = none)
    (hpoll : host.tryWait s c.pid = (s₁, none)) (hD : host.descendants s₁ c.pid = (s₂, D))
    (hw : host.waitFor (signalEach host s₂ (D ++ [c.pid]) .terminate) c.pid stopWaitMs =
      (s₃, .ok waited)) :
    stopOn host stopWaitMs s c false = escalate host s₃ { c with status := waited } D := by
  simp [stopOn, hasExited, hnone, hpoll, hD, waitExit_of_ok host hw]

end Phases

/-- A stop of a command whose end neither it nor its poll has seen, on the host and on the
traced host: one snapshot `D`, the graceful phase and the escalation, to the same state, end
and result. -/
theorem stopOn_phases (stopWaitMs : Nat) (s : σ) (log : List HostCall) {c : Child}
    (force : Bool) (hnone : c.status = none) (hpoll : (host.tryWait s c.pid).2 = none) :
    ∃ s' D rest ended result,
      stopOn host.traced stopWaitMs (s, log) c force =
        ((s', log ++ .poll c.pid none :: .snapshot c.pid D :: rest), { c with status := ended },
          result) ∧
      stopOn host stopWaitMs s c force = (s', { c with status := ended }, result) ∧
      StopsAfter c.pid stopWaitMs D force rest ended result := by
  obtain ⟨s₁, hpoll₀⟩ : ∃ s₁, host.tryWait s c.pid = (s₁, none) := ⟨_, Prod.ext rfl hpoll⟩
  have hpoll' : host.traced.tryWait (s, log) c.pid = ((s₁, log ++ [.poll c.pid none]), none) := by
    simp [hpoll₀]
  obtain ⟨⟨s₂, D⟩, hD⟩ : ∃ r, host.descendants s₁ c.pid = r := ⟨_, rfl⟩
  have hD' : host.traced.descendants (s₁, log ++ [.poll c.pid none]) c.pid =
      ((s₂, log ++ [.poll c.pid none, .snapshot c.pid D]), D) := by
    simp [hD]
  cases force with
  | true =>
    -- forced: straight to the escalation, with no end seen
    obtain ⟨s', rest, ended, result, hesc, hesc₀, hrest⟩ :=
      escalate_traced host s₂ (log ++ [.poll c.pid none, .snapshot c.pid D]) c D
    rw [hnone] at hrest
    refine ⟨s', D, rest, ended, result, ?_, ?_, .forced rfl hrest⟩
    · rw [stopOn_forced host.traced stopWaitMs hnone hpoll' hD', hesc]
      simp
    · rw [stopOn_forced host stopWaitMs hnone hpoll₀ hD, hesc₀]
  | false =>
    obtain ⟨sends, hsig, hsends⟩ := signalEach_traced host s₂
      (log ++ [.poll c.pid none, .snapshot c.pid D]) (D ++ [c.pid]) .terminate
    obtain ⟨⟨s₃, waited⟩, hwait⟩ : ∃ r,
        host.waitFor (signalEach host s₂ (D ++ [c.pid]) .terminate) c.pid stopWaitMs = r :=
      ⟨_, rfl⟩
    have hwait' : host.traced.waitFor (signalEach host.traced
        (s₂, log ++ [.poll c.pid none, .snapshot c.pid D]) (D ++ [c.pid]) .terminate) c.pid
        stopWaitMs = ((s₃, log ++ [.poll c.pid none, .snapshot c.pid D] ++ sends ++
          [.wait c.pid stopWaitMs waited]), waited) := by
      simp [hsig, hwait]
    -- the wait of the grace period decides whether the escalation runs
    cases waited with
    | error e =>
      refine ⟨s₃, D, sends ++ [.wait c.pid stopWaitMs (.error e)], none, .error (.io e), ?_, ?_,
        .graceFailed rfl hsends⟩
      · rw [stopOn_graceFailed host.traced stopWaitMs hnone hpoll' hD' hwait',
          Child.with_status_eq hnone]
        simp
      · rw [stopOn_graceFailed host stopWaitMs hnone hpoll₀ hD hwait, Child.with_status_eq hnone]
    | ok waited =>
      obtain ⟨s', rest, ended, result, hesc, hesc₀, hrest⟩ := escalate_traced host s₃
        (log ++ [.poll c.pid none, .snapshot c.pid D] ++ sends ++
          [.wait c.pid stopWaitMs (.ok waited)]) { c with status := waited } D
      refine ⟨s', D, sends ++ .wait c.pid stopWaitMs (.ok waited) :: rest, ended, result, ?_, ?_,
        .graceful rfl hsends hrest⟩
      · rw [stopOn_graceful host.traced stopWaitMs hnone hpoll' hD' hwait', hesc]
        simp
      · rw [stopOn_graceful host stopWaitMs hnone hpoll₀ hD hwait, hesc₀]

/-- The record changes nothing: a stop on the traced host ends in the state, with the command
and with the result that the stop on the host itself does, its calls appended to the record. -/
theorem stopOn_traced (stopWaitMs : Nat) (s : σ) (log : List HostCall) (c : Child)
    (force : Bool) :
    ∃ calls, stopOn host.traced stopWaitMs (s, log) c force =
      (((stopOn host stopWaitMs s c force).1, log ++ calls), (stopOn host stopWaitMs s c force).2) := by
  cases hstatus : c.status with
  | some st =>
    have hseen : c.status.isSome := by simp [hstatus]
    refine ⟨[], ?_⟩
    rw [stopOn_of_ended host.traced _ _ _ hseen, stopOn_of_ended host _ _ _ hseen]
    simp
  | none =>
    cases hpoll : (host.tryWait s c.pid).2 with
    | some st =>
      -- the poll sees the end on both
      refine ⟨[.poll c.pid (some st)], ?_⟩
      simp [stopOn, hasExited_traced host hstatus, hasExited_of_running host hstatus, hpoll]
    | none =>
      obtain ⟨s', D, rest, ended, result, htraced, hplain, -⟩ :=
        stopOn_phases host stopWaitMs s log force hstatus hpoll
      refine ⟨.poll c.pid none :: .snapshot c.pid D :: rest, ?_⟩
      rw [htraced, hplain]

/-- A stop of a command whose end it had not seen: the poll, and unless the poll sees the end,
one snapshot `D` and what `StopsAfter` says. -/
theorem stopOn_traced_running (stopWaitMs : Nat) (s : σ) {c : Child} (force : Bool)
    (hnone : c.status = none) :
    let run := stopOn host.traced stopWaitMs (s, []) c force
    ∃ ended result, run.2 = ({ c with status := ended }, result) ∧
      ((∃ st, ended = some st ∧ result = .ok () ∧ run.1.2 = [.poll c.pid (some st)]) ∨
        ∃ D rest, run.1.2 = .poll c.pid none :: .snapshot c.pid D :: rest ∧
          StopsAfter c.pid stopWaitMs D force rest ended result) := by
  intro run
  cases hseen : (host.tryWait s c.pid).2 with
  | some st =>
    -- the poll saw the end
    have hpoll : hasExited host.traced (s, []) c = _ := hasExited_traced host hnone
    rw [hasExited_of_running host hnone] at hpoll
    refine ⟨some st, .ok (), ?_, .inl ⟨st, rfl, rfl, ?_⟩⟩ <;> simp [run, stopOn, hpoll, hseen]
  | none =>
    obtain ⟨s', D, rest, ended, result, hrun, -, hafter⟩ :=
      stopOn_phases host stopWaitMs s [] force hnone hseen
    rw [show run = _ from hrun]
    exact ⟨ended, result, rfl, .inr ⟨D, rest, by simp, hafter⟩⟩

/-- A stop leaves the command it stops the same process, whatever its host answers. -/
theorem stopOn_pid (stopWaitMs : Nat) (s : σ) (c : Child) (force : Bool) :
    (stopOn host stopWaitMs s c force).2.1.pid = c.pid := by
  cases hstatus : c.status with
  | some st => rw [stopOn_of_ended host _ _ _ (by simp [hstatus])]
  | none =>
    cases hpoll : (host.tryWait s c.pid).2 with
    | some st => simp [stopOn, hasExited_of_running host hstatus, hpoll]
    | none =>
      obtain ⟨s', D, rest, ended, result, -, hplain, -⟩ :=
        stopOn_phases host stopWaitMs s [] force hstatus hpoll
      rw [hplain]

end Traced

theorem stop_pid (sup : Supervisor) (w : World) (c : Child) (force : Bool) :
    (sup.stop w c force).2.1.pid = c.pid :=
  stopOn_pid sup.host sup.stopWaitMs w c force

/-- The host's snapshots list each descendant once and never the command itself, whether they
come from the process status tool or from the table under `/proc`. -/
theorem host_descendants_nodup (sup : Supervisor) (w : World) (pid : Nat) :
    (sup.host.descendants w pid).2.Nodup ∧ pid ∉ (sup.host.descendants w pid).2 := by
  have hlisted : ∀ text, (descendantsIn text pid).Nodup ∧ pid ∉ descendantsIn text pid :=
    fun text =>
      let h := (ProcessTable.descendants_breadthFirst (t := ProcessTable.ofText text) pid).1
      ⟨h.nodup, h.root_not_mem⟩
  show (w.descendants sup.env sup.cwd pid).2.Nodup ∧ pid ∉ (w.descendants sup.env sup.cwd pid).2
  unfold World.descendants
  split <;> exact hlisted _

/-- What a stop asks of its host, whatever the host answers. The stop on the traced host is the
stop itself with its calls written down. A stop of a command whose end was seen asks nothing and
changes nothing. Otherwise it polls; an end the poll sees ends the stop. If the poll sees none,
the stop takes one snapshot `D` of the descendants and goes on as `StopsAfter` says: unless
forced, it sends terminate to each process of `D` and then to the command, before any kill, and
waits up to `stopWaitMs` for the end. Only when that wait saw no end does it send kill to each
process of `D`, kill the command through its handle and wait again. Last, it asks of each
process of `D` whether it is alive and kills the ones that are. A wait that fails ends the stop
at once with its error, so nothing after it is asked. What a send answers never changes what
is asked next. The end a stop leaves on the command is the last one it saw, and once that is an
end, every later stop asks nothing and changes nothing. The host's own snapshots list each
process once and never the command, so each is sent terminate once. -/
theorem stopOn_calls {σ : Type} (host : ProcessHost σ) (stopWaitMs : Nat) (s : σ) (c : Child)
    (force : Bool) :
    let run := stopOn host.traced stopWaitMs (s, []) c force
    (∃ calls, run = (((stopOn host stopWaitMs s c force).1, calls),
      (stopOn host stopWaitMs s c force).2)) ∧
    (c.status.isSome → run = ((s, []), c, .ok ())) ∧
    (c.status = none → ∃ ended result, run.2 = ({ c with status := ended }, result) ∧
      ((∃ st, ended = some st ∧ result = .ok () ∧ run.1.2 = [.poll c.pid (some st)]) ∨
        ∃ D rest, run.1.2 = .poll c.pid none :: .snapshot c.pid D :: rest ∧
          StopsAfter c.pid stopWaitMs D force rest ended result)) ∧
    (run.2.1.status.isSome → ∀ s' log force',
      stopOn host.traced stopWaitMs (s', log) run.2.1 force' = ((s', log), run.2.1, .ok ())) ∧
    ∀ (sup : Supervisor) (w : World) (pid : Nat),
      (sup.host.descendants w pid).2.Nodup ∧ pid ∉ (sup.host.descendants w pid).2 := by
  intro run
  obtain ⟨calls, htraced⟩ := stopOn_traced host stopWaitMs s [] c force
  exact ⟨⟨calls, by simpa using htraced⟩,
    stopOn_of_ended host.traced stopWaitMs (s, []) force,
    stopOn_traced_running host stopWaitMs s force,
    fun hseen s' log force' => stopOn_of_ended host.traced stopWaitMs (s', log) force' hseen,
    host_descendants_nodup⟩

/-- On a host whose waits fail, a graceful stop of a command with one descendant returns the
wait's error after asking the descendant and the command to terminate, and kills neither: the
descendant, which the host still answers is alive, is left running. -/
theorem stopOn_wait_fails :
    let host : ProcessHost Unit := ⟨fun s _ => (s, none), fun s _ => (s, [7]),
      fun s _ _ => (s, .ok ()), fun s _ => (s, true), fun s _ => s,
      fun s _ _ => (s, .error (.os .noChild))⟩
    let run := stopOn host.traced 2000 ((), []) ⟨5, "server", "server.log", none⟩ false
    run.2.2 = .error (.io (.os .noChild)) ∧
      run.1.2 = [.poll 5 none, .snapshot 5 [7], .signal 7 .terminate (.ok ()),
        .signal 5 .terminate (.ok ()), .wait 5 2000 (.error (.os .noChild))] ∧
      (host.isAlive () 7).2 = true :=
  ⟨rfl, rfl, rfl⟩

end Supervisor

end LaunchBench
