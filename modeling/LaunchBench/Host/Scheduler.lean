import LaunchBench.Shell.Machine
/-!
Letting the host run.

Processes take no time to compute: shells step until each one waits for a
child, for its jobs or for a program's deadline. Only deadlines make time
pass. To let time pass up to a moment, the host runs what can run, then
jumps to the earliest deadline before that moment, ends the programs whose
deadline it is, and goes on; a deadline at the moment itself is left for
later, as a timer that fires then is only seen after it.

The first process that can step goes first, so a shell that starts a job
goes on until it waits, and only then does the job run.

* **`fireTimers_clock`**: ending the programs whose deadline came leaves the
  clock alone.
-/

namespace LaunchBench.Host

open Shell

namespace World

/-- The first process that can take a step. -/
def nextReady (w : World) : Option Nat :=
  (w.procs.find? fun p => match p.image with
    | .shell st => shellReady w p st
    | _ => false).map (·.pid)

/-- Steps the processes until none can go on without time passing; `fuel`
bounds the steps. -/
def settle : Nat → World → World
  | 0, w => w
  | fuel + 1, w =>
    match w.nextReady with
    | some pid => settle fuel (stepShell w pid)
    | none => w

/-- The earliest deadline of a sleeping or serving program. -/
def nextDeadline (w : World) : Option Nat :=
  w.procs.foldl (fun acc p => match p.image with
    | .sleeping d | .serving d => some (match acc with | some a => min a d | none => d)
    | _ => acc) none

/-- Ends the programs whose deadline has come. -/
def fireTimers (w : World) : World :=
  w.procs.foldl (fun w p => match p.image with
    | .sleeping d | .serving d => if d ≤ w.clock then w.terminate p.pid (.exited 0) else w
    | _ => w) w

/-- How many steps the processes may take before time moves on. -/
def stepBudget : Nat := 200000

/-- Lets time pass until `target`, or until `stop` holds once the processes
have run; `rounds` bounds the deadlines met. -/
def runUntil (target : Nat) (stop : World → Bool) : Nat → World → World
  | 0, w => { w with clock := max w.clock target }
  | rounds + 1, w =>
    let w := w.settle stepBudget
    if stop w then w
    else match w.nextDeadline with
      | some d =>
        if d < target then runUntil target stop rounds { w with clock := max w.clock d }.fireTimers
        else { w with clock := max w.clock target }
      | none => { w with clock := max w.clock target }

/-- How many deadlines a wait may meet. -/
def roundBudget : Nat := 100000

/-- Lets `ms` milliseconds pass, or less when `stop` holds first. -/
def wait (w : World) (ms : Nat) (stop : World → Bool) : World :=
  runUntil (w.clock + ms) stop roundBudget w

theorem fireTimers_clock (w : World) : w.fireTimers.clock = w.clock := by
  unfold fireTimers
  suffices h : ∀ (ps : List Process) (v : World), v.clock = w.clock →
      (ps.foldl (fun w p => match p.image with
        | .sleeping d | .serving d => if d ≤ w.clock then w.terminate p.pid (.exited 0) else w
        | _ => w) v).clock = w.clock from h _ _ rfl
  intro ps
  induction ps with
  | nil => intro v hv; simpa using hv
  | cons p ps ih =>
    intro v hv
    simp only [List.foldl_cons]
    apply ih
    have hterm : ∀ (u : World) (q : Nat) (s : ExitStatus), (u.terminate q s).clock = u.clock := by
      intro u q s
      unfold terminate
      split
      · rfl
      · split
        · rfl
        · split <;> simp [modify, remove]
    split <;> (try split) <;> simp_all

end World

end LaunchBench.Host
