import LaunchBench.Host.FileTree
import LaunchBench.Host.Signal
/-!
Descriptors and exit statuses.

A descriptor of a process is where its output goes or where its input comes
from: nowhere (`/dev/null`), the end of a file, a position in a file, or one
end of a pipe whose bytes the host keeps. A process ends with an exit code
or killed by a signal; a shell sees the latter as `128` plus the signal.

* **`ExitStatus.success_iff`**: only exit code `0` is a success.
-/

namespace LaunchBench.Host

/-- Where a descriptor reads or writes. -/
inductive Stream where
  /-- `/dev/null`: reads nothing, drops what is written. -/
  | null
  /-- A closed descriptor. -/
  | closed
  /-- Writes go to the end of a file. -/
  | appendTo (loc : Location)
  /-- Reads a file from a position. -/
  | readFrom (loc : Location) (pos : Nat)
  /-- Writes go into a pipe the host keeps. -/
  | pipeOut (id : Nat)
  /-- Reads a pipe from a position. -/
  | pipeIn (id : Nat) (pos : Nat)
deriving Repr, DecidableEq, Inhabited

/-- How a process ended. -/
inductive ExitStatus where
  /-- It exited with a code. -/
  | exited (code : Nat)
  /-- A signal killed it. -/
  | killed (sig : Signal)
deriving Repr, DecidableEq, Inhabited

namespace ExitStatus

/-- Whether the process exited with code 0. -/
def success : ExitStatus → Bool
  | .exited 0 => true
  | _ => false

/-- The exit code, if it exited. -/
def code? : ExitStatus → Option Nat
  | .exited c => some c
  | .killed _ => none

/-- The signal that killed it, if one did. -/
def signal? : ExitStatus → Option Signal
  | .exited _ => none
  | .killed s => some s

/-- The status a shell sees: the exit code, or 128 plus the signal. -/
def shellCode : ExitStatus → Nat
  | .exited c => c
  | .killed s => 128 + s

theorem success_iff (s : ExitStatus) : s.success = true ↔ s = .exited 0 := by
  cases s with
  | exited c => cases c <;> simp [success]
  | killed _ => simp [success]

end ExitStatus

end LaunchBench.Host
