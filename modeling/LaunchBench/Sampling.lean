import LaunchBench.Host.Control
import LaunchBench.Host.Tools
/-!
Resource samples of a running application.

A sample is the resident memory of a process, in kilobytes, and the number of
descriptors it holds open, each read once. Memory comes from the process
status tool, whose first line of digits is the value; descriptors from the
open-files tool, one `f` record each, whose output counts only when it has a
`p` record for the process. Either tool's output is used whatever its exit
status, since the open-files tool fails whenever some file cannot be listed.
When a tool gives nothing usable, the value is read from `/proc`, and when
that fails too the value is `-1`: sampling never fails.

* **`orFallback_known`**: a value the tool gave is never replaced.
-/

namespace LaunchBench

open Host

/-- Resident memory and open descriptors; `-1` stands for a value not known. -/
structure ResourceSample where
  /-- Resident memory in kilobytes. -/
  rssKb : Int
  /-- Open descriptors. -/
  openFds : Int
deriving Repr, DecidableEq

/-- How long a sampling tool may run. -/
def samplingLimitMs : Nat := 30000

/-- Runs a sampling tool from the harness with nothing on its input: what it
wrote on its output, whatever its exit status. `none` when it cannot be
started or does not end in time; then it is killed. -/
def Host.World.sampleOutput (w : World) (env : List (String × String)) (cwd : Location)
    (argv : List String) : World × Option String :=
  let (w, out) := w.openPipe
  let (w, err) := w.openPipe
  match spawn w harnessPid cwd [(0, .null), (1, .pipeOut out), (2, .pipeOut err)] argv env
      (pathOf env) with
  | .error _ => (w, none)
  | .ok (w, pid) =>
    let w := w.wait samplingLimitMs fun w => !w.running pid
    match w.reap pid with
    | (w, some _) => (w, some (Text.decodeLossy (w.pipeData out)))
    | (w, none) =>
      let w := w.deliver pid Signal.kill
      ((w.reap pid).1, none)

/-- A sampled value: the tool's when it is known, else the one read from
`/proc`, else `-1`. -/
def orFallback (primary : Int) (fallback : Option Int) : Int :=
  if primary < 0 then fallback.getD (-1) else primary

/-- Samples the resident memory and open descriptors of a process. -/
def Host.World.sample (w : World) (env : List (String × String)) (cwd : Location) (pid : Nat) :
    World × ResourceSample :=
  let (w, rssOut) := w.sampleOutput env cwd (rssCommand pid)
  let rss := orFallback ((rssOut.map firstNumber).getD (-1)) (w.rssFallback pid)
  let (w, fdOut) := w.sampleOutput env cwd (descriptorCommand pid)
  let fds := orFallback ((fdOut.map countDescriptors).getD (-1)) ((w.fdFallback pid).map Int.ofNat)
  (w, ⟨rss, fds⟩)

theorem orFallback_known (v : Int) (fallback : Option Int) (h : 0 ≤ v) :
    orFallback v fallback = v := by
  simp [orFallback, Int.not_lt.mpr h]

end LaunchBench
