import LaunchBench.Host.Scheduler
/-!
The host the harness runs on.

Its programs live in `/usr/bin`, which `/bin` links to, and a static file
server is installed in `/usr/local/bin`. The harness itself is a process that
is not listed: the programs it starts are its children, and it reaps them
when it waits for them.

* **`fresh_procs`**: a fresh host runs no process.
-/

namespace LaunchBench.Host

open Shell

/-- The process of the harness. -/
def harnessPid : Nat := 100

/-- Where the file server lives. -/
def servePath : String := "/usr/local/bin/serve-files"

/-- The files of a fresh host. -/
def baseFiles : FileTree :=
  let dirs : List Location :=
    [["usr"], ["usr", "bin"], ["usr", "sbin"], ["usr", "local"], ["usr", "local", "bin"],
     ["usr", "local", "sbin"], ["tmp"], ["home"], ["dev"], ["etc"]]
  let t := dirs.foldl (fun t d => t.put d .dir) FileTree.empty
  let t := Tool.installed.foldl (fun t (n, tool) => t.put ["usr", "bin", n] (.program tool)) t
  let t := t.put ["bin"] (.link "usr/bin")
  let t := t.put ["sbin"] (.link "usr/sbin")
  t.put ["usr", "local", "bin", "serve-files"] (.program .fileServer)

/-- A host with some files, no process, at time zero. -/
def World.fresh (files : FileTree) : World := ⟨files, [], 0, 1000, [], 0⟩

theorem fresh_procs (files : FileTree) : (World.fresh files).procs = [] := rfl

end LaunchBench.Host
