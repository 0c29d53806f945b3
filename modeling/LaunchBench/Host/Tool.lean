/-!
The programs installed on the host.

A program file on the host either holds a script, which a shell reads, or is
one of the host's own programs, named here by what it does. Which name on
the search path runs which program is fixed by `Tool.installed`.
-/

namespace LaunchBench.Host

/-- A program of the host, by what it does. -/
inductive Tool where
  /-- The command interpreter. -/
  | shell
  /-- Waits a number of seconds. -/
  | sleep
  /-- Creates directories. -/
  | makeDir
  /-- Creates links. -/
  | link
  /-- Creates named pipes. -/
  | makeFifo
  /-- Does nothing and succeeds. -/
  | succeed
  /-- Does nothing and fails. -/
  | fail
  /-- Writes its arguments. -/
  | echo
  /-- Writes its arguments under a format. -/
  | printf
  /-- Writes files. -/
  | cat
  /-- Removes files. -/
  | remove
  /-- Creates empty files. -/
  | touch
  /-- Flushes file buffers. -/
  | sync
  /-- Runs a command as another user. -/
  | sudo
  /-- Sends signals. -/
  | kill
  /-- Writes the working directory. -/
  | pwd
  /-- Serves the files of its working directory over HTTP for a while. -/
  | fileServer
deriving DecidableEq, Repr, Inhabited

namespace Tool

/-- The programs installed in the host's system directories, by file name. -/
def installed : List (String × Tool) :=
  [("sh", .shell), ("dash", .shell), ("sleep", .sleep), ("mkdir", .makeDir), ("ln", .link),
   ("mkfifo", .makeFifo), ("true", .succeed), ("false", .fail), ("echo", .echo),
   ("printf", .printf), ("cat", .cat), ("rm", .remove), ("touch", .touch), ("sync", .sync),
   ("sudo", .sudo), ("kill", .kill), ("pwd", .pwd)]

end Tool

end LaunchBench.Host
