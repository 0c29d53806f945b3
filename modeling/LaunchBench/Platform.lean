/-!
Host families and scenario modes.

A host family decides the operating-system details of a run (signals, which
log lines are known noise, the names of executables); a mode decides what a
scenario does with an application: build it and start and stop it several
times, or run it in development mode and edit it while it runs. The names of
both appear in threshold keys, log file names and measurement rows.
-/

namespace LaunchBench

/-- The operating-system family of the host. -/
inductive OsFamily where
  | linux
  | macOs
  | windows
  deriving DecidableEq, Repr, Inhabited

namespace OsFamily

/-- The family of a system name; every name other than these two behaves like Linux. -/
def ofSystemName (name : String) : OsFamily :=
  if name = "windows" then .windows
  else if name = "macos" then .macOs
  else .linux

/-- The short name used in threshold keys and command parameters. -/
def name : OsFamily → String
  | linux => "linux"
  | macOs => "mac"
  | windows => "windows"

/-- The family as a short name; the inverse of `name`. -/
def ofName? (s : String) : Option OsFamily :=
  if s = "linux" then some .linux
  else if s = "mac" then some .macOs
  else if s = "windows" then some .windows
  else none

/-- The name under which a report's summary records the family. -/
def summaryName : OsFamily → String
  | linux => "linux"
  | macOs => "mac_os"
  | windows => "windows"

/-- Whether the family is Windows. -/
def isWindows : OsFamily → Bool
  | windows => true
  | _ => false

theorem ofName?_name (o : OsFamily) : ofName? o.name = some o := by
  cases o <;> rfl

end OsFamily

/-- What a scenario does with an application. -/
inductive Mode where
  /-- Build a jar, then start and stop it several times. -/
  | jvm
  /-- Build a native executable, then start and stop it several times. -/
  | native
  /-- Start in development mode, edit a source file and time the reload. -/
  | dev
  /-- Generate a skeleton project, then run it in development mode. -/
  | generator
  deriving DecidableEq, Repr, Inhabited

namespace Mode

/-- The mode's name. -/
def name : Mode → String
  | jvm => "jvm"
  | native => "native"
  | dev => "dev"
  | generator => "generator"

/-- All modes, in the order they are listed. -/
def all : List Mode := [jvm, native, dev, generator]

/-- Reads a mode's name, ignoring the case of ASCII letters. -/
def parse? (s : String) : Option Mode :=
  let t := String.ofList (s.toList.map Char.toLower)
  all.find? fun m => m.name = t

/-- Whether the mode runs the development loop instead of start and stop cycles. -/
def isDevLoop : Mode → Bool
  | dev | generator => true
  | _ => false

theorem parse?_name (m : Mode) : parse? m.name = some m := by
  cases m <;> decide

end Mode

end LaunchBench
