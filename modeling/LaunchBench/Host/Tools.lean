import LaunchBench.Platform
import LaunchBench.Text.Blank
import LaunchBench.Text.Lines
import LaunchBench.Text.Numeral
/-!
The utilities a POSIX host is asked about its processes, and how their
answers are read.

The resident memory of a process comes from the process status tool and the
count of its open descriptors from the open-files lister in its field
format. A tool's answer that cannot be read counts as `-1`, "not known", and
never as an error: a process may end between being named and being looked at.

* **`firstNumber`** reads the first line that is a plain decimal numeral.
* **`countDescriptors`** counts the descriptor records of a listing that
  names a process.
-/

namespace LaunchBench.Host

open LaunchBench.Text

/-- The value of the first line that, trimmed, is a nonempty run of ASCII
digits; `-1` when there is none or when that numeral is above the largest
signed 64-bit value. Later lines are not looked at once one is found. -/
def firstNumber (output : String) : Int :=
  match (lines output).map trimBlank |>.find? (fun l => !l.isEmpty && l.all Char.isDigit) with
  | some l =>
    match digitsValue? l.toList with
    | some n => if n < Nat.pow 2 63 then n else -1
    | none => -1
  | none => -1

/-- The command that prints the resident memory of `pid`, in kilobytes. -/
def rssCommand (pid : Nat) : List String :=
  ["ps", "-p", toString pid, "-o", "rss="]

/-- The command that lists the open descriptors of `pid`, one record a field. -/
def descriptorCommand (pid : Nat) : List String :=
  ["lsof", "-F0n", "-p", toString pid]

/-- The number of descriptor records (lines starting with "f") in a listing;
`-1` when no line names a process (a line starting with "p"), because the
process is then gone. -/
def countDescriptors (output : String) : Int :=
  let ls := lines output
  if ls.any (·.startsWith "p") then (ls.filter (·.startsWith "f")).length else -1

/-- The commands that flush the file system and drop its caches, in order:
a macOS host purges, every other host writes to the kernel's cache knob. -/
def cacheDropCommands (os : OsFamily) : List (List String) :=
  match os with
  | .macOs => [["sync"], ["sudo", "-n", "purge"]]
  | _ => [["sync"], ["sudo", "-n", "sh", "-c", "echo 3 > /proc/sys/vm/drop_caches"]]

end LaunchBench.Host
