/-!
Signals.

Signals are numbered as on Linux. Each has a name, written without the `SIG`
prefix, and a default action: most end the process, a few (`CHLD`, `CONT`,
`URG`, `WINCH`) are dropped, and the stop signals are dropped here too,
since no process of this host is ever stopped. `KILL` can be neither caught
nor ignored.

* **`ofName?_name`**: every named signal is found again by its name.
-/

namespace LaunchBench.Host

/-- A signal, by its number. -/
abbrev Signal := Nat

namespace Signal

/-- `SIGHUP`. -/
def hangup : Signal := 1
/-- `SIGINT`. -/
def interrupt : Signal := 2
/-- `SIGQUIT`. -/
def quit : Signal := 3
/-- `SIGKILL`. -/
def kill : Signal := 9
/-- `SIGTERM`. -/
def terminate : Signal := 15
/-- `SIGCHLD`. -/
def child : Signal := 17

/-- The signals with names, by number. -/
def names : List (Nat × String) :=
  [(1, "HUP"), (2, "INT"), (3, "QUIT"), (4, "ILL"), (5, "TRAP"), (6, "ABRT"), (7, "BUS"),
   (8, "FPE"), (9, "KILL"), (10, "USR1"), (11, "SEGV"), (12, "USR2"), (13, "PIPE"),
   (14, "ALRM"), (15, "TERM"), (16, "STKFLT"), (17, "CHLD"), (18, "CONT"), (19, "STOP"),
   (20, "TSTP"), (21, "TTIN"), (22, "TTOU"), (23, "URG"), (24, "XCPU"), (25, "XFSZ"),
   (26, "VTALRM"), (27, "PROF"), (28, "WINCH"), (29, "IO"), (30, "PWR"), (31, "SYS")]

/-- The name of a signal. -/
def name? (s : Signal) : Option String := (names.find? (·.1 == s)).map (·.2)

/-- The signal with a name, with or without the `SIG` prefix, in any case. -/
def ofName? (n : String) : Option Signal :=
  let upper := n.toUpper
  let bare := if upper.startsWith "SIG" then (upper.drop 3).toString else upper
  (names.find? (·.2 == bare)).map (·.1)

/-- Whether a signal is dropped when nothing else was asked for. -/
def droppedByDefault (s : Signal) : Bool := [17, 18, 19, 20, 21, 22, 23, 28].contains s

theorem ofName?_name : ∀ p ∈ names, ofName? p.2 = some p.1 := by
  decide +kernel

end Signal

end LaunchBench.Host
