/-!
Errors of the host's system calls.

A failed system call reports one error number; its message is the host's
description of the number followed by the number itself, as in
"No such file or directory (os error 2)". A few failures are found by the
calling library before any system call and carry a message of their own and
no number.

* **`IoError.message`** gives the text of either kind.
-/

namespace LaunchBench.Host

/-- An error number, by its meaning. -/
inductive Errno where
  /-- The operation is not permitted. -/
  | notPermitted
  /-- No file or directory has the name. -/
  | noEntry
  /-- No process has the id. -/
  | noProcess
  /-- The caller has no such child process to wait for. -/
  | noChild
  /-- The file is not in a format that can be run. -/
  | badFormat
  /-- Permission is denied. -/
  | accessDenied
  /-- The name is taken already. -/
  | alreadyExists
  /-- A component that should be a directory is not one. -/
  | notDirectory
  /-- The file is a directory. -/
  | isDirectory
  /-- An argument is not valid. -/
  | invalidArgument
  /-- A component of the name is longer than the host allows. -/
  | nameTooLong
  /-- The directory still holds entries. -/
  | notEmpty
  /-- Symbolic links refer to each other in a loop. -/
  | linkLoop
deriving DecidableEq, Repr, Inhabited

namespace Errno

/-- The number the host gives the error. -/
def code : Errno → Nat
  | .notPermitted => 1
  | .noEntry => 2
  | .noProcess => 3
  | .noChild => 10
  | .badFormat => 8
  | .accessDenied => 13
  | .alreadyExists => 17
  | .notDirectory => 20
  | .isDirectory => 21
  | .invalidArgument => 22
  | .nameTooLong => 36
  | .notEmpty => 39
  | .linkLoop => 40

/-- The host's description of the error. -/
def description : Errno → String
  | .notPermitted => "Operation not permitted"
  | .noEntry => "No such file or directory"
  | .noProcess => "No such process"
  | .noChild => "No child processes"
  | .badFormat => "Exec format error"
  | .accessDenied => "Permission denied"
  | .alreadyExists => "File exists"
  | .notDirectory => "Not a directory"
  | .isDirectory => "Is a directory"
  | .invalidArgument => "Invalid argument"
  | .nameTooLong => "File name too long"
  | .notEmpty => "Directory not empty"
  | .linkLoop => "Too many levels of symbolic links"

/-- The description with the number: "File exists (os error 17)". -/
def message (e : Errno) : String :=
  e.description ++ " (os error " ++ toString e.code ++ ")"

end Errno

/-- A failed input or output operation. -/
inductive IoError where
  /-- A system call failed with an error number. -/
  | os (e : Errno)
  /-- The calling library refused the operation with a message of its own. -/
  | refused (message : String)
deriving DecidableEq, Repr, Inhabited

namespace IoError

/-- The text of the error. -/
def message : IoError → String
  | .os e => e.message
  | .refused m => m

/-- Whether the error says that something does not exist. -/
def isNotFound : IoError → Bool
  | .os .noEntry => true
  | _ => false

/-- Whether the error says that a name is taken. -/
def isAlreadyExists : IoError → Bool
  | .os .alreadyExists => true
  | _ => false

/-- The name of the error's kind in a cause field: a system error, or a
library's own. -/
def causeName : IoError → String
  | .os _ => "Os"
  | .refused _ => "Error"

end IoError

example : (IoError.os .isDirectory).message = "Is a directory (os error 21)" := by decide

end LaunchBench.Host
