/-!
Host paths.

A path is a text read with the rules of a Unix host: it is absolute when it
starts with a slash, and joining an absolute path replaces what came before
it. Joining puts one slash between the two parts unless the first is empty
or already ends in one, so joining the empty path adds a trailing slash.
-/

namespace LaunchBench

/-- A path on the host, written as text. -/
abbrev HostPath := String

namespace HostPath

/-- Whether a path starts at the root. -/
def isAbsolute (p : HostPath) : Bool :=
  p.startsWith "/"

/-- Whether a path is read from a base directory. -/
def isRelative (p : HostPath) : Bool :=
  !isAbsolute p

/-- Appends `q` to `p`; an absolute `q` replaces `p`. -/
def join (p q : HostPath) : HostPath :=
  if isAbsolute q then q
  else if p.isEmpty || p.endsWith "/" then p ++ q
  else p ++ "/" ++ q

/-- The components of a path: the parts between slashes, without empty parts and
without a `.` part other than a leading one. -/
def components (p : HostPath) : List String :=
  let parts := ((p.toList.splitOn '/').map String.ofList).filter (· ≠ "")
  match parts with
  | [] => []
  | first :: rest => first :: rest.filter (· ≠ ".")

/-- The path without its last component; `none` for the root and the empty path. -/
def parent? (p : HostPath) : Option HostPath :=
  let cs := components p
  if cs.isEmpty then none
  else
    let front := "/".intercalate cs.dropLast
    some (if isAbsolute p then "/" ++ front else front)

/-- The last component of a path, unless it is `..`. -/
def fileName? (p : HostPath) : Option String :=
  match (components p).getLast? with
  | some ".." => none
  | some "." => none
  | c => c


end HostPath

end LaunchBench
