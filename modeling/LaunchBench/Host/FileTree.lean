import LaunchBench.Host.Errno
import LaunchBench.Host.Tool
import LaunchBench.Text.Utf8
/-!
The host's files.

A file tree maps places, the names from the root down, to entries: regular
files with their bytes, the host's own programs, directories, symbolic links
and named pipes. Every entry's parent is a directory, and the root is one.

A path names a place after three steps. A relative path is read from a
working directory; `.` parts are dropped; a name longer than 255 bytes is
refused. The names are then walked down from the root. A `..` part goes up
from the directory the walk has reached, as the host does: `a/..` leads above
`a` only when `a` is a directory, or a link to one, and then above where the
link leads. When a symbolic link is met on the way, its target replaces it,
read from the link's directory; forty such steps in a row are taken to be a
loop. Operations follow the links of the last
name as the host's calls do: reading, writing and listing follow it, making a
directory, link or pipe and removing do not.

* **`get?_put`**: an entry just put in place is found there.
-/

namespace LaunchBench.Host

open LaunchBench.Text

/-- A place in the file tree: the names of the directories from the root down,
then its own. The root is the empty place. -/
abbrev Location := List String

/-- What a place in the file tree holds. -/
inductive Entry where
  /-- A regular file: its bytes, and whether it may be run. -/
  | file (data : List UInt8) (executable : Bool)
  /-- One of the host's own programs. -/
  | program (t : Tool)
  /-- A directory. -/
  | dir
  /-- A symbolic link and the path it points to. -/
  | link (target : String)
  /-- A named pipe. -/
  | fifo
deriving Repr, Inhabited

namespace Entry

/-- Whether the entry is a directory. -/
def isDir : Entry → Bool
  | .dir => true
  | _ => false

/-- Whether the entry is a regular file or a program. -/
def isRegular : Entry → Bool
  | .file .. | .program _ => true
  | _ => false

end Entry

/-- The parts of a path between its slashes, without empty ones. -/
def pathParts (p : String) : List String :=
  ((p.toList.splitOn '/').map String.ofList).filter (· ≠ "")

/-- Drops `.` parts and lets each `..` part remove the name before it, by the text alone;
above the root, `..` stays at the root. This is how a shell's `cd` reads a path. -/
def normalize (parts : List String) : Location :=
  (parts.foldl (fun acc c =>
    if c == "." then acc
    else if c == ".." then acc.drop 1
    else c :: acc) []).reverse

/-- The names a path gives, read from the working directory `cwd`, its `.` parts dropped.
A `..` part stays, for the walk to resolve against the files. -/
def locate (cwd : Location) (p : String) : Except Errno Location :=
  if p.isEmpty then .error .noEntry
  else
    let parts := pathParts p
    if parts.any (·.utf8ByteSize > 255) then .error .nameTooLong
    else .ok ((if p.startsWith "/" then [] else cwd) ++ parts.filter (· != "."))

/-- The text of a place: its names after slashes, or `/` for the root. -/
def Location.render (loc : Location) : String :=
  if loc.isEmpty then "/" else String.join (loc.map ("/" ++ ·))

/-- The files of the host. -/
structure FileTree where
  /-- Every place but the root, with what it holds. -/
  entries : List (Location × Entry)
deriving Inhabited

namespace FileTree

/-- The tree with only the root. -/
def empty : FileTree := ⟨[]⟩

/-- What a place holds, without following a link there. -/
def get? (t : FileTree) (loc : Location) : Option Entry :=
  if loc.isEmpty then some .dir
  else (t.entries.find? (·.1 == loc)).map (·.2)

/-- Puts an entry at a place, replacing what was there. -/
def put (t : FileTree) (loc : Location) (e : Entry) : FileTree :=
  ⟨(loc, e) :: t.entries.filter (·.1 != loc)⟩

/-- Removes a place and everything below it. -/
def erase (t : FileTree) (loc : Location) : FileTree :=
  ⟨t.entries.filter fun (l, _) => !loc.isPrefixOf l⟩

/-- Walks the names of `todo` down from the directory `done`. A link that is to be followed
hands the rest of the walk to `jump`: the link's target, read from the link's directory,
then the names after the link. A link at the last name is followed only when `followLast`
is set. No entry is named `.` or `..`: `.` stays in the directory reached and `..` goes to
the one above it. A missing last name is no error: the place is returned for it to be
made. -/
def walkNames (t : FileTree) (followLast : Bool) (jump : List String → Except Errno Location) :
    Location → List String → Except Errno Location
  | done, [] => .ok done
  | done, c :: rest =>
    let here := done ++ [c]
    match t.get? here with
    | some (.link target) =>
      if rest.isEmpty && !followLast then .ok here
      else
        let base := if target.startsWith "/" then [] else done
        jump (base ++ pathParts target ++ rest)
    | some .dir => walkNames t followLast jump here rest
    | some _ => if rest.isEmpty then .ok here else .error .notDirectory
    | none =>
      if c == "." then walkNames t followLast jump done rest
      else if c == ".." then walkNames t followLast jump done.dropLast rest
      else if rest.isEmpty then .ok here else .error .noEntry

/-- Follows the links met on the way to a place, the one at the last name only when
`followLast` is set; `fuel` bounds the links followed, and a walk that would follow one
more is a loop. -/
def walk (t : FileTree) (followLast : Bool) : Nat → Location → List String → Except Errno Location
  | 0, done, todo => t.walkNames followLast (fun _ => .error .linkLoop) done todo
  | f + 1, done, todo => t.walkNames followLast (t.walk followLast f []) done todo

/-- The place a location ends at after its links are followed. -/
def resolve (t : FileTree) (followLast : Bool) (loc : Location) : Except Errno Location :=
  t.walk followLast 40 [] loc

/-- What a place holds, following links. -/
def stat (t : FileTree) (loc : Location) : Except Errno Entry := do
  let r ← t.resolve true loc
  match t.get? r with
  | some e => .ok e
  | none => .error .noEntry

/-- What a place holds, not following a link at the last name. -/
def lstat (t : FileTree) (loc : Location) : Except Errno Entry := do
  let r ← t.resolve false loc
  match t.get? r with
  | some e => .ok e
  | none => .error .noEntry

/-- Whether something is at a place, after following links. -/
def exists? (t : FileTree) (loc : Location) : Bool :=
  match t.stat loc with
  | .ok _ => true
  | .error _ => false

/-- Whether a place is a directory, after following links. -/
def isDir (t : FileTree) (loc : Location) : Bool :=
  match t.stat loc with
  | .ok e => e.isDir
  | .error _ => false

/-- Whether a place is a regular file, after following links. -/
def isFile (t : FileTree) (loc : Location) : Bool :=
  match t.stat loc with
  | .ok e => e.isRegular
  | .error _ => false

/-- The place where a new entry named by `loc` goes: its directory's links
are followed, and that directory must exist. -/
def placeFor (t : FileTree) (loc : Location) : Except Errno Location := do
  let r ← t.resolve false loc
  if r.isEmpty then .error .alreadyExists
  else
    match t.get? r.dropLast with
    | some .dir => .ok r
    | some _ => .error .notDirectory
    | none => .error .noEntry

/-- Makes a directory. -/
def mkdir (t : FileTree) (loc : Location) : Except Errno FileTree := do
  let r ← t.placeFor loc
  match t.get? r with
  | some _ => .error .alreadyExists
  | none => .ok (t.put r .dir)

/-- Makes a directory, first making the missing directories above it when
the parent is missing; a directory already there is no error. The `depth`
bounds the levels climbed. -/
def mkdirUp (t : FileTree) : Nat → Location → Except Errno FileTree
  | 0, _ => .ok t
  | depth + 1, loc =>
    if loc.isEmpty then .ok t
    else match t.mkdir loc with
      | .ok t' => .ok t'
      | .error .noEntry => do
        let t' ← t.mkdirUp depth loc.dropLast
        match t'.mkdir loc with
        | .ok t'' => .ok t''
        | .error e => if t'.isDir loc then .ok t' else .error e
      | .error e => if t.isDir loc then .ok t else .error e

/-- Makes a directory and the missing directories above it; a directory
already there is no error, anything else in the way is. -/
def mkdirAll (t : FileTree) (loc : Location) : Except Errno FileTree :=
  t.mkdirUp (loc.length + 1) loc

/-- Makes a symbolic link to `target`. -/
def symlink (t : FileTree) (target : String) (loc : Location) : Except Errno FileTree := do
  let r ← t.placeFor loc
  match t.get? r with
  | some _ => .error .alreadyExists
  | none => .ok (t.put r (.link target))

/-- Makes a named pipe. -/
def mkfifo (t : FileTree) (loc : Location) : Except Errno FileTree := do
  let r ← t.placeFor loc
  match t.get? r with
  | some _ => .error .alreadyExists
  | none => .ok (t.put r .fifo)

/-- The bytes of a file. A named pipe with no writer reads as empty. -/
def read (t : FileTree) (loc : Location) : Except Errno (List UInt8) := do
  let r ← t.resolve true loc
  match t.get? r with
  | some (.file d _) => .ok d
  | some (.program _) => .ok []
  | some .dir => .error .isDirectory
  | some (.link _) => .error .linkLoop
  | some .fifo => .ok []
  | none => .error .noEntry

/-- Opens a file for writing, making it when it is missing, and writes
`data`: after what it holds when `append` is set, in place of it otherwise.
Bytes written to a named pipe are not kept. -/
def write (t : FileTree) (loc : Location) (data : List UInt8) (append : Bool) :
    Except Errno FileTree := do
  let r ← t.resolve true loc
  if r.isEmpty then .error .isDirectory
  else
    match t.get? r with
    | some (.file d x) => .ok (t.put r (.file (if append then d ++ data else data) x))
    | some (.program _) => .ok (t.put r (.file data true))
    | some .dir => .error .isDirectory
    | some (.link _) => .error .linkLoop
    | some .fifo => .ok t
    | none =>
      match t.get? r.dropLast with
      | some .dir => .ok (t.put r (.file data false))
      | some _ => .error .notDirectory
      | none => .error .noEntry

/-- Removes a file or link; a directory is refused. -/
def unlink (t : FileTree) (loc : Location) : Except Errno FileTree := do
  let r ← t.resolve false loc
  match t.get? r with
  | some .dir => .error .isDirectory
  | some _ => .ok (t.erase r)
  | none => .error .noEntry

/-- Removes a directory with everything in it, or a single file or link. -/
def removeAll (t : FileTree) (loc : Location) : Except Errno FileTree := do
  let r ← t.resolve false loc
  if r.isEmpty then .error .notPermitted
  else
    match t.get? r with
    | some _ => .ok (t.erase r)
    | none => .error .noEntry

/-- The entries of a directory, by name in byte order. -/
def list (t : FileTree) (loc : Location) : Except Errno (List (String × Entry)) := do
  let r ← t.resolve true loc
  match t.get? r with
  | some .dir =>
    let n := r.length
    let children := t.entries.filterMap fun (l, e) =>
      if l.length == n + 1 && r.isPrefixOf l then l.getLast?.map (·, e) else none
    .ok (children.mergeSort fun a b => decide (a.1 ≤ b.1))
  | some _ => .error .notDirectory
  | none => .error .noEntry

/-- The text of a file, which must be UTF-8. -/
def readText (t : FileTree) (loc : Location) : Except IoError String :=
  match t.read loc with
  | .error e => .error (.os e)
  | .ok bytes =>
    match String.fromUTF8? (ByteArray.mk bytes.toArray) with
    | some s => .ok s
    | none => .error (.refused "stream did not contain valid UTF-8")

/-- The text of the file a path names, read from the working directory `cwd`. -/
def readTextAt (t : FileTree) (cwd : Location) (path : String) : Except IoError String :=
  match locate cwd path with
  | .error e => .error (.os e)
  | .ok loc => t.readText loc

/-- Whether something is at the place a path names, after following links. -/
def existsAt (t : FileTree) (cwd : Location) (path : String) : Bool :=
  match locate cwd path with
  | .error _ => false
  | .ok loc => t.exists? loc

/-- Marks a regular file as one that may be run, following links. -/
def setExecutable (t : FileTree) (loc : Location) : FileTree :=
  match t.resolve true loc with
  | .ok r =>
    match t.get? r with
    | some (.file d _) => t.put r (.file d true)
    | _ => t
  | .error _ => t

/-- Writes a file at a path read from `cwd`, making the directories above it;
the file may be run when `executable` is set. A path that cannot be
written leaves the tree as it was. -/
def plant (t : FileTree) (cwd : Location) (path : String) (data : List UInt8) (executable : Bool) :
    FileTree :=
  match locate cwd path with
  | .error _ => t
  | .ok loc =>
    match t.mkdirAll loc.dropLast with
    | .error _ => t
    | .ok t' =>
      match t'.write loc data false with
      | .ok t'' => if executable then t''.setExecutable loc else t''
      | .error _ => t

/-- Makes a directory and those above it at a path read from `cwd`; a path
that cannot be made leaves the tree as it was. -/
def plantDir (t : FileTree) (cwd : Location) (path : String) : FileTree :=
  match locate cwd path with
  | .error _ => t
  | .ok loc => (t.mkdirAll loc).toOption.getD t

/-- Everything below a directory, as paths from it in byte order, a
directory's path ending in a slash. -/
def listing (t : FileTree) (loc : Location) : List String :=
  let n := loc.length
  let below := t.entries.filter fun (l, _) => l.length > n && loc.isPrefixOf l
  let names := below.map fun (l, e) => "/".intercalate (l.drop n) ++ (if e.isDir then "/" else "")
  names.mergeSort fun a b => decide (a ≤ b)

theorem get?_put (t : FileTree) (loc : Location) (e : Entry) (h : loc ≠ []) :
    (t.put loc e).get? loc = some e := by
  simp [get?, put, h]

end FileTree

end LaunchBench.Host
