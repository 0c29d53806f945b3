import LaunchBench.Host.FileTree
import LaunchBench.Digest.Sha256
import LaunchBench.Clock.Timestamp
import LaunchBench.Report
import LaunchBench.HostPath
/-!
Log bundles.

A scenario's logs are kept in a bundle: a fresh directory
`<app>-<mode>-<YYYYMMDD-HHMMSS>` under the archive directory, with `-1`,
`-2`, … added when the name is taken. Every regular file below the logs
directory is copied into the bundle at the same relative path; links, pipes
and anything that cannot be copied are left out, the latter reported as
failed. The manifest `MANIFEST.sha256` lists each copied file as its SHA-256
digest, two spaces and its relative path, in path order (compared name by
name). The report is written next to the logs, as text and as JSON.

* **`ArchivedLogs.isComplete`** holds when nothing failed.
-/

namespace LaunchBench.Archive

open Host Clock

/-- The name of the manifest. -/
def manifestFile : String := "MANIFEST.sha256"

/-- The name of the report's text. -/
def reportFile : String := "report.txt"

/-- The name of the report's JSON. -/
def summaryFile : String := "summary.json"

/-- The place a path names, read from `cwd`, with the host's error. -/
def place (cwd : Location) (path : HostPath) : Except IoError Location :=
  (locate cwd path).mapError IoError.os

/-- The SHA-256 digest of a file, in lowercase hexadecimal. -/
def checksum (fs : FileTree) (cwd : Location) (path : HostPath) : Except IoError String := do
  let loc ← place cwd path
  let bytes ← (fs.read loc).mapError IoError.os
  pure (Digest.sha256Hex bytes)

/-- The `k`-th bundle name tried: the plain one, then with `-1`, `-2`, …. -/
def candidateName (base : String) (k : Nat) : String :=
  if k == 0 then base else base ++ "-" ++ toString k

/-- What one try at a bundle name gives. -/
inductive Attempt where
  /-- The directory was made: the files after, and its path. -/
  | made (fs : FileTree) (path : HostPath)
  /-- Something is there already. -/
  | taken
  /-- Another error. -/
  | failed (e : IoError)

/-- Tries to make the directory of the `k`-th bundle name: one directory creation, which
fails when anything is there already. -/
def tryName (fs : FileTree) (cwd : Location) (root base : HostPath) (k : Nat) : Attempt :=
  let candidate := root.join (candidateName base k)
  match place cwd candidate with
  | .error e => .failed e
  | .ok loc =>
    match fs.mkdir loc with
    | .ok fs' => .made fs' candidate
    | .error .alreadyExists => .taken
    | .error e => .failed (.os e)

/-- Tries the bundle names in turn: the plain one, then with `-1`, `-2`, …;
`fuel` bounds the names tried. -/
def claimName (fs : FileTree) (cwd : Location) (root base : HostPath) :
    Nat → Nat → Except IoError (FileTree × HostPath)
  | 0, _ => .error (.os .alreadyExists)
  | fuel + 1, k =>
    match tryName fs cwd root base k with
    | .made fs' candidate => .ok (fs', candidate)
    | .taken => claimName fs cwd root base fuel (k + 1)
    | .failed e => .error e

/-- Makes a fresh bundle directory for an application and mode at `now`. -/
def createBundleDir (fs : FileTree) (cwd : Location) (root : HostPath) (app : String) (mode : Mode)
    (now : Timestamp) : Except IoError (FileTree × HostPath) := do
  let base := app ++ "-" ++ mode.name ++ "-" ++ now.compactStamp
  let rootLoc ← place cwd root
  let fs ← (fs.mkdirAll rootLoc).mapError IoError.os
  claimName fs cwd root base (fs.entries.length + 2) 0

/-- What was archived and what was not, as paths relative to the bundle. -/
structure ArchivedLogs where
  /-- Files copied and listed in the manifest. -/
  archived : List (List String)
  /-- Files or directories that could not be copied or hashed. -/
  failed : List (List String)
deriving Repr

/-- Whether every log made it into the bundle. -/
def ArchivedLogs.isComplete (a : ArchivedLogs) : Bool := a.failed.isEmpty

/-- A relative path as text. -/
def showRelative (rel : List String) : String := "/".intercalate rel

/-- Whether relative path `a` comes no later than `b`: name by name, each name by its
bytes, and a path before the longer paths it begins. -/
def pathLe : List String → List String → Bool
  | [], _ => true
  | _ :: _, [] => false
  | a :: as, b :: bs => if a == b then pathLe as bs else decide (a < b)

/-- Orders relative paths name by name, each name by its bytes. -/
def sortPaths (ps : List (List String)) : List (List String) :=
  ps.mergeSort pathLe

/-- Copies one file into the bundle, making the directories it needs. -/
def copyFile (fs : FileTree) (src dest : Location) : Except IoError FileTree := do
  let fs ← (fs.mkdirAll dest.dropLast).mapError IoError.os
  let e ← (fs.stat src).mapError IoError.os
  if !e.isRegular then
    .error (.refused "the source path is neither a regular file nor a symlink to a regular file")
  let data ← (fs.read src).mapError IoError.os
  let fs ← (fs.write dest data false).mapError IoError.os
  match e with
  | .file _ true | .program _ => pure (fs.setExecutable dest)
  | _ => pure fs

/-- The progress of a copy: the tree, what was copied and what failed. -/
structure CopyState where
  /-- The files. -/
  fs : FileTree
  /-- Copied, relative to the logs directory. -/
  archived : List (List String)
  /-- Failed, relative to the logs directory. -/
  failed : List (List String)

/-- Copies the regular files below `dir` into the bundle, keeping their paths
relative to `rootLoc`; `depth` bounds the directories descended. -/
def copyTree (rootLoc bundle : Location) : Nat → Location → CopyState → CopyState
  | 0, _, st => st
  | depth + 1, dir, st =>
    match st.fs.list dir with
    | .error _ => { st with failed := st.failed ++ [dir.drop rootLoc.length] }
    | .ok children =>
      children.foldl (fun st (name, e) =>
        let path := dir ++ [name]
        let rel := path.drop rootLoc.length
        match e with
        | .dir => copyTree rootLoc bundle depth path st
        | .file .. | .program _ =>
          match copyFile st.fs path (bundle ++ rel) with
          | .ok fs => { st with fs, archived := st.archived ++ [rel] }
          | .error _ => { st with failed := st.failed ++ [rel] }
        | _ => st) st

/-- Hashes the copy of one log into the manifest of `bundle`: its digest, two spaces and its
path go on a line of their own. A copy that cannot be read is failed; a line that cannot be
written stops the hashing with its error, the lines before it written. -/
def hashInto (bundle : Location) (acc : List (List String) × List (List String))
    (rel : List String) : EStateM Errno FileTree (List (List String) × List (List String)) :=
  fun fs =>
    let (hashed, failed) := acc
    match fs.read (bundle ++ rel) with
    | .ok bytes =>
      let line := Digest.sha256Hex bytes ++ "  " ++ showRelative rel ++ "\n"
      match fs.write (bundle ++ [manifestFile]) (Text.utf8Bytes line) true with
      | .ok fs' => .ok (hashed ++ [rel], failed) fs'
      | .error e => .error e fs
    | .error _ => .ok (hashed, failed ++ [rel]) fs

/-- Copies the logs below `logsDir` into `bundle` and writes the manifest.
Fails only when the manifest cannot be written; the copies stay, and so do
the manifest's lines written before the one that failed. -/
def archiveLogs (fs : FileTree) (cwd : Location) (logsDir bundle : HostPath) :
    FileTree × Except IoError ArchivedLogs :=
  match place cwd logsDir, place cwd bundle with
  | .ok logsLoc, .ok bundleLoc =>
    let st : CopyState := ⟨fs, [], []⟩
    let st := if fs.isDir logsLoc then copyTree logsLoc bundleLoc (fs.entries.length + 1) logsLoc st else st
    let archived := sortPaths st.archived
    let failed := sortPaths st.failed
    let manifest := bundleLoc ++ [manifestFile]
    match st.fs.write manifest [] false with
    | .error e => (st.fs, .error (.os e))
    | .ok fs =>
      match (archived.foldlM (hashInto bundleLoc) ([], failed)).run fs with
      | .ok (hashed, failed) fs => (fs, .ok ⟨hashed, failed⟩)
      | .error e fs => (fs, .error (.os e))
  | .error e, _ | _, .error e => (fs, .error e)

/-- Writes the report into the bundle, first as text and then as JSON; the
text stays written when the JSON cannot be. -/
def writeReport (fs : FileTree) (cwd : Location) (bundle : HostPath) (r : Report) :
    FileTree × Except IoError Unit :=
  match place cwd bundle with
  | .error e => (fs, .error e)
  | .ok loc =>
    match fs.write (loc ++ [reportFile]) (Text.utf8Bytes r.render) false with
    | .error e => (fs, .error (.os e))
    | .ok fs =>
      match fs.write (loc ++ [summaryFile]) (Text.utf8Bytes (Text.JsonValue.pretty 0 r.toJson)) false with
      | .error e => (fs, .error (.os e))
      | .ok fs => (fs, .ok ())

end LaunchBench.Archive
