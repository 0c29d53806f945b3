import LaunchBench.Shell.Syntax
import LaunchBench.Shell.Glob
import LaunchBench.Shell.Vars
import LaunchBench.Host.FileTree
/-!
Word expansion.

A word becomes fields in three passes. First its parameters are replaced by
their values, each character remembering whether it was quoted and whether it
came from an unquoted expansion. Then the characters of unquoted expansions
that are in `IFS` split the word into fields: blanks, tabs and newlines
collapse, other separators each end a field. Last, a field with an unquoted
`*`, `?` or `[` is replaced by the paths it matches, in byte order, or kept
as it is when none does.

`"$@"` gives one field per positional parameter, none when there are none;
a quoted empty string gives an empty field.

* **`splitIfs_plain`**: characters that are not subject to splitting stay
  one field.
-/

namespace LaunchBench.Shell

open Host

/-- What expansion reads: the variables, the special parameters and the files
that patterns are matched against. -/
structure Scope where
  /-- The variables and positional parameters. -/
  vars : Vars
  /-- `$$`. -/
  pid : Nat
  /-- `$!`, once a command ran in the background. -/
  lastJob : Option Nat
  /-- `$?`. -/
  status : Nat
  /-- The files patterns are matched against. -/
  files : FileTree
  /-- The working directory. -/
  cwd : Location

/-- An expansion that stops the shell: `${x?message}` of an unset `x`. -/
structure ExpandError where
  /-- The parameter. -/
  name : String
  /-- What is said about it. -/
  message : String
deriving Repr, DecidableEq

/-- A character of an expanded word. -/
structure Ch where
  /-- The character. -/
  c : Char
  /-- Quoted: never special in a pattern. -/
  quoted : Bool
  /-- From an unquoted expansion: a separator here splits the word. -/
  split : Bool
deriving Repr, DecidableEq

/-- The characters of a text, all marked alike. -/
def chars (s : String) (quoted split : Bool) : List Ch :=
  s.toList.map fun c => ⟨c, quoted, split⟩

/-- The text of expanded characters. -/
def textOf (cs : List Ch) : String := String.ofList (cs.map (·.c))

/-- Whether a name is a positional parameter. -/
def isPositional (name : String) : Bool := !name.isEmpty && name.all Char.isDigit

namespace Scope

/-- The value of a parameter, `none` when it is unset. -/
def param? (s : Scope) (name : String) : Option String :=
  match name with
  | "@" | "*" => some (" ".intercalate s.vars.args)
  | "#" => some (toString s.vars.args.length)
  | "?" => some (toString s.status)
  | "$" => some (toString s.pid)
  | "!" => s.lastJob.map toString
  | "-" => some ""
  | "0" => some s.vars.arg0
  | _ =>
    if isPositional name then s.vars.args[name.toNat! - 1]?
    else s.vars.get? name

/-- The characters of atoms; `outer` is set inside double quotes. -/
def atomChars (s : Scope) (outer : Bool) : Atom → List Ch
  | .text t q => chars t (q || outer) false
  | .param n q => chars ((s.param? n).getD "") (q || outer) !(q || outer)

/-- The pattern of atoms: quoted characters are literal. -/
def patternOf (s : Scope) (atoms : List Atom) : List PatChar :=
  (atoms.flatMap (s.atomChars false)).map fun ch => (ch.c, ch.quoted)

end Scope

/-- Whether a text matches a pattern. -/
def matchChars (p : List PatChar) (cs : List Char) : Bool :=
  matchFuel (p.length + 1) p cs

/-- Removes the shortest or longest prefix or suffix that matches a pattern. -/
def trimValue (value : String) (suffix longest : Bool) (p : List PatChar) : String :=
  let cs := value.toList
  let n := cs.length
  let cuts := if longest then (List.range (n + 1)).reverse else List.range (n + 1)
  if suffix then
    match cuts.find? fun k => matchChars p (cs.drop (n - k)) with
    | some k => String.ofList (cs.take (n - k))
    | none => value
  else
    match cuts.find? fun k => matchChars p (cs.take k) with
    | some k => String.ofList (cs.drop k)
    | none => value

/-- The expansion of one piece: the characters of its first field, then of
each further field it starts (only `"$@"` starts any), and whether it counts
as quoted text. -/
structure PieceValue where
  /-- The fields, the first one joined to what comes before. -/
  segments : List (List Ch)
  /-- Whether an empty result still makes a field. -/
  quotes : Bool

/-- The value of a parameter with an operator, before quoting is applied:
the characters, and the variables after a `${x=w}` assignment. -/
def opValue (s : Scope) (name : String) (op : ParamOp) (quoted : Bool) :
    Except ExpandError (List Ch × Vars) :=
  let value := s.param? name
  let asChars (t : String) := chars t quoted !quoted
  match op with
  | .plain => .ok (asChars (value.getD ""), s.vars)
  | .length => .ok (asChars (toString (value.getD "").length), s.vars)
  | .trim suffix longest pattern =>
    .ok (asChars (trimValue (value.getD "") suffix longest (s.patternOf pattern)), s.vars)
  | .alternative kind colon word =>
    let absent := match value with
      | none => true
      | some x => colon && x.isEmpty
    let wordChars := word.flatMap (s.atomChars quoted)
    match kind with
    | '-' => .ok (if absent then wordChars else asChars (value.getD ""), s.vars)
    | '=' =>
      if absent then
        let text := textOf wordChars
        .ok (asChars text, s.vars.set name text)
      else .ok (asChars (value.getD ""), s.vars)
    | '+' => .ok (if absent then [] else wordChars, s.vars)
    | _ =>
      if absent then
        let text := textOf wordChars
        .error ⟨name, if text.isEmpty then "parameter not set" else text⟩
      else .ok (asChars (value.getD ""), s.vars)

/-- Expands one piece of a word. -/
def pieceValue (s : Scope) : Piece → Except ExpandError (PieceValue × Scope)
  | .atom (.text t q) => .ok (⟨[chars t q false], q⟩, s)
  | .atom (.param "@" true) | .expand "@" .plain true =>
    .ok (⟨s.vars.args.map (chars · true false), !s.vars.args.isEmpty⟩, s)
  | .atom (.param n q) => .ok (⟨[chars ((s.param? n).getD "") q !q], q⟩, s)
  | .expand n op q => do
    let (cs, vars) ← opValue s n op q
    .ok (⟨[cs], q⟩, { s with vars })

/-- A word being expanded: the fields finished, the one being built and
whether that one holds quoted text. -/
structure Building where
  /-- Finished fields, each with whether it held quoted text. -/
  done : List (List Ch × Bool)
  /-- The field being built. -/
  current : List Ch
  /-- Whether it held quoted text. -/
  quoted : Bool

/-- Adds a piece's value to a word being built. -/
def Building.add (b : Building) (v : PieceValue) : Building :=
  match v.segments with
  | [] => b
  | first :: more =>
    let b := { b with current := b.current ++ first, quoted := b.quoted || v.quotes }
    more.foldl (fun b seg => ⟨b.done ++ [(b.current, b.quoted)], seg, v.quotes⟩) b

/-- The fields of a word before splitting. -/
def Building.fields (b : Building) : List (List Ch × Bool) := b.done ++ [(b.current, b.quoted)]

/-- Replaces a leading unquoted `~` by the home directory. -/
def tildeExpand (s : Scope) : Word → Word
  | .atom (.text t false) :: rest =>
    if t == "~" || t.startsWith "~/" then
      match s.vars.get? "HOME" with
      | some home => .atom (.text home true) :: .atom (.text (t.drop 1).toString false) :: rest
      | none => .atom (.text t false) :: rest
    else .atom (.text t false) :: rest
  | w => w

/-- Expands the parameters of a word, without splitting it. -/
def expandPieces (s : Scope) (w : Word) : Except ExpandError (Building × Scope) :=
  (tildeExpand s w).foldlM (fun (b, s) p => do
    let (v, s) ← pieceValue s p
    .ok (b.add v, s)) (⟨[], [], false⟩, s)

/-- Whether a character is a blank separator. -/
def isBlank (c : Char) : Bool := c == ' ' || c == '\t' || c == '\n'

/-- Splits characters at the separators that came from unquoted expansions:
`started` is set while a field has characters, `afterBlank` right after
blanks ended a field, when one other separator may follow without starting
an empty field. -/
def splitIfs (ifs : List Char) : List Ch → List Ch → Bool → Bool → List (List Ch) → List (List Ch)
  | [], cur, started, _, acc => if started then acc ++ [cur] else acc
  | ch :: rest, cur, started, afterBlank, acc =>
    if ch.split && ifs.contains ch.c then
      if isBlank ch.c then
        if started then splitIfs ifs rest [] false true (acc ++ [cur])
        else splitIfs ifs rest [] false afterBlank acc
      else if started then splitIfs ifs rest [] false false (acc ++ [cur])
      else if afterBlank then splitIfs ifs rest [] false false acc
      else splitIfs ifs rest [] false false (acc ++ [[]])
    else splitIfs ifs rest (cur ++ [ch]) true false acc

/-- The fields of one unsplit field: an empty one survives only when quoted. -/
def splitField (ifs : List Char) (cs : List Ch) (quoted : Bool) : List (List Ch) :=
  match splitIfs ifs cs [] false false [] with
  | [] => if quoted then [[]] else []
  | parts => parts

/-- Joins a path and a name. -/
def joinPath (base name : String) : String :=
  if base.isEmpty then name else if base.endsWith "/" then base ++ name else base ++ "/" ++ name

/-- Splits a pattern at its slashes. -/
def patternParts (p : List PatChar) : List (List PatChar) :=
  p.splitOn ('/', false) |>.flatMap fun part =>
    part.splitOn ('/', true)

/-- The names in a directory that a pattern matches; a leading dot must be
matched by a dot. -/
def matchingNames (files : FileTree) (dir : Location) (p : List PatChar) : List String :=
  match files.list dir with
  | .ok children =>
    children.filterMap fun (n, _) =>
      let dotOk := !n.startsWith "." || (p.head?.map (·.1) == some '.')
      if dotOk && matchChars p n.toList then some n else none
  | .error _ => []

/-- The paths a pattern matches, in byte order. -/
def globPaths (files : FileTree) (cwd : Location) (p : List PatChar) : List String :=
  let absolute := p.head?.map (·.1) == some '/'
  let parts := (patternParts p).filter (!·.isEmpty)
  let start : List (String × Location) := if absolute then [("/", [])] else [("", cwd)]
  let found := parts.foldl (fun cands part =>
    if hasMagic part then
      cands.flatMap fun (text, loc) =>
        (matchingNames files loc part).map fun n => (joinPath text n, loc ++ [n])
    else
      let name := String.ofList (part.map (·.1))
      cands.map fun (text, loc) => (joinPath text name, loc ++ [name])) start
  let existing := found.filter fun (_, loc) => (files.lstat loc).toBool
  (existing.map (·.1)).mergeSort fun a b => decide (a ≤ b)

/-- The words a field gives: the paths its pattern matches, or the field. -/
def globField (files : FileTree) (cwd : Location) (cs : List Ch) : List String :=
  let p := cs.map fun ch => (ch.c, ch.quoted)
  if hasMagic p then
    match globPaths files cwd p with
    | [] => [textOf cs]
    | paths => paths
  else [textOf cs]

/-- Expands a word into fields: parameters, splitting, then patterns. -/
def expandWord (s : Scope) (w : Word) : Except ExpandError (List String × Scope) := do
  let (b, s) ← expandPieces s w
  let ifs := s.vars.ifs.toList
  let fields := b.fields.flatMap fun (cs, q) => splitField ifs cs q
  .ok (fields.flatMap (globField s.files s.cwd), s)

/-- Expands words in turn. -/
def expandWords (s : Scope) (ws : List Word) : Except ExpandError (List String × Scope) :=
  ws.foldlM (fun (acc, s) w => do
    let (fs, s) ← expandWord s w
    .ok (acc ++ fs, s)) ([], s)

/-- Expands a word into one text, without splitting or patterns: the value of
an assignment, a redirection target or a `case` subject. -/
def expandText (s : Scope) (w : Word) : Except ExpandError (String × Scope) := do
  let (b, s) ← expandPieces s w
  .ok (" ".intercalate (b.fields.map (textOf ·.1)), s)

/-- Expands a word into a pattern, for `case`. -/
def expandPattern (s : Scope) (w : Word) : Except ExpandError (List PatChar × Scope) := do
  let (b, s) ← expandPieces s w
  .ok ((b.fields.flatMap (·.1)).map (fun ch => (ch.c, ch.quoted)), s)

theorem splitIfs_plain (ifs : List Char) (cs cur : List Ch) (acc : List (List Ch))
    (h : ∀ ch ∈ cs, ch.split = false) :
    splitIfs ifs cs cur true false acc = acc ++ [cur ++ cs] := by
  induction cs generalizing cur with
  | nil => simp [splitIfs]
  | cons ch rest ih =>
    have hch : ch.split = false := h ch (by simp)
    simp only [splitIfs, hch, Bool.false_and, Bool.false_eq_true, ↓reduceIte]
    rw [ih (cur ++ [ch]) (fun c hc => h c (by simp [hc]))]
    simp

end LaunchBench.Shell
