import LaunchBench.Toml.Syntax
/-!
TOML documents: from text to a tree of tables.

A document is read item by item: comments, blank lines, table headers and
`key = value` lines. Each header closes the table before it, which is then
placed into the tree, and opens a new one; each definition goes into the open
table. The rules that keep every table defined once are checked as the items
come, so an error points at the item that breaks them:

* a key is defined once in its table, and a table once by a header;
* a header may take over a table that was made only on the way to a deeper
  header, but not one made by dotted keys;
* dotted keys may not reach into a table defined by a header, an inline
  table, or a value that is not a table.

An error is shown with the line it was found on and a caret under the place
(`Error.render`).
-/

namespace LaunchBench.Toml

open Reader

/-- An error in a TOML document, with the place it points at: the position of
its first character and the length of the stretch in bytes. -/
structure Error where
  /-- What is wrong. -/
  message : String
  /-- Where: first character and length in bytes. -/
  place : Option (Nat × Nat)
deriving Repr, Inhabited

/-- The line (from 0) and column (from 0) of a position: a position past the
end counts from the last character. -/
def lineAndColumn (cs : List Char) (pos : Nat) : Nat × Nat :=
  if cs.isEmpty then (0, pos)
  else
    let safe := min pos (cs.length - 1)
    let before := cs.take safe
    let lineStart := before.length - (before.reverse.takeWhile (· != '\n')).length
    let line := (cs.take lineStart).count '\n'
    (line, safe - lineStart + (pos - safe))

/-- `n` spaces. -/
def spaces (n : Nat) : String := String.ofList (List.replicate n ' ')

/-- The text of an error: for an error with a place, a header with line and
column, the line itself, and carets under the place, then the message. -/
def Error.render (src : String) (e : Error) : String :=
  match e.place with
  | none => e.message ++ "\n"
  | some (start, bytes) =>
    let (line, column) := lineAndColumn src.toList start
    let content := ((src.splitOn "\n").drop line).headD ""
    let lineNo := toString (line + 1)
    let gutter := lineNo.length
    let width := min bytes (content.utf8ByteSize - column)
    "TOML parse error at line " ++ lineNo ++ ", column " ++ toString (column + 1) ++ "\n" ++
      spaces (gutter + 1) ++ "|\n" ++
      lineNo ++ " | " ++ content ++ "\n" ++
      spaces (gutter + 1) ++ "|" ++ spaces (column + 1) ++ "^" ++
      String.ofList (List.replicate (width - 1) '^') ++ "\n" ++
      e.message ++ "\n"

/-- A table while it is being built. -/
structure Table where
  /-- How the table came to be. -/
  form : TableForm
  /-- Its entries, in order. -/
  entries : List (Key × Node)
  /-- Where it was written. -/
  span : Option Span
deriving Inhabited

namespace Table

/-- The table as a node of the tree. -/
def toNode (t : Table) : Node := .table t.form t.entries t.span

/-- The node under a key. -/
def find? (t : Table) (k : Key) : Option Node :=
  (t.entries.find? (·.1.name == k.name)).map (·.2)

/-- Puts `n` under the key `k`, in its place if the key is there, last otherwise. -/
def put (t : Table) (k : Key) (n : Node) : Table :=
  if t.entries.any (·.1.name == k.name) then
    { t with entries := t.entries.map fun e => if e.1.name == k.name then (e.1, n) else e }
  else { t with entries := t.entries ++ [(k, n)] }

/-- Removes the key `k`. -/
def erase (t : Table) (k : Key) : Table :=
  { t with entries := t.entries.filter (·.1.name != k.name) }

end Table

/-- Why a definition breaks the rules of tables. -/
inductive BuildError where
  /-- A key or table defined twice; the table it was found in, when known. -/
  | duplicate (key : String) (table : Option (List Key))
  /-- A dotted key or header reaching through a value that is not a table. -/
  | notATable (path : List Key) (kind : String)

/-- The message of a build error. -/
def BuildError.message : BuildError → String
  | .duplicate k none => "duplicate key `" ++ k ++ "`"
  | .duplicate k (some []) => "duplicate key `" ++ k ++ "` in document root"
  | .duplicate k (some t) =>
    "duplicate key `" ++ k ++ "` in table `" ++ ".".intercalate (t.map (·.name)) ++ "`"
  | .notATable p kind =>
    "dotted key `" ++ ".".intercalate (p.map (·.name)) ++
      "` attempted to extend non-table type (" ++ kind ++ ")"

/-- The error for redefining the `i`-th part of a header path. -/
def duplicateAt (path : List Key) (i : Nat) : BuildError :=
  .duplicate ((path.drop i).headD default).raw (some (path.take i))

/-- Walks `path` (whose parts from `i` on are left) down from `t` and changes the
table at its end with `f`. Missing tables are made on the way, implicit, and
dotted when `dotted` says so; an array of tables is entered at its last table. -/
def descend (dotted : Bool) (full : List Key) (f : Table → Except BuildError (Table × β)) :
    Nat → List Key → Table → Except BuildError (Table × β)
  | _, [], t => f t
  | i, k :: ks, t =>
    match t.find? k with
    | none => do
      let (c, b) ← descend dotted full f (i + 1) ks ⟨{ implicit := true, dotted := dotted }, [], none⟩
      .ok (t.put k c.toNode, b)
    | some (.table form es sp) =>
      if form.inline then .error (.notATable (full.take (i + 1)) "inline table")
      else if dotted && !form.implicit then .error (.duplicate k.name none)
      else do
        let (c, b) ← descend dotted full f (i + 1) ks ⟨form, es, sp⟩
        .ok (t.put k c.toNode, b)
    | some (.tables elems sp) =>
      match elems.getLast? with
      | some (.table form es tsp) => do
        let (c, b) ← descend dotted full f (i + 1) ks ⟨form, es, tsp⟩
        .ok (t.put k (.tables (elems.dropLast ++ [c.toNode]) sp), b)
      | _ => do
        let (c, b) ← descend dotted full f (i + 1) ks default
        .ok (t.put k (.tables (elems ++ [c.toNode]) sp), b)
    | some n => .error (.notATable (full.take (i + 1)) n.kindName)

/-- Where a document stands while it is read. -/
structure Builder where
  /-- The tables placed so far. -/
  root : Table
  /-- The open table. -/
  current : Table
  /-- Whether the open table belongs to an array of tables. -/
  currentIsArray : Bool
  /-- The header path of the open table; empty before the first header. -/
  currentPath : List Key

namespace Builder

/-- Before the first item: the open table is the top level, at position 0. -/
def start : Builder :=
  ⟨⟨{}, [], none⟩, ⟨{}, [], some ⟨0, 0⟩⟩, false, []⟩

/-- Adds `key = value` under the dotted path `path` to the open table. -/
def define (b : Builder) (path : List Key) (k : Key) (v : Node) : Except BuildError Builder := do
  let cur := b.current
  let cur := match cur.span, v.span? with
    | some s, some vs => { cur with span := some ⟨s.start, vs.stop⟩ }
    | _, _ => cur
  let (cur, ()) ← descend true path (fun t =>
      if t.form.dotted == path.isEmpty then .error (.duplicate k.name none)
      else if t.entries.any (·.1.name == k.name) then .error (.duplicate k.name (some b.currentPath))
      else .ok ({ t with entries := t.entries ++ [(k, v)] }, ())) 0 path cur
  .ok { b with current := cur }

/-- Places the open table into the tree and leaves no table open. -/
def close (b : Builder) : Except BuildError Builder := do
  let t := b.current
  let path := b.currentPath
  let b := { b with current := ⟨{}, [], none⟩, currentPath := [] }
  match path.getLast? with
  | none => .ok { b with root := t }
  | some k =>
    let n := path.length - 1
    let (root, ()) ← descend false path (fun parent =>
      if b.currentIsArray then
        match parent.find? k with
        | none => .ok (parent.put k (.tables [t.toNode] t.span), ())
        | some (.tables elems _) =>
          let elems := elems ++ [t.toNode]
          let sp := match (elems.head?.bind Node.span?), (elems.getLast?.bind Node.span?) with
            | some a, some z => some ⟨a.start, z.stop⟩
            | _, _ => none
          .ok (parent.put k (.tables elems sp), ())
        | some _ => .error (duplicateAt path n)
      else
        match parent.find? k with
        | none => .ok (parent.put k t.toNode, ())
        | some (.table form _ _) =>
          if form.implicit && !form.inline then .ok (parent.put k t.toNode, ())
          else .error (duplicateAt path n)
        | some _ => .error (duplicateAt path n)) 0 path.dropLast b.root
    .ok { b with root := root }

/-- Opens the table of a header: `[path]`, or `[[path]]` when `isArray`. -/
def openTable (b : Builder) (isArray : Bool) (path : List Key) (sp : Span) :
    Except BuildError Builder := do
  let b ← b.close
  let k := path.getLastD default
  let n := path.length - 1
  let (root, taken) ← descend false path (fun parent =>
    if isArray then
      match parent.find? k with
      | none => .ok (parent.put k (.tables [] none), none)
      | some (.tables _ _) => .ok (parent, none)
      | some _ => .error (duplicateAt path n)
    else
      match parent.find? k with
      | none => .ok (parent, none)
      | some (.table form es tsp) =>
        if form.implicit && !form.dotted && !form.inline then
          .ok (parent.erase k, some (Table.mk form es tsp))
        else .error (duplicateAt path n)
      | some _ => .error (duplicateAt path n)) 0 path.dropLast b.root
  let t := taken.getD ⟨{}, [], none⟩
  .ok ⟨root, { t with form := {}, span := some sp }, isArray, path⟩

/-- The finished document: the open table placed, and the top-level table. -/
def finish (b : Builder) : Except BuildError Node := do
  let b ← b.close
  .ok b.root.toNode

end Builder

/-- A table header: whether it is `[[...]]`, its path, and its stretch. -/
def tableHeader : Reader (Bool × List Key × Span) :=
  (do
    match ← peekTwo with
    | some ('[', '[') =>
      let ((ks, a, z)) ← withSpan (do
        text "[["
        let ks ← cut key
        (cut (text "]]")).expecting [.char '.', .text "]]"]
        Reader.pure ks)
      (cut lineTrailing).expecting [.char '\n', .char '#']
      Reader.pure (true, ks, Span.mk a z)
    | some _ =>
      let ((ks, a, z)) ← withSpan (do
        char '['
        let ks ← cut key
        (cut (char ']')).expecting [.char '.', .text "]"]
        Reader.pure ks)
      (cut lineTrailing).expecting [.char '\n', .char '#']
      Reader.pure (false, ks, Span.mk a z)
    | none => fail).label "table header"

/-- A `key = value` line. -/
def keyValueLine : Reader (List Key × Key × Node) := do
  let ks ← key
  cut (do
    (char '=').expecting [.char '.', .char '=']
    blanks
    let v ← value nestingLimit
    lineTrailing.expecting [.char '\n', .char '#']
    Reader.pure (ks.dropLast, ks.getLastD default, v))

/-- Reads the items of a document, at most `fuel` of them, building as it goes. -/
def itemsFuel : Nat → Builder → Cursor → Except Failure (Builder × Cursor)
  | 0, b, c => .ok (b, c)
  | n + 1, b, c =>
    let next (b : Builder) (c : Cursor) : Except Failure (Builder × Cursor) :=
      match blanks c with
      | .ok ((), c') => itemsFuel n b c'
      | .error f => .error f
    match c.rest.head? with
    | none => .ok (b, c)
    | some '#' =>
      match (cut (do comment; lineEnding)) c with
      | .ok ((), c') => next b c'
      | .error f => .error f
    | some '[' =>
      match (cut tableHeader) c with
      | .ok ((isArray, path, sp), c') =>
        match b.openTable isArray path sp with
        | .ok b' => next b' c'
        | .error e => .error ⟨true, c.pos, [.label "table header"], some e.message⟩
      | .error f => .error f
    | some '\n' | some '\r' =>
      match newline c with
      | .ok ((), c') => next b c'
      | .error f => if f.final then .error f else .ok (b, c)
    | some _ =>
      match (cut keyValueLine) c with
      | .ok ((path, k, v), c') =>
        match b.define path k v with
        | .ok b' => next b' c'
        | .error e => .error ⟨true, c.pos, [], some e.message⟩
      | .error f => .error f

/-- Reads a TOML document into its top-level table. -/
def parse (src : String) : Except Error Node :=
  let cs := src.toList
  let start : Cursor := match cs with
    | '﻿' :: rest => ⟨rest, 1⟩
    | _ => ⟨cs, 0⟩
  let read : Except Failure Builder := do
    let ((), c) ← blanks start
    let (b, c) ← itemsFuel (c.rest.length + 1) Builder.start c
    let ((), _) ← eof c
    .ok b
  match read with
  | .error f =>
    .error ⟨f.message, some (f.pos, if f.pos < cs.length then 1 else 0)⟩
  | .ok b =>
    match b.finish with
    | .ok n => .ok n
    | .error e => .error ⟨e.message, none⟩

end LaunchBench.Toml
