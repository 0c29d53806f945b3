/-!
The syntax of shell scripts.

A script is a command; lists, pipelines and `&&`/`||` chains are built from
commands two at a time. A word is a sequence of pieces: literal text, quoted
or not, and parameter expansions such as `$x`, `"$@"` or `${x##*/}`. Quoted
text and quoted expansions are neither split into fields nor read as
patterns; unquoted expansions are both.
-/

namespace LaunchBench.Shell

/-- A piece of a word that holds no operator. -/
inductive Atom where
  /-- Literal text; quoted text is never a pattern. -/
  | text (s : String) (quoted : Bool)
  /-- The value of a parameter. -/
  | param (name : String) (quoted : Bool)
deriving Repr, Inhabited, DecidableEq

/-- What a parameter expansion does with the value. -/
inductive ParamOp where
  /-- The value itself: `$x`, `${x}`. -/
  | plain
  /-- Its length: `${#x}`. -/
  | length
  /-- Removes a prefix (or, with `suffix`, a suffix) matching the pattern,
  the shortest or the `longest`: `${x#p}`, `${x##p}`, `${x%p}`, `${x%%p}`. -/
  | trim (suffix longest : Bool) (pattern : List Atom)
  /-- `${x-w}`, `${x=w}`, `${x+w}`, `${x?w}` by `kind`, and with `colon` also
  for an empty value: `${x:-w}` and so on. -/
  | alternative (kind : Char) (colon : Bool) (word : List Atom)
deriving Repr, Inhabited, DecidableEq

/-- A piece of a word. -/
inductive Piece where
  /-- Text or a plain parameter. -/
  | atom (a : Atom)
  /-- A parameter with an operator. -/
  | expand (name : String) (op : ParamOp) (quoted : Bool)
deriving Repr, Inhabited, DecidableEq

/-- A word of a command line, before expansion. -/
abbrev Word := List Piece

/-- What a redirection does to its descriptor. -/
inductive RedirOp where
  /-- `>`: writes to a file, emptied first. -/
  | write
  /-- `>>`: writes to the end of a file. -/
  | append
  /-- `<`: reads from a file. -/
  | read
  /-- `>&`: writes where another descriptor writes. -/
  | dupOut
  /-- `<&`: reads where another descriptor reads. -/
  | dupIn
  /-- `<>`: reads and writes a file. -/
  | readWrite
deriving Repr, Inhabited, DecidableEq

/-- A redirection of a descriptor. -/
structure Redirect where
  /-- The descriptor redirected. -/
  fd : Nat
  /-- How. -/
  op : RedirOp
  /-- The file, or the descriptor for `>&` and `<&`. -/
  target : Word
deriving Repr, Inhabited, DecidableEq

mutual

/-- A command. -/
inductive Command where
  /-- Assignments, words and redirections; `line` is where it starts. -/
  | simple (line : Nat) (assigns : List (String × Word)) (words : List Word) (redirs : List Redirect)
  /-- `( body )`: runs in a copy of the shell. -/
  | subshell (body : Command)
  /-- A compound command with redirections around it. -/
  | redirected (body : Command) (redirs : List Redirect)
  /-- `first; second`. -/
  | seq (first second : Command)
  /-- `body &`: runs without waiting for it. -/
  | background (body : Command)
  /-- `first && second`. -/
  | both (first second : Command)
  /-- `first || second`. -/
  | either (first second : Command)
  /-- `! body`. -/
  | negate (body : Command)
  /-- `first | second`. -/
  | pipe (first second : Command)
  /-- `for var in items; do body; done`; no items means the positional parameters. -/
  | forEach (var : String) (items : Option (List Word)) (body : Command)
  /-- `case subject in arms esac`. -/
  | cases (subject : Word) (arms : Arms)
  /-- `if cond; then thenB; else elseB; fi`. -/
  | branch (cond thenB elseB : Command)
  /-- `while cond; do body; done`, or `until` when `untilMode` is set. -/
  | loop (untilMode : Bool) (cond body : Command)
  /-- Does nothing. -/
  | skip

/-- The arms of a `case` command. -/
inductive Arms where
  /-- No more arms. -/
  | nil
  /-- An arm: its patterns and its body. -/
  | cons (patterns : List Word) (body : Command) (rest : Arms)

end

instance : Inhabited Command := ⟨.skip⟩

/-- The plain text of an unquoted word, if it has no expansion and no quote. -/
def Word.plainText? (w : Word) : Option String :=
  w.foldl (fun acc p => match acc, p with
    | some s, .atom (.text t false) => some (s ++ t)
    | _, _ => none) (some "")

end LaunchBench.Shell
