/-!
Reading text with failures that say what was expected.

A reader works on the characters still to be read and their position. A
failure records where reading stopped, whether it is final (a failure after a
point of no return, which no alternative may take back), and what the readers
it passed through add to it: a label naming the construct that was being read,
the things that would have been accepted, and a cause for failures that come
from a check on what was read.

The message of a failure names the first label ("invalid key"), then every
expected item in the order they were added ("expected `.`, `=`"), then the
cause, each on a line of its own.

A reader that fails leaves the position where the failure happened, except
where a combinator below says it goes back: `peek`, a check after a successful
read (`check`, `andThen`), and the alternatives of `orElse`, `optional` and
`many`, which start again from where they began.
-/

namespace LaunchBench.Toml

/-- Something a reader would have accepted. -/
inductive Expected where
  /-- A single character. -/
  | char (c : Char)
  /-- A fixed text. -/
  | text (s : String)
  /-- A described thing, such as "digit". -/
  | described (s : String)
deriving Repr, DecidableEq

/-- How an expected item is written in a message. -/
def Expected.render : Expected → String
  | .char '\n' => "newline"
  | .char '`' => "'`'"
  | .char c =>
    if c.toNat < 0x20 || c.toNat == 0x7F then
      "`" ++ (match c with
        | '\t' => "\\t" | '\r' => "\\r" | '\x00' => "\\0"
        | _ => "\\u\x7b" ++ String.ofList (Nat.toDigits 16 c.toNat) ++ "\x7d") ++ "`"
    else "`" ++ String.singleton c ++ "`"
  | .text s => "`" ++ s ++ "`"
  | .described s => s

/-- What a reader adds to a failure that passes through it. -/
inductive Context where
  /-- The construct being read. -/
  | label (s : String)
  /-- Something that would have been accepted. -/
  | expected (e : Expected)
deriving Repr, DecidableEq

/-- A failed read. -/
structure Failure where
  /-- Whether the failure is final: no alternative is tried after it. -/
  final : Bool
  /-- The position reading stopped at. -/
  pos : Nat
  /-- What the readers passed through added, innermost first. -/
  contexts : List Context
  /-- The reason a check on what was read gave. -/
  cause : Option String
deriving Repr, Inhabited

/-- The message of a failure: its first label, what was expected, and its cause. -/
def Failure.message (f : Failure) : String :=
  let label := f.contexts.findSome? fun | .label s => some s | _ => none
  let expected := f.contexts.filterMap fun | .expected e => some e.render | _ => none
  let parts : List String :=
    (match label with | some l => ["invalid " ++ l] | none => []) ++
    (if expected.isEmpty then [] else ["expected " ++ ", ".intercalate expected]) ++
    (match f.cause with | some c => [c] | none => [])
  "\n".intercalate parts

/-- The characters still to be read and the position of the first of them. -/
structure Cursor where
  /-- What is left. -/
  rest : List Char
  /-- The position of the first character left. -/
  pos : Nat
deriving Repr, Inhabited

/-- A reader: from a cursor, a value and a new cursor, or a failure. -/
def Reader (α : Type) : Type := Cursor → Except Failure (α × Cursor)

namespace Reader

/-- Reads nothing and gives `a`. -/
@[inline] def pure (a : α) : Reader α := fun c => .ok (a, c)

/-- Reads with `p`, then with the reader `f` picks for its value. -/
@[inline] def bind (p : Reader α) (f : α → Reader β) : Reader β := fun c =>
  match p c with
  | .ok (a, c') => f a c'
  | .error e => .error e

instance : Monad Reader where
  pure := Reader.pure
  bind := Reader.bind

/-- A failure here, not final, with nothing added. -/
def fail : Reader α := fun c => .error ⟨false, c.pos, [], none⟩

/-- A failure here with a cause. -/
def failWith (cause : String) : Reader α := fun c => .error ⟨false, c.pos, [], some cause⟩

/-- A final failure at `pos` with a cause. -/
def failFinalAt (pos : Nat) (cause : String) : Reader α := fun _ => .error ⟨true, pos, [], some cause⟩

/-- A final failure here with a cause. -/
def failFinal (cause : String) : Reader α := fun c => .error ⟨true, c.pos, [], some cause⟩

/-- Makes every failure of `p` final. -/
def cut (p : Reader α) : Reader α := fun c =>
  match p c with
  | .error f => .error { f with final := true }
  | r => r

/-- Adds `x` to every failure of `p`. -/
def context (p : Reader α) (x : Context) : Reader α := fun c =>
  match p c with
  | .error f => .error { f with contexts := f.contexts ++ [x] }
  | r => r

/-- Adds a label to every failure of `p`. -/
def label (p : Reader α) (s : String) : Reader α := p.context (.label s)

/-- Adds expected items, in order, to every failure of `p`. -/
def expecting (p : Reader α) (es : List Expected) : Reader α :=
  es.foldl (fun q e => q.context (.expected e)) p

/-- Reads with `p`; when it fails without being final, reads with `q` from the
same place instead, and a failure of `q` is the answer. -/
def orElse (p q : Reader α) : Reader α := fun c =>
  match p c with
  | .error f => if f.final then .error f else q c
  | r => r

/-- The first of the readers that does not fail softly; the failure of the last
one otherwise. -/
def firstOf : List (Reader α) → Reader α
  | [] => fail
  | [p] => p
  | p :: ps => p.orElse (firstOf ps)

/-- Reads with `p` if it can; a soft failure reads nothing and gives `none`. -/
def optional (p : Reader α) : Reader (Option α) := fun c =>
  match p c with
  | .ok (a, c') => .ok (some a, c')
  | .error f => if f.final then .error f else .ok (none, c)

/-- Reads with `p` and goes back to where it started. -/
def peek (p : Reader α) : Reader α := fun c =>
  match p c with
  | .ok (a, _) => .ok (a, c)
  | .error f => .error { f with pos := c.pos }

/-- Reads with `p`, then checks its value; a refused value is a soft failure
at the start, with the cause the check gives. -/
def check (p : Reader α) (f : α → Except (Option String) β) : Reader β := fun c =>
  match p c with
  | .ok (a, c') =>
    match f a with
    | .ok b => .ok (b, c')
    | .error cause => .error ⟨false, c.pos, [], cause⟩
  | .error e => .error e

/-- Reads with `p`, then reads its value as a text of its own with `q`, which
must succeed on it; a failure of `q` goes back to the start. -/
def andThen (p : Reader (List Char)) (q : List Char → Except Failure β) : Reader β := fun c =>
  match p c with
  | .ok (a, c') =>
    match q a with
    | .ok b => .ok (b, c')
    | .error f => .error { f with pos := c.pos }
  | .error e => .error e

/-- The text `p` read, instead of its value. -/
def recognize (p : Reader α) : Reader (List Char) := fun c =>
  match p c with
  | .ok (_, c') => .ok (c.rest.take (c'.pos - c.pos), c')
  | .error e => .error e

/-- The value of `p` and the stretch it read. -/
def withSpan (p : Reader α) : Reader (α × Nat × Nat) := fun c =>
  match p c with
  | .ok (a, c') => .ok ((a, c.pos, c'.pos), c')
  | .error e => .error e

/-- The value of `p`, the text it read, and the stretch it read. -/
def withText (p : Reader α) : Reader (α × List Char × Nat × Nat) := fun c =>
  match p c with
  | .ok (a, c') => .ok ((a, c.rest.take (c'.pos - c.pos), c.pos, c'.pos), c')
  | .error e => .error e

/-- Repeats `p` at most `fuel` times, while it reads something; stops at a soft
failure, back where that attempt started. -/
def manyFuel (p : Reader Unit) : Nat → Reader Unit
  | 0 => Reader.pure ()
  | n + 1 => fun c =>
    match p c with
    | .ok ((), c') => if c'.pos > c.pos then manyFuel p n c' else .ok ((), c')
    | .error f => if f.final then .error f else .ok ((), c)

/-- Repeats `p` as long as it succeeds; every success must read something, so
the number of characters left bounds the repetitions. -/
def many (p : Reader Unit) : Reader Unit := fun c =>
  manyFuel p (c.rest.length + 1) c

/-- Like `many`, but `p` must succeed at least once. -/
def many1 (p : Reader Unit) : Reader Unit := do
  p
  many p

/-- Joins the texts of repeated reads of `p`, at most `fuel` of them. -/
def gatherFuel (p : Reader String) : Nat → String → Reader String
  | 0, acc => Reader.pure acc
  | n + 1, acc => fun c =>
    match p c with
    | .ok (s, c') => if c'.pos > c.pos then gatherFuel p n (acc ++ s) c' else .ok (acc ++ s, c')
    | .error f => if f.final then .error f else .ok (acc, c)

/-- Joins the texts of `p` read as often as it succeeds. -/
def gather (p : Reader String) : Reader String := fun c =>
  gatherFuel p (c.rest.length + 1) "" c

/-- Further items after a separator, at most `fuel` of them: a separator or an
item that fails softly ends the list, back before that separator. -/
def separatedFuel (p : Reader α) (sep : Reader Unit) : Nat → Reader (List α)
  | 0 => Reader.pure []
  | n + 1 => fun c =>
    match (do sep; p) c with
    | .ok (a, c') =>
      if c'.pos > c.pos then
        match separatedFuel p sep n c' with
        | .ok (as, c'') => .ok (a :: as, c'')
        | .error f => .error f
      else .ok ([a], c')
    | .error f => if f.final then .error f else .ok ([], c)

/-- One or more items with separators between them. -/
def separated1 (p : Reader α) (sep : Reader Unit) : Reader (List α) := do
  let a ← p
  let as ← fun c => separatedFuel p sep (c.rest.length + 1) c
  Reader.pure (a :: as)

/-- Zero or more items with separators between them. -/
def separated0 (p : Reader α) (sep : Reader Unit) : Reader (List α) := fun c =>
  match (separated1 p sep) c with
  | .error f => if f.final then .error f else .ok ([], c)
  | r => r

/-- The position of the next character. -/
def position : Reader Nat := fun c => .ok (c.pos, c)

/-- The next character, if any, without reading it. -/
def peekChar : Reader (Option Char) := fun c => .ok (c.rest.head?, c)

/-- The next two characters, if there are two, without reading them. -/
def peekTwo : Reader (Option (Char × Char)) := fun c =>
  match c.rest with
  | a :: b :: _ => .ok (some (a, b), c)
  | _ => .ok (none, c)

/-- Reads any one character; fails at the end. -/
def any : Reader Char := fun c =>
  match c.rest with
  | x :: rest => .ok (x, ⟨rest, c.pos + 1⟩)
  | [] => .error ⟨false, c.pos, [], none⟩

/-- Reads one character that `ok` accepts. -/
def oneOf (ok : Char → Bool) : Reader Char := fun c =>
  match c.rest with
  | x :: rest => if ok x then .ok (x, ⟨rest, c.pos + 1⟩) else .error ⟨false, c.pos, [], none⟩
  | [] => .error ⟨false, c.pos, [], none⟩

/-- Reads the character `x`. -/
def char (x : Char) : Reader Unit := do
  let _ ← oneOf (· == x)

/-- Reads the text `s`, or fails without reading. -/
def text (s : String) : Reader Unit := fun c =>
  if s.toList.isPrefixOf c.rest then .ok ((), ⟨c.rest.drop s.length, c.pos + s.length⟩)
  else .error ⟨false, c.pos, [], none⟩

/-- Reads the longest run of characters that `ok` accepts, at most `most` of
them; fails without reading when the run is shorter than `least`. -/
def takeWhile (ok : Char → Bool) (least : Nat) (most : Option Nat) : Reader (List Char) :=
  fun c =>
    let run := c.rest.takeWhile ok
    let run := match most with | some m => run.take m | none => run
    if run.length < least then .error ⟨false, c.pos, [], none⟩
    else .ok (run, ⟨c.rest.drop run.length, c.pos + run.length⟩)

/-- Succeeds only at the end of the text. -/
def eof : Reader Unit := fun c =>
  if c.rest.isEmpty then .ok ((), c) else .error ⟨false, c.pos, [], none⟩

/-- Runs a reader over a whole text, from position 0. -/
def run (p : Reader α) (s : List Char) : Except Failure α :=
  match p ⟨s, 0⟩ with
  | .ok (a, _) => .ok a
  | .error f => .error f

end Reader

end LaunchBench.Toml
