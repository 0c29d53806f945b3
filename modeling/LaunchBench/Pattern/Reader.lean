import LaunchBench.Pattern.Syntax
import LaunchBench.Text.Blank
import LaunchBench.Text.Alphabetic
/-!
Reading a pattern into its syntax tree.

The reader walks the pattern once from left to right. Groups and alternations
are kept on an explicit stack, as are nested bracketed classes, so every step
consumes at least one character and each loop is bounded by the length of
the pattern. Where a construct is malformed the reader stops with the cause
and the stretch of text that shows it.
-/

namespace LaunchBench.Pattern

/-- The reader's position in the pattern. -/
structure Cursor where
  text : Array Char
  pos : Nat := 0
  /-- Whether blanks and `#` comments are skipped (the `x` flag). -/
  ignoreSpace : Bool := false
  /-- The capture names seen so far, with where they were written. -/
  names : List (String × Span) := []

/-- Reading steps: they move the cursor and may fail. -/
abbrev ReadM := StateT Cursor (Except Error)

namespace ReadM

def fail {α : Type} (k : ErrorKind) (sp : Span) (aux : Option Span := none) : ReadM α :=
  throw { kind := k, span := sp, aux }

def pos : ReadM Nat := return (← get).pos

def setPos (p : Nat) : ReadM Unit := modify fun c => { c with pos := p }

def atEnd : ReadM Bool := do
  let c ← get
  return c.text.size ≤ c.pos

/-- The current character; a NUL past the end, where callers never look. -/
def char : ReadM Char := do
  let c ← get
  return c.text.getD c.pos '\x00'

/-- The character after the current one. -/
def peek : ReadM (Option Char) := do
  let c ← get
  return c.text[c.pos + 1]?

/-- The empty stretch at the current position. -/
def here : ReadM Span := do
  let p ← pos
  return ⟨p, p⟩

/-- The stretch of the current character. -/
def charSpan : ReadM Span := do
  let p ← pos
  return ⟨p, p + 1⟩

/-- Moves past the current character; tells whether a character follows. -/
def bump : ReadM Bool := do
  let c ← get
  if c.text.size ≤ c.pos then return false
  set { c with pos := c.pos + 1 }
  return c.pos + 1 < c.text.size

/-- The number of characters left, which bounds every loop of the reader. -/
def fuel : ReadM Nat := do
  let c ← get
  return c.text.size - c.pos + 1

/-- Skips the rest of a comment, through its line feed. -/
def skipComment : Nat → ReadM Unit
  | 0 => pure ()
  | n + 1 => do
    if ← atEnd then return
    let ch ← char
    discard bump
    if ch = '\n' then return
    skipComment n

/-- Skips blanks and comments when the `x` flag is on. -/
def skipSpaceWith : Nat → ReadM Unit
  | 0 => pure ()
  | n + 1 => do
    if ← atEnd then return
    let ch ← char
    if Text.isBlank ch then
      discard bump
      skipSpaceWith n
    else if ch = '#' then
      discard bump
      skipComment (← fuel)
      skipSpaceWith n
    else return

def skipSpace : ReadM Unit := do
  if (← get).ignoreSpace then skipSpaceWith (← fuel)

/-- Moves past the current character and any blanks after it; tells whether a
character follows. -/
def bumpAndSkip : ReadM Bool := do
  if !(← bump) then return false
  skipSpace
  return !(← atEnd)

/-- Moves past `s` if the text continues with it. -/
def bumpIf (s : String) : ReadM Bool := do
  let c ← get
  let cs := s.toList
  if (c.text.extract c.pos (c.pos + cs.length)).toList = cs then
    set { c with pos := c.pos + cs.length }
    return true
  return false

/-- Moves past the first of `ss` that the text continues with, trying them in order. -/
def bumpIfAny : List String → ReadM Bool
  | [] => return false
  | s :: rest => do
    if ← bumpIf s then return true
    bumpIfAny rest

/-- The first character after the current one that is not blank, skipping one `#`,
when the `x` flag is on; otherwise the next character. -/
def peekSkip : ReadM (Option Char) := do
  let c ← get
  if !c.ignoreSpace then return c.text[c.pos + 1]?
  if c.text.size ≤ c.pos then return none
  let rest := (c.text.extract (c.pos + 1) c.text.size).toList
  let rec scan (inComment : Bool) : List Char → Option Char
    | [] => none
    | ch :: more =>
      if Text.isBlank ch then scan inComment more
      else if !inComment && ch = '#' then scan true more
      else some ch
  match scan false rest with
  | some ch => return some ch
  | none => return rest.head?

/-- The characters of the pattern in `[a, b)`. -/
def slice (a b : Nat) : ReadM String := do
  return String.ofList ((← get).text.extract a b).toList

end ReadM

open ReadM

/-- A single-character construct before it is placed in a sequence or a class. -/
inductive Prim where
  | literal (span : Span) (c : Char) (byte : Option Nat)
  | assertion (span : Span) (k : AssertionKind)
  | dot (span : Span)
  | perl (span : Span) (k : PerlClass) (negated : Bool)
  | unicode (span : Span) (negated : Bool) (q : UnicodeQuery)

namespace Prim

def span : Prim → Span
  | literal s .. | assertion s .. | dot s | perl s .. | unicode s .. => s

def withStart (p : Prim) (start : Nat) : Prim :=
  match p with
  | literal s c b => literal ⟨start, s.stop⟩ c b
  | assertion s k => assertion ⟨start, s.stop⟩ k
  | dot s => dot ⟨start, s.stop⟩
  | perl s k n => perl ⟨start, s.stop⟩ k n
  | unicode s n q => unicode ⟨start, s.stop⟩ n q

def toAst : Prim → Ast
  | literal s c b => .literal s c b
  | assertion s k => .assertion s k
  | dot s => .dot s
  | perl s k n => .perl s k n
  | unicode s n q => .unicode s n q

/-- The class item of a primitive; assertions cannot stand in a class. -/
def toClassItem : Prim → Except Error ClassItem
  | literal s c b => .ok (.literal s c b)
  | perl s k n => .ok (.perl s k n)
  | unicode s n q => .ok (.unicode s n q)
  | p => .error { kind := .classEscapeInvalid, span := p.span }

/-- The literal of a range's end; anything else is refused. -/
def toRangeEnd : Prim → Except Error (Char × Option Nat)
  | literal _ c b => .ok (c, b)
  | p => .error { kind := .classRangeLiteral, span := p.span }

end Prim

/-- Characters that have a meaning of their own and may always be escaped. -/
def isMeta (c : Char) : Bool :=
  "\\.+*?()|[]{}^$#&-~".toList.contains c

/-- Characters that may be escaped to stand for themselves. -/
def isEscapable (c : Char) : Bool :=
  isMeta c || (c.toNat < 128 && !c.isAlphanum && c != '<' && c != '>')

def isHexDigit (c : Char) : Bool :=
  c.isDigit || ('a' ≤ c && c ≤ 'f') || ('A' ≤ c && c ≤ 'F')

/-- Whether a character may stand in a capture name, at its start or later. -/
def isNameChar (c : Char) (first : Bool) : Bool :=
  if first then c = '_' || Text.alphabeticChars.has c
  else c = '_' || c = '.' || c = '[' || c = ']' || Text.alphanumericChars.has c

/-- The character with a code point, if it is a Unicode scalar value. -/
def scalar? (n : Nat) : Option Char :=
  if n.isValidChar then some (Char.ofNat n) else none

/-- The value of hexadecimal digits. -/
def hexDigitsValue (cs : List Char) : Nat :=
  cs.foldl (fun n c =>
    16 * n + (if c.isDigit then c.toNat - 48
      else if 'a' ≤ c && c ≤ 'f' then c.toNat - 87 else c.toNat - 55)) 0

/-- Reads a decimal count, skipping blanks around it; the failure is returned, not
raised, because a caller decides later whether it matters. -/
def readDecimal : ReadM (Except Error Nat) := do
  let rec skipBlank : Nat → ReadM Unit
    | 0 => pure ()
    | n + 1 => do
      if (← atEnd) || !Text.isBlank (← char) then return
      discard bump
      skipBlank n
  let rec digits : Nat → List Char → ReadM (List Char)
    | 0, acc => return acc.reverse
    | n + 1, acc => do
      if (← atEnd) || !(← char).isDigit then return acc.reverse
      let ch ← char
      discard bumpAndSkip
      digits n (ch :: acc)
  let rec skipBlank2 : Nat → ReadM Unit
    | 0 => pure ()
    | n + 1 => do
      if (← atEnd) || !Text.isBlank (← char) then return
      discard bumpAndSkip
      skipBlank2 n
  skipBlank (← fuel)
  let start ← pos
  let ds ← digits (← fuel) []
  let sp : Span := ⟨start, ← pos⟩
  skipBlank2 (← fuel)
  if ds.isEmpty then return .error { kind := .decimalEmpty, span := sp }
  let v := ds.foldl (fun n c => 10 * n + (c.toNat - 48)) 0
  if v < Nat.pow 2 32 then return .ok v
  return .error { kind := .decimalInvalid, span := sp }

/-- A count's failure, reported as a failure of the count. -/
def forCount (r : Except Error Nat) : Except Error Nat :=
  match r with
  | .error e => if e.kind = .decimalEmpty then .error { e with kind := .repetitionCountDecimalEmpty }
    else .error e
  | ok => ok

def liftExcept {α : Type} (r : Except Error α) : ReadM α :=
  match r with
  | .ok a => pure a
  | .error e => throw e

/-- Reads `\x`, `\u` or `\U` with a fixed number of digits. -/
def readHexDigits (count : Nat) (isByte : Bool) : ReadM Prim := do
  let start ← pos
  let rec go : Nat → Nat → List Char → ReadM (List Char)
    | 0, _, acc => return acc.reverse
    | k + 1, i, acc => do
      if i > 0 then
        if !(← bumpAndSkip) then fail .escapeUnexpectedEof (← here)
      let ch ← char
      if !isHexDigit ch then fail .escapeHexInvalidDigit (← charSpan)
      go k (i + 1) (ch :: acc)
  let ds ← go count 0 []
  discard bumpAndSkip
  let stop ← pos
  let v := hexDigitsValue ds
  match scalar? v with
  | some c => return .literal ⟨start, stop⟩ c (if isByte then some v else none)
  | none => fail .escapeHexInvalid ⟨start, stop⟩

/-- Reads the braced form of a hexadecimal escape. -/
def readHexBrace : ReadM Prim := do
  let bracePos ← pos
  let start := bracePos + 1
  let rec go : Nat → List Char → ReadM (List Char)
    | 0, acc => return acc.reverse
    | n + 1, acc => do
      if !(← bumpAndSkip) then return acc.reverse
      let ch ← char
      if ch = '}' then return acc.reverse
      if !isHexDigit ch then fail .escapeHexInvalidDigit (← charSpan)
      go n (ch :: acc)
  let ds ← go (← fuel) []
  if ← atEnd then fail .escapeUnexpectedEof ⟨bracePos, ← pos⟩
  let stop ← pos
  discard bumpAndSkip
  if ds.isEmpty then fail .escapeHexEmpty ⟨bracePos, ← pos⟩
  let v := hexDigitsValue ds
  match (if v < Nat.pow 2 32 then scalar? v else none) with
  | some c => return .literal ⟨start, ← pos⟩ c none
  | none => fail .escapeHexInvalid ⟨start, stop⟩

def readHex : ReadM Prim := do
  let kind ← char
  if !(← bumpAndSkip) then fail .escapeUnexpectedEof (← here)
  if (← char) = '{' then readHexBrace
  else readHexDigits (if kind = 'x' then 2 else if kind = 'u' then 4 else 8) (kind = 'x')

/-- Splits a property query at `!=`, or else at the first `:` or `=`. -/
def splitQuery (name : String) : UnicodeQuery :=
  let cs := name.toList
  let rec findNe : Nat → List Char → Option Nat
    | _, [] => none
    | i, '!' :: '=' :: _ => some i
    | i, _ :: rest => findNe (i + 1) rest
  match findNe 0 cs with
  | some i => .namedValue (String.ofList (cs.take i)) (String.ofList (cs.drop (i + 2))) true
  | none =>
    match cs.findIdx? (fun c => c = ':' || c = '=') with
    | some i => .namedValue (String.ofList (cs.take i)) (String.ofList (cs.drop (i + 1))) false
    | none => .named name

/-- Reads `\p` or `\P` and the property it names. -/
def readUnicodeClass : ReadM Prim := do
  let negated := (← char) = 'P'
  if !(← bumpAndSkip) then fail .escapeUnexpectedEof (← here)
  if (← char) = '{' then
    let start := (← pos) + 1
    let rec go : Nat → List Char → ReadM (List Char)
      | 0, acc => return acc.reverse
      | n + 1, acc => do
        if !(← bumpAndSkip) then return acc.reverse
        let ch ← char
        if ch = '}' then return acc.reverse
        go n (ch :: acc)
    let name ← go (← fuel) []
    if ← atEnd then fail .escapeUnexpectedEof (← here)
    discard bump
    return .unicode ⟨start, ← pos⟩ negated (splitQuery (String.ofList name))
  else
    let start ← pos
    let c ← char
    if c = '\\' then fail .unicodeClassInvalid (← charSpan)
    discard bumpAndSkip
    return .unicode ⟨start, ← pos⟩ negated (.oneLetter c)

/-- Reads the braces after `\b`: a special word boundary, or nothing if what follows
cannot be one (it is then read as a counted repetition). -/
def readSpecialBoundary (wbStart : Nat) : ReadM (Option AssertionKind) := do
  let isValid (c : Char) : Bool := c.isAlpha || c = '-'
  let start ← pos
  if !(← bumpAndSkip) then fail .specialWordOrRepetitionUnexpectedEof ⟨wbStart, ← pos⟩
  let startContents ← pos
  if !isValid (← char) then
    setPos start
    return none
  let rec go : Nat → List Char → ReadM (List Char)
    | 0, acc => return acc.reverse
    | n + 1, acc => do
      if (← atEnd) || !isValid (← char) then return acc.reverse
      let ch ← char
      discard bumpAndSkip
      go n (ch :: acc)
  let name ← go (← fuel) []
  if (← atEnd) || (← char) ≠ '}' then fail .specialWordBoundaryUnclosed ⟨start, ← pos⟩
  let stop ← pos
  discard bump
  match String.ofList name with
  | "start" => return some .wordStart
  | "end" => return some .wordEnd
  | "start-half" => return some .wordStartHalf
  | "end-half" => return some .wordEndHalf
  | _ => fail .specialWordBoundaryUnrecognized ⟨startContents, stop⟩

/-- Reads an escape, starting at its backslash. -/
def readEscape : ReadM Prim := do
  let start ← pos
  if !(← bump) then fail .escapeUnexpectedEof ⟨start, ← pos⟩
  let c ← char
  if c.isDigit then fail .unsupportedBackreference ⟨start, (← pos) + 1⟩
  if c = 'x' || c = 'u' || c = 'U' then return (← readHex).withStart start
  if c = 'p' || c = 'P' then return (← readUnicodeClass).withStart start
  if "dswDSW".toList.contains c then
    let sp ← charSpan
    discard bump
    let k : PerlClass := if c = 'd' || c = 'D' then .digit else if c = 's' || c = 'S' then .space
      else .word
    return .perl ⟨start, sp.stop⟩ k c.isUpper
  discard bump
  let sp : Span := ⟨start, ← pos⟩
  if isEscapable c then return .literal sp c none
  match c with
  | 'a' => return .literal sp '\x07' none
  | 'f' => return .literal sp '\x0c' none
  | 't' => return .literal sp '\t' none
  | 'n' => return .literal sp '\n' none
  | 'r' => return .literal sp '\r' none
  | 'v' => return .literal sp '\x0b' none
  | 'A' => return .assertion sp .startText
  | 'z' => return .assertion sp .endText
  | 'b' =>
    if !(← atEnd) && (← char) = '{' then
      match ← readSpecialBoundary start with
      | some k => return .assertion ⟨start, ← pos⟩ k
      | none => return .assertion sp .wordBoundary
    return .assertion sp .wordBoundary
  | 'B' => return .assertion sp .notWordBoundary
  | '<' => return .assertion sp .wordStart
  | '>' => return .assertion sp .wordEnd
  | _ => fail .escapeUnrecognized sp

/-- Reads one construct outside a class: an escape, `.`, `^`, `$` or a literal. -/
def readPrimitive : ReadM Prim := do
  let c ← char
  if c = '\\' then return ← readEscape
  let sp ← charSpan
  discard bump
  match c with
  | '.' => return .dot sp
  | '^' => return .assertion sp .startLine
  | '$' => return .assertion sp .endLine
  | _ => return .literal sp c none

/-! ### Bracketed classes -/

/-- What an open bracket waits for. -/
inductive ClassFrame where
  /-- An open bracket; `items` are the enclosing bracket's items so far, which began at
  `itemsStart`. -/
  | opened (items : List ClassItem) (itemsStart : Nat) (negated : Bool) (span : Span)
  /-- A set operation whose right side is being read. -/
  | op (k : ClassOp) (lhs : ClassSet)

/-- The failure for a class that is never closed: at the innermost open bracket. -/
def unclosedClass (stack : List ClassFrame) : Error :=
  match stack.find? (fun f => match f with | .opened .. => true | _ => false) with
  | some (.opened _ _ _ sp) => { kind := .classUnclosed, span := sp }
  | _ => { kind := .classUnclosed, span := ⟨0, 0⟩ }

/-- Reads a named ASCII class such as `[:alpha:]`; on anything else, moves back. -/
def readAsciiClass : ReadM (Option ClassItem) := do
  let start ← pos
  let back : ReadM (Option ClassItem) := do setPos start; return none
  if !(← bump) || (← char) ≠ ':' then return ← back
  if !(← bump) then return ← back
  let mut negated := false
  if (← char) = '^' then
    negated := true
    if !(← bump) then return ← back
  let nameStart ← pos
  let rec go : Nat → ReadM Unit
    | 0 => pure ()
    | n + 1 => do
      if (← char) = ':' then return
      if !(← bump) then return
      go n
  go (← fuel)
  if ← atEnd then return ← back
  let name ← slice nameStart (← pos)
  if !(← bumpIf ":]") then return ← back
  let k? : Option AsciiClass := match name with
    | "alnum" => some .alnum | "alpha" => some .alpha | "ascii" => some .ascii
    | "blank" => some .blank | "cntrl" => some .cntrl | "digit" => some .digit
    | "graph" => some .graph | "lower" => some .lower | "print" => some .print
    | "punct" => some .punct | "space" => some .space | "upper" => some .upper
    | "word" => some .word | "xdigit" => some .xdigit | _ => none
  match k? with
  | some k => return some (.ascii ⟨start, ← pos⟩ k negated)
  | none => back

/-- Reads the opening of a bracket: `[`, an optional `^`, and leading `-` or `]` that
stand for themselves; also tells where its items begin. -/
def readClassOpen : ReadM (Bool × Span × List ClassItem × Nat) := do
  let start ← pos
  if !(← bumpAndSkip) then fail .classUnclosed ⟨start, ← pos⟩
  let mut negated := false
  if (← char) = '^' then
    if !(← bumpAndSkip) then fail .classUnclosed ⟨start, ← pos⟩
    negated := true
  let itemsStart ← pos
  let rec dashes : Nat → List ClassItem → ReadM (List ClassItem)
    | 0, acc => return acc
    | n + 1, acc => do
      if (← char) ≠ '-' then return acc
      let sp ← charSpan
      if !(← bumpAndSkip) then fail .classUnclosed ⟨start, start⟩
      dashes n (.literal sp '-' none :: acc)
  let mut items ← dashes (← fuel) []
  if items.isEmpty && (← char) = ']' then
    items := [.literal (← charSpan) ']' none]
    if !(← bumpAndSkip) then fail .classUnclosed ⟨start, ← pos⟩
  return (negated, ⟨start, ← pos⟩, items, itemsStart)

/-- Reads one item of a class: an escape or a single character. -/
def readClassPrim : ReadM Prim := do
  if (← char) = '\\' then readEscape
  else
    let sp ← charSpan
    let c ← char
    discard bump
    return .literal sp c none

/-- Reads an item of a class, or a range `a-z` between two literals. -/
def readClassRange (stack : List ClassFrame) : ReadM ClassItem := do
  let p1 ← readClassPrim
  skipSpace
  if ← atEnd then throw (unclosedClass stack)
  let next ← peekSkip
  if (← char) ≠ '-' || next = some ']' || next = some '-' then
    return ← liftExcept p1.toClassItem
  if !(← bumpAndSkip) then throw (unclosedClass stack)
  let p2 ← readClassPrim
  let (lo, loByte) ← liftExcept p1.toRangeEnd
  let (hi, hiByte) ← liftExcept p2.toRangeEnd
  let sp : Span := ⟨p1.span.start, p2.span.stop⟩
  if hi < lo then fail .classRangeInvalid sp
  return .range sp lo hi loByte hiByte

/-- Joins a finished right side to a pending operation, if one is waiting. -/
def closeOp (stack : List ClassFrame) (rhs : ClassSet) : List ClassFrame × ClassSet :=
  match stack with
  | .op k lhs :: rest => (rest, .op ⟨lhs.span.start, rhs.span.stop⟩ k lhs rhs)
  | _ => (stack, rhs)

/-- The items read so far, last item first, as class contents that began at `start`. -/
def itemsOf (start : Nat) (items : List ClassItem) : ClassSet :=
  match items.getLast?, items.head? with
  | some first, some last => .items ⟨first.span.start, last.span.stop⟩ items.reverse
  | _, _ => .items ⟨start, start⟩ []

/-- Reads a bracketed class, starting at its `[`. -/
def readClass : ReadM Ast := do
  let rec go : Nat → List ClassFrame → List ClassItem → Nat → ReadM Ast
    | 0, stack, _, _ => throw (unclosedClass stack)
    | n + 1, stack, items, start => do
      skipSpace
      if ← atEnd then throw (unclosedClass stack)
      let c ← char
      let nxt ← peek
      if c = '[' then
        if !stack.isEmpty then
          if let some a ← readAsciiClass then
            return ← go n stack (a :: items) start
        let (neg, sp, inner, innerStart) ← readClassOpen
        go n (.opened items start neg sp :: stack) inner innerStart
      else if c = ']' then
        let (stack', set) := closeOp stack (itemsOf start items)
        match stack' with
        | .opened outer outerStart neg sp :: rest =>
          discard bump
          let sp' : Span := ⟨sp.start, ← pos⟩
          if rest.isEmpty then return .bracketed sp' neg set
          go n rest (.bracketed sp' neg set :: outer) outerStart
        | _ => throw (unclosedClass stack)
      else if (c = '&' && nxt = some '&') || (c = '-' && nxt = some '-') ||
          (c = '~' && nxt = some '~') then
        discard bump
        discard bump
        let k : ClassOp := if c = '&' then .intersection else if c = '-' then .difference
          else .symmetricDifference
        let (stack', lhs) := closeOp stack (itemsOf start items)
        go n (.op k lhs :: stack') [] (← pos)
      else
        let item ← readClassRange stack
        go n stack (item :: items) start
  go (← fuel) [] [] 0

/-! ### Groups, alternations and repetitions -/

/-- What an open group waits for. -/
inductive GroupFrame where
  /-- An open group; `prior` is the enclosing sequence so far, last item first, which
  began at `priorStart`. -/
  | opened (prior : List Ast) (priorStart : Nat) (k : GroupKind) (span : Span) (ignoreSpace : Bool)
  /-- Branches of an alternation read so far, and where the alternation began. -/
  | branches (bs : List Ast) (start : Nat)

/-- A sequence from its items, last item first, spanning `sp`. -/
def seqOf (sp : Span) (items : List Ast) : Ast :=
  match items.reverse with
  | [] => .empty
  | [a] => a
  | as => .concat sp as

/-- An alternation from its branches, spanning `sp`. -/
def altOf (sp : Span) (bs : List Ast) : Ast :=
  match bs with
  | [] => .empty
  | [a] => a
  | bs => .alternation sp bs

/-- Whether a list of flag items turns the `x` flag on or off. -/
def ignoreSpaceState (items : List FlagItem) : Option Bool :=
  let rec go (neg : Bool) : List FlagItem → Option Bool
    | [] => none
    | .negation :: rest => go true rest
    | .flag .ignoreSpace :: _ => some !neg
    | .flag _ :: rest => go neg rest
  go false items

/-- Reads the flags of a group, up to its `:` or `)`. -/
def readFlags : ReadM (List FlagItem) := do
  let rec go : Nat → List (FlagItem × Span) → Option Span → ReadM (List FlagItem)
    | 0, items, _ => return items.reverse.map Prod.fst
    | n + 1, items, lastNeg => do
      let c ← char
      if c = ':' || c = ')' then
        if let some sp := lastNeg then fail .flagDanglingNegation sp
        return items.reverse.map Prod.fst
      let sp ← charSpan
      let item : FlagItem ← if c = '-' then pure .negation else
        match c with
        | 'i' => pure (.flag .caseInsensitive)
        | 'm' => pure (.flag .multiLine)
        | 's' => pure (.flag .dotAll)
        | 'U' => pure (.flag .swapGreed)
        | 'u' => pure (.flag .unicode)
        | 'R' => pure (.flag .crlf)
        | 'x' => pure (.flag .ignoreSpace)
        | _ => fail .flagUnrecognized sp
      if let some (_, first) := items.find? (·.1 = item) then
        fail (if c = '-' then .flagRepeatedNegation else .flagDuplicate) sp (some first)
      if !(← bump) then fail .flagUnexpectedEof (← here)
      go n ((item, sp) :: items) (if c = '-' then some sp else none)
  go (← fuel) [] none

/-- Reads a capture name up to its `>`, and records it. -/
def readCaptureName : ReadM String := do
  if ← atEnd then fail .groupNameUnexpectedEof (← here)
  let start ← pos
  let rec go : Nat → ReadM Unit
    | 0 => pure ()
    | n + 1 => do
      let c ← char
      if c = '>' then return
      if !isNameChar c ((← pos) = start) then fail .groupNameInvalid (← charSpan)
      if !(← bump) then return
      go n
  go (← fuel)
  let stop ← pos
  if ← atEnd then fail .groupNameUnexpectedEof (← here)
  discard bump
  let name ← slice start stop
  if name.isEmpty then fail .groupNameEmpty ⟨start, start⟩
  let sp : Span := ⟨start, stop⟩
  if let some (_, first) := (← get).names.find? (·.1 = name) then
    fail .groupNameDuplicate sp (some first)
  modify fun c => { c with names := c.names ++ [(name, sp)] }
  return name

/-- Reads the opening of a group: either a flag group such as `(?i)`, which is the
whole construct, or the opening of a group whose contents follow. -/
def readGroupOpen : ReadM (Sum (List FlagItem) (GroupKind × Span)) := do
  let openSpan ← charSpan
  discard bump
  skipSpace
  if ← bumpIfAny ["?=", "?!", "?<=", "?<!"] then
    fail .unsupportedLookAround ⟨openSpan.start, ← pos⟩
  let inner ← here
  if ← bumpIfAny ["?P<", "?<"] then
    let name ← readCaptureName
    return .inr (.named name, openSpan)
  if ← bumpIf "?" then
    if ← atEnd then fail .groupUnclosed inner
    let flags ← readFlags
    let close ← char
    discard bump
    if close = ')' then
      if flags.isEmpty then fail .repetitionMissing inner
      return .inl flags
    return .inr (.nonCapturing flags, openSpan)
  return .inr (.capture, openSpan)

/-- Whether the last item of a sequence can be repeated. -/
def repeatable : List Ast → Option (Ast × List Ast)
  | [] => none
  | .setFlags _ :: _ => none
  | .empty :: _ => none
  | a :: rest => some (a, rest)

/-- Reads `{n}`, `{n,}` or `{n,m}` after the last item of a sequence. -/
def readCounted (items : List Ast) : ReadM (List Ast) := do
  let start ← pos
  let some (a, rest) := repeatable items | fail .repetitionMissing (← here)
  if !(← bumpAndSkip) then fail .repetitionCountUnclosed ⟨start, ← pos⟩
  let first := forCount (← readDecimal)
  if ← atEnd then fail .repetitionCountUnclosed ⟨start, ← pos⟩
  let (lo, hi) ← if (← char) = ',' then do
      if !(← bumpAndSkip) then fail .repetitionCountUnclosed ⟨start, ← pos⟩
      if (← char) ≠ '}' then
        let lo ← liftExcept first
        let hi ← liftExcept (forCount (← readDecimal))
        pure (lo, some hi)
      else pure (← liftExcept first, none)
    else
      let n ← liftExcept first
      pure (n, some n)
  if (← atEnd) || (← char) ≠ '}' then fail .repetitionCountUnclosed ⟨start, ← pos⟩
  let mut greedy := true
  if (← bumpAndSkip) && (← char) = '?' then
    greedy := false
    discard bumpAndSkip
  if let some h := hi then
    if h < lo then fail .repetitionCountInvalid ⟨start, ← pos⟩
  return .repetition ⟨a.span.start, ← pos⟩ lo hi greedy a :: rest

/-- Reads `?`, `*` or `+` after the last item of a sequence. -/
def readUncounted (items : List Ast) : ReadM (List Ast) := do
  let op ← char
  let some (a, rest) := repeatable items | fail .repetitionMissing (← here)
  let mut greedy := true
  if (← bump) && (← char) = '?' then
    greedy := false
    discard bump
  let (lo, hi) : Nat × Option Nat :=
    if op = '?' then (0, some 1) else if op = '*' then (0, none) else (1, none)
  return .repetition ⟨a.span.start, ← pos⟩ lo hi greedy a :: rest

/-- Closes the innermost group at a `)`, whose sequence began at `start`; gives the
enclosing sequence and where it began. -/
def closeGroup (stack : List GroupFrame) (items : List Ast) (start : Nat) :
    ReadM (List GroupFrame × List Ast × Nat) := do
  let stop ← pos
  let (frame, bs, rest) ← match stack with
    | .opened prior ps k sp ign :: rest => pure ((prior, ps, k, sp, ign), none, rest)
    | .branches bs s :: .opened prior ps k sp ign :: rest =>
      pure ((prior, ps, k, sp, ign), some (bs, s), rest)
    | _ => fail .groupUnopened (← charSpan)
  let (prior, ps, k, sp, ign) := frame
  modify fun c => { c with ignoreSpace := ign }
  discard bump
  let inner := match bs with
    | some (bs, s) => altOf ⟨s, stop⟩ (bs ++ [seqOf ⟨start, stop⟩ items])
    | none => seqOf ⟨start, stop⟩ items
  return (rest, .group ⟨sp.start, ← pos⟩ k inner :: prior, ps)

/-- Finishes the pattern at `stop`, the last sequence having begun at `start`: every
group must be closed. -/
def finish (stack : List GroupFrame) (items : List Ast) (start stop : Nat) : Except Error Ast :=
  match stack with
  | [] => .ok (seqOf ⟨start, stop⟩ items)
  | [.branches bs s] => .ok (altOf ⟨s, stop⟩ (bs ++ [seqOf ⟨start, stop⟩ items]))
  | .branches _ _ :: .opened _ _ _ sp _ :: _ => .error { kind := .groupUnclosed, span := sp }
  | .opened _ _ _ sp _ :: _ => .error { kind := .groupUnclosed, span := sp }
  | _ => .error { kind := .groupUnclosed, span := ⟨0, 0⟩ }

/-- Reads a whole pattern. -/
def readAll : ReadM Ast := do
  let rec go : Nat → List GroupFrame → List Ast → Nat → ReadM Ast
    | 0, stack, items, start => do liftExcept (finish stack items start (← pos))
    | n + 1, stack, items, start => do
      skipSpace
      if ← atEnd then return ← liftExcept (finish stack items start (← pos))
      let c ← char
      if c = '(' then
        match ← readGroupOpen with
        | .inl flags =>
          if let some v := ignoreSpaceState flags then
            modify fun cur => { cur with ignoreSpace := v }
          go n stack (.setFlags flags :: items) start
        | .inr (k, sp) =>
          let old := (← get).ignoreSpace
          let new := match k with
            | .nonCapturing flags => (ignoreSpaceState flags).getD old
            | _ => old
          modify fun cur => { cur with ignoreSpace := new }
          go n (.opened items start k sp old :: stack) [] (← pos)
      else if c = ')' then
        let (stack', items', start') ← closeGroup stack items start
        go n stack' items' start'
      else if c = '|' then
        let stop ← pos
        discard bump
        let stack' := match stack with
          | .branches bs s :: rest => .branches (bs ++ [seqOf ⟨start, stop⟩ items]) s :: rest
          | _ => .branches [seqOf ⟨start, stop⟩ items] start :: stack
        go n stack' [] (← pos)
      else if c = '[' then
        let cls ← readClass
        go n stack (cls :: items) start
      else if c = '?' || c = '*' || c = '+' then
        go n stack (← readUncounted items) start
      else if c = '{' then
        go n stack (← readCounted items) start
      else
        let p ← readPrimitive
        go n stack (p.toAst :: items) start
  go (← fuel) [] [] 0

/-- Reads a pattern's text into its syntax tree. -/
def read (text : String) : Except Error Ast :=
  (readAll.run { text := text.toList.toArray }).map Prod.fst

end LaunchBench.Pattern
