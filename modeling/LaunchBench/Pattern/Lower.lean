import LaunchBench.Pattern.Node
import LaunchBench.Pattern.Property
import LaunchBench.Pattern.Syntax
/-!
Lowering a syntax tree into its matchable form.

Lowering walks the tree in the order it was written and keeps the current
flags: a flag group changes them for the rest of the enclosing group, and
every group restores, at its end, the flags it started with. Capture groups
are numbered in the order they open.

Classes are sets of characters while Unicode is on and sets of bytes while
it is off. A bracketed or named class is first folded, when case is ignored,
and then negated: `(?i)[^x]` leaves out both cases of `x`. The backslash
classes are already closed under folding and are only negated. With Unicode
off, text must still be read as UTF-8, so a class of bytes must stay within
ASCII: one that reaches past it, a negated word boundary, `.` and a byte
escape above `7F` are refused; a character outside ASCII that is written
plainly still matches itself.
-/

namespace LaunchBench.Pattern

/-- The flags in effect while lowering. -/
structure Flags where
  caseInsensitive : Bool := false
  multiLine : Bool := false
  dotAll : Bool := false
  swapGreed : Bool := false
  unicode : Bool := true
  crlf : Bool := false
  deriving DecidableEq, Repr

namespace Flags

/-- Sets one flag. -/
def set (f : Flags) (flag : Flag) (v : Bool) : Flags :=
  match flag with
  | .caseInsensitive => { f with caseInsensitive := v }
  | .multiLine => { f with multiLine := v }
  | .dotAll => { f with dotAll := v }
  | .swapGreed => { f with swapGreed := v }
  | .unicode => { f with unicode := v }
  | .crlf => { f with crlf := v }
  | .ignoreSpace => f

/-- Applies flag items: flags before a `-` are turned on, flags after it off. -/
def apply (f : Flags) (items : List FlagItem) : Flags :=
  (items.foldl (fun (acc : Flags × Bool) item =>
    match item with
    | .negation => (acc.1, false)
    | .flag fl => (acc.1.set fl acc.2, acc.2)) (f, true)).1

end Flags

/-- What lowering keeps track of: the flags, and the number of capture groups so far. -/
structure LowerState where
  flags : Flags := {}
  captures : Nat := 0

/-- Lowering steps: they read and change the state, and may fail. -/
abbrev LowerM := StateT LowerState (Except Error)

def lowerFail {α : Type} (k : ErrorKind) (sp : Span) : LowerM α :=
  throw { kind := k, span := sp }

/-- The flags in effect. -/
def currentFlags : LowerM Flags := return (← get).flags

/-- The ASCII characters of a named ASCII class, as ranges. -/
def asciiRanges : AsciiClass → List (Nat × Nat)
  | .alnum => [(48, 57), (65, 90), (97, 122)]
  | .alpha => [(65, 90), (97, 122)]
  | .ascii => [(0, 127)]
  | .blank => [(9, 9), (32, 32)]
  | .cntrl => [(0, 31), (127, 127)]
  | .digit => [(48, 57)]
  | .graph => [(33, 126)]
  | .lower => [(97, 122)]
  | .print => [(32, 126)]
  | .punct => [(33, 47), (58, 64), (91, 96), (123, 126)]
  | .space => [(9, 13), (32, 32)]
  | .upper => [(65, 90)]
  | .word => [(48, 57), (65, 90), (95, 95), (97, 122)]
  | .xdigit => [(48, 57), (65, 70), (97, 102)]

/-- Folds a class when case is ignored: by Unicode simple case folding, or with Unicode
off by the case of ASCII letters. -/
def foldIf (f : Flags) (c : CharClass) : CharClass :=
  if !f.caseInsensitive then c
  else if f.unicode then c.foldCase else c.foldAsciiCase

/-- Folds a class when case is ignored, then negates it if asked. A class of bytes must
stay within ASCII. -/
def foldNegate (f : Flags) (sp : Span) (negated : Bool) (c : CharClass) : LowerM CharClass := do
  let c := foldIf f c
  if f.unicode then return if negated then c.negate else c
  let c := if negated then c.negateBytes else c
  if !c.isAscii then lowerFail .invalidUtf8 sp
  return c

/-- The characters of a backslash class, negated if asked; with Unicode off they are
ASCII and must stay so. -/
def perlClass (f : Flags) (sp : Span) (k : PerlClass) (negated : Bool) : LowerM CharClass := do
  if f.unicode then
    let c := match k with
      | .digit => decimalDigits
      | .space => whiteSpace
      | .word => CharClass.ofTable Unicode.wordTable
    return if negated then c.negate else c
  let c := CharClass.ofRanges (asciiRanges (match k with
    | .digit => .digit
    | .space => .space
    | .word => .word))
  let c := if negated then c.negateBytes else c
  if !c.isAscii then lowerFail .invalidUtf8 sp
  return c

/-- The characters of a named Unicode class, folded and then negated; only with
Unicode on. -/
def unicodeClass (f : Flags) (sp : Span) (negated : Bool) (q : UnicodeQuery) :
    LowerM CharClass := do
  if !f.unicode then lowerFail .unicodeNotAllowed sp
  match propertyClass q with
  | .ok (c, extra) => foldNegate f sp (negated != extra) c
  | .error k => lowerFail k sp

/-- The code point of a class literal with Unicode off: an ASCII character, or a byte
escape below `80`. -/
def classByte (sp : Span) (c : Char) (byte : Option Nat) : LowerM Nat :=
  match byte with
  | some b => if b ≤ 0x7F then pure b else lowerFail .invalidUtf8 sp
  | none => if c.toNat ≤ 0x7F then pure c.toNat else lowerFail .unicodeNotAllowed sp

/-- The code point of a class literal under the current flags. -/
def classPoint (f : Flags) (sp : Span) (c : Char) (byte : Option Nat) : LowerM Nat :=
  if f.unicode then pure c.toNat else classByte sp c byte

mutual
/-- The characters of a class item. -/
def itemClass (f : Flags) : ClassItem → LowerM CharClass
  | .literal sp c b => do return CharClass.single (← classPoint f sp c b)
  | .range sp lo hi lb hb => do
    let a ← classPoint f sp lo lb
    let b ← classPoint f sp hi hb
    return CharClass.ofRange a b
  | .ascii sp k neg => foldNegate f sp neg (CharClass.ofRanges (asciiRanges k))
  | .unicode sp neg q => unicodeClass f sp neg q
  | .perl sp k neg => perlClass f sp k neg
  | .bracketed sp neg inner => do foldNegate f sp neg (← setClass f inner)

/-- The union of the characters of class items. -/
def itemsClass (f : Flags) : List ClassItem → LowerM CharClass
  | [] => return CharClass.empty
  | x :: xs => do
    let a ← itemClass f x
    let b ← itemsClass f xs
    return a.union b

/-- The characters of the contents of a bracket, before its own folding and negation.
Both sides of a set operation are folded first when case is ignored. -/
def setClass (f : Flags) : ClassSet → LowerM CharClass
  | .items _ xs => itemsClass f xs
  | .op _ k lhs rhs => do
    let a := foldIf f (← setClass f lhs)
    let b := foldIf f (← setClass f rhs)
    return match k with
      | .intersection => a.inter b
      | .difference => a.diff b
      | .symmetricDifference => a.symmDiff b
end

/-- The assertion a written assertion stands for under the current flags. -/
def lookOf (f : Flags) : AssertionKind → Look
  | .startLine => if f.multiLine then (if f.crlf then .startCRLF else .startLF) else .start
  | .endLine => if f.multiLine then (if f.crlf then .endCRLF else .endLF) else .finish
  | .startText => .start
  | .endText => .finish
  | .wordBoundary => if f.unicode then .wordUnicode else .wordAscii
  | .notWordBoundary => if f.unicode then .notWordUnicode else .notWordAscii
  | .wordStart => if f.unicode then .wordStartUnicode else .wordStartAscii
  | .wordEnd => if f.unicode then .wordEndUnicode else .wordEndAscii
  | .wordStartHalf => if f.unicode then .wordStartHalfUnicode else .wordStartHalfAscii
  | .wordEndHalf => if f.unicode then .wordEndHalfUnicode else .wordEndHalfAscii

/-- The node of a literal character under the current flags. With case ignored it becomes
the class of its cases, if it has other cases. -/
def literalNode (f : Flags) (sp : Span) (c : Char) (byte : Option Nat) : LowerM Node := do
  if !f.unicode then
    if let some b := byte then
      if 0x7F < b then lowerFail .invalidUtf8 sp
  if !f.caseInsensitive then return .literal [c]
  if f.unicode then
    let folded := (CharClass.single c.toNat).foldCase
    return if folded.singleton?.isSome then .literal [c] else Node.ofClass folded false
  if c.toNat < 128 && c.isAlpha then
    return Node.ofClass (CharClass.single c.toNat).foldAsciiCase true
  return .literal [c]

/-- Any character but the line endings that `.` leaves out under the current flags. -/
def dotClass (f : Flags) : CharClass :=
  if f.dotAll then CharClass.scalars
  else if f.crlf then CharClass.scalars.diff (CharClass.ofRanges [(10, 10), (13, 13)])
  else CharClass.scalars.diff (CharClass.single 10)

mutual
/-- Lowers a syntax tree under the current flags. -/
def lowerAst : Ast → LowerM Node
  | .empty => return .empty
  | .setFlags items => do
    modify fun s => { s with flags := s.flags.apply items }
    return .empty
  | .literal sp c b => do literalNode (← currentFlags) sp c b
  | .dot sp => do
    let f ← currentFlags
    if !f.unicode then lowerFail .invalidUtf8 sp
    return Node.ofClass (dotClass f) false
  | .assertion sp k => do
    let f ← currentFlags
    if k = .notWordBoundary && !f.unicode then lowerFail .invalidUtf8 sp
    return .look (lookOf f k)
  | .perl sp k neg => do
    let f ← currentFlags
    return Node.ofClass (← perlClass f sp k neg) (!f.unicode)
  | .unicode sp neg q => do
    let f ← currentFlags
    return Node.ofClass (← unicodeClass f sp neg q) false
  | .bracketed sp neg s => do
    let f ← currentFlags
    let c ← foldNegate f sp neg (← setClass f s)
    return Node.ofClass c (!f.unicode)
  | .repetition _ lo hi greedy a => do
    let f ← currentFlags
    let n ← lowerAst a
    return Node.repOf lo hi (if f.swapGreed then !greedy else greedy) n
  | .group _ k a => do
    let saved ← currentFlags
    let index := (← get).captures + 1
    match k with
    | .nonCapturing items => modify fun s => { s with flags := s.flags.apply items }
    | _ => modify fun s => { s with captures := index }
    let n ← lowerAst a
    modify fun s => { s with flags := saved }
    return match k with
      | .capture => .capture index none n
      | .named name => .capture index (some name) n
      | .nonCapturing _ => n
  | .alternation _ as => do return Node.altOf (← lowerList as)
  | .concat _ as => do return Node.concatOf (← lowerList as)

/-- Lowers the items of a sequence or the branches of an alternative, in order. -/
def lowerList : List Ast → LowerM (List Node)
  | [] => return []
  | a :: as => do
    let n ← lowerAst a
    let ns ← lowerList as
    return n :: ns
end

/-- Lowers a syntax tree with the default flags: Unicode on, all others off. -/
def lower (a : Ast) : Except Error Node :=
  ((lowerAst a).run {}).map Prod.fst

end LaunchBench.Pattern
