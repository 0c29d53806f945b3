import LaunchBench.Toml.Node
import LaunchBench.Toml.Reader
/-!
The grammar of TOML keys and values.

Blanks are spaces and tabs; a line ends with a line feed or a carriage return
and line feed. Keys are bare (letters, digits, `-`, `_`), basic-quoted or
literal-quoted, joined by dots. Values are strings in four quotings, integers
in four bases, floats, booleans, dates and times, arrays and inline tables.

Failures carry the labels and expectations that make TOML error messages:
a string that does not close is an "invalid basic string", an unknown escape
lists the escapes there are, and a value that starts with no known character
is read as a string that lacks its quote. Nesting of arrays and inline tables
stops at a depth of 80, and so does the number of parts of a dotted key.
-/

namespace LaunchBench.Toml

open LaunchBench.Decimal
open Reader

/-- Space and tab. -/
def isBlankChar (c : Char) : Bool := c == ' ' || c == '\t'

/-- Characters allowed in a comment: tab, printable ASCII and all non-ASCII. -/
def isCommentChar (c : Char) : Bool :=
  c == '\t' || (0x20 ≤ c.toNat && c.toNat ≤ 0x7E) || c.toNat ≥ 0x80

/-- Characters a basic string holds without an escape. -/
def isBasicChar (c : Char) : Bool :=
  isBlankChar c || c.toNat == 0x21 || (0x23 ≤ c.toNat && c.toNat ≤ 0x5B) ||
    (0x5D ≤ c.toNat && c.toNat ≤ 0x7E) || c.toNat ≥ 0x80

/-- Characters a literal string holds: all but control characters and the apostrophe. -/
def isLiteralChar (c : Char) : Bool :=
  c == '\t' || (0x20 ≤ c.toNat && c.toNat ≤ 0x26) || (0x28 ≤ c.toNat && c.toNat ≤ 0x7E) ||
    c.toNat ≥ 0x80

/-- Characters of a bare key. -/
def isBareKeyChar (c : Char) : Bool :=
  c.isAlphanum && c.toNat < 0x80 || c == '-' || c == '_'

/-- ASCII decimal digits. -/
def isDecDigit (c : Char) : Bool := '0' ≤ c && c ≤ '9'

/-- ASCII hexadecimal digits. -/
def isHexDigit (c : Char) : Bool :=
  isDecDigit c || ('a' ≤ c && c ≤ 'f') || ('A' ≤ c && c ≤ 'F')

/-- The value of a run of digits in a base. -/
def digitsIn (base : Nat) (ds : List Char) : Nat :=
  ds.foldl (fun n c =>
    let d := if isDecDigit c then c.toNat - '0'.toNat
      else if 'a' ≤ c && c ≤ 'f' then c.toNat - 'a'.toNat + 10
      else c.toNat - 'A'.toNat + 10
    base * n + d) 0

/-- The cause given for a number, date or code point outside its range. -/
def outOfRange : String := "value is out of range"

/-! ### Blanks, comments and line ends -/

/-- Any run of blanks. -/
def blanks : Reader Unit := do
  let _ ← takeWhile isBlankChar 0 none

/-- A line feed, or a carriage return and a line feed. -/
def newline : Reader Unit :=
  (char '\n').orElse (do char '\r'; char '\n')

/-- A comment: `#` and the rest of the line. -/
def comment : Reader Unit := do
  char '#'
  let _ ← takeWhile isCommentChar 0 none

/-- The end of a line or of the text. -/
def lineEnding : Reader Unit := newline.orElse eof

/-- What may follow a definition on its line: blanks, a comment, the line end. -/
def lineTrailing : Reader Unit := do
  blanks
  let _ ← optional comment
  lineEnding

/-- Blanks and line ends. -/
def blankLines : Reader Unit :=
  many (newline.orElse (do let _ ← takeWhile isBlankChar 1 none))

/-- A line end followed by blanks and line ends. -/
def lineBreaks : Reader Unit := do
  newline
  blankLines

/-- Blanks, line ends and whole comments, at most `fuel` of them. -/
def fillerFuel : Nat → Reader Unit
  | 0 => Reader.pure ()
  | n + 1 => do
    blanks
    match ← peekChar with
    | some '#' => comment; newline; fillerFuel n
    | some '\n' | some '\r' => newline; fillerFuel n
    | _ => Reader.pure ()

/-- Blanks, line ends and comments, as found between the items of an array. -/
def filler : Reader Unit := fun c =>
  fillerFuel (c.rest.length + 1) c

/-! ### Strings -/

/-- A code point written as exactly `n` hexadecimal digits. -/
def hexEscape (n : Nat) : Reader Char :=
  (takeWhile isHexDigit 0 (some n)).check fun ds =>
    if ds.length != n then .error none
    else
      let v := digitsIn 16 ds
      if h : v.isValidChar then .ok (Char.ofNatAux v h) else .error (some outOfRange)

/-- The character after a backslash. -/
def escapeCode : Reader Char := do
  match ← any with
  | 'b' => Reader.pure '\x08'
  | 'f' => Reader.pure '\x0c'
  | 'n' => Reader.pure '\n'
  | 'r' => Reader.pure '\r'
  | 't' => Reader.pure '\t'
  | 'u' => (cut (hexEscape 4)).label "unicode 4-digit hex code"
  | 'U' => (cut (hexEscape 8)).label "unicode 8-digit hex code"
  | '\\' => Reader.pure '\\'
  | '"' => Reader.pure '"'
  | _ =>
    ((cut fail).label "escape sequence").expecting
      (['b', 'f', 'n', 'r', 't', 'u', 'U', '\\', '"'].map Expected.char)

/-- A backslash escape. -/
def escaped : Reader Char := do
  char '\\'
  escapeCode

/-- A run of plain characters or one escape of a basic string. -/
def basicPiece : Reader String :=
  (do let cs ← takeWhile isBasicChar 1 none; Reader.pure (String.ofList cs)).orElse
    (do let c ← escaped; Reader.pure (String.singleton c))

/-- A string between double quotes, on one line. -/
def basicString : Reader String := do
  char '"'
  let s ← gather basicPiece
  (cut (char '"')).label "basic string"
  Reader.pure s

/-- A backslash at the end of a line: it and the blanks and line ends after it vanish. -/
def lineContinuation : Reader Unit :=
  many1 (do char '\\'; blanks; lineBreaks)

/-- A piece of a multi-line basic string that is not a quote. -/
def multiBasicPiece : Reader String :=
  firstOf [
    (do let cs ← takeWhile isBasicChar 1 none; Reader.pure (String.ofList cs)),
    (do lineContinuation; Reader.pure ""),
    (do let c ← escaped; Reader.pure (String.singleton c)),
    (do newline; Reader.pure "\n")]

/-- One or two quotes `q` followed by what `term` accepts (not read). -/
def quotesBefore (q : Char) (term : Reader Unit) : Reader String := fun c =>
  match (do char q; char q; peek term) c with
  | .ok (_, c') => .ok (String.ofList [q, q], c')
  | .error f =>
    if f.final then .error f
    else (do char q; peek term; Reader.pure (String.singleton q)) c

/-- A character other than `q`. -/
def noneOf (q : Char) : Reader Unit := do
  let _ ← oneOf (· != q)

/-- Quote runs followed by more pieces, at most `fuel` times. -/
def multiBasicTail : Nat → String → Reader String
  | 0, acc => Reader.pure acc
  | n + 1, acc => do
    match ← optional (quotesBefore '"' (noneOf '"')) with
    | some qs =>
      match ← optional multiBasicPiece with
      | some p =>
        let more ← gather multiBasicPiece
        multiBasicTail n (acc ++ qs ++ p ++ more)
      | none => Reader.pure acc
    | none => Reader.pure acc

/-- The body of a multi-line basic string. -/
def multiBasicBody : Reader String := fun c => (do
  let s ← gather multiBasicPiece
  let s ← multiBasicTail (c.rest.length + 1) s
  match ← optional (quotesBefore '"' (text "\"\"\"")) with
  | some qs => Reader.pure (s ++ qs)
  | none => Reader.pure s) c

/-- A string between three double quotes; a line end right after the opening
quotes is dropped. -/
def multiBasicString : Reader String :=
  (do
    text "\"\"\""
    let _ ← optional newline
    let s ← cut multiBasicBody
    cut (text "\"\"\"")
    Reader.pure s).label "multiline basic string"

/-- A character or line end of a multi-line literal string. -/
def multiLiteralPiece : Reader Unit :=
  (do let _ ← oneOf isLiteralChar).orElse newline

/-- Replaces every carriage return and line feed pair with a line feed. -/
def unifyLineEnds : List Char → List Char
  | '\r' :: '\n' :: rest => '\n' :: unifyLineEnds rest
  | c :: rest => c :: unifyLineEnds rest
  | [] => []

/-- The body of a multi-line literal string, as written. -/
def multiLiteralBody : Reader (List Char) :=
  recognize (do
    many multiLiteralPiece
    many (do let _ ← quotesBefore '\'' (noneOf '\''); many1 multiLiteralPiece)
    let _ ← optional (quotesBefore '\'' (text "'''")))

/-- A string between three apostrophes, taken as written. -/
def multiLiteralString : Reader String :=
  (do
    text "'''"
    let _ ← optional newline
    let cs ← cut multiLiteralBody
    cut (text "'''")
    Reader.pure (String.ofList (unifyLineEnds cs))).label "multiline literal string"

/-- A string between apostrophes, taken as written. -/
def literalString : Reader String :=
  (do
    char '\''
    let cs ← cut (takeWhile isLiteralChar 0 none)
    cut (char '\'')
    Reader.pure (String.ofList cs)).label "literal string"

/-- A string in any of the four quotings. -/
def stringValue : Reader String :=
  firstOf [multiBasicString, basicString, multiLiteralString, literalString]

/-! ### Keys -/

/-- One part of a key, bare or quoted, with its spelling and place. -/
def simpleKey : Reader Key := do
  let ((name, raw, a, b)) ← withText (do
    match ← peekChar with
    | some '"' => basicString
    | some '\'' => literalString
    | some _ => do let cs ← takeWhile isBareKeyChar 1 none; Reader.pure (String.ofList cs)
    | none => fail)
  Reader.pure ⟨name, String.ofList raw, some ⟨a, b⟩⟩

/-- A key part with the blanks around it. -/
def keyPart : Reader Key := do
  blanks
  let k ← simpleKey
  blanks
  Reader.pure k

/-- A key: parts joined by dots, fewer than 80 of them. -/
def key : Reader (List Key) :=
  ((separated1 keyPart (char '.')).label "key").check fun ks =>
    if ks.length ≥ 80 then .error (some "recursion limit exceeded") else .ok ks

/-! ### Numbers -/

/-- One decimal digit. -/
def digit : Reader Unit := do
  let _ ← oneOf isDecDigit

/-- Further digits, each pair of them possibly split by one underscore. -/
def moreDigits (d : Reader Unit) : Reader Unit :=
  many (d.orElse (do char '_'; (cut d).expecting [.described "digit"]))

/-- A signed decimal integer without leading zeros, as written. -/
def decimalInt : Reader (List Char) :=
  (recognize (do
    let _ ← optional (oneOf fun c => c == '+' || c == '-')
    (do let _ ← oneOf fun c => '1' ≤ c && c ≤ '9'; moreDigits digit).orElse digit)).label "integer"

/-- Digits where leading zeros are allowed. -/
def zeroDigits : Reader Unit := do
  digit
  moreDigits digit

/-- An integer in base 16, 8 or 2 after its prefix, as written. -/
def prefixedInt (pre : String) (ok : Char → Bool) (name : String) : Reader (List Char) :=
  (do
    text pre
    cut (recognize (do
      let _ ← oneOf ok
      moreDigits (do let _ ← oneOf ok)))).label name

/-- The value of an integer written in `base`, refused above the largest signed 64-bit word. -/
def wordValue (base : Nat) (cs : List Char) : Except (Option String) Int :=
  let v := digitsIn base (cs.filter (· != '_'))
  if v < Nat.pow 2 63 then .ok v else .error (some "number too large to fit in target type")

/-- The value of a signed decimal integer, refused outside the signed 64-bit range. -/
def signedValue (cs : List Char) : Except Failure Int :=
  let cs := cs.filter (· != '_')
  let (neg, ds) := match cs with
    | '-' :: ds => (true, ds)
    | '+' :: ds => (false, ds)
    | ds => (false, ds)
  let v := digitsIn 10 ds
  if neg then
    if v ≤ Nat.pow 2 63 then .ok (-(v : Int))
    else .error ⟨true, 0, [], some "number too small to fit in target type"⟩
  else if v < Nat.pow 2 63 then .ok v
  else .error ⟨true, 0, [], some "number too large to fit in target type"⟩

/-- An integer in any base. -/
def integer : Reader Int := do
  match ← peekTwo with
  | some ('0', 'x') => cut ((prefixedInt "0x" isHexDigit "hexadecimal integer").check (wordValue 16))
  | some ('0', 'o') =>
    cut ((prefixedInt "0o" (fun c => '0' ≤ c && c ≤ '7') "octal integer").check (wordValue 8))
  | some ('0', 'b') =>
    cut ((prefixedInt "0b" (fun c => c == '0' || c == '1') "binary integer").check (wordValue 2))
  | _ => decimalInt.andThen signedValue

/-- The fraction part of a float. -/
def fraction : Reader Unit := do
  char '.'
  (cut zeroDigits).expecting [.described "digit"]

/-- The exponent part of a float. -/
def exponent : Reader Unit := do
  let _ ← oneOf fun c => c == 'e' || c == 'E'
  let _ ← optional (oneOf fun c => c == '+' || c == '-')
  cut zeroDigits

/-- A float with a fraction or an exponent, as written. -/
def floatText : Reader (List Char) :=
  recognize (do
    let _ ← decimalInt
    exponent.orElse (do fraction; let _ ← optional exponent))

/-- Splits float text (underscores removed) into sign, digits, and power of ten. -/
def floatParts (cs : List Char) : Bool × Nat × Int :=
  let (neg, cs) := match cs with
    | '-' :: r => (true, r)
    | '+' :: r => (false, r)
    | r => (false, r)
  let mant := cs.takeWhile fun c => c != 'e' && c != 'E'
  let expPart := (cs.dropWhile fun c => c != 'e' && c != 'E').drop 1
  let intDs := mant.takeWhile (· != '.')
  let fracDs := (mant.dropWhile (· != '.')).drop 1
  let e : Int := match expPart with
    | '-' :: ds => -(digitsIn 10 ds : Int)
    | '+' :: ds => digitsIn 10 ds
    | ds => digitsIn 10 ds
  (neg, digitsIn 10 (intDs ++ fracDs), e - fracDs.length)

/-- The binary64 value of float text; positive overflow is refused. -/
def floatValue (cs : List Char) : Except Failure Binary64 :=
  let (neg, ds, e) := floatParts (cs.filter (· != '_'))
  let x := Binary64.ofScientific ds e
  if !neg && x == Binary64.infinity then .error ⟨true, 0, [], none⟩
  else .ok (if neg then x.negate else x)

/-- `inf` or `nan`, possibly signed. -/
def specialFloat : Reader Binary64 := do
  let sign ← optional (oneOf fun c => c == '+' || c == '-')
  let x ← (do text "inf"; Reader.pure Binary64.infinity).orElse
    (do text "nan"; Reader.pure Binary64.nan)
  Reader.pure (if sign == some '-' then x.negate else x)

/-- A float. -/
def float : Reader Binary64 :=
  ((floatText.andThen floatValue).orElse specialFloat).label "floating-point number"

/-! ### Dates and times -/

/-- Between `least` and `most` decimal digits. -/
def someDigits (least most : Nat) : Reader (List Char) :=
  takeWhile isDecDigit least (some most)

/-- Two digits whose value lies in `lo ..= hi`. -/
def twoDigitsIn (lo hi : Nat) : Reader Nat :=
  (someDigits 2 2).check fun ds =>
    let v := digitsIn 10 ds
    if lo ≤ v && v ≤ hi then .ok v else .error (some outOfRange)

/-- The number of days in a month of a year. -/
def daysInMonth (year month : Nat) : Nat :=
  let leap := year % 4 == 0 && (year % 100 != 0 || year % 400 == 0)
  match month with
  | 2 => if leap then 29 else 28
  | 4 | 6 | 9 | 11 => 30
  | _ => 31

/-- A date `YYYY-MM-DD`, with the day checked against the month. -/
def fullDate : Reader Date := do
  let y ← someDigits 4 4
  char '-'
  let m ← cut (twoDigitsIn 1 12)
  cut (char '-')
  let dayStart ← position
  let d ← cut (twoDigitsIn 1 31)
  let year := digitsIn 10 y
  if daysInMonth year m < d then failFinalAt dayStart outOfRange
  else Reader.pure ⟨year, m, d⟩

/-- Nanoseconds from fraction digits: the first nine count, the rest are cut off. -/
def fractionNanos (ds : List Char) : Nat :=
  let ds := ds.take 9
  digitsIn 10 ds * Nat.pow 10 (9 - ds.length)

/-- A time `HH:MM:SS` with an optional fraction of a second. -/
def partialTime : Reader Time := do
  let h ← twoDigitsIn 0 23
  char ':'
  cut (do
    let m ← twoDigitsIn 0 59
    char ':'
    let s ← twoDigitsIn 0 60
    let f ← optional (do char '.'; someDigits 1 (Nat.pow 2 64))
    Reader.pure ⟨h, m, s, (f.map fractionNanos).getD 0⟩)

/-- `Z`, or a signed offset `HH:MM`. -/
def timeOffset : Reader Offset :=
  ((do let _ ← oneOf fun c => c == 'Z' || c == 'z'; Reader.pure Offset.utc).orElse
    (do
      let sign ← oneOf fun c => c == '+' || c == '-'
      let (h, m) ← cut (do
        let h ← twoDigitsIn 0 23
        char ':'
        let m ← twoDigitsIn 0 59
        Reader.pure (h, m))
      let v : Int := h * 60 + m
      Reader.pure (Offset.minutes (if sign == '-' then -v else v)))).label "time offset"

/-- A date, a date and a time (with an optional offset), or a time. -/
def datetime : Reader Datetime :=
  (do
    let d ← fullDate
    let rest ← optional (do
      let _ ← oneOf fun c => c == 'T' || c == 't' || c == ' '
      let t ← partialTime
      let o ← optional timeOffset
      Reader.pure (t, o))
    match rest with
    | some (t, o) => Reader.pure (Datetime.mk (some d) (some t) o)
    | none => Reader.pure (Datetime.mk (some d) none none)).label "date-time" |>.orElse
  ((do let t ← partialTime; Reader.pure (Datetime.mk none (some t) none)).label "time")

/-! ### Values -/

/-- Gives a node the stretch it was read from. -/
def Node.withSpan (n : Node) (sp : Span) : Node :=
  match n with
  | .str s _ => .str s sp
  | .int i _ => .int i sp
  | .float x _ => .float x sp
  | .bool b _ => .bool b sp
  | .datetime d _ => .datetime d sp
  | .array es _ => .array es sp
  | .table f es _ => .table f es (some sp)
  | .tables es _ => .tables es (some sp)

/-- What a failure on a value that starts like a bare word says. -/
def asString (p : Reader α) : Reader α :=
  (p.label "string").expecting [.char '"', .char '\'']

/-- Why an entry cannot be put into an inline table. -/
inductive InlineError where
  /-- The key is already defined, or names a table defined otherwise. -/
  | duplicate (key : String)
  /-- A dotted key passes through a value that is not a table. -/
  | notATable (path : List String) (kind : String)

/-- The message of an inline-table error. -/
def InlineError.message : InlineError → String
  | .duplicate k => "duplicate key `" ++ k ++ "`"
  | .notATable p kind =>
    "dotted key `" ++ ".".intercalate p ++ "` attempted to extend non-table type (" ++ kind ++ ")"

/-- The entries of an inline table after putting `v` at the dotted key `path`
followed by `k`. -/
def inlineInsert (full : List Key) (k : Key) (v : Node) :
    Nat → List Key → List (Key × Node) → Bool → Except InlineError (List (Key × Node))
  | _, [], es, dotted =>
    if dotted == (full.isEmpty) then .error (.duplicate k.name)
    else if es.any (·.1.name == k.name) then .error (.duplicate k.name)
    else .ok (es ++ [(k, v)])
  | i, p :: ps, es, _ =>
    match es.find? (·.1.name == p.name) with
    | none => do
      let inner ← inlineInsert full k v (i + 1) ps [] true
      .ok (es ++ [(p, .table { inline := true, implicit := true, dotted := true } inner none)])
    | some (_, .table form inner sp) =>
      if form.inline then
        if !form.implicit then .error (.duplicate p.name)
        else do
          let inner' ← inlineInsert full k v (i + 1) ps inner form.dotted
          .ok (es.map fun e => if e.1.name == p.name then (e.1, .table form inner' sp) else e)
      else .error (.notATable ((full.take (i + 1)).map (·.name)) "table")
    | some (_, n) => .error (.notATable ((full.take (i + 1)).map (·.name)) n.kindName)

/-- Builds an inline table from its entries, in order. -/
def inlineTableOf (kvs : List (List Key × Key × Node)) : Except InlineError Node := do
  let es ← kvs.foldlM (fun es (path, k, v) => inlineInsert path k v 0 path es false) []
  .ok (.table { inline := true } es none)

/-- The cause given when arrays and inline tables nest too deeply. -/
def tooDeep : Reader Node := failFinal "recursion limit exceeded"

/-- An array whose items are read by `item`. -/
def array (item : Reader Node) : Reader Node := do
  char '['
  let vs ← cut (do
    match ← peekChar with
    | some ']' => Reader.pure []
    | _ =>
      let vs ← separated0 (do filler; let v ← item; filler; Reader.pure v) (char ',')
      if !vs.isEmpty then
        let _ ← optional (char ',')
      filler
      Reader.pure vs)
  ((cut (char ']')).label "array").expecting [.char ']']
  Reader.pure (Node.array vs default)

/-- One `key = value` entry of an inline table, the value read by `item`. -/
def inlineEntry (item : Reader Node) : Reader (List Key × Key × Node) := do
  let ks ← key
  cut (do
    (char '=').expecting [.char '.', .char '=']
    blanks
    let v ← item
    blanks
    Reader.pure (ks.dropLast, ks.getLastD default, v))

/-- An inline table whose values are read by `item`. -/
def inlineTable (item : Reader Node) : Reader Node := do
  char '{'
  let t ← cut ((do
      let kvs ← separated0 (inlineEntry item) (char ',')
      blanks
      Reader.pure kvs).check fun kvs =>
    match inlineTableOf kvs with
    | .ok t => .ok t
    | .error e => .error (some e.message))
  ((cut (char '}')).label "inline table").expecting [.char '}']
  Reader.pure t

/-- A value whose arrays and inline tables are read by `arr` and `tbl`. -/
def valueWith (arr tbl : Reader Node) : Reader Node := do
  let start ← position
  let n ← match ← peekChar with
    | some '"' | some '\'' => do let s ← stringValue; Reader.pure (Node.str s default)
    | some '[' => arr
    | some '{' => tbl
    | some c =>
      if c == '+' || c == '-' || isDecDigit c then
        firstOf [
          (do let d ← datetime; Reader.pure (Node.datetime d default)),
          (do let x ← float; Reader.pure (Node.float x default)),
          (do let i ← integer; Reader.pure (Node.int i default))]
      else if c == '_' then
        (do let i ← integer; Reader.pure (Node.int i default)).expecting
          [.described "leading digit"]
      else if c == '.' then
        (do let x ← float; Reader.pure (Node.float x default)).expecting
          [.described "leading digit"]
      else if c == 't' then
        asString (do cut (text "true"); Reader.pure (Node.bool true default))
      else if c == 'f' then
        asString (do cut (text "false"); Reader.pure (Node.bool false default))
      else if c == 'i' then
        asString (do text "inf"; Reader.pure (Node.float Binary64.infinity default))
      else if c == 'n' then
        asString (do text "nan"; Reader.pure (Node.float Binary64.nan default))
      else asString fail
    | none => fail
  let stop ← position
  Reader.pure (n.withSpan ⟨start, stop⟩)

/-- A value; `depth` more arrays and inline tables may open inside it. -/
def value : Nat → Reader Node
  | 0 => valueWith tooDeep tooDeep
  | d + 1 => valueWith (array (value d)) (inlineTable (value d))

/-- The number of arrays and inline tables that may nest in a value. -/
def nestingLimit : Nat := 79

end LaunchBench.Toml
