/-!
The syntax of patterns.

A pattern is read in two steps. The reader turns its text into a syntax tree
that keeps every construct as written (flags, groups, classes, escapes),
together with the place of each in the text; lowering then resolves the
flags and builds the form that is matched. This module holds the syntax tree
and the causes of failure of both steps.
-/

namespace LaunchBench.Pattern

/-- A stretch of the pattern's text, as character offsets `[start, stop)`. -/
structure Span where
  start : Nat
  stop : Nat
  deriving DecidableEq, Repr, Inhabited

/-- A flag that changes how the rest of a group is read or matched. -/
inductive Flag where
  /-- `i`: letters match regardless of case. -/
  | caseInsensitive
  /-- `m`: `^` and `$` match at line boundaries. -/
  | multiLine
  /-- `s`: `.` matches a line feed too. -/
  | dotAll
  /-- `U`: repetitions are lazy unless marked otherwise. -/
  | swapGreed
  /-- `u`: classes, case and word boundaries follow Unicode. -/
  | unicode
  /-- `R`: a line ends at a line feed, a carriage return, or both. -/
  | crlf
  /-- `x`: blanks and `#` comments in the pattern are ignored. -/
  | ignoreSpace
  deriving DecidableEq, Repr

/-- One item of a flag group: a flag, or the `-` that turns the following flags off. -/
inductive FlagItem where
  | flag (f : Flag)
  | negation
  deriving DecidableEq, Repr

/-- Zero-width assertions. -/
inductive AssertionKind where
  | startLine | endLine | startText | endText
  | wordBoundary | notWordBoundary
  | wordStart | wordEnd | wordStartHalf | wordEndHalf
  deriving DecidableEq, Repr

/-- The three classes written with a backslash and a letter. -/
inductive PerlClass where
  | digit | space | word
  deriving DecidableEq, Repr

/-- The named ASCII classes written `[:name:]` inside brackets. -/
inductive AsciiClass where
  | alnum | alpha | ascii | blank | cntrl | digit | graph | lower | print | punct | space
  | upper | word | xdigit
  deriving DecidableEq, Repr

/-- How a Unicode class names its property. -/
inductive UnicodeQuery where
  /-- `\pL`: one letter. -/
  | oneLetter (c : Char)
  /-- `\p{Greek}`: a name. -/
  | named (name : String)
  /-- `\p{sc=Greek}` or `\p{sc!=Greek}`: a property and a value. -/
  | namedValue (name value : String) (negate : Bool)
  deriving DecidableEq, Repr

/-- Set operations between parts of a bracketed class. -/
inductive ClassOp where
  | intersection | difference | symmetricDifference
  deriving DecidableEq, Repr

mutual
/-- The contents of a bracketed class: items, or an operation between two contents. The
span of items runs from the first to the last; where there is none, it is empty. -/
inductive ClassSet where
  | items (span : Span) (xs : List ClassItem)
  | op (span : Span) (k : ClassOp) (lhs rhs : ClassSet)

/-- One item of a bracketed class. -/
inductive ClassItem where
  | literal (span : Span) (c : Char) (byte : Option Nat)
  | range (span : Span) (lo hi : Char) (loByte hiByte : Option Nat)
  | ascii (span : Span) (k : AsciiClass) (negated : Bool)
  | unicode (span : Span) (negated : Bool) (q : UnicodeQuery)
  | perl (span : Span) (k : PerlClass) (negated : Bool)
  | bracketed (span : Span) (negated : Bool) (s : ClassSet)
end

/-- The stretch of text of a class item. -/
def ClassItem.span : ClassItem → Span
  | .literal sp .. | .range sp .. | .ascii sp .. | .unicode sp .. | .perl sp .. | .bracketed sp .. => sp

/-- The stretch of text of the contents of a class. -/
def ClassSet.span : ClassSet → Span
  | .items sp _ | .op sp .. => sp

/-- How a group treats what it holds. -/
inductive GroupKind where
  /-- A numbered capture group. -/
  | capture
  /-- A named capture group. -/
  | named (name : String)
  /-- A group that captures nothing and may set flags for its contents. -/
  | nonCapturing (flags : List FlagItem)
  deriving DecidableEq, Repr

/-- The syntax tree of a pattern. -/
inductive Ast where
  | empty
  /-- A flag group such as `(?i)`, which applies to the rest of the enclosing group. -/
  | setFlags (flags : List FlagItem)
  /-- A literal character; `byte` is set for a `\xNN` escape. -/
  | literal (span : Span) (c : Char) (byte : Option Nat)
  | dot (span : Span)
  | assertion (span : Span) (k : AssertionKind)
  | perl (span : Span) (k : PerlClass) (negated : Bool)
  | unicode (span : Span) (negated : Bool) (q : UnicodeQuery)
  | bracketed (span : Span) (negated : Bool) (s : ClassSet)
  /-- A repetition from `lo` to `hi` times (`none`: no upper bound). -/
  | repetition (span : Span) (lo : Nat) (hi : Option Nat) (greedy : Bool) (a : Ast)
  | group (span : Span) (k : GroupKind) (a : Ast)
  | alternation (span : Span) (as : List Ast)
  | concat (span : Span) (as : List Ast)
  deriving Inhabited

/-- The stretch of text of a construct; empty constructs and flag groups, which are never
repeated, have an empty one at the start. -/
def Ast.span : Ast → Span
  | .empty | .setFlags _ => ⟨0, 0⟩
  | .literal sp .. | .dot sp | .assertion sp _ | .perl sp .. | .unicode sp .. | .bracketed sp .. => sp
  | .repetition sp .. | .group sp .. | .alternation sp _ | .concat sp _ => sp

/-- Why a pattern could not be read or lowered. -/
inductive ErrorKind where
  | classEscapeInvalid | classRangeInvalid | classRangeLiteral | classUnclosed
  | decimalEmpty | decimalInvalid
  | escapeHexEmpty | escapeHexInvalid | escapeHexInvalidDigit | escapeUnexpectedEof
  | escapeUnrecognized
  | flagDanglingNegation | flagDuplicate | flagRepeatedNegation | flagUnexpectedEof
  | flagUnrecognized
  | groupNameDuplicate | groupNameEmpty | groupNameInvalid | groupNameUnexpectedEof
  | groupUnclosed | groupUnopened
  | repetitionCountInvalid | repetitionCountDecimalEmpty | repetitionCountUnclosed
  | repetitionMissing
  | specialWordBoundaryUnclosed | specialWordBoundaryUnrecognized
  | specialWordOrRepetitionUnexpectedEof
  | unicodeClassInvalid | unsupportedBackreference | unsupportedLookAround
  | unicodeNotAllowed | invalidUtf8 | unicodePropertyNotFound | unicodePropertyValueNotFound
  /-- Groups, repetitions and classes nest deeper than `limit`. -/
  | nestLimitExceeded (limit : Nat)
  deriving DecidableEq, Repr, Inhabited

namespace ErrorKind

/-- The description of a cause of failure. -/
def description : ErrorKind → String
  | classEscapeInvalid => "invalid escape sequence found in character class"
  | classRangeInvalid => "invalid character class range, the start must be <= the end"
  | classRangeLiteral => "invalid range boundary, must be a literal"
  | classUnclosed => "unclosed character class"
  | decimalEmpty => "decimal literal empty"
  | decimalInvalid => "decimal literal invalid"
  | escapeHexEmpty => "hexadecimal literal empty"
  | escapeHexInvalid => "hexadecimal literal is not a Unicode scalar value"
  | escapeHexInvalidDigit => "invalid hexadecimal digit"
  | escapeUnexpectedEof => "incomplete escape sequence, reached end of pattern prematurely"
  | escapeUnrecognized => "unrecognized escape sequence"
  | flagDanglingNegation => "dangling flag negation operator"
  | flagDuplicate => "duplicate flag"
  | flagRepeatedNegation => "flag negation operator repeated"
  | flagUnexpectedEof => "expected flag but got end of regex"
  | flagUnrecognized => "unrecognized flag"
  | groupNameDuplicate => "duplicate capture group name"
  | groupNameEmpty => "empty capture group name"
  | groupNameInvalid => "invalid capture group character"
  | groupNameUnexpectedEof => "unclosed capture group name"
  | groupUnclosed => "unclosed group"
  | groupUnopened => "unopened group"
  | repetitionCountInvalid => "invalid repetition count range, the start must be <= the end"
  | repetitionCountDecimalEmpty => "repetition quantifier expects a valid decimal"
  | repetitionCountUnclosed => "unclosed counted repetition"
  | repetitionMissing => "repetition operator missing expression"
  | specialWordBoundaryUnclosed =>
    "special word boundary assertion is either unclosed or contains an invalid character"
  | specialWordBoundaryUnrecognized =>
    "unrecognized special word boundary assertion, valid choices are: start, end, start-half or end-half"
  | specialWordOrRepetitionUnexpectedEof =>
    "found either the beginning of a special word boundary or a bounded repetition on a \\b with an opening brace, but no closing brace"
  | unicodeClassInvalid => "invalid Unicode character class"
  | unsupportedBackreference => "backreferences are not supported"
  | unsupportedLookAround => "look-around, including look-ahead and look-behind, is not supported"
  | unicodeNotAllowed => "Unicode not allowed here"
  | invalidUtf8 => "pattern can match invalid UTF-8"
  | unicodePropertyNotFound => "Unicode property not found"
  | unicodePropertyValueNotFound => "Unicode property value not found"
  | nestLimitExceeded limit =>
    "exceed the maximum number of nested parentheses/brackets (" ++ toString limit ++ ")"

end ErrorKind

/-- A failure to read or lower a pattern, with the stretch of text it concerns and,
for a repeated name or flag, the stretch of its first occurrence. -/
structure Error where
  kind : ErrorKind
  span : Span
  aux : Option Span := none
  deriving DecidableEq, Repr, Inhabited

end LaunchBench.Pattern
