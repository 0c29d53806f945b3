import LaunchBench.Shell.Syntax
/-!
Cutting a script into tokens.

Words run until a blank or an operator character that is not quoted. A
backslash quotes the next character, and before a line end joins two lines;
single quotes quote everything up to the next single quote; double quotes
quote everything but `$` expansions, and there a backslash quotes only `$`,
a backquote, a double quote, a backslash or a line end. A `#` that starts a
word starts a comment. Digits right before `<` or `>` name the descriptor
redirected.
-/

namespace LaunchBench.Shell

/-- A token of a script, with the line it is on. -/
inductive Token where
  /-- A word. -/
  | word (w : Word) (line : Nat)
  /-- An operator: `;`, `&`, `&&`, `||`, `|`, `(`, `)`, `;;`, or a line end `\n`. -/
  | op (s : String) (line : Nat)
  /-- A redirection operator and the descriptor written before it. -/
  | redir (fd : Option Nat) (op : RedirOp) (line : Nat)
  /-- The end of the script. -/
  | eof (line : Nat)
deriving Repr, Inhabited

/-- Whether a token is a line end. -/
def Token.isLineEnd : Token → Bool
  | .op "\n" _ => true
  | _ => false

/-- A syntax error and the line it is on. -/
structure SyntaxError where
  /-- The line. -/
  line : Nat
  /-- What is wrong, as the shell says it. -/
  message : String
deriving Repr, Inhabited

/-- The characters left and the current line. -/
structure Cursor where
  /-- Characters not read yet. -/
  rest : List Char
  /-- The line of the next character. -/
  line : Nat

/-- Whether a character ends an unquoted word. -/
def isMeta (c : Char) : Bool :=
  c == ' ' || c == '\t' || c == '\n' || c == ';' || c == '&' || c == '|' || c == '(' || c == ')' ||
    c == '<' || c == '>'

/-- Whether a character may start a name. -/
def isNameStart (c : Char) : Bool := c.isAlpha || c == '_'

/-- Whether a character may continue a name. -/
def isNameChar (c : Char) : Bool := c.isAlphanum || c == '_'

/-- Whether a character is a special parameter. -/
def isSpecialParam (c : Char) : Bool :=
  c == '@' || c == '*' || c == '#' || c == '?' || c == '$' || c == '!' || c == '-' || c.isDigit

/-- Adds text to a list of atoms, joining it to text of the same quoting before it. -/
def pushText (acc : List Atom) (s : String) (quoted : Bool) : List Atom :=
  match acc.getLast? with
  | some (.text t q) => if q == quoted then acc.dropLast ++ [.text (t ++ s) q] else acc ++ [.text s quoted]
  | _ => acc ++ [.text s quoted]

/-- Adds text to a word, joining it to text of the same quoting before it. -/
def pushPieceText (acc : Word) (s : String) (quoted : Bool) : Word :=
  match acc.getLast? with
  | some (.atom (.text t q)) =>
    if q == quoted then acc.dropLast ++ [.atom (.text (t ++ s) q)] else acc ++ [.atom (.text s quoted)]
  | _ => acc ++ [.atom (.text s quoted)]

/-- Reads a parameter name after `$`: a name, one digit or one special character. -/
def readParamName (cs : List Char) : Option (String × List Char) :=
  match cs with
  | c :: rest =>
    if isNameStart c then
      some (String.ofList (c :: rest.takeWhile isNameChar), rest.dropWhile isNameChar)
    else if isSpecialParam c then some (String.singleton c, rest)
    else none
  | [] => none

/-- Reads the name inside braces: a name, a number or one special character. -/
def readBracedName (cs : List Char) : Option (String × List Char) :=
  match cs with
  | c :: rest =>
    if isNameStart c then
      some (String.ofList (c :: rest.takeWhile isNameChar), rest.dropWhile isNameChar)
    else if c.isDigit then
      some (String.ofList (c :: rest.takeWhile Char.isDigit), rest.dropWhile Char.isDigit)
    else if isSpecialParam c then some (String.singleton c, rest)
    else none
  | [] => none

/-- Reads double-quoted atoms up to the closing quote, for a pattern or word
inside braces; `fuel` bounds the characters read. -/
def readQuotedAtoms : Nat → List Atom → Cursor → Except SyntaxError (List Atom × Cursor)
  | 0, _, cur => .error ⟨cur.line, "Unterminated quoted string"⟩
  | fuel + 1, acc, cur =>
    match cur.rest with
    | [] => .error ⟨cur.line, "Unterminated quoted string"⟩
    | '"' :: rest => .ok (acc, ⟨rest, cur.line⟩)
    | '\\' :: c :: rest =>
      if c == '\n' then readQuotedAtoms fuel acc ⟨rest, cur.line + 1⟩
      else if c == '$' || c == '\x60' || c == '"' || c == '\\' then
        readQuotedAtoms fuel (pushText acc (String.singleton c) true) ⟨rest, cur.line⟩
      else readQuotedAtoms fuel (pushText acc (String.ofList ['\\', c]) true) ⟨rest, cur.line⟩
    | '$' :: rest =>
      match readParamName rest with
      | some (n, rest') => readQuotedAtoms fuel (acc ++ [.param n true]) ⟨rest', cur.line⟩
      | none => readQuotedAtoms fuel (pushText acc "$" true) ⟨rest, cur.line⟩
    | c :: rest =>
      readQuotedAtoms fuel (pushText acc (String.singleton c) true)
        ⟨rest, if c == '\n' then cur.line + 1 else cur.line⟩

/-- Reads the word after an operator inside braces, up to the closing brace. -/
def readBraceWord : Nat → List Atom → Cursor → Except SyntaxError (List Atom × Cursor)
  | 0, _, cur => .error ⟨cur.line, "Missing '\x7d'"⟩
  | fuel + 1, acc, cur =>
    match cur.rest with
    | [] => .error ⟨cur.line, "Missing '\x7d'"⟩
    | '}' :: rest => .ok (acc, ⟨rest, cur.line⟩)
    | '\\' :: c :: rest => readBraceWord fuel (pushText acc (String.singleton c) true) ⟨rest, cur.line⟩
    | '\'' :: rest =>
      let body := rest.takeWhile (· != '\'')
      match rest.dropWhile (· != '\'') with
      | _ :: rest' =>
        readBraceWord fuel (pushText acc (String.ofList body) true)
          ⟨rest', cur.line + body.count '\n'⟩
      | [] => .error ⟨cur.line, "Unterminated quoted string"⟩
    | '"' :: rest => do
      let (inner, cur') ← readQuotedAtoms fuel [] ⟨rest, cur.line⟩
      readBraceWord fuel (acc ++ inner) cur'
    | '$' :: rest =>
      match readParamName rest with
      | some (n, rest') => readBraceWord fuel (acc ++ [.param n false]) ⟨rest', cur.line⟩
      | none => readBraceWord fuel (pushText acc "$" false) ⟨rest, cur.line⟩
    | c :: rest =>
      readBraceWord fuel (pushText acc (String.singleton c) false)
        ⟨rest, if c == '\n' then cur.line + 1 else cur.line⟩

/-- Reads what follows `${`: the name, an operator and its word, and the
closing brace. -/
def readBraced (fuel : Nat) (quoted : Bool) (cur : Cursor) : Except SyntaxError (Piece × Cursor) :=
  let bad : Except SyntaxError (Piece × Cursor) := .error ⟨cur.line, "Bad substitution"⟩
  match cur.rest with
  | '#' :: rest =>
    match readBracedName rest with
    | some (n, '}' :: rest') => .ok (.expand n .length quoted, ⟨rest', cur.line⟩)
    | _ =>
      match rest with
      | '}' :: rest' => .ok (.expand "#" .plain quoted, ⟨rest', cur.line⟩)
      | _ => bad
  | cs =>
    match readBracedName cs with
    | none => bad
    | some (n, rest) =>
      let withWord (op : List Atom → ParamOp) (after : List Char) :
          Except SyntaxError (Piece × Cursor) := do
        let (w, cur') ← readBraceWord fuel [] ⟨after, cur.line⟩
        .ok (.expand n (op w) quoted, cur')
      match rest with
      | '}' :: rest' => .ok (.expand n .plain quoted, ⟨rest', cur.line⟩)
      | '#' :: '#' :: after => withWord (.trim false true) after
      | '#' :: after => withWord (.trim false false) after
      | '%' :: '%' :: after => withWord (.trim true true) after
      | '%' :: after => withWord (.trim true false) after
      | ':' :: k :: after =>
        if k == '-' || k == '=' || k == '+' || k == '?' then withWord (.alternative k true) after
        else bad
      | k :: after =>
        if k == '-' || k == '=' || k == '+' || k == '?' then withWord (.alternative k false) after
        else bad
      | [] => bad

/-- Reads the pieces of a double-quoted string up to the closing quote. -/
def readDoubleQuoted : Nat → Word → Cursor → Except SyntaxError (Word × Cursor)
  | 0, _, cur => .error ⟨cur.line, "Unterminated quoted string"⟩
  | fuel + 1, acc, cur =>
    match cur.rest with
    | [] => .error ⟨cur.line, "Unterminated quoted string"⟩
    | '"' :: rest => .ok (acc, ⟨rest, cur.line⟩)
    | '\\' :: c :: rest =>
      if c == '\n' then readDoubleQuoted fuel acc ⟨rest, cur.line + 1⟩
      else if c == '$' || c == '\x60' || c == '"' || c == '\\' then
        readDoubleQuoted fuel (pushPieceText acc (String.singleton c) true) ⟨rest, cur.line⟩
      else readDoubleQuoted fuel (pushPieceText acc (String.ofList ['\\', c]) true) ⟨rest, cur.line⟩
    | '$' :: '{' :: rest => do
      let (p, cur') ← readBraced fuel true ⟨rest, cur.line⟩
      readDoubleQuoted fuel (acc ++ [p]) cur'
    | '$' :: '(' :: _ => .error ⟨cur.line, "command substitution is not supported"⟩
    | '\x60' :: _ => .error ⟨cur.line, "command substitution is not supported"⟩
    | '$' :: rest =>
      match readParamName rest with
      | some (n, rest') => readDoubleQuoted fuel (acc ++ [.atom (.param n true)]) ⟨rest', cur.line⟩
      | none => readDoubleQuoted fuel (pushPieceText acc "$" true) ⟨rest, cur.line⟩
    | c :: rest =>
      readDoubleQuoted fuel (pushPieceText acc (String.singleton c) true)
        ⟨rest, if c == '\n' then cur.line + 1 else cur.line⟩

/-- Reads the pieces of a word up to a blank or an unquoted operator character. -/
def readWord : Nat → Word → Cursor → Except SyntaxError (Word × Cursor)
  | 0, acc, cur => .ok (acc, cur)
  | fuel + 1, acc, cur =>
    match cur.rest with
    | [] => .ok (acc, cur)
    | '\\' :: '\n' :: rest => readWord fuel acc ⟨rest, cur.line + 1⟩
    | '\\' :: c :: rest => readWord fuel (pushPieceText acc (String.singleton c) true) ⟨rest, cur.line⟩
    | ['\\'] => .ok (pushPieceText acc "\\" false, ⟨[], cur.line⟩)
    | '\'' :: rest =>
      let body := rest.takeWhile (· != '\'')
      match rest.dropWhile (· != '\'') with
      | _ :: rest' =>
        readWord fuel (pushPieceText acc (String.ofList body) true) ⟨rest', cur.line + body.count '\n'⟩
      | [] => .error ⟨cur.line, "Unterminated quoted string"⟩
    | '"' :: rest => do
      let (inner, cur') ← readDoubleQuoted fuel [] ⟨rest, cur.line⟩
      -- an empty pair of quotes still makes the word present
      readWord fuel (if inner.isEmpty then pushPieceText acc "" true else acc ++ inner) cur'
    | '$' :: '{' :: rest => do
      let (p, cur') ← readBraced fuel false ⟨rest, cur.line⟩
      readWord fuel (acc ++ [p]) cur'
    | '$' :: '(' :: _ => .error ⟨cur.line, "command substitution is not supported"⟩
    | '\x60' :: _ => .error ⟨cur.line, "command substitution is not supported"⟩
    | '$' :: rest =>
      match readParamName rest with
      | some (n, rest') => readWord fuel (acc ++ [.atom (.param n false)]) ⟨rest', cur.line⟩
      | none => readWord fuel (pushPieceText acc "$" false) ⟨rest, cur.line⟩
    | c :: rest =>
      if isMeta c then .ok (acc, cur)
      else readWord fuel (pushPieceText acc (String.singleton c) false) ⟨rest, cur.line⟩

/-- The operator at the start of the characters, longest first. -/
def readOperator (cs : List Char) : Option (String × List Char) :=
  match cs with
  | '&' :: '&' :: r => some ("&&", r)
  | '|' :: '|' :: r => some ("||", r)
  | ';' :: ';' :: r => some (";;", r)
  | c :: r => if c == ';' || c == '&' || c == '|' || c == '(' || c == ')' then some (String.singleton c, r)
    else none
  | [] => none

/-- The redirection operator at the start of the characters. -/
def readRedirOp (cs : List Char) : Option (RedirOp × List Char) :=
  match cs with
  | '>' :: '>' :: r => some (.append, r)
  | '>' :: '&' :: r => some (.dupOut, r)
  | '>' :: '|' :: r => some (.write, r)
  | '<' :: '&' :: r => some (.dupIn, r)
  | '<' :: '>' :: r => some (.readWrite, r)
  | '>' :: r => some (.write, r)
  | '<' :: r => some (.read, r)
  | _ => none

/-- Cuts a script into tokens; `fuel` bounds the tokens read. On an error,
gives the tokens of the lines before the one it is on, and the error. -/
def tokens : Nat → List Token → Cursor → List Token × Option SyntaxError
  | 0, acc, cur => (acc ++ [.eof cur.line], none)
  | fuel + 1, acc, cur =>
    let fail (e : SyntaxError) : List Token × Option SyntaxError :=
      (((acc.reverse.dropWhile (!·.isLineEnd)).reverse), some e)
    match cur.rest with
    | [] => (acc ++ [.eof cur.line], none)
    | ' ' :: rest | '\t' :: rest => tokens fuel acc ⟨rest, cur.line⟩
    | '\\' :: '\n' :: rest => tokens fuel acc ⟨rest, cur.line + 1⟩
    | '\n' :: rest => tokens fuel (acc ++ [.op "\n" cur.line]) ⟨rest, cur.line + 1⟩
    | '#' :: rest => tokens fuel acc ⟨rest.dropWhile (· != '\n'), cur.line⟩
    | cs =>
      match readRedirOp cs with
      | some (op, rest) => tokens fuel (acc ++ [.redir none op cur.line]) ⟨rest, cur.line⟩
      | none =>
        match readOperator cs with
        | some (op, rest) => tokens fuel (acc ++ [.op op cur.line]) ⟨rest, cur.line⟩
        | none =>
          let digits := cs.takeWhile Char.isDigit
          match readRedirOp (cs.dropWhile Char.isDigit) with
          | some (op, rest) =>
            if digits.isEmpty then tokens fuel acc ⟨rest, cur.line⟩
            else tokens fuel (acc ++ [.redir (some (String.ofList digits).toNat!) op cur.line])
              ⟨rest, cur.line⟩
          | none =>
            match readWord (cs.length + 1) [] cur with
            | .error e => fail e
            | .ok (w, cur') =>
              if cur'.rest.length < cs.length then tokens fuel (acc ++ [.word w cur.line]) cur'
              else fail ⟨cur.line, "\"" ++ String.ofList (cs.take 1) ++ "\" unexpected"⟩

/-- The tokens of a script, up to the first error. -/
def tokenizePrefix (script : String) : List Token × Option SyntaxError :=
  let cs := script.toList
  tokens (cs.length + 1) [] ⟨cs, 1⟩

/-- The tokens of a script. -/
def tokenize (script : String) : Except SyntaxError (List Token) :=
  match tokenizePrefix script with
  | (ts, none) => .ok ts
  | (_, some e) => .error e

end LaunchBench.Shell
