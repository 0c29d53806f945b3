import LaunchBench.Shell.Lexer
/-!
Reading a script's tokens as commands.

A list is a run of `&&`/`||` chains cut by `;`, `&` or line ends; a chain
joins pipelines, and a pipeline joins commands with `|`. A command is a
simple command, or one of `( … )`, `{ … }`, `for`, `case`, `if`, `while`
and `until`, optionally followed by redirections. Reserved words count only
where a command may start. A list ends at a word or operator that closes
what encloses it.
-/

namespace LaunchBench.Shell

namespace Token

/-- The line of a token. -/
def line : Token → Nat
  | .word _ l | .op _ l | .redir _ _ l | .eof l => l

/-- The text of a word token made of plain unquoted text. -/
def keyword? : Token → Option String
  | .word w _ => w.plainText?
  | _ => none

/-- Whether a token is the operator `s`. -/
def isOp (t : Token) (s : String) : Bool :=
  match t with
  | .op o _ => o == s
  | _ => false

/-- Whether a token is the reserved word `k`. -/
def isWord (t : Token) (k : String) : Bool := t.keyword? == some k

/-- How a token is named in an error. -/
def describe : Token → String
  | .word w _ => "\"" ++ (w.plainText?.getD "word") ++ "\""
  | .op "\n" _ => "newline"
  | .op o _ => "\"" ++ o ++ "\""
  | .redir _ r _ => "\"" ++ (match r with
      | .write => ">" | .append => ">>" | .read => "<" | .dupOut => ">&" | .dupIn => "<&"
      | .readWrite => "<>") ++ "\""
  | .eof _ => "end of file"

end Token

/-- The words and operators that close an enclosing list. -/
def closers : List String := ["\x7d", "done", "fi", "else", "elif", "then", "do", "esac"]

/-- Whether a token ends a list. -/
def endsList (t : Token) : Bool :=
  (match t.keyword? with | some k => closers.contains k | none => false) ||
    t.isOp ")" || t.isOp ";;" ||
    (match t with | .eof _ => true | _ => false)

/-- The first token, or the end. -/
def peek (ts : List Token) : Token := ts.headD (.eof 0)

/-- Drops line ends. -/
def skipNewlines (ts : List Token) : List Token := ts.dropWhile (·.isOp "\n")

/-- The error for an unexpected token. -/
def unexpected (t : Token) (expecting : Option String) : SyntaxError :=
  ⟨t.line, t.describe ++ " unexpected" ++
    (match expecting with | some e => " (expecting \"" ++ e ++ "\")" | none => "")⟩

/-- Expects the reserved word `k`. -/
def expectWord (k : String) (ts : List Token) : Except SyntaxError (List Token) :=
  let ts := skipNewlines ts
  if (peek ts).isWord k then .ok (ts.drop 1) else .error (unexpected (peek ts) (some k))

/-- Whether a word assigns a variable: unquoted `name=` at its start. -/
def assignment? (w : Word) : Option (String × Word) :=
  match w with
  | .atom (.text s false) :: rest =>
    let cs := s.toList
    match cs.idxOf? '=' with
    | some i =>
      let name := cs.take i
      match name with
      | c :: more =>
        if isNameStart c && more.all isNameChar then
          let value := String.ofList (cs.drop (i + 1))
          some (String.ofList name, (if value.isEmpty then [] else [.atom (.text value false)]) ++ rest)
        else none
      | [] => none
    | none => none
  | _ => none

/-- Reads a redirection whose operator was just read. -/
def redirection (fd : Option Nat) (op : RedirOp) (ts : List Token) :
    Except SyntaxError (Redirect × List Token) :=
  match ts with
  | .word w _ :: rest =>
    let dflt := match op with | .read | .dupIn | .readWrite => 0 | _ => 1
    .ok (⟨fd.getD dflt, op, w⟩, rest)
  | t :: _ => .error (unexpected t none)
  | [] => .error ⟨0, "end of file unexpected"⟩

/-- Reads the redirections after a compound command. -/
def redirections : Nat → List Redirect → List Token → Except SyntaxError (List Redirect × List Token)
  | 0, acc, ts => .ok (acc, ts)
  | fuel + 1, acc, ts =>
    match ts with
    | .redir fd op _ :: rest => do
      let (r, rest') ← redirection fd op rest
      redirections fuel (acc ++ [r]) rest'
    | _ => .ok (acc, ts)

/-- Reads a simple command: assignments first, then words, with redirections anywhere. -/
def simpleParts : Nat → List (String × Word) → List Word → List Redirect → List Token →
    Except SyntaxError ((List (String × Word) × List Word × List Redirect) × List Token)
  | 0, a, w, r, ts => .ok ((a, w, r), ts)
  | fuel + 1, a, w, r, ts =>
    match ts with
    | .redir fd op _ :: rest => do
      let (red, rest') ← redirection fd op rest
      simpleParts fuel a w (r ++ [red]) rest'
    | .word x _ :: rest =>
      match (if w.isEmpty then assignment? x else none) with
      | some asg => simpleParts fuel (a ++ [asg]) w r rest
      | none => simpleParts fuel a (w ++ [x]) r rest
    | _ => .ok ((a, w, r), ts)

/-- Wraps a command in redirections when there are some. -/
def withRedirects (c : Command) (rs : List Redirect) : Command :=
  if rs.isEmpty then c else .redirected c rs

/-- Reads the words after `for name in`, up to `;` or a line end. -/
def forWords : Nat → List Word → List Token → List Word × List Token
  | 0, acc, ts => (acc, ts)
  | fuel + 1, acc, ts =>
    match ts with
    | .word w _ :: rest => forWords fuel (acc ++ [w]) rest
    | _ => (acc, ts)

/-- Reads the patterns of a `case` arm, up to `)`. -/
def casePatterns : Nat → List Word → List Token → Except SyntaxError (List Word × List Token)
  | 0, _, ts => .error (unexpected (peek ts) (some ")"))
  | fuel + 1, acc, ts =>
    match ts with
    | .word w _ :: rest =>
      match rest with
      | t :: rest' =>
        if t.isOp "|" then casePatterns fuel (acc ++ [w]) rest'
        else if t.isOp ")" then .ok (acc ++ [w], rest')
        else .error (unexpected t (some ")"))
      | [] => .error ⟨0, "end of file unexpected (expecting \")\")"⟩
    | t :: _ => .error (unexpected t (some ")"))
    | [] => .error ⟨0, "end of file unexpected"⟩

mutual

/-- Reads a list of chains up to a token that ends it. -/
def parseList : Nat → List Token → Except SyntaxError (Command × List Token)
  | 0, ts => .error ⟨(peek ts).line, "nesting too deep"⟩
  | fuel + 1, ts => do
    let ts := skipNewlines ts
    if endsList (peek ts) then .ok (.skip, ts)
    else
      let (first, rest) ← parseAndOr fuel ts
      match rest with
      | t :: rest' =>
        if t.isOp "&" then
          let (more, rest'') ← parseList fuel rest'
          .ok (seqOf (.background first) more, rest'')
        else if t.isOp ";" || t.isOp "\n" then
          let (more, rest'') ← parseList fuel rest'
          .ok (seqOf first more, rest'')
        else .ok (first, rest)
      | [] => .ok (first, [])

/-- Reads pipelines joined by `&&` and `||`. -/
def parseAndOr : Nat → List Token → Except SyntaxError (Command × List Token)
  | 0, ts => .error ⟨(peek ts).line, "nesting too deep"⟩
  | fuel + 1, ts => do
    let (first, rest) ← parsePipeline fuel ts
    andOrTail fuel first rest

/-- Reads the rest of a chain after its first pipeline. -/
def andOrTail : Nat → Command → List Token → Except SyntaxError (Command × List Token)
  | 0, c, ts => .ok (c, ts)
  | fuel + 1, c, ts =>
    match ts with
    | t :: rest =>
      if t.isOp "&&" then do
        let (next, rest') ← parsePipeline fuel (skipNewlines rest)
        andOrTail fuel (.both c next) rest'
      else if t.isOp "||" then do
        let (next, rest') ← parsePipeline fuel (skipNewlines rest)
        andOrTail fuel (.either c next) rest'
      else .ok (c, ts)
    | [] => .ok (c, ts)

/-- Reads commands joined by `|`, after an optional `!`. -/
def parsePipeline : Nat → List Token → Except SyntaxError (Command × List Token)
  | 0, ts => .error ⟨(peek ts).line, "nesting too deep"⟩
  | fuel + 1, ts => do
    if (peek ts).isWord "!" then
      let (c, rest) ← parsePipeline fuel (ts.drop 1)
      .ok (.negate c, rest)
    else
      let (first, rest) ← parseCommand fuel ts
      match rest with
      | t :: rest' =>
        if t.isOp "|" then
          let (next, rest'') ← parsePipeline fuel (skipNewlines rest')
          .ok (.pipe first next, rest'')
        else .ok (first, rest)
      | [] => .ok (first, [])

/-- Reads one command. -/
def parseCommand : Nat → List Token → Except SyntaxError (Command × List Token)
  | 0, ts => .error ⟨(peek ts).line, "nesting too deep"⟩
  | fuel + 1, ts =>
    let t := peek ts
    if t.isOp "(" then do
      let (body, rest) ← parseList fuel (ts.drop 1)
      if (peek rest).isOp ")" then
        let (rs, rest') ← redirections (rest.length + 1) [] (rest.drop 1)
        .ok (withRedirects (.subshell body) rs, rest')
      else .error (unexpected (peek rest) (some ")"))
    else if t.isWord "\x7b" then do
      let (body, rest) ← parseList fuel (ts.drop 1)
      if (peek rest).isWord "\x7d" then
        let (rs, rest') ← redirections (rest.length + 1) [] (rest.drop 1)
        .ok (withRedirects body rs, rest')
      else .error (unexpected (peek rest) (some "\x7d"))
    else if t.isWord "if" then do
      let (c, rest) ← parseIf fuel (ts.drop 1)
      let (rs, rest') ← redirections (rest.length + 1) [] rest
      .ok (withRedirects c rs, rest')
    else if t.isWord "while" || t.isWord "until" then do
      let (cond, rest) ← parseList fuel (ts.drop 1)
      let rest ← expectWord "do" rest
      let (body, rest) ← parseList fuel rest
      let rest ← expectWord "done" rest
      let (rs, rest') ← redirections (rest.length + 1) [] rest
      .ok (withRedirects (.loop (t.isWord "until") cond body) rs, rest')
    else if t.isWord "for" then
      match ts.drop 1 with
      | .word v _ :: rest => do
        let name := v.plainText?.getD ""
        let rest1 := skipNewlines rest
        let (items, rest2) :=
          if (peek rest1).isWord "in" then
            let (ws, r) := forWords (rest1.length + 1) [] (rest1.drop 1)
            (some ws, r)
          else (none, rest)
        let rest3 := if (peek rest2).isOp ";" then rest2.drop 1 else rest2
        let rest4 ← expectWord "do" rest3
        let (body, rest5) ← parseList fuel rest4
        let rest6 ← expectWord "done" rest5
        let (rs, rest7) ← redirections (rest6.length + 1) [] rest6
        .ok (withRedirects (.forEach name items body) rs, rest7)
      | r => .error (unexpected (peek r) none)
    else if t.isWord "case" then
      match ts.drop 1 with
      | .word subject _ :: rest => do
        let rest ← expectWord "in" rest
        let (arms, rest) ← parseArms fuel rest
        let (rs, rest') ← redirections (rest.length + 1) [] rest
        .ok (withRedirects (.cases subject arms) rs, rest')
      | r => .error (unexpected (peek r) none)
    else
      match t with
      | .word _ line | .redir _ _ line => do
        let ((a, w, r), rest) ← simpleParts (ts.length + 1) [] [] [] ts
        .ok (.simple line a w r, rest)
      | _ => .error (unexpected t none)

/-- Reads what follows `if`, up to and with `fi`. -/
def parseIf : Nat → List Token → Except SyntaxError (Command × List Token)
  | 0, ts => .error ⟨(peek ts).line, "nesting too deep"⟩
  | fuel + 1, ts => do
    let (cond, rest) ← parseList fuel ts
    let rest ← expectWord "then" rest
    let (thenB, rest) ← parseList fuel rest
    let rest := skipNewlines rest
    if (peek rest).isWord "elif" then
      let (elseB, rest') ← parseIf fuel (rest.drop 1)
      .ok (.branch cond thenB elseB, rest')
    else if (peek rest).isWord "else" then
      let (elseB, rest') ← parseList fuel (rest.drop 1)
      let rest'' ← expectWord "fi" rest'
      .ok (.branch cond thenB elseB, rest'')
    else
      let rest' ← expectWord "fi" rest
      .ok (.branch cond thenB .skip, rest')

/-- Reads the arms of a `case`, up to and with `esac`. -/
def parseArms : Nat → List Token → Except SyntaxError (Arms × List Token)
  | 0, ts => .error ⟨(peek ts).line, "nesting too deep"⟩
  | fuel + 1, ts => do
    let ts := skipNewlines ts
    if (peek ts).isWord "esac" then .ok (.nil, ts.drop 1)
    else
      let ts := if (peek ts).isOp "(" then ts.drop 1 else ts
      let (pats, rest) ← casePatterns (ts.length + 1) [] ts
      let (body, rest) ← parseList fuel rest
      let rest := skipNewlines rest
      if (peek rest).isOp ";;" then
        let (more, rest') ← parseArms fuel (rest.drop 1)
        .ok (.cons pats body more, rest')
      else if (peek rest).isWord "esac" then .ok (.cons pats body .nil, rest.drop 1)
      else .error (unexpected (peek rest) (some "esac"))

/-- Joins two commands in sequence, dropping empty ones. -/
def seqOf (a b : Command) : Command :=
  match b with
  | .skip => a
  | _ => .seq a b

end

/-- Whether only line ends are left. -/
def atEnd (ts : List Token) : Bool :=
  match skipNewlines ts with
  | [] | [.eof _] => true
  | _ => false

/-- Reads the chains of one line, joined by `;` and `&`. -/
def parseLine : Nat → List Token → Except SyntaxError (Command × List Token)
  | 0, ts => .error ⟨(peek ts).line, "nesting too deep"⟩
  | fuel + 1, ts => do
    let (first, rest) ← parseAndOr (ts.length + 2) ts
    match rest with
    | [] => .ok (first, [])
    | t :: rest' =>
      if t.isOp "&" || t.isOp ";" then
        let c := if t.isOp "&" then .background first else first
        match rest' with
        | [] => .ok (c, [])
        | u :: rest'' =>
          if u.isLineEnd then .ok (c, rest'')
          else match u with
            | .eof _ => .ok (c, rest')
            | _ => do
              let (more, r) ← parseLine fuel rest'
              .ok (seqOf c more, r)
      else if t.isLineEnd then .ok (first, rest')
      else match t with
        | .eof _ => .ok (first, rest)
        | _ => .error (unexpected t none)

/-- Reads the next command of a script, the way a shell reads one line at a
time: `none` at the end. -/
def parseNext (ts : List Token) : Except SyntaxError (Option (Command × List Token)) :=
  let ts := skipNewlines ts
  match ts with
  | [] | [.eof _] => .ok none
  | _ => (parseLine (ts.length + 2) ts).map some

/-- Reads a whole script. -/
def parseScript (script : String) : Except SyntaxError Command := do
  let ts ← tokenize script
  let (c, rest) ← parseList (ts.length + 2) ts
  match skipNewlines rest with
  | [] | [.eof _] => .ok c
  | t :: _ => .error (unexpected t none)

end LaunchBench.Shell
