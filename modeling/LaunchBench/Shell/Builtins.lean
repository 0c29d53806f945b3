import LaunchBench.Shell.Expand
import LaunchBench.Host.Exec
/-!
What the shell's own commands compute.

`test` and `[` decide a condition over their arguments: with up to four
arguments by their count, as POSIX fixes it, and with more by the usual
grammar of `!`, `-a`, `-o` and parentheses. `read` splits a line over its
variables, the last one taking the rest. `trap` names its conditions by
signal name, number, or `EXIT`.

* **`evalTest_nonempty`**: a single argument is true when it is not empty.
-/

namespace LaunchBench.Shell

open Host

/-- The names of the shell's own commands. -/
def builtinNames : List String :=
  [":", ".", "break", "continue", "eval", "exec", "exit", "export", "readonly", "return", "set",
   "shift", "trap", "unset", "echo", "printf", "true", "false", "kill", "wait", "cd", "pwd",
   "read", "test", "[", "umask", "ulimit", "hash", "alias", "unalias", "type", "command",
   "getopts", "jobs", "times", "local"]

/-- The commands whose variable assignments stay after them. -/
def specialBuiltins : List String :=
  [":", ".", "break", "continue", "eval", "exec", "exit", "export", "readonly", "return", "set",
   "shift", "trap", "unset"]

/-- A failed `test`: the message after `test: `. -/
abbrev TestResult := Except String Bool

/-- The integer an argument of `test` holds. -/
def testNumber (s : String) : Except String Int :=
  let t := s.trimAscii.toString
  let digits (ds : List Char) := !ds.isEmpty && ds.all Char.isDigit
  match t.toList with
  | '-' :: ds => if digits ds then .ok (-(String.ofList ds).toNat!) else .error ("Illegal number: " ++ s)
  | '+' :: ds => if digits ds then .ok (String.ofList ds).toNat! else .error ("Illegal number: " ++ s)
  | ds => if digits ds then .ok (String.ofList ds).toNat! else .error ("Illegal number: " ++ s)

/-- The unary operators of `test`. -/
def unaryOps : List String :=
  ["-n", "-z", "-e", "-f", "-d", "-x", "-s", "-r", "-w", "-L", "-h", "-p", "-S", "-b", "-c", "-t",
   "-g", "-u", "-k", "-O", "-G"]

/-- The binary operators of `test`. -/
def binaryOps : List String := ["=", "!=", "-eq", "-ne", "-lt", "-le", "-gt", "-ge", "-nt", "-ot", "-ef"]

/-- A unary test. -/
def unaryTest (files : FileTree) (cwd : Location) (op arg : String) : Bool :=
  let entry := (locate cwd arg).toOption.bind fun loc => (files.stat loc).toOption
  let linked := match (locate cwd arg).toOption.bind fun loc => (files.lstat loc).toOption with
    | some (.link _) => true
    | _ => false
  match op with
  | "-n" => !arg.isEmpty
  | "-z" => arg.isEmpty
  | "-e" | "-r" | "-w" => entry.isSome
  | "-f" => entry.any (·.isRegular)
  | "-d" => entry.any (·.isDir)
  | "-x" => entry.any fun e => match e with
    | .file _ x => x
    | .program _ | .dir => true
    | _ => false
  | "-s" => entry.any fun e => match e with
    | .file d _ => !d.isEmpty
    | .program _ | .dir => true
    | _ => false
  | "-L" | "-h" => linked
  | "-p" => entry.any fun e => match e with
    | .fifo => true
    | _ => false
  | _ => false

/-- A binary test. -/
def binaryTest (op a b : String) : TestResult :=
  match op with
  | "=" => .ok (a == b)
  | "!=" => .ok (a != b)
  | _ => do
    let x ← testNumber a
    let y ← testNumber b
    match op with
    | "-eq" => .ok (x == y)
    | "-ne" => .ok (x != y)
    | "-lt" => .ok (x < y)
    | "-le" => .ok (x ≤ y)
    | "-gt" => .ok (x > y)
    | "-ge" => .ok (x ≥ y)
    | _ => .ok false

mutual

/-- `test` expressions joined by `-o`; `fuel` bounds the nesting. -/
def testOr (files : FileTree) (cwd : Location) : Nat → List String → Except String (Bool × List String)
  | 0, _ => .error "expression too complex"
  | fuel + 1, args => do
    let (a, rest) ← testAnd files cwd fuel args
    match rest with
    | "-o" :: more => do
      let (b, rest') ← testOr files cwd fuel more
      .ok (a || b, rest')
    | _ => .ok (a, rest)

/-- `test` expressions joined by `-a`. -/
def testAnd (files : FileTree) (cwd : Location) : Nat → List String → Except String (Bool × List String)
  | 0, _ => .error "expression too complex"
  | fuel + 1, args => do
    let (a, rest) ← testNot files cwd fuel args
    match rest with
    | "-a" :: more => do
      let (b, rest') ← testAnd files cwd fuel more
      .ok (a && b, rest')
    | _ => .ok (a, rest)

/-- A `test` expression, perhaps negated. -/
def testNot (files : FileTree) (cwd : Location) : Nat → List String → Except String (Bool × List String)
  | 0, _ => .error "expression too complex"
  | fuel + 1, args =>
    match args with
    | "!" :: rest => do
      let (a, rest') ← testNot files cwd fuel rest
      .ok (!a, rest')
    | "(" :: rest => do
      let (a, rest') ← testOr files cwd fuel rest
      match rest' with
      | ")" :: more => .ok (a, more)
      | _ => .error "closing paren expected"
    | op :: arg :: rest =>
      if unaryOps.contains op then .ok (unaryTest files cwd op arg, rest)
      else match rest with
        | bop :: b :: more =>
          if binaryOps.contains bop then do
            let r ← binaryTest bop op b
            .ok (r, more)
          else .ok (!op.isEmpty, arg :: rest)
        | _ => .ok (!op.isEmpty, arg :: rest)
    | [a] => .ok (!a.isEmpty, [])
    | [] => .error "argument expected"

end

/-- Evaluates the arguments of `test`. -/
def evalTest (files : FileTree) (cwd : Location) (args : List String) : TestResult :=
  match args with
  | [] => .ok false
  | [a] => .ok (!a.isEmpty)
  | ["!", a] => .ok a.isEmpty
  | [op, a] =>
    if unaryOps.contains op then .ok (unaryTest files cwd op a)
    else .error (op ++ ": unexpected operator")
  | [a, op, b] =>
    if binaryOps.contains op then binaryTest op a b
    else if a == "!" then (evalTest2 [op, b]).map (!·)
    else if a == "(" && b == ")" then .ok (!op.isEmpty)
    else .error (op ++ ": unexpected operator")
  | _ => do
    let (r, rest) ← testOr files cwd (args.length + 1) args
    match rest with
    | [] => .ok r
    | x :: _ => .error (x ++ ": unexpected operator")
where
  /-- Two arguments. -/
  evalTest2 : List String → TestResult
    | ["!", a] => .ok a.isEmpty
    | [op, a] =>
      if unaryOps.contains op then .ok (unaryTest files cwd op a)
      else .error (op ++ ": unexpected operator")
    | _ => .ok false

/-- The signal a `trap` condition names; `0` is `EXIT`. -/
def trapCondition (s : String) : Option Signal :=
  if s == "EXIT" || s == "0" then some 0
  else if !s.isEmpty && s.all Char.isDigit then
    let n := s.toNat!
    if n < 65 then some n else none
  else Signal.ofName? s

/-- Whether a character is a blank field separator. -/
def isIfsBlank (c : Char) : Bool := c == ' ' || c == '\t' || c == '\n'

/-- Removes the backslashes of a line read without `-r`. -/
def unescapeLine : List Char → List Char
  | '\\' :: c :: rest => c :: unescapeLine rest
  | ['\\'] => []
  | c :: rest => c :: unescapeLine rest
  | [] => []

/-- Splits a line read by `read` over variables: the first ones take one
field each, the last the rest of the line without the separators around it. -/
def splitRead (ifs : List Char) (line : String) : List String → List (String × String)
  | [] => []
  | [v] =>
    let cs := line.toList.dropWhile (fun c => ifs.contains c && isIfsBlank c)
    let cs := (cs.reverse.dropWhile (fun c => ifs.contains c && isIfsBlank c)).reverse
    [(v, String.ofList cs)]
  | v :: more =>
    let cs := line.toList.dropWhile (fun c => ifs.contains c && isIfsBlank c)
    let field := cs.takeWhile (fun c => !ifs.contains c)
    let rest := cs.drop field.length
    let rest := rest.dropWhile (fun c => ifs.contains c && isIfsBlank c)
    let rest := match rest with
      | c :: r => if ifs.contains c && !isIfsBlank c then r else c :: r
      | [] => []
    (v, String.ofList field) :: splitRead ifs (String.ofList rest) more

theorem evalTest_nonempty (files : FileTree) (cwd : Location) (a : String) :
    evalTest files cwd [a] = .ok (!a.isEmpty) := by
  simp [evalTest]

end LaunchBench.Shell
