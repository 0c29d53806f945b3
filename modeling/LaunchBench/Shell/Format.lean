import LaunchBench.Text.Utf8
/-!
The output of `echo` and `printf`.

Both work on bytes. A backslash escape is `\\`, `\a`, `\b`, `\f`, `\n`, `\r`,
`\t`, `\v`, or up to three octal digits giving one byte; any other backslash
stands for itself. In `echo` arguments and `%b` arguments octal escapes start
with `\0` and `\c` ends all output. `echo` separates its arguments by blanks
and ends with a line end unless its first argument is `-n`.

`printf` reads its format once per round: each conversion takes the next
argument, missing ones reading as empty or zero, and rounds repeat while
arguments are left and the last round took some.

* **`echo_plain`**: arguments without backslashes are written as they are,
  separated by blanks and ended by a line end.
-/

namespace LaunchBench.Shell

/-- Whether a byte is an octal digit. -/
def isOctal (b : UInt8) : Bool := 48 ≤ b && b ≤ 55

/-- Reads up to `n` octal digits into a byte value. -/
def readOctal : Nat → Nat → List UInt8 → Nat × List UInt8
  | 0, v, bs => (v, bs)
  | n + 1, v, b :: bs => if isOctal b then readOctal n (v * 8 + (b.toNat - 48)) bs else (v, b :: bs)
  | _ + 1, v, [] => (v, [])

/-- The byte of an escape after its backslash, and what follows it; `none`
when the escape is unknown and the backslash stands for itself. -/
def escapeByte : List UInt8 → Option (UInt8 × List UInt8)
  | [] => none
  | b :: rest =>
    if isOctal b then
      let (v, rest') := readOctal 3 0 (b :: rest)
      some (UInt8.ofNat (v % 256), rest')
    else
      match b.toNat with
      | 92 => some (92, rest)
      | 97 => some (7, rest)
      | 98 => some (8, rest)
      | 102 => some (12, rest)
      | 110 => some (10, rest)
      | 114 => some (13, rest)
      | 116 => some (9, rest)
      | 118 => some (11, rest)
      | _ => none

/-- Expands the escapes of a `printf` format piece by piece. -/
def formatEscape (bs : List UInt8) : UInt8 × List UInt8 :=
  match escapeByte bs with
  | some r => r
  | none => (92, bs)

/-- Expands the escapes of an `echo` or `%b` argument: the bytes and whether
`\c` stopped the output. `fuel` bounds the bytes read. -/
def escapesFuel : Nat → List UInt8 → List UInt8 → List UInt8 × Bool
  | 0, acc, _ => (acc.reverse, false)
  | _ + 1, acc, [] => (acc.reverse, false)
  | _ + 1, acc, 92 :: 99 :: _ => (acc.reverse, true)
  | fuel + 1, acc, 92 :: 48 :: rest =>
    let (v, rest') := readOctal 3 0 rest
    escapesFuel fuel (UInt8.ofNat (v % 256) :: acc) rest'
  | fuel + 1, acc, 92 :: rest =>
    match escapeByte rest with
    | some (b, rest') => escapesFuel fuel (b :: acc) rest'
    | none => escapesFuel fuel (92 :: acc) rest
  | fuel + 1, acc, b :: rest => escapesFuel fuel (b :: acc) rest

/-- Expands the escapes of an `echo` or `%b` argument. -/
def expandEscapes (acc bs : List UInt8) : List UInt8 × Bool := escapesFuel (bs.length + 1) acc bs

/-- The output of `echo`. -/
def echoBytes (args : List String) : List UInt8 :=
  let (args, newline) := match args with
    | "-n" :: rest => (rest, false)
    | rest => (rest, true)
  let rec go : List String → List UInt8
    | [] => if newline then [10] else []
    | [a] =>
      let (bs, stop) := expandEscapes [] (Text.utf8Bytes a)
      if stop then bs else bs ++ (if newline then [10] else [])
    | a :: rest =>
      let (bs, stop) := expandEscapes [] (Text.utf8Bytes a)
      if stop then bs else bs ++ [32] ++ go rest
  go args

/-- A conversion of a `printf` format. -/
structure Conversion where
  /-- Pad on the right. -/
  left : Bool
  /-- Pad numbers with zeros. -/
  zero : Bool
  /-- Always give a sign. -/
  plus : Bool
  /-- A blank before positive numbers. -/
  space : Bool
  /-- The least width. -/
  width : Nat
  /-- The precision. -/
  precision : Option Nat
  /-- The conversion letter. -/
  letter : Char

/-- Reads the flags, width and precision of a conversion after its `%`. -/
def readConversion (bs : List UInt8) : Option (Conversion × List UInt8) :=
  let flags := bs.takeWhile fun b => b == 45 || b == 48 || b == 43 || b == 32 || b == 35
  let rest := bs.drop flags.length
  let widthDigits := rest.takeWhile fun b => 48 ≤ b && b ≤ 57
  let rest := rest.drop widthDigits.length
  let (precision, rest) := match rest with
    | 46 :: r =>
      let ds := r.takeWhile fun b => 48 ≤ b && b ≤ 57
      (some (ds.foldl (fun n (d : UInt8) => n * 10 + (d.toNat - 48)) 0), r.drop ds.length)
    | r => (none, r)
  match rest with
  | b :: rest' =>
    some (⟨flags.contains 45, flags.contains 48, flags.contains 43, flags.contains 32,
      widthDigits.foldl (fun n (d : UInt8) => n * 10 + (d.toNat - 48)) 0, precision, Char.ofNat b.toNat⟩,
      rest')
  | [] => none

/-- Pads bytes to a width. -/
def pad (c : Conversion) (bs : List UInt8) (zeroOk : Bool) : List UInt8 :=
  let fill := c.width - bs.length
  if c.left then bs ++ List.replicate fill 32
  else if c.zero && zeroOk then
    match bs with
    | 45 :: rest => 45 :: (List.replicate fill 48 ++ rest)
    | _ => List.replicate fill 48 ++ bs
  else List.replicate fill 32 ++ bs

/-- Reads a numeric argument: an optional sign and decimal digits, or a
quote and a character; `none` when it is not a number. -/
def numberArg (s : String) : Option Int :=
  let s := s.trimAsciiStart.toString
  match s.toList with
  | [] => some 0
  | '\'' :: c :: _ | '"' :: c :: _ => some c.toNat
  | '-' :: ds => if !ds.isEmpty && ds.all Char.isDigit then some (-(String.ofList ds).toNat!) else none
  | '+' :: ds => if !ds.isEmpty && ds.all Char.isDigit then some (String.ofList ds).toNat! else none
  | ds => if ds.all Char.isDigit then some (String.ofList ds).toNat! else none

/-- Digits of a natural number in a base. -/
def digitsIn (base : Nat) (upper : Bool) (n : Nat) : String :=
  let ds := Nat.toDigits base n
  String.ofList (if upper then ds.map Char.toUpper else ds)

/-- The result of formatting: the bytes, whether `\c` stopped the output,
and the arguments that could not be read as numbers. -/
structure Formatted where
  /-- The bytes written. -/
  bytes : List UInt8
  /-- Whether output stopped at `\c`. -/
  stopped : Bool
  /-- Arguments that were not numbers. -/
  badNumbers : List String
  /-- A conversion letter that is not known, if one was met. -/
  badDirective : Option String

/-- Formats one conversion with its argument. -/
def convert (c : Conversion) (arg : Option String) : List UInt8 × Bool × List String :=
  let a := arg.getD ""
  match c.letter with
  | 's' =>
    let bs := Text.utf8Bytes a
    (pad c (match c.precision with | some p => bs.take p | none => bs) false, false, [])
  | 'b' =>
    let (bs, stop) := expandEscapes [] (Text.utf8Bytes a)
    (pad c (match c.precision with | some p => bs.take p | none => bs) false, stop, [])
  | 'c' => (pad c ((Text.utf8Bytes a).take 1) false, false, [])
  | l =>
    let (n, bad) := match numberArg a with
      | some n => (n, [])
      | none => (0, [a])
    let body : String := match l with
      | 'd' | 'i' =>
        let mag := toString n.natAbs
        let mag := match c.precision with
          | some p => String.ofList (List.replicate (p - mag.length) '0') ++ mag
          | none => mag
        (if n < 0 then "-" else if c.plus then "+" else if c.space then " " else "") ++ mag
      | 'o' => digitsIn 8 false n.toNat
      | 'u' => toString n.toNat
      | 'x' => digitsIn 16 false n.toNat
      | 'X' => digitsIn 16 true n.toNat
      | _ => ""
    (pad c (Text.utf8Bytes body) c.precision.isNone, false, bad)

/-- One round of a format: the output so far, the arguments left, whether
any was taken. `fuel` bounds the bytes read. -/
def formatRound : Nat → List UInt8 → List String → Formatted → Bool → Formatted × List String × Bool
  | 0, _, args, out, took => (out, args, took)
  | _ + 1, [], args, out, took => (out, args, took)
  | fuel + 1, 92 :: rest, args, out, took =>
    let (b, rest') := formatEscape rest
    formatRound fuel rest' args { out with bytes := out.bytes ++ [b] } took
  | fuel + 1, 37 :: 37 :: rest, args, out, took =>
    formatRound fuel rest args { out with bytes := out.bytes ++ [37] } took
  | fuel + 1, 37 :: rest, args, out, took =>
    match readConversion rest with
    | some (c, rest') =>
      if "sbcdiouxX".contains c.letter then
        let (arg, args', took') := match args with
          | a :: more => (some a, more, true)
          | [] => (none, [], took)
        let (bs, stop, bad) := convert c arg
        let out := { out with bytes := out.bytes ++ bs, badNumbers := out.badNumbers ++ bad }
        if stop then ({ out with stopped := true }, args', took')
        else formatRound fuel rest' args' out took'
      else
        ({ out with badDirective := some ("%" ++ String.singleton c.letter) }, args, took)
    | none => ({ out with bytes := out.bytes ++ [37] }, args, took)
  | fuel + 1, b :: rest, args, out, took =>
    formatRound fuel rest args { out with bytes := out.bytes ++ [b] } took

/-- Formats all the arguments, repeating the format; `rounds` bounds the
repeats. -/
def formatAll (fmt : List UInt8) : Nat → List String → Formatted → Formatted
  | 0, _, out => out
  | rounds + 1, args, out =>
    let (out, rest, took) := formatRound (fmt.length + 1) fmt args out false
    if out.stopped || out.badDirective.isSome || !took || rest.isEmpty then out
    else formatAll fmt rounds rest out

/-- The output of `printf` with a format and arguments. -/
def printfBytes (fmt : String) (args : List String) : Formatted :=
  formatAll (Text.utf8Bytes fmt) (args.length + 1) args ⟨[], false, [], none⟩

theorem escapesFuel_plain (n : Nat) (acc bs : List UInt8) (h : ∀ b ∈ bs, b ≠ 92)
    (hn : bs.length < n) : escapesFuel n acc bs = (acc.reverse ++ bs, false) := by
  induction bs generalizing acc n with
  | nil => cases n <;> simp [escapesFuel]
  | cons b rest ih =>
    have hb : b ≠ 92 := h b (by simp)
    cases n with
    | zero => simp at hn
    | succ n =>
      have hrest : escapesFuel n (b :: acc) rest = ((b :: acc).reverse ++ rest, false) :=
        ih n (b :: acc) (fun c hc => h c (by simp [hc])) (by simp at hn; omega)
      rw [escapesFuel.eq_def]
      split <;> simp_all

theorem expandEscapes_plain (acc bs : List UInt8) (h : ∀ b ∈ bs, b ≠ 92) :
    expandEscapes acc bs = (acc.reverse ++ bs, false) :=
  escapesFuel_plain _ acc bs h (by omega)

theorem echo_plain (a : String) (h : ∀ b ∈ Text.utf8Bytes a, b ≠ 92) (hn : a ≠ "-n") :
    echoBytes [a] = Text.utf8Bytes a ++ [10] := by
  simp [echoBytes, echoBytes.go, hn, expandEscapes_plain [] _ h]

end LaunchBench.Shell
