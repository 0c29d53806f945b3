/-!
Shell patterns.

A pattern is a sequence of characters, each marked as quoted or not. An
unquoted `*` matches any run of characters, an unquoted `?` any one
character, and an unquoted `[…]` one character of a set: single characters,
ranges `a-z` and classes such as `[:digit:]`, the whole set negated by a
leading `!` or `^`. A `[` without its closing `]` is an ordinary character,
as is every quoted character.

* **`matches_literal`**: a pattern of quoted characters matches exactly its
  own text.
-/

namespace LaunchBench.Shell

/-- A pattern character and whether it is quoted. -/
abbrev PatChar := Char × Bool

/-- One item of a bracket set. -/
inductive SetItem where
  /-- One character. -/
  | single (c : Char)
  /-- A range of characters. -/
  | range (lo hi : Char)
  /-- A named class. -/
  | named (name : String)
deriving Repr, DecidableEq

/-- Whether a character belongs to a named class. -/
def inClass (name : String) (c : Char) : Bool :=
  match name with
  | "digit" => c.isDigit
  | "alpha" => c.isAlpha
  | "alnum" => c.isAlphanum
  | "upper" => c.isUpper
  | "lower" => c.isLower
  | "space" => c == ' ' || c == '\t' || c == '\n' || c == '\r' || c == '\x0b' || c == '\x0c'
  | "blank" => c == ' ' || c == '\t'
  | "xdigit" => c.isDigit || ('a' ≤ c && c ≤ 'f') || ('A' ≤ c && c ≤ 'F')
  | "punct" => c.toNat > 32 && c.toNat < 127 && !c.isAlphanum
  | _ => false

/-- Whether a character belongs to an item. -/
def SetItem.admits (c : Char) : SetItem → Bool
  | .single x => c == x
  | .range lo hi => lo ≤ c && c ≤ hi
  | .named n => inClass n c

/-- Reads the items of a bracket set after its first item, up to the closing
`]`; gives the items and the pattern after the bracket. `fuel` bounds the
items read. -/
def setItems : Nat → List PatChar → List SetItem → Option (List SetItem × List PatChar)
  | 0, _, _ => none
  | _ + 1, [], _ => none
  | _ + 1, (']', false) :: rest, acc => some (acc, rest)
  | fuel + 1, ('[', false) :: (':', false) :: rest, acc =>
    let name := rest.takeWhile (·.1 != ':')
    match rest.dropWhile (·.1 != ':') with
    | (':', _) :: (']', _) :: rest' =>
      setItems fuel rest' (acc ++ [.named (String.ofList (name.map (·.1)))])
    | _ => setItems fuel ((':', false) :: rest) (acc ++ [.single '['])
  | fuel + 1, (c, _) :: ('-', false) :: (d, q) :: rest, acc =>
    if d == ']' && !q then setItems fuel ((']', false) :: rest) (acc ++ [.single c, .single '-'])
    else setItems fuel rest (acc ++ [.range c d])
  | fuel + 1, (c, _) :: rest, acc => setItems fuel rest (acc ++ [.single c])

/-- Reads a bracket set after its `[`: whether it is negated, its items and
the pattern after it; `none` when it is not closed. -/
def bracketSet (ps : List PatChar) : Option (Bool × List SetItem × List PatChar) :=
  let (neg, body) := match ps with
    | ('!', false) :: r | ('^', false) :: r => (true, r)
    | r => (false, r)
  match body with
  | (c, _) :: rest => (setItems (rest.length + 1) rest [.single c]).map fun (items, after) => (neg, items, after)
  | [] => none

/-- The suffixes of a list, longest first. -/
def tails {α : Type} : List α → List (List α)
  | [] => [[]]
  | x :: xs => (x :: xs) :: tails xs

/-- Whether a text matches a pattern; `fuel` bounds the pattern characters read. -/
def matchFuel : Nat → List PatChar → List Char → Bool
  | 0, _, _ => false
  | _ + 1, [], s => s.isEmpty
  | fuel + 1, (c, q) :: ps, s =>
    if !q && c == '*' then (tails s).any (matchFuel fuel ps)
    else if !q && c == '?' then
      match s with
      | _ :: r => matchFuel fuel ps r
      | [] => false
    else if !q && c == '[' then
      match bracketSet ps with
      | some (neg, items, after) =>
        match s with
        | x :: r => (items.any (·.admits x) != neg) && matchFuel fuel after r
        | [] => false
      | none =>
        match s with
        | x :: r => x == '[' && matchFuel fuel ps r
        | [] => false
    else
      match s with
      | x :: r => x == c && matchFuel fuel ps r
      | [] => false

/-- Whether a text matches a pattern. -/
def globMatches (p : List PatChar) (s : String) : Bool :=
  matchFuel (p.length + 1) p s.toList

/-- Whether a pattern has an unquoted special character. -/
def hasMagic (p : List PatChar) : Bool :=
  p.any fun (c, q) => !q && (c == '*' || c == '?' || c == '[')

/-- A text as a pattern that matches only itself. -/
def literalPattern (s : String) : List PatChar := s.toList.map (·, true)

theorem matchFuel_literal (s : List Char) (n : Nat) (h : s.length < n) :
    matchFuel n (s.map (·, true)) s = true := by
  induction s generalizing n with
  | nil => cases n with
    | zero => simp at h
    | succ n => simp [matchFuel]
  | cons x xs ih =>
    cases n with
    | zero => simp at h
    | succ n =>
      simp only [List.map_cons, matchFuel, Bool.not_true, Bool.false_and, Bool.false_eq_true,
        ↓reduceIte, beq_self_eq_true, Bool.true_and]
      exact ih n (by simp at h; omega)

theorem matches_literal (s : String) : globMatches (literalPattern s) s = true := by
  unfold globMatches literalPattern
  exact matchFuel_literal s.toList _ (by simp)

end LaunchBench.Shell
