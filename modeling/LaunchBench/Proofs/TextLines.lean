import LaunchBench.Settings.Parse
import LaunchBench.Text.Blank
import LaunchBench.Text.Lines
/-!
Lines of joined texts, and trimmed lines.

Two texts joined at a line feed have the lines of the first, then those of the second. The
line feed adds an empty line between them only when the first text is empty or already ends
its last line. The first text must not end in a carriage return: that one would be taken into
the line ending, and the first text's last line would lose it.

* **`Text.lines_append_lf`**: the lines of `a ++ "\n" ++ b`.
* **`Text.mem_trimChars`**: trimming keeps every character that is not blank, so a line holds
  a `=` exactly when its trimmed text does.
* **`Text.trimChars_assignment`**: a line `name=rest`, with a name that starts with no blank,
  trims to the name, the `=`, and `rest` without its trailing blanks; trimming that part again
  trims `rest` (`trimChars_trimEnd`).
* **`Settings.cutAt_assignment`**: a line `name=rest` whose name holds no `=` is cut into the
  name and `rest`.
-/

namespace LaunchBench.Text

/-- A line that says nothing to a `key = value` reader: blank once trimmed, or a comment. -/
def quietLine (line : String) : Bool :=
  let trimmed := trimChars line.toList
  trimmed.isEmpty || trimmed.head? = some '#'

theorem dropReturn_of_getLast? {cs : List Char} (h : cs.getLast? ≠ some '\r') :
    dropReturn cs = cs := by
  unfold dropReturn
  split
  · contradiction
  · rfl

/-- A line feed in the middle closes the line before it, and the rest is cut afresh. -/
theorem lineCharsFrom_split_lf (xs ys cur : List Char) :
    lineCharsFrom (xs ++ '\n' :: ys) cur =
      lineCharsFrom (xs ++ ['\n']) cur ++ lineCharsFrom ys [] := by
  induction xs generalizing cur with
  | nil => simp [lineCharsFrom]
  | cons c xs ih =>
    by_cases hc : c = '\n'
    · simp [lineCharsFrom, hc, ih]
    · simp [lineCharsFrom, hc, ih]

/-- A final line feed gives the same lines as none, and an empty line more when no line was
open: `cur` is the open line, last character first, and what follows it must not end in a
carriage return. The induction is on the characters, over the open line. -/
theorem lineCharsFrom_snoc_lf (xs cur : List Char) (hcur : '\n' ∉ cur)
    (hcr : (cur.reverse ++ xs).getLast? ≠ some '\r') :
    lineCharsFrom (xs ++ ['\n']) cur =
      lineCharsFrom xs cur ++
        (if (cur.reverse ++ xs).getLast?.all (· == '\n') then [[]] else []) := by
  induction xs generalizing cur with
  | nil =>
    cases cur with
    | nil => simp [lineCharsFrom, dropReturn]
    | cons c cur =>
      -- the open line ends in `c`, which is neither a line feed nor a carriage return
      have hc : c ≠ '\n' := fun h => hcur (h ▸ List.mem_cons_self)
      have hend : (cur.reverse ++ [c]).getLast? ≠ some '\r' := by simpa using hcr
      simp [lineCharsFrom, dropReturn_of_getLast? hend, hc]
  | cons c xs ih =>
    by_cases hc : c = '\n'
    · -- the open line is closed here, and the rest starts with none open
      subst hc
      have hlast : (cur.reverse ++ '\n' :: xs).getLast? = some (xs.getLast?.getD '\n') := by
        rw [List.getLast?_append, List.getLast?_cons, Option.some_or]
      have hxs : xs.getLast? ≠ some '\r' := by
        intro h
        rw [hlast, h] at hcr
        exact hcr rfl
      have hrest := ih [] List.not_mem_nil (by simpa using hxs)
      rw [List.reverse_nil, List.nil_append] at hrest
      rw [List.cons_append, lineCharsFrom, lineCharsFrom, if_pos rfl, if_pos rfl, hrest, hlast]
      -- the text ends where the rest ends, or in this line feed when the rest is empty
      cases xs.getLast? <;> rfl
    · have hopen : '\n' ∉ c :: cur := by simp [hcur, Ne.symm hc]
      have hsame : (c :: cur).reverse ++ xs = cur.reverse ++ c :: xs := by simp
      simp only [List.cons_append, lineCharsFrom, if_neg hc]
      rw [ih (c :: cur) hopen (hsame ▸ hcr), hsame]

/-- The lines of two texts joined at a line feed: those of the first, an empty one when the
first is empty or ends in a line feed, then those of the second. -/
theorem lines_append_lf {a : String} (b : String) (ha : a.toList.getLast? ≠ some '\r') :
    lines (a ++ "\n" ++ b) =
      lines a ++ (if a.toList.getLast?.all (· == '\n') then [""] else []) ++ lines b := by
  have hsplit : (a ++ "\n" ++ b).toList = a.toList ++ '\n' :: b.toList := by
    simp [String.toList_append]
  have hsnoc := lineCharsFrom_snoc_lf a.toList [] List.not_mem_nil (by simpa using ha)
  simp only [List.reverse_nil, List.nil_append] at hsnoc
  simp only [lines, lineChars, hsplit, lineCharsFrom_split_lf, hsnoc]
  by_cases h : a.toList.getLast?.all (· == '\n') = true <;> simp [h]

theorem mem_dropWhile_isBlank {c : Char} (hc : isBlank c = false) (cs : List Char) :
    c ∈ cs.dropWhile isBlank ↔ c ∈ cs := by
  induction cs with
  | nil => simp
  | cons x cs ih =>
    by_cases hx : isBlank x = true
    · -- `x` is dropped, and it is not `c`
      have hne : c ≠ x := fun h => by rw [h, hx] at hc; cases hc
      simp [hx, ih, hne]
    · simp [hx]

/-- Trimming keeps every character that is not blank. -/
theorem mem_trimChars {c : Char} (hc : isBlank c = false) (cs : List Char) :
    c ∈ trimChars cs ↔ c ∈ cs := by
  simp only [trimChars, List.mem_reverse, mem_dropWhile_isBlank hc]

/-- A text without line feeds is one line, unless it is empty. -/
theorem lineCharsFrom_of_no_lf {cs : List Char} (h : '\n' ∉ cs) (cur : List Char)
    (hne : cur.reverse ++ cs ≠ []) : lineCharsFrom cs cur = [cur.reverse ++ cs] := by
  induction cs generalizing cur with
  | nil => simpa [lineCharsFrom] using hne
  | cons c cs ih =>
    have hc : c ≠ '\n' := fun hc => h (hc ▸ List.mem_cons_self)
    rw [lineCharsFrom, if_neg hc, ih (fun hm => h (List.mem_cons_of_mem c hm)) (c :: cur) (by simp)]
    simp

theorem lines_of_no_lf {line : String} (h : '\n' ∉ line.toList) (hne : line.toList ≠ []) :
    lines line = [line] := by
  simp [lines, lineChars, lineCharsFrom_of_no_lf h [] (by simpa using hne)]

/-! ### Trimming -/

theorem dropWhile_blank_append {t : List Char} (ht : ∀ c ∈ t, isBlank c = true)
    (y : List Char) : (t ++ y).dropWhile isBlank = y.dropWhile isBlank := by
  induction t with
  | nil => rfl
  | cons c t ih =>
    rw [List.cons_append, List.dropWhile_cons, if_pos (ht c List.mem_cons_self)]
    exact ih fun c' hc' => ht c' (List.mem_cons_of_mem c hc')

theorem blank_of_mem_takeWhile {c : Char} {l : List Char} (h : c ∈ l.takeWhile isBlank) :
    isBlank c = true := by
  induction l with
  | nil => cases h
  | cons x l ih =>
    rw [List.takeWhile_cons] at h
    split at h
    · next hx =>
      rcases List.mem_cons.1 h with rfl | h
      · exact hx
      · exact ih h
    · cases h

/-- Blanks at the end do not change what a text trims to. -/
theorem trimChars_append_blank (x : List Char) {t : List Char}
    (ht : ∀ c ∈ t, isBlank c = true) : trimChars (x ++ t) = trimChars x := by
  unfold trimChars
  rw [List.dropWhile_append]
  cases hx : x.dropWhile isBlank with
  | nil =>
    -- all of `x` is blank, and so is `t`
    have htail : t.dropWhile isBlank = [] := by simpa using dropWhile_blank_append ht []
    simp [htail]
  | cons d ds =>
    -- the blank end goes before anything of `x` is dropped
    simp only [List.isEmpty_cons, Bool.false_eq_true, if_false, List.reverse_append]
    rw [dropWhile_blank_append (fun c hc => ht c (List.mem_reverse.1 hc))]

/-- A text without its trailing blanks trims to what the text trims to. -/
theorem trimChars_trimEnd (cs : List Char) :
    trimChars (cs.reverse.dropWhile isBlank).reverse = trimChars cs := by
  have hsplit : cs =
      (cs.reverse.dropWhile isBlank).reverse ++ (cs.reverse.takeWhile isBlank).reverse := by
    rw [← List.reverse_append, List.takeWhile_append_dropWhile, List.reverse_reverse]
  calc trimChars (cs.reverse.dropWhile isBlank).reverse
      = trimChars ((cs.reverse.dropWhile isBlank).reverse ++
          (cs.reverse.takeWhile isBlank).reverse) :=
        (trimChars_append_blank _ fun c hc => blank_of_mem_takeWhile (List.mem_reverse.1 hc)).symm
    _ = trimChars cs := by rw [← hsplit]

/-- A line `name=rest` whose name starts with no blank trims to the name, the `=`, and `rest`
without its trailing blanks. -/
theorem trimChars_assignment {name : List Char}
    (hname : ∀ c, name.head? = some c → isBlank c = false) (rest : List Char) :
    trimChars (name ++ '=' :: rest) = name ++ '=' :: (rest.reverse.dropWhile isBlank).reverse := by
  have heq : isBlank '=' = false := by decide
  have hfront : (name ++ '=' :: rest).dropWhile isBlank = name ++ '=' :: rest := by
    cases name with
    | nil => simp [heq]
    | cons c name => simp [hname c rfl]
  -- from the end, the blanks of `rest` go and the `=` stops the dropping
  have hback : (rest.reverse ++ '=' :: name.reverse).dropWhile isBlank =
      rest.reverse.dropWhile isBlank ++ '=' :: name.reverse := by
    rw [List.dropWhile_append]
    split
    · next h =>
      rw [List.isEmpty_iff.1 h]
      simp [heq]
    · rfl
  have hrev : (name ++ '=' :: rest).reverse = rest.reverse ++ '=' :: name.reverse := by simp
  rw [trimChars, hfront, hrev, hback]
  simp

/-- A value wrapped in a character that is not blank trims to itself. -/
theorem trimChars_quoted {q : Char} (hq : isBlank q = false) (v : List Char) :
    trimChars (q :: (v ++ [q])) = q :: (v ++ [q]) := by
  simp [trimChars, hq]

/-- A text made only of characters that are not blank trims to itself. -/
theorem trimChars_of_not_blank {cs : List Char} (h : ∀ c ∈ cs, isBlank c = false) :
    trimChars cs = cs := by
  have hdrop : ∀ l : List Char, (∀ c ∈ l, isBlank c = false) → l.dropWhile isBlank = l := by
    intro l hl
    cases l with
    | nil => rfl
    | cons c l => simp [hl c List.mem_cons_self]
  rw [trimChars, hdrop cs h, hdrop cs.reverse (by simpa using h), List.reverse_reverse]

end LaunchBench.Text

namespace LaunchBench.Settings

/-! ### Cutting at the first `=` -/

theorem cutAt_eq_none_iff {cs : List Char} : cutAt '=' cs = none ↔ '=' ∉ cs := by
  rw [← List.idxOf?_eq_none_iff]
  unfold cutAt
  split <;> simp_all

theorem cutAt_cons_self (rest : List Char) : cutAt '=' ('=' :: rest) = some ([], rest) := by
  simp [cutAt, List.idxOf?_cons]

theorem cutAt_cons {c : Char} (hc : c ≠ '=') (cs : List Char) :
    cutAt '=' (c :: cs) = (cutAt '=' cs).map fun p => (c :: p.1, p.2) := by
  unfold cutAt
  rw [List.idxOf?_cons]
  cases List.idxOf? '=' cs <;> simp [hc]

/-- A line `name=rest` whose name holds no `=` is cut into the name and `rest`. -/
theorem cutAt_assignment {name : List Char} (h : '=' ∉ name) (rest : List Char) :
    cutAt '=' (name ++ '=' :: rest) = some (name, rest) := by
  induction name with
  | nil => exact cutAt_cons_self rest
  | cons c name ih =>
    have hc : c ≠ '=' := fun hc => h (hc ▸ List.mem_cons_self)
    rw [List.cons_append, cutAt_cons hc, ih (fun hm => h (List.mem_cons_of_mem c hm))]
    rfl

end LaunchBench.Settings
