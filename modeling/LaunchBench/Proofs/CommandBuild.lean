import Mathlib.Data.List.Forall2
import LaunchBench.Command.Builder
/-!
Building commands, token by token.

A token is text with `{name}` placeholders. Read from the left, it is some text without
`{`, then placeholders, each a `{`, a name without `}` and a `}`, followed by text without
`{`; a `{` that no `}` follows leaves the rest of the token unclosed. Names may hold `{`,
and text may hold `}`. Every token has exactly one such reading (`TokenParts`).

Filling a token replaces every placeholder by its value, inserted as it is and never read
again. The first placeholder, from the left, whose name has no value makes the token
unresolved; only when every name has a value does an unclosed placeholder make it
unterminated.

* **`tokenParts_existsUnique`**: every token has one reading.
* **`fillToken_eq_substitute`**: filling a token is substituting its reading.
* **`build_spec`**: building a template fails as empty exactly when it has no tokens,
  fails with the error of the first token that cannot be filled, and otherwise gives one
  word per token, the build tool started through its `.cmd` wrapper on Windows, in the
  given directory, log and environment.
-/

namespace LaunchBench

/-- A token read as text and placeholders: the text before the first placeholder, each
placeholder's name with the text after it, and what follows a last `{` that is never
closed, if there is one. -/
structure TokenParts where
  lead : List Char
  holes : List (List Char × List Char)
  unclosed : Option (List Char)

namespace TokenParts

/-- The characters of a placeholder and the text after it. -/
def holeChars (h : List Char × List Char) : List Char :=
  '{' :: h.1 ++ '}' :: h.2

/-- The characters of the token read this way. -/
def chars (p : TokenParts) : List Char :=
  p.lead ++ p.holes.flatMap holeChars ++ (p.unclosed.map ('{' :: ·)).getD []

/-- A reading that is the token's own: text holds no `{`, and neither a name nor an
unclosed rest holds a `}`. -/
structure WellFormed (p : TokenParts) : Prop where
  lead : '{' ∉ p.lead
  names : ∀ h ∈ p.holes, '}' ∉ h.1
  texts : ∀ h ∈ p.holes, '{' ∉ h.2
  unclosed : ∀ r ∈ p.unclosed, '}' ∉ r

/-- Whether a placeholder's name has a value. -/
def known (params : TextMap) (h : List Char × List Char) : Bool :=
  (KeyMap.get? params (String.ofList h.1)).isSome

/-- The text of a reading with every placeholder replaced by its value. -/
def filled (params : TextMap) (p : TokenParts) : List Char :=
  p.lead ++ p.holes.flatMap fun h => ((KeyMap.get? params (String.ofList h.1)).getD "").toList ++ h.2

/-- What filling gives for a token read as `p`: the leftmost placeholder whose name has no
value is unresolved; else a placeholder never closed leaves the token unterminated; else
every placeholder is replaced by its value. -/
def substitute (params : TextMap) (t : Template) (token : String) (p : TokenParts) :
    Except CommandError (List Char) :=
  match p.holes.find? fun h => !known params h with
  | some h => .error (.unresolvedPlaceholder t (String.ofList h.1))
  | none => if p.unclosed.isSome then .error (.unterminated token) else .ok (p.filled params)

/-- Dropping the leading text keeps a reading well formed. -/
theorem WellFormed.dropLead {lead : List Char} {holes : List (List Char × List Char)}
    {u : Option (List Char)} (hp : (TokenParts.mk lead holes u).WellFormed) :
    (TokenParts.mk [] holes u).WellFormed :=
  ⟨by simp, hp.names, hp.texts, hp.unclosed⟩

/-- Past its first placeholder, a well-formed reading goes on as one whose leading text is
the text after that placeholder. -/
theorem WellFormed.next {lead n x : List Char} {hs : List (List Char × List Char)}
    {u : Option (List Char)} (hp : (TokenParts.mk lead ((n, x) :: hs) u).WellFormed) :
    '}' ∉ n ∧ (TokenParts.mk x hs u).WellFormed :=
  ⟨hp.names (n, x) List.mem_cons_self,
    ⟨hp.texts (n, x) List.mem_cons_self, fun h hh => hp.names h (List.mem_cons_of_mem _ hh),
      fun h hh => hp.texts h (List.mem_cons_of_mem _ hh), hp.unclosed⟩⟩

@[simp] theorem chars_mk (lead : List Char) (holes : List (List Char × List Char))
    (u : Option (List Char)) :
    (TokenParts.mk lead holes u).chars = lead ++ holes.flatMap holeChars ++ (u.map ('{' :: ·)).getD [] :=
  rfl

/-! ### Reading a token -/

/-- Puts a character in front of a reading's leading text. -/
def consLead (c : Char) (p : TokenParts) : TokenParts :=
  { p with lead := c :: p.lead }

/-- A reading that starts with the placeholder `name`, the old leading text after it. -/
def openHole (name : List Char) (p : TokenParts) : TokenParts :=
  ⟨[], (name, p.lead) :: p.holes, p.unclosed⟩

/-- Reads characters into text and placeholders; `inside` holds the name read so far, last
character first, while within a placeholder. -/
def readFrom : List Char → Option (List Char) → TokenParts
  | [], none => ⟨[], [], none⟩
  | [], some name => ⟨[], [], some name.reverse⟩
  | c :: cs, none => if c = '{' then readFrom cs (some []) else consLead c (readFrom cs none)
  | c :: cs, some name =>
    if c = '}' then openHole name.reverse (readFrom cs none) else readFrom cs (some (c :: name))

/-- The reading of a token's characters. -/
def read (cs : List Char) : TokenParts := readFrom cs none

@[simp] theorem chars_consLead (c : Char) (p : TokenParts) : (consLead c p).chars = c :: p.chars :=
  rfl

@[simp] theorem chars_openHole (n : List Char) (p : TokenParts) :
    (openHole n p).chars = '{' :: n ++ '}' :: p.chars := by
  simp [openHole, chars, holeChars]

/-- Reading gives back the characters read, after the open placeholder's `{` and name. -/
theorem chars_readFrom (cs : List Char) (inside : Option (List Char)) :
    (readFrom cs inside).chars = ((inside.map fun n => '{' :: n.reverse).getD []) ++ cs := by
  fun_induction readFrom cs inside with
  | case1 => rfl
  | case2 name => simp
  | case3 cs ih => simpa using ih
  | case4 c cs hc ih => simp [ih]
  | case5 cs name ih => simp [ih]
  | case6 c cs name hc ih => simp [ih]

/-- Every reading is well formed, and one started inside a placeholder has no leading text. -/
theorem readFrom_wellFormed (cs : List Char) (inside : Option (List Char))
    (h : ∀ n ∈ inside, '}' ∉ n) :
    (readFrom cs inside).WellFormed ∧ (inside.isSome → (readFrom cs inside).lead = []) := by
  fun_induction readFrom cs inside with
  | case1 => exact ⟨⟨by simp, by simp, by simp, by simp⟩, by simp⟩
  | case2 name => exact ⟨⟨by simp, by simp, by simp, by simpa using h⟩, fun _ => rfl⟩
  | case3 cs ih => exact ⟨(ih (by simp)).1, by simp⟩
  | case4 c cs hc ih =>
    obtain ⟨hw, -⟩ := ih (by simp)
    have hlead : '{' ∉ c :: (readFrom cs none).lead := by
      simp only [List.mem_cons, not_or]
      exact ⟨fun h => hc h.symm, hw.lead⟩
    exact ⟨⟨hlead, hw.names, hw.texts, hw.unclosed⟩, by simp⟩
  | case5 cs name ih =>
    obtain ⟨hw, -⟩ := ih (by simp)
    have hn : '}' ∉ name := h name rfl
    refine ⟨⟨by simp [openHole], ?_, ?_, hw.unclosed⟩, fun _ => rfl⟩
    · simpa [openHole, hn] using hw.names
    · simpa [openHole] using And.intro hw.lead hw.texts
  | case6 c cs name hc ih =>
    have hn : '}' ∉ name := h name rfl
    exact ih (by simp [hn, Ne.symm hc])

/-- Text without `{` is read as leading text. -/
theorem readFrom_text {x : List Char} (hx : '{' ∉ x) (rest : List Char) :
    readFrom (x ++ rest) none = { readFrom rest none with lead := x ++ (readFrom rest none).lead } := by
  induction x with
  | nil => rfl
  | cons c x ih =>
    have hc : c ≠ '{' := fun h => hx (h ▸ List.mem_cons_self)
    simp only [List.cons_append, readFrom, hc, if_false, ih (fun h => hx (List.mem_cons_of_mem _ h))]
    rfl

/-- A name without `}` is read into the open placeholder. -/
theorem readFrom_name {n : List Char} (hn : '}' ∉ n) (rest acc : List Char) :
    readFrom (n ++ rest) (some acc) = readFrom rest (some (n.reverse ++ acc)) := by
  induction n generalizing acc with
  | nil => rfl
  | cons c n ih =>
    have hc : c ≠ '}' := fun h => hn (h ▸ List.mem_cons_self)
    simp only [List.cons_append, readFrom, hc, if_false,
      ih (fun h => hn (List.mem_cons_of_mem _ h)), List.reverse_cons, List.append_assoc,
      List.cons_append, List.nil_append]

/-- Placeholders, each followed by text, and an unclosed rest are read back as they are. -/
theorem readFrom_holes {holes : List (List Char × List Char)} {u : Option (List Char)}
    (hw : (TokenParts.mk [] holes u).WellFormed) :
    readFrom (holes.flatMap holeChars ++ (u.map ('{' :: ·)).getD []) none = ⟨[], holes, u⟩ := by
  induction holes with
  | nil =>
    cases u with
    | none => rfl
    | some r =>
      have hr : '}' ∉ r := hw.unclosed r rfl
      have := readFrom_name hr [] []
      simp_all [readFrom]
  | cons h hs ih =>
    obtain ⟨n, x⟩ := h
    obtain ⟨hn, hnext⟩ := hw.next
    have hx : '{' ∉ x := hnext.lead
    have hrest := hnext.dropLead
    simp only [List.flatMap_cons, holeChars, List.cons_append, List.append_assoc, readFrom,
      if_true, readFrom_name hn, List.append_nil, List.reverse_reverse, readFrom_text hx, ih hrest]
    rfl

/-- The reading of a token is well formed. -/
theorem read_wellFormed (cs : List Char) : (read cs).WellFormed :=
  (readFrom_wellFormed cs none (by simp)).1

/-- The reading of a token gives back its characters. -/
theorem chars_read (cs : List Char) : (read cs).chars = cs := by
  simpa [read] using chars_readFrom cs none

/-- A well-formed reading is what its characters read as: so a token has one reading. -/
theorem read_chars {p : TokenParts} (hp : p.WellFormed) : read p.chars = p := by
  obtain ⟨lead, holes, u⟩ := p
  simp only [read, chars_mk, List.append_assoc, readFrom_text hp.lead, readFrom_holes hp.dropLead,
    List.append_nil]

/-! ### Substituting a reading -/

/-- Leading text is kept in front of whatever the rest substitutes to. -/
theorem substitute_lead (params : TextMap) (t : Template) (token : String) (lead : List Char)
    (holes : List (List Char × List Char)) (u : Option (List Char)) :
    substitute params t token ⟨lead, holes, u⟩ =
      (substitute params t token ⟨[], holes, u⟩).map (lead ++ ·) := by
  dsimp only [substitute]
  cases holes.find? fun h => !known params h with
  | some h => rfl
  | none => cases u <;> simp [Except.map, filled]

/-- A first placeholder without a value is the one reported. -/
theorem substitute_cons_unknown {params : TextMap} {n : List Char}
    (hn : KeyMap.get? params (String.ofList n) = none) (t : Template) (token : String)
    (x : List Char) (hs : List (List Char × List Char)) (u : Option (List Char)) :
    substitute params t token ⟨[], (n, x) :: hs, u⟩ =
      .error (.unresolvedPlaceholder t (String.ofList n)) := by
  simp [substitute, known, hn]

/-- A first placeholder with a value is replaced by it, before the rest is substituted. -/
theorem substitute_cons_known {params : TextMap} {n : List Char} {v : String}
    (hn : KeyMap.get? params (String.ofList n) = some v) (t : Template) (token : String)
    (x : List Char) (hs : List (List Char × List Char)) (u : Option (List Char)) :
    substitute params t token ⟨[], (n, x) :: hs, u⟩ =
      (substitute params t token ⟨[], hs, u⟩).map (v.toList ++ x ++ ·) := by
  have hk : known params (n, x) = true := by simp [known, hn]
  dsimp only [substitute]
  simp only [List.find?_cons, hk, Bool.not_true]
  cases hs.find? fun h => !known params h with
  | some h => rfl
  | none => cases u <;> simp [Except.map, filled, hn]

/-- A reading substitutes to text exactly when every placeholder is closed and every name
has a value; the text is then the reading with each placeholder replaced. -/
theorem substitute_eq_ok_iff {params : TextMap} {t : Template} {token : String} {p : TokenParts}
    {out : List Char} :
    p.substitute params t token = .ok out ↔
      p.unclosed = none ∧ (∀ h ∈ p.holes, known params h) ∧ out = p.filled params := by
  unfold substitute
  cases hf : p.holes.find? fun h => !known params h with
  | some h =>
    have hh : h ∈ p.holes := List.mem_of_find?_eq_some hf
    have hu : known params h = false := by simpa using List.find?_some hf
    simp only [reduceCtorEq, false_iff, not_and]
    exact fun _ hall => absurd (hall h hh) (by simp [hu])
  | none =>
    have hall : ∀ h ∈ p.holes, known params h := by simpa using List.find?_eq_none.1 hf
    cases hu : p.unclosed with
    | none =>
      simp only [Option.isSome_none, Bool.false_eq_true, if_false, Except.ok.injEq, true_and]
      exact ⟨fun h => ⟨hall, h.symm⟩, fun h => h.2.symm⟩
    | some r => simp

/-- Substitution fails only with an unresolved or an unterminated placeholder. -/
theorem substitute_ne_empty {params : TextMap} {t t' : Template} {token : String}
    {p : TokenParts} : p.substitute params t token ≠ .error (.empty t') := by
  unfold substitute
  split
  · simp
  · split <;> simp

end TokenParts

/-- Every token has exactly one well-formed reading. -/
theorem tokenParts_existsUnique (cs : List Char) :
    ∃! p : TokenParts, p.WellFormed ∧ p.chars = cs := by
  refine ⟨TokenParts.read cs, ⟨TokenParts.read_wellFormed cs, TokenParts.chars_read cs⟩, ?_⟩
  rintro p ⟨hp, rfl⟩
  exact (TokenParts.read_chars hp).symm

namespace CommandBuilder

open TokenParts

variable (params : TextMap) (t : Template) (token : String)

/-- Text without `{` is copied as it is. -/
theorem fillChars_text {x : List Char} (hx : '{' ∉ x) (rest : List Char) :
    fillChars params t token (x ++ rest) none = (fillChars params t token rest none).map (x ++ ·) := by
  induction x with
  | nil =>
    simp only [List.nil_append]
    cases fillChars params t token rest none <;> rfl
  | cons c x ih =>
    have hc : c ≠ '{' := fun h => hx (h ▸ List.mem_cons_self)
    simp only [List.cons_append, fillChars, hc, if_false, ih (fun h => hx (List.mem_cons_of_mem _ h))]
    cases fillChars params t token rest none <;> rfl

/-- A name without `}` is read into the open placeholder. -/
theorem fillChars_name {n : List Char} (hn : '}' ∉ n) (rest acc : List Char) :
    fillChars params t token (n ++ rest) (some acc) =
      fillChars params t token rest (some (n.reverse ++ acc)) := by
  induction n generalizing acc with
  | nil => rfl
  | cons c n ih =>
    have hc : c ≠ '}' := fun h => hn (h ▸ List.mem_cons_self)
    simp only [List.cons_append, fillChars, hc, if_false,
      ih (fun h => hn (List.mem_cons_of_mem _ h)), List.reverse_cons, List.append_assoc,
      List.cons_append, List.nil_append]

/-- A placeholder that is never closed leaves the token unterminated. -/
theorem fillChars_unclosed {r : List Char} (hr : '}' ∉ r) (acc : List Char) :
    fillChars params t token r (some acc) = .error (.unterminated token) := by
  have := fillChars_name params t token hr [] acc
  simp only [List.append_nil] at this
  rw [this, fillChars]

/-- Placeholders, each followed by text, and an unclosed rest fill as their reading
substitutes. -/
theorem fillChars_holes {holes : List (List Char × List Char)} {u : Option (List Char)}
    (hw : (TokenParts.mk [] holes u).WellFormed) :
    fillChars params t token (holes.flatMap holeChars ++ (u.map ('{' :: ·)).getD []) none =
      substitute params t token ⟨[], holes, u⟩ := by
  induction holes with
  | nil =>
    cases u with
    | none => rfl
    | some r =>
      simp [fillChars, fillChars_unclosed params t token (hw.unclosed r rfl), substitute]
  | cons h hs ih =>
    obtain ⟨n, x⟩ := h
    obtain ⟨hn, hnext⟩ := hw.next
    have hx : '{' ∉ x := hnext.lead
    have hrest := hnext.dropLead
    simp only [List.flatMap_cons, holeChars, List.cons_append, List.append_assoc, fillChars,
      if_true, fillChars_name params t token hn, List.append_nil, List.reverse_reverse]
    -- the placeholder closes here: its value, if any, goes in front of the rest
    cases hv : KeyMap.get? params (String.ofList n) with
    | none => simp [substitute_cons_unknown hv]
    | some v =>
      simp only [fillChars_text params t token hx, ih hrest, substitute_cons_known hv]
      cases substitute params t token ⟨[], hs, u⟩ <;> simp [Except.map]

end CommandBuilder

/-- Filling a token is substituting its reading: the leftmost placeholder without a value
is unresolved, else an unclosed one makes the token unterminated, else every placeholder
is replaced by its value, and values are never read again. -/
theorem fillToken_eq_substitute (b : CommandBuilder) (t : Template) {token : String}
    {p : TokenParts} (hp : p.WellFormed) (hc : p.chars = token.toList) :
    b.fillToken t token = (p.substitute b.params t token).map String.ofList := by
  obtain ⟨lead, holes, u⟩ := p
  simp only [CommandBuilder.fillToken, ← hc, TokenParts.chars_mk, List.append_assoc,
    CommandBuilder.fillChars_text _ _ _ hp.lead, CommandBuilder.fillChars_holes _ _ _ hp.dropLead]
  rw [TokenParts.substitute_lead _ _ _ lead]

example : ((CommandBuilder.new .linux).withParam "app" "{x}").fillToken .run "{app}-{os}" =
    .ok "{x}-linux" := by rfl

example : (CommandBuilder.new .linux).fillToken .run "{nope}\x7b" =
    .error (.unresolvedPlaceholder .run "nope") := by rfl

namespace CommandBuilder

variable (b : CommandBuilder) (t : Template)

/-- Filling never fails as empty: that error belongs to the template. -/
theorem fillToken_ne_empty (token : String) (t' : Template) :
    b.fillToken t token ≠ .error (.empty t') := by
  rw [fillToken_eq_substitute b t (TokenParts.read_wellFormed _) (TokenParts.chars_read _)]
  cases h : TokenParts.substitute b.params t token (TokenParts.read token.toList) with
  | ok _ => simp [Except.map]
  | error e =>
    have : e ≠ .empty t' := fun he => TokenParts.substitute_ne_empty (he ▸ h)
    simpa [Except.map] using this

/-- Filling the tokens succeeds when every token fills, with one word per token. -/
theorem fillAll_eq_ok_iff (toks vs : List String) :
    b.fillAll t toks = .ok vs ↔ List.Forall₂ (fun tok v => b.fillToken t tok = .ok v) toks vs := by
  induction toks generalizing vs with
  | nil => simp [fillAll, eq_comm]
  | cons tok rest ih =>
    simp only [fillAll, List.forall₂_cons_left_iff]
    cases hv : b.fillToken t tok with
    | error e => simp [bind, Except.bind]
    | ok v =>
      cases hr : b.fillAll t rest with
      | error e =>
        simp only [bind, Except.bind, reduceCtorEq, false_iff, not_exists, not_and]
        intro v' vs' _ hvs
        exact absurd ((ih vs').2 hvs) (by simp [hr])
      | ok vs' =>
        have hvs' := (ih vs').1 hr
        simp only [bind, Except.bind, pure, Except.pure, Except.ok.injEq]
        constructor
        · rintro rfl
          exact ⟨v, vs', rfl, hvs', rfl⟩
        · rintro ⟨v'', vs'', rfl, hvs'', rfl⟩
          rw [Except.ok.inj (hr.symm.trans ((ih vs'').2 hvs''))]

/-- Filling the tokens fails with the error of the first token that cannot be filled. -/
theorem fillAll_eq_error_iff (toks : List String) (e : CommandError) :
    b.fillAll t toks = .error e ↔
      ∃ pre tok post, toks = pre ++ tok :: post ∧ (∀ x ∈ pre, ∃ v, b.fillToken t x = .ok v) ∧
        b.fillToken t tok = .error e := by
  induction toks with
  | nil => simp [fillAll]
  | cons tok rest ih =>
    cases hv : b.fillToken t tok with
    | error e' =>
      simp only [fillAll, hv, bind, Except.bind, Except.error.injEq]
      constructor
      · rintro rfl
        exact ⟨[], tok, rest, rfl, by simp, hv⟩
      · rintro ⟨pre, tok', post, hsplit, hpre, htok⟩
        cases pre with
        | nil =>
          obtain ⟨rfl, -⟩ := List.cons.inj hsplit
          exact Except.error.inj (hv ▸ htok)
        | cons x pre =>
          obtain ⟨w, hw⟩ := hpre x List.mem_cons_self
          rw [← (List.cons.inj hsplit).1, hv] at hw
          exact absurd hw (by simp)
    | ok v =>
      -- the first token fills, so the failure lies in the rest
      have hrest : b.fillAll t (tok :: rest) = .error e ↔ b.fillAll t rest = .error e := by
        simp only [fillAll, hv, bind, Except.bind]
        cases b.fillAll t rest <;> simp [pure, Except.pure]
      rw [hrest, ih]
      constructor
      · rintro ⟨pre, tok', post, rfl, hpre, htok⟩
        refine ⟨tok :: pre, tok', post, rfl, ?_, htok⟩
        intro x hx
        rcases List.mem_cons.1 hx with rfl | hx
        · exact ⟨v, hv⟩
        · exact hpre x hx
      · rintro ⟨pre, tok', post, hsplit, hpre, htok⟩
        cases pre with
        | nil =>
          obtain ⟨rfl, -⟩ := List.cons.inj hsplit
          exact absurd (hv ▸ htok) (by simp)
        | cons x pre =>
          obtain ⟨-, rfl⟩ := List.cons.inj hsplit
          exact ⟨pre, tok', post, rfl, fun y hy => hpre y (List.mem_cons_of_mem _ hy), htok⟩

variable (workdir logFile : HostPath)

/-- A template without tokens, and only such a template, fails as empty. -/
theorem build_eq_empty_iff :
    (∃ t', b.build t workdir logFile = .error (.empty t')) ↔ b.tokens t = [] := by
  constructor
  · rintro ⟨t', h⟩
    by_contra hne
    simp only [build, List.isEmpty_iff, hne, if_false, bind, Except.bind] at h
    cases hf : b.fillAll t (b.tokens t) with
    | ok argv => simp [hf, pure, Except.pure] at h
    | error e =>
      rw [hf] at h
      obtain rfl := Except.error.inj h
      obtain ⟨_, tok, _, _, _, htok⟩ := (fillAll_eq_error_iff b t _ _).1 hf
      exact fillToken_ne_empty b t tok t' htok
  · intro h
    exact ⟨t, by simp [build, h, throw, throwThe, MonadExceptOf.throw, bind, Except.bind]⟩

/-- A template with tokens fails exactly as filling its tokens fails. -/
theorem build_eq_error_iff (h : b.tokens t ≠ []) (e : CommandError) :
    b.build t workdir logFile = .error e ↔ b.fillAll t (b.tokens t) = .error e := by
  simp only [build, List.isEmpty_iff, h, if_false, bind, Except.bind]
  cases b.fillAll t (b.tokens t) <;> simp [pure, Except.pure]

/-- A template builds when it has tokens and all of them fill: its words, in the given
directory, log and environment. -/
theorem build_eq_ok_iff (c : Command) :
    b.build t workdir logFile = .ok c ↔ b.tokens t ≠ [] ∧ ∃ argv, b.fillAll t (b.tokens t) = .ok argv ∧
      c = { argv := if b.os.isWindows = true ∧ argv.head? = some "mvn" then "mvn.cmd" :: argv.tail
              else argv,
            workdir, logFile, env := b.env } := by
  by_cases h : b.tokens t = []
  · simp [build, h, throw, throwThe, MonadExceptOf.throw, bind, Except.bind]
  · simp only [build, List.isEmpty_iff, h, if_false, bind, Except.bind, ne_eq, not_false_eq_true,
      true_and]
    cases b.fillAll t (b.tokens t) with
    | error e => simp
    | ok argv =>
      simp only [pure, Except.pure, Except.ok.injEq, exists_eq_left']
      rw [eq_comm]
      -- the first word: `mvn` becomes `mvn.cmd` on Windows, and nothing else changes
      split
      · by_cases hw : b.os.isWindows = true <;> simp [hw]
      · rename_i h
        have hhead : argv.head? ≠ some "mvn" := by
          cases argv with
          | nil => simp
          | cons x rest =>
            simp only [List.head?_cons, ne_eq, Option.some.injEq]
            rintro rfl
            exact h rest rfl
        simp [hhead]

end CommandBuilder

/-- Building a template: it fails as empty exactly when it has no tokens; otherwise it fails
with the error of the first token, from the left, that cannot be filled, or gives one word
per token, the first one `mvn.cmd` on Windows when it fills to `mvn`, and keeps the
directory, log and environment. Each token has one reading as text and placeholders, and
filling it substitutes that reading: the leftmost placeholder without a value is
unresolved, an unclosed one, when all names have values, leaves it unterminated, and values
are inserted verbatim. -/
theorem build_spec (b : CommandBuilder) (t : Template) (workdir logFile : HostPath) :
    ((∃ t', b.build t workdir logFile = .error (.empty t')) ↔ b.tokens t = []) ∧
    (b.tokens t ≠ [] → ∀ e, b.build t workdir logFile = .error e ↔
      ∃ pre tok post, b.tokens t = pre ++ tok :: post ∧
        (∀ x ∈ pre, ∃ v, b.fillToken t x = .ok v) ∧ b.fillToken t tok = .error e) ∧
    (∀ c, b.build t workdir logFile = .ok c ↔ b.tokens t ≠ [] ∧
      ∃ argv, List.Forall₂ (fun tok v => b.fillToken t tok = .ok v) (b.tokens t) argv ∧
        c = { argv := if b.os.isWindows = true ∧ argv.head? = some "mvn" then
                "mvn.cmd" :: argv.tail else argv,
              workdir, logFile, env := b.env }) ∧
    (∀ token : String, ∃! p : TokenParts, p.WellFormed ∧ p.chars = token.toList) ∧
    (∀ (token : String) (p : TokenParts), p.WellFormed → p.chars = token.toList →
      b.fillToken t token = (p.substitute b.params t token).map String.ofList ∧
      ∀ v, b.fillToken t token = .ok v ↔ p.unclosed = none ∧
        (∀ h ∈ p.holes, TokenParts.known b.params h) ∧ v = String.ofList (p.filled b.params)) := by
  refine ⟨b.build_eq_empty_iff t workdir logFile, fun h e => ?_, fun c => ?_,
    fun token => tokenParts_existsUnique token.toList, fun token p hp hc => ?_⟩
  · rw [b.build_eq_error_iff t workdir logFile h, b.fillAll_eq_error_iff]
  · simp only [b.build_eq_ok_iff, b.fillAll_eq_ok_iff]
  · have hfill := fillToken_eq_substitute b t hp hc
    refine ⟨hfill, fun v => ?_⟩
    rw [hfill]
    constructor
    · intro hv
      cases hs : p.substitute b.params t token with
      | error e => simp [hs, Except.map] at hv
      | ok out =>
        obtain ⟨hu, hall, rfl⟩ := TokenParts.substitute_eq_ok_iff.1 hs
        simp only [hs, Except.map, Except.ok.injEq] at hv
        exact ⟨hu, hall, hv.symm⟩
    · rintro ⟨hu, hall, rfl⟩
      rw [TokenParts.substitute_eq_ok_iff.2 ⟨hu, hall, rfl⟩]
      rfl

end LaunchBench
