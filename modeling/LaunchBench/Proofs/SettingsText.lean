import LaunchBench.Proofs.SettingLayers
import LaunchBench.Proofs.SettingValues
import LaunchBench.Proofs.TextLines
/-!
Reading a settings text.

A settings text is read line by line over the current settings, and the reading stops at the
first line that is refused. Nothing is undone: the lines before it stay applied, the refused
line changes nothing, and no later line is read.

* **`Settings.applyLines_append`**: reading two runs of lines is reading the first and, only
  when it was accepted, the second over what it gave.
* **`Settings.applyLines_stop`**: a refused reading is the accepted reading of the lines before
  the refused one.
* **`Settings.applyLine_eq_error`**: a line is refused as an invalid line, named as written,
  when it says something and has no `=`; otherwise with the error of setting its trimmed key
  to its unquoted trimmed value.
* **`Settings.applyLine_of_toList`**: a line `name=rest` for a setting's name sets that
  setting from `rest`, trimmed and unquoted.
-/

namespace LaunchBench

namespace SettingKey

/-- Every setting's name is a run of characters that are neither blank, nor `=`, nor a line
feed, and it starts with a letter, not with `#`. -/
theorem name_chars_plain (k : SettingKey) :
    k.name.toList.all (fun c => !Text.isBlank c && c != '=' && c != '\n') = true := by
  cases k <;> decide +kernel

theorem name_toList_ne_nil (k : SettingKey) : k.name.toList ≠ [] := by
  cases k <;> decide +kernel

theorem name_head?_ne_hash (k : SettingKey) : k.name.toList.head? ≠ some '#' := by
  cases k <;> decide +kernel

theorem of_mem_name {k : SettingKey} {c : Char} (h : c ∈ k.name.toList) :
    Text.isBlank c = false ∧ c ≠ '=' ∧ c ≠ '\n' := by
  have hc := List.all_eq_true.1 (name_chars_plain k) c h
  simp only [Bool.and_eq_true, Bool.not_eq_true', bne_iff_ne, ne_eq] at hc
  exact ⟨hc.1.1, hc.1.2, hc.2⟩

end SettingKey

namespace Settings

variable {c c' : Settings} {l : String} {e : SettingsError}

/-! ### Lines in turn -/

theorem applyLine_quiet (h : Text.quietLine l = true) (c : Settings) : c.applyLine l = .ok c := by
  simp only [applyLine]
  exact if_pos h

/-- A line that says something and has no `=` is refused as an invalid line, as written. -/
theorem applyLine_of_noEquals (hq : Text.quietLine l = false) (h : '=' ∉ l.toList)
    (c : Settings) : c.applyLine l = .error (.invalidLine l) := by
  have hcut : cutAt '=' (Text.trimChars l.toList) = none :=
    cutAt_eq_none_iff.2 (by rwa [Text.mem_trimChars (by decide)])
  simp only [Text.quietLine] at hq
  simp only [applyLine, hq, Bool.false_eq_true, if_false, hcut]

theorem assignment?_eq_none_iff :
    assignment? l = none ↔ Text.quietLine l = true ∨ '=' ∉ l.toList := by
  have heq : '=' ∈ Text.trimChars l.toList ↔ '=' ∈ l.toList :=
    Text.mem_trimChars (by decide) _
  cases hq : Text.quietLine l
  · simp only [Text.quietLine] at hq
    simp only [assignment?, hq, Bool.false_eq_true, if_false, Option.map_eq_none_iff,
      cutAt_eq_none_iff, heq, false_or]
  · simp only [Text.quietLine] at hq
    simp [assignment?, hq]

/-- Why a line is refused: it says something and has no `=`, and is named as written; or it
assigns a value, and setting its key to that value is refused. -/
theorem applyLine_eq_error (h : c.applyLine l = .error e) :
    (Text.quietLine l = false ∧ '=' ∉ l.toList ∧ e = .invalidLine l) ∨
      ∃ key v, assignment? l = some (key, v) ∧ c.apply key v = .error e := by
  cases ha : assignment? l with
  | some kv =>
    obtain ⟨key, v⟩ := kv
    rw [applyLine_eq_apply ha] at h
    exact .inr ⟨key, v, rfl, h⟩
  | none =>
    -- a line that assigns nothing is quiet, which is accepted, or has no `=`
    cases hq : Text.quietLine l
    · have hno := (assignment?_eq_none_iff.1 ha).resolve_left (by simp [hq])
      rw [applyLine_of_noEquals hq hno] at h
      cases h
      exact .inl ⟨rfl, hno, rfl⟩
    · rw [applyLine_quiet hq] at h
      cases h

/-- Reading two runs of lines is reading the first, then, only when it was accepted, the
second over the settings it gave. The induction is on the first run, over any settings. -/
theorem applyLines_append (c : Settings) (xs ys : List String) :
    c.applyLines (xs ++ ys) =
      if (c.applyLines xs).2.isSome then c.applyLines xs
      else (c.applyLines xs).1.applyLines ys := by
  induction xs generalizing c with
  | nil => rfl
  | cons l xs ih =>
    cases hl : c.applyLine l with
    | error e => simp [applyLines, hl]
    | ok c₁ =>
      simp only [List.cons_append, applyLines, hl]
      exact ih c₁

/-- A refused reading stopped at one line: the lines before it were accepted and gave the
settings returned, and that line is refused over them. The induction is on the lines. -/
theorem applyLines_stop {ls : List String} (h : (c.applyLines ls).2 = some e) :
    ∃ pre l post, ls = pre ++ l :: post ∧ c.applyLines pre = ((c.applyLines ls).1, none) ∧
      (c.applyLines ls).1.applyLine l = .error e := by
  induction ls generalizing c with
  | nil => cases h
  | cons l ls ih =>
    cases hl : c.applyLine l with
    | error e' =>
      -- the first line is refused, over the settings as they were
      simp only [applyLines, hl, Option.some.injEq] at h ⊢
      subst h
      exact ⟨[], l, ls, rfl, rfl, hl⟩
    | ok c₁ =>
      simp only [applyLines, hl] at h ⊢
      obtain ⟨pre, l', post, rfl, hpre, hl'⟩ := ih h
      exact ⟨l :: pre, l', post, rfl, by simp [applyLines, hl, hpre], hl'⟩

/-- Two texts joined at a line feed are read as the first, then, only when it was accepted,
the second over what it gave. The empty line that the line feed may add says nothing. -/
theorem parseContent_append_lf (c : Settings) {a : String} (b : String)
    (ha : a.toList.getLast? ≠ some '\r') :
    c.parseContent (a ++ "\n" ++ b) =
      if (c.parseContent a).2.isSome then c.parseContent a
      else (c.parseContent a).1.parseContent b := by
  have hextra : ∀ (d : Settings) (p : Bool),
      d.applyLines (if p then [""] else []) = (d, none) := by
    intro d p
    cases p
    · rfl
    · simp [applyLines, applyLine_quiet (l := "") rfl]
  unfold parseContent
  rw [Text.lines_append_lf b ha, applyLines_append, applyLines_append, hextra]
  obtain ⟨d, r⟩ := c.applyLines (Text.lines a)
  cases r <;> rfl

/-- Reading a settings text stops at its first refused line. Two texts joined at a line feed,
the first not ending in a carriage return, are read as the first, then, only when it was
accepted, the second over the settings it gave. A refused reading returns the settings that
the lines before the refused one gave, all of them accepted; the refused line either says
something and has no `=`, and is named as written, or assigns a value that its trimmed key
refuses over those settings. -/
theorem parseContent_stops_at_refused_line (c : Settings) :
    (∀ a b : String, a.toList.getLast? ≠ some '\r' →
      c.parseContent (a ++ "\n" ++ b) =
        if (c.parseContent a).2.isSome then c.parseContent a
        else (c.parseContent a).1.parseContent b) ∧
    ∀ text e, (c.parseContent text).2 = some e →
      ∃ pre l post, Text.lines text = pre ++ l :: post ∧
        c.applyLines pre = ((c.parseContent text).1, none) ∧
        ((Text.quietLine l = false ∧ '=' ∉ l.toList ∧ e = .invalidLine l) ∨
          ∃ key v, assignment? l = some (key, v) ∧
            (c.parseContent text).1.apply key v = .error e) := by
  refine ⟨fun a b ha => parseContent_append_lf c b ha, fun text e h => ?_⟩
  obtain ⟨pre, l, post, hlines, hpre, hl⟩ := applyLines_stop h
  exact ⟨pre, l, post, hlines, hpre, applyLine_eq_error hl⟩

theorem parseContent_stops_at_bad_port :
    "version=2".toList.getLast? ≠ some '\r' ∧
      ({} : Settings).parseContent ("version=2" ++ "\n" ++ "port=x") =
        if (({} : Settings).parseContent "version=2").2.isSome then
          ({} : Settings).parseContent "version=2"
        else (({} : Settings).parseContent "version=2").1.parseContent "port=x" :=
  ⟨by decide, (parseContent_stops_at_refused_line {}).1 "version=2" "port=x" (by decide)⟩

/-! ### One assignment -/

/-- A line made of a setting's name, `=` and `rest` sets that setting from `rest`, trimmed and
unquoted: the name starts with no blank and no `#`, and holds no `=`. -/
theorem applyLine_of_toList {line : String} {k : SettingKey} {rest : List Char}
    (h : line.toList = k.name.toList ++ '=' :: rest) (c : Settings) :
    c.applyLine line = c.applyKey k (unquote (String.ofList (Text.trimChars rest))) := by
  have hname : ∀ ch ∈ k.name.toList, Text.isBlank ch = false :=
    fun ch hch => (SettingKey.of_mem_name hch).1
  have hnoeq : '=' ∉ k.name.toList := fun hm => (SettingKey.of_mem_name hm).2.1 rfl
  have htrim : Text.trimChars line.toList =
      k.name.toList ++ '=' :: (rest.reverse.dropWhile Text.isBlank).reverse := by
    rw [h]
    exact Text.trimChars_assignment (fun ch hch => hname ch (List.mem_of_mem_head? hch)) rest
  have hloud : ∀ r : List Char, ((k.name.toList ++ '=' :: r).isEmpty ||
      (k.name.toList ++ '=' :: r).head? = some '#') = false := by
    intro r
    have hhead := SettingKey.name_head?_ne_hash k
    cases hn : k.name.toList with
    | nil => exact absurd hn (SettingKey.name_toList_ne_nil k)
    | cons ch chs =>
      rw [hn] at hhead
      simpa using hhead
  simp only [applyLine]
  rw [htrim, hloud, if_neg Bool.false_ne_true, cutAt_assignment hnoeq]
  simp only [Text.trimChars_of_not_blank hname, Text.trimChars_trimEnd, String.ofList_toList,
    apply_name]

/-- A value wrapped in a pair of double or single quotes loses them and nothing else. -/
theorem unquote_quoted {q : Char} (hq : q = '"' ∨ q = '\'') (v : String) :
    unquote (String.ofList (Text.trimChars (q :: (v.toList ++ [q])))) = v := by
  have hlast : (q :: (v.toList ++ [q])).getLast? = some q := by simp [List.getLast?_cons]
  rw [Text.trimChars_quoted (by rcases hq with rfl | rfl <;> decide), unquote,
    String.toList_ofList, if_pos]
  · simp
  · rcases hq with rfl | rfl <;> simp [hlast]

/-- Reading `text` over `c` accepts it, gives the setting `k` the value `x`, and leaves every
other setting as it was. -/
def SetsOnly (c : Settings) (text : String) (k : SettingKey) (x : SettingValue) : Prop :=
  ∃ c', c.parseContent text = (c', none) ∧ c'.get k = x ∧
    ∀ k', k' ≠ k → c'.get k' = c.get k'

/-- A one-line text that sets a key from a text the key's kind takes sets that key only. -/
theorem setsOnly_of_applyLine {text w : String} {k : SettingKey} {x : SettingValue}
    (hlf : '\n' ∉ text.toList) (hne : text.toList ≠ [])
    (hline : c.applyLine text = c.applyKey k w) (hx : k.kind.Gives w x) : SetsOnly c text k x := by
  have hread := (SettingKind.read_eq_ok_iff (k := k) _ _).2 hx
  obtain ⟨c', hc'⟩ := applyKey_of_read_ok (c := c) hread
  have hget : c'.get k = x := by
    have hsame := applyKey_read_ok hc'
    rw [hread] at hsame
    exact (Except.ok.inj hsame).symm
  refine ⟨c', ?_, hget, fun k' hk' => applyKey_get_ne hc' hk'⟩
  rw [parseContent, Text.lines_of_no_lf hlf hne]
  simp [applyLines, hline, hc']

/-- A value wrapped in double or in single quotes is set as it is, blanks, quotes and `=` in it
included, as long as it holds no line feed. -/
theorem setsOnly_quoted {k : SettingKey} {v : String} {x : SettingValue} (hv : '\n' ∉ v.toList)
    (hx : k.kind.Gives v x) (c : Settings) :
    SetsOnly c (k.name ++ "=\"" ++ v ++ "\"") k x ∧
      SetsOnly c (k.name ++ "='" ++ v ++ "'") k x := by
  have hname : '\n' ∉ k.name.toList := fun hm => (SettingKey.of_mem_name hm).2.2 rfl
  have hquote : ∀ q : Char, (q = '"' ∨ q = '\'') → ∀ text : String,
      text.toList = k.name.toList ++ '=' :: q :: (v.toList ++ [q]) → SetsOnly c text k x := by
    intro q hq text htext
    have hqlf : q ≠ '\n' := by rcases hq with rfl | rfl <;> decide
    have hline := applyLine_of_toList htext c
    rw [unquote_quoted hq v] at hline
    refine setsOnly_of_applyLine ?_ (by simp [htext]) hline hx
    rw [htext]
    simp [hname, hv, Ne.symm hqlf]
  exact ⟨hquote '"' (.inl rfl) _ (by simp), hquote '\'' (.inr rfl) _ (by simp)⟩

/-- A value without quotes is set trimmed, and unquoted if it was quoted after all. -/
theorem setsOnly_unquoted {k : SettingKey} {v : String} {x : SettingValue} (hv : '\n' ∉ v.toList)
    (hx : k.kind.Gives (unquote (Text.trimBlank v)) x) (c : Settings) :
    SetsOnly c (k.name ++ "=" ++ v) k x := by
  have htext : (k.name ++ "=" ++ v).toList = k.name.toList ++ '=' :: v.toList := by simp
  have hname : '\n' ∉ k.name.toList := fun hm => (SettingKey.of_mem_name hm).2.2 rfl
  refine setsOnly_of_applyLine ?_ (by simp [htext]) (applyLine_of_toList htext c) hx
  rw [htext]
  simp [hname, hv]

/-- For a kind that takes every text as it is, the three forms of a one-line assignment: the
two quoted ones give the value itself, the bare one the value trimmed and unquoted. -/
theorem setsOnly_forms {k : SettingKey} {v : String} {f : String → SettingValue}
    (hv : '\n' ∉ v.toList) (hx : ∀ w, k.kind.Gives w (f w)) (c : Settings) :
    SetsOnly c (k.name ++ "=\"" ++ v ++ "\"") k (f v) ∧
      SetsOnly c (k.name ++ "='" ++ v ++ "'") k (f v) ∧
      SetsOnly c (k.name ++ "=" ++ v) k (f (unquote (Text.trimBlank v))) :=
  ⟨(setsOnly_quoted hv (hx v) c).1, (setsOnly_quoted hv (hx v) c).2,
    setsOnly_unquoted hv (hx _) c⟩

/-- A one-line text `key="v"` or `key='v'`, for a value `v` without line feed, sets a location
or a text setting to exactly `v`, a command line to the words of `v` (the built-in template
when there are none), and the listen host to `v` unless it is empty; `key=v` sets a location or
a text setting to `v` trimmed and unquoted. Every other setting keeps its value. -/
theorem parseContent_text_values (c : Settings) {v : String} (hv : '\n' ∉ v.toList) :
    (∀ k ∈ [SettingKey.repoDir, .appsFile, .workspaceDir, .archiveDir, .localRepo],
      SetsOnly c (k.name ++ "=\"" ++ v ++ "\"") k (.path v) ∧
      SetsOnly c (k.name ++ "='" ++ v ++ "'") k (.path v) ∧
      SetsOnly c (k.name ++ "=" ++ v) k (.path (unquote (Text.trimBlank v)))) ∧
    (∀ k ∈ [SettingKey.version, .host],
      SetsOnly c (k.name ++ "=\"" ++ v ++ "\"") k (.text v) ∧
      SetsOnly c (k.name ++ "='" ++ v ++ "'") k (.text v) ∧
      SetsOnly c (k.name ++ "=" ++ v) k (.text (unquote (Text.trimBlank v)))) ∧
    (∀ k ∈ [SettingKey.buildCmd, .runCmd, .nativeBuildCmd, .nativeRunCmd, .devCmd, .generateCmd],
      SetsOnly c (k.name ++ "=\"" ++ v ++ "\"") k
        (.tokens (if Text.words v = [] then none else some (Text.words v))) ∧
      SetsOnly c (k.name ++ "='" ++ v ++ "'") k
        (.tokens (if Text.words v = [] then none else some (Text.words v)))) ∧
    (SetsOnly c (SettingKey.expectedListenHost.name ++ "=\"" ++ v ++ "\"") .expectedListenHost
        (.optionalText (if v = "" then none else some v)) ∧
      SetsOnly c (SettingKey.expectedListenHost.name ++ "='" ++ v ++ "'") .expectedListenHost
        (.optionalText (if v = "" then none else some v))) := by
  refine ⟨fun k hk => ?_, fun k hk => ?_, fun k hk => ?_,
    setsOnly_quoted (k := .expectedListenHost) hv (.optionalText v) c⟩
  · -- the five locations
    have hpath : k.kind = .path := by
      simp only [List.mem_cons, List.not_mem_nil, or_false] at hk
      rcases hk with rfl | rfl | rfl | rfl | rfl <;> rfl
    exact setsOnly_forms (f := .path) hv (fun w => hpath ▸ .path w) c
  · -- the version and the host
    have htext : k.kind = .text := by
      simp only [List.mem_cons, List.not_mem_nil, or_false] at hk
      rcases hk with rfl | rfl <;> rfl
    exact setsOnly_forms (f := .text) hv (fun w => htext ▸ .text w) c
  · -- the six command lines
    have htokens : k.kind = .tokens := by
      simp only [List.mem_cons, List.not_mem_nil, or_false] at hk
      rcases hk with rfl | rfl | rfl | rfl | rfl | rfl <;> rfl
    exact setsOnly_quoted hv (htokens ▸ .tokens v) c

theorem parseContent_repoDir_verbatim :
    '\n' ∉ " a='b\" ".toList ∧
      SetsOnly {} (SettingKey.repoDir.name ++ "=\"" ++ " a='b\" " ++ "\"") .repoDir
        (.path " a='b\" ") :=
  ⟨by decide, ((parseContent_text_values {} (by decide)).1 .repoDir (by simp)).1⟩

end Settings

end LaunchBench
