import Mathlib.Data.Nat.Digits.Defs
import Mathlib.Data.List.Induction
import LaunchBench.Proofs.SettingLayers
/-!
Reading one setting.

A setting is set from a text as the kind of value it takes says. A location, a text or a
command line takes any text: an empty text clears the expected listening host, and a command
line is cut into its words, no words restoring the built-in command. A yes-or-no setting takes
one of five words for yes and five for no, whatever the case of their ASCII letters. A number
takes an optional plus sign and decimal digits whose value fits the setting's width, and for
some settings is not zero. A name that is no setting's is refused as an invalid line.

* **`Text.readWord?_eq_some_iff`**: a word-sized numeral is read exactly when the text spells
  a number in decimal (`Text.Numeral`) that fits the word.
* **`SettingKind.read_eq_ok_iff`**, **`SettingKind.read_eq_error`**: reading a text by a kind
  gives what the kind is documented to take (`SettingKind.Gives`), and refuses the rest with
  the error the kind is documented to give (`SettingKind.Refuses`).
* **`Settings.applyKey_map_get`**: assigning a key reads its text by the key's kind.
* **`Settings.apply_spec`**: setting a named value refuses exactly the names of no setting as
  invalid lines; for a setting's name it succeeds exactly on the texts its kind takes, sets
  that setting to the value the text gives, leaves every other setting as it was, and
  refuses every other text with its kind's error.
-/

namespace LaunchBench

/-! ### Numerals -/

namespace Text

/-- The value of a decimal digit. -/
def digitValue (c : Char) : Nat := c.toNat - '0'.toNat

/-- `v` spells the number `n` in decimal: an optional plus sign, then one or more ASCII digits
whose value is `n`. -/
def Numeral (v : String) (n : Nat) : Prop :=
  ∃ ds : List Char, ds ≠ [] ∧ (∀ c ∈ ds, c.isDigit = true) ∧
    (v.toList = ds ∨ v.toList = '+' :: ds) ∧ n = Nat.ofDigits 10 (ds.reverse.map digitValue)

/-- Reading digits from the left is the value of the digits from the right. The induction adds
one digit at the right end. -/
theorem foldl_digitValue (ds : List Char) :
    ds.foldl (fun n c => 10 * n + (c.toNat - '0'.toNat)) 0 =
      Nat.ofDigits 10 (ds.reverse.map digitValue) := by
  induction ds using List.reverseRecOn with
  | nil => rfl
  | append_singleton ds c ih =>
    rw [List.foldl_append, ih]
    simp only [List.foldl_cons, List.foldl_nil, List.reverse_append, List.reverse_cons,
      List.reverse_nil, List.nil_append, List.cons_append, List.map_cons, Nat.ofDigits_cons,
      digitValue]
    omega

theorem digitsValue?_eq_some_iff {ds : List Char} {n : Nat} :
    digitsValue? ds = some n ↔
      ds ≠ [] ∧ (∀ c ∈ ds, c.isDigit = true) ∧
        n = Nat.ofDigits 10 (ds.reverse.map digitValue) := by
  unfold digitsValue?
  by_cases hds : ds = []
  · simp [hds]
  · by_cases hall : ds.all Char.isDigit = true
    · rw [if_neg (by simp [hds, hall]), Option.some.injEq, foldl_digitValue]
      exact ⟨fun h => ⟨hds, List.all_eq_true.1 hall, h.symm⟩, fun h => h.2.2.symm⟩
    · have hnot : ¬ ∀ c ∈ ds, c.isDigit = true := fun h => hall (List.all_eq_true.2 h)
      simp [hds, hall, hnot]

/-- A sign is no digit, so a numeral's digits are read from where its sign ends. -/
theorem readNat?_eq_some_iff {v : String} {n : Nat} : readNat? v = some n ↔ Numeral v n := by
  unfold readNat?
  split
  case h_1 rest hv =>
    rw [digitsValue?_eq_some_iff]
    constructor
    · rintro ⟨hne, hall, rfl⟩
      exact ⟨rest, hne, hall, .inr hv, rfl⟩
    · rintro ⟨ds, hne, hall, hds | hds, rfl⟩
      · -- the text would start with a digit
        rw [hv] at hds
        have := hall '+' (hds ▸ List.mem_cons_self)
        simp at this
      · rw [hv, List.cons.injEq] at hds
        obtain ⟨-, rfl⟩ := hds
        exact ⟨hne, hall, rfl⟩
  case h_2 _ hv =>
    rw [digitsValue?_eq_some_iff]
    constructor
    · rintro ⟨hne, hall, rfl⟩
      exact ⟨v.toList, hne, hall, .inl rfl, rfl⟩
    · rintro ⟨ds, hne, hall, hds | hds, rfl⟩
      · rw [hds]
        exact ⟨hne, hall, rfl⟩
      · exact absurd hds (hv ds)

theorem readWord?_eq_some_iff {bits : Nat} {v : String} {n : Nat} :
    readWord? bits v = some n ↔ Numeral v n ∧ n < 2 ^ bits := by
  simp only [readWord?, Option.filter_eq_some_iff, readNat?_eq_some_iff, Nat.pow_eq,
    decide_eq_true_eq]

theorem readWord?_eq_none_iff {bits : Nat} {v : String} :
    readWord? bits v = none ↔ ∀ n, Numeral v n → 2 ^ bits ≤ n := by
  constructor
  · intro h n hn
    apply Nat.le_of_not_lt
    intro hlt
    rw [readWord?_eq_some_iff.2 ⟨hn, hlt⟩] at h
    cases h
  · intro h
    cases hw : readWord? bits v with
    | none => rfl
    | some n =>
      obtain ⟨hn, hlt⟩ := readWord?_eq_some_iff.1 hw
      exact absurd (h n hn) (Nat.not_le.2 hlt)

/-- A text spells at most one number. -/
theorem Numeral.unique {v : String} {n m : Nat} (hn : Numeral v n) (hm : Numeral v m) : n = m := by
  rw [← readNat?_eq_some_iff] at hn hm
  rw [hn] at hm
  exact Option.some.inj hm

end Text

/-! ### What each kind of setting takes -/

namespace SettingKind

/-- The words read as yes, and as no, once ASCII letters are lowered. -/
def yesWords : List String := ["true", "1", "yes", "y", "on"]
def noWords : List String := ["false", "0", "no", "n", "off"]

/-- What a text gives a setting of each kind, as the settings are documented. -/
inductive Gives : SettingKind → String → SettingValue → Prop
  | path (v : String) : Gives .path v (.path v)
  | text (v : String) : Gives .text v (.text v)
  | optionalText (v : String) :
      Gives .optionalText v (.optionalText (if v = "" then none else some v))
  | yes {v : String} : v.toLower ∈ yesWords → Gives .flag v (.flag true)
  | no {v : String} : v.toLower ∈ noWords → Gives .flag v (.flag false)
  | count {bits n : Nat} {v : String} :
      Text.Numeral v n → n < 2 ^ bits → Gives (.count bits) v (.count n)
  | positive {bits n : Nat} {v : String} :
      Text.Numeral v n → n < 2 ^ bits → 0 < n → Gives (.positive bits) v (.count n)
  | tokens (v : String) :
      Gives .tokens v (.tokens (if Text.words v = [] then none else some (Text.words v)))

/-- The error with which a setting named `name` of each kind refuses a text: a word that is
neither yes nor no, a text that is no numeral fitting the width, or zero where the setting
must be positive. -/
inductive Refuses (name : String) : SettingKind → String → SettingsError → Prop
  | flag {v : String} : v.toLower ∉ yesWords → v.toLower ∉ noWords →
      Refuses name .flag v (.invalidBool name v)
  | count {bits : Nat} {v : String} : (∀ n, Text.Numeral v n → 2 ^ bits ≤ n) →
      Refuses name (.count bits) v (.invalidInt name v)
  | notNumeral {bits : Nat} {v : String} : (∀ n, Text.Numeral v n → 2 ^ bits ≤ n) →
      Refuses name (.positive bits) v (.invalidInt name v)
  | zero {bits : Nat} {v : String} : Text.Numeral v 0 →
      Refuses name (.positive bits) v (.notPositive name)

/-- Reads a setting's text by a kind; errors name the setting `k`. -/
def read (κ : SettingKind) (k : SettingKey) (v : String) : Except SettingsError SettingValue :=
  match κ with
  | .path => .ok (.path v)
  | .text => .ok (.text v)
  | .optionalText => .ok (.optionalText (if v.isEmpty then none else some v))
  | .flag => (Settings.readBool k v).map .flag
  | .count bits => (Settings.readNumber k bits false v).map .count
  | .positive bits => (Settings.readNumber k bits true v).map .count
  | .tokens => .ok (.tokens (Settings.readTokens v))

end SettingKind

namespace Settings

variable {k : SettingKey} {v : String}

theorem lowered_eq_toLower (v : String) : String.ofList (v.toList.map Char.toLower) = v.toLower :=
  String.map_eq_internal.symm

theorem readFlag?_eq_some_iff {b : Bool} :
    readFlag? v = some b ↔
      (v.toLower ∈ SettingKind.yesWords ∧ b = true) ∨
        (v.toLower ∈ SettingKind.noWords ∧ b = false) := by
  simp only [readFlag?, lowered_eq_toLower, SettingKind.yesWords, SettingKind.noWords]
  by_cases hy : v.toLower ∈ ["true", "1", "yes", "y", "on"]
  · -- a yes word is no no word
    have hn : v.toLower ∉ ["false", "0", "no", "n", "off"] := by
      simp only [List.mem_cons, List.not_mem_nil, or_false] at hy ⊢
      rcases hy with h | h | h | h | h <;> simp [h]
    rw [if_pos hy, Option.some.injEq]
    constructor
    · rintro rfl
      exact .inl ⟨hy, rfl⟩
    · rintro (⟨-, rfl⟩ | ⟨hn', -⟩)
      · rfl
      · exact absurd hn' hn
  · rw [if_neg hy]
    by_cases hn : v.toLower ∈ ["false", "0", "no", "n", "off"]
    · rw [if_pos hn, Option.some.injEq]
      constructor
      · rintro rfl
        exact .inr ⟨hn, rfl⟩
      · rintro (⟨hy', -⟩ | ⟨-, rfl⟩)
        · exact absurd hy' hy
        · rfl
    · rw [if_neg hn]
      simp [hy, hn]

theorem readNumber_eq_ok_iff {bits : Nat} {positive : Bool} {n : Nat} :
    readNumber k bits positive v = .ok n ↔
      Text.Numeral v n ∧ n < 2 ^ bits ∧ (positive = true → 0 < n) := by
  unfold readNumber
  split
  case h_1 hw =>
    simp only [reduceCtorEq, false_iff, not_and]
    intro hn hlt
    exact absurd hlt (Nat.not_lt.2 (Text.readWord?_eq_none_iff.1 hw n hn))
  case h_2 m hw =>
    obtain ⟨hm, hlt⟩ := Text.readWord?_eq_some_iff.1 hw
    -- the numeral's value is `m`, whatever other value is asked about
    have hunique : Text.Numeral v n ↔ n = m := ⟨fun hn => hn.unique hm, fun h => h ▸ hm⟩
    by_cases hz : positive = true ∧ m = 0
    · obtain ⟨rfl, rfl⟩ := hz
      simp only [Bool.true_and, decide_true, if_true, reduceCtorEq, false_iff, not_and]
      intro hn _ hpos
      obtain rfl := hunique.1 hn
      simp at hpos
    · have hz' : (positive && decide (m = 0)) = false := by
        cases positive <;> simp_all
      rw [hz', if_neg Bool.false_ne_true, Except.ok.injEq, hunique]
      constructor
      · rintro rfl
        refine ⟨rfl, hlt, fun hp => Nat.pos_of_ne_zero fun hm0 => hz ⟨hp, hm0⟩⟩
      · rintro ⟨rfl, -⟩
        rfl

theorem readNumber_eq_error {bits : Nat} {positive : Bool} {e : SettingsError}
    (h : readNumber k bits positive v = .error e) :
    ((∀ n, Text.Numeral v n → 2 ^ bits ≤ n) ∧ e = .invalidInt k.name v) ∨
      (positive = true ∧ Text.Numeral v 0 ∧ e = .notPositive k.name) := by
  unfold readNumber at h
  split at h
  case h_1 hw => exact .inl ⟨Text.readWord?_eq_none_iff.1 hw, (Except.error.inj h).symm⟩
  case h_2 m hw =>
    obtain ⟨hm, -⟩ := Text.readWord?_eq_some_iff.1 hw
    split at h
    case isTrue hz =>
      simp only [Bool.and_eq_true, decide_eq_true_eq] at hz
      obtain ⟨hpos, rfl⟩ := hz
      exact .inr ⟨hpos, hm, (Except.error.inj h).symm⟩
    case isFalse => cases h

theorem readBool_eq_ok_iff {b : Bool} : readBool k v = .ok b ↔ readFlag? v = some b := by
  unfold readBool
  split <;> simp_all

theorem readBool_eq_error_iff {e : SettingsError} :
    readBool k v = .error e ↔ readFlag? v = none ∧ e = .invalidBool k.name v := by
  unfold readBool
  split
  case h_1 b hf =>
    simp only [reduceCtorEq, false_iff, not_and]
    intro hn
    rw [hn] at hf
    cases hf
  case h_2 hf =>
    simp only [Except.error.injEq, hf, true_and]
    exact eq_comm

theorem readTokens_eq (v : String) :
    readTokens v = if Text.words v = [] then none else some (Text.words v) := by
  unfold readTokens
  split <;> simp_all

end Settings

namespace SettingKind

variable {k : SettingKey} {v : String}

theorem map_eq_ok_iff {α β : Type} {f : α → β} {x : Except SettingsError α} {b : β} :
    x.map f = .ok b ↔ ∃ a, x = .ok a ∧ f a = b := by
  cases x <;> simp [Except.map]

theorem map_eq_error_iff {α β : Type} {f : α → β} {x : Except SettingsError α}
    {e : SettingsError} : x.map f = .error e ↔ x = .error e := by
  cases x <;> simp [Except.map]

/-- A yes-or-no setting reads a yes word as yes and a no word as no. -/
theorem read_flag_eq_ok_iff {x : SettingValue} : read .flag k v = .ok x ↔ Gives .flag v x := by
  simp only [read, map_eq_ok_iff, Settings.readBool_eq_ok_iff]
  constructor
  · rintro ⟨b, hb, rfl⟩
    rcases Settings.readFlag?_eq_some_iff.1 hb with ⟨hy, rfl⟩ | ⟨hn, rfl⟩
    · exact .yes hy
    · exact .no hn
  · intro h
    cases h with
    | yes hy => exact ⟨true, Settings.readFlag?_eq_some_iff.2 (.inl ⟨hy, rfl⟩), rfl⟩
    | no hn => exact ⟨false, Settings.readFlag?_eq_some_iff.2 (.inr ⟨hn, rfl⟩), rfl⟩

/-- A number setting reads a numeral that fits its width, and is not zero where it must be
positive. -/
theorem readNumber_map_eq_ok_iff {bits : Nat} {positive : Bool} {x : SettingValue} :
    (Settings.readNumber k bits positive v).map .count = .ok x ↔
      ∃ n, Text.Numeral v n ∧ n < 2 ^ bits ∧ (positive = true → 0 < n) ∧
        x = .count n := by
  simp only [map_eq_ok_iff, Settings.readNumber_eq_ok_iff]
  constructor
  · rintro ⟨n, ⟨hn, hlt, hpos⟩, rfl⟩
    exact ⟨n, hn, hlt, hpos, rfl⟩
  · rintro ⟨n, hn, hlt, hpos, rfl⟩
    exact ⟨n, ⟨hn, hlt, hpos⟩, rfl⟩

/-- Reading by a kind gives exactly what the kind is documented to take. -/
theorem read_eq_ok_iff (κ : SettingKind) (x : SettingValue) :
    κ.read k v = .ok x ↔ κ.Gives v x := by
  cases κ with
  | path => exact ⟨fun h => (Except.ok.inj h) ▸ .path v, fun h => by cases h; rfl⟩
  | text => exact ⟨fun h => (Except.ok.inj h) ▸ .text v, fun h => by cases h; rfl⟩
  | optionalText =>
    have hempty : (if v.isEmpty then none else some v) = (if v = "" then none else some v) := by
      simp [String.isEmpty_iff]
    simp only [read, hempty, Except.ok.injEq]
    exact ⟨fun h => h ▸ .optionalText v, fun h => by cases h; rfl⟩
  | flag => exact read_flag_eq_ok_iff
  | count bits =>
    simp only [read, readNumber_map_eq_ok_iff, Bool.false_eq_true, false_implies, true_and]
    constructor
    · rintro ⟨n, hn, hlt, rfl⟩
      exact .count hn hlt
    · intro h
      cases h with
      | count hn hlt => exact ⟨_, hn, hlt, rfl⟩
  | positive bits =>
    simp only [read, readNumber_map_eq_ok_iff, forall_const]
    constructor
    · rintro ⟨n, hn, hlt, hpos, rfl⟩
      exact .positive hn hlt hpos
    · intro h
      cases h with
      | positive hn hlt hpos => exact ⟨_, hn, hlt, hpos, rfl⟩
  | tokens =>
    simp only [read, Settings.readTokens_eq, Except.ok.injEq]
    exact ⟨fun h => h ▸ .tokens v, fun h => by cases h; rfl⟩

/-- A text a kind refuses is refused with the error the kind is documented to give. -/
theorem read_eq_error {κ : SettingKind} {e : SettingsError} (h : κ.read k v = .error e) :
    κ.Refuses k.name v e := by
  cases κ with
  | path | text | optionalText | tokens => cases h
  | flag =>
    simp only [read, map_eq_error_iff, Settings.readBool_eq_error_iff] at h
    obtain ⟨hf, rfl⟩ := h
    -- neither a yes word nor a no word
    have hy : v.toLower ∉ yesWords := fun hy => by
      rw [Settings.readFlag?_eq_some_iff.2 (.inl ⟨hy, rfl⟩)] at hf
      cases hf
    have hn : v.toLower ∉ noWords := fun hn => by
      rw [Settings.readFlag?_eq_some_iff.2 (.inr ⟨hn, rfl⟩)] at hf
      cases hf
    exact .flag hy hn
  | count bits =>
    simp only [read, map_eq_error_iff] at h
    rcases Settings.readNumber_eq_error h with ⟨hno, rfl⟩ | ⟨hpos, -⟩
    · exact .count hno
    · cases hpos
  | positive bits =>
    simp only [read, map_eq_error_iff] at h
    rcases Settings.readNumber_eq_error h with ⟨hno, rfl⟩ | ⟨-, hzero, rfl⟩
    · exact .notNumeral hno
    · exact .zero hzero

theorem Refuses.ne_unknownKey {name : String} {κ : SettingKind} {e : SettingsError}
    (h : κ.Refuses name v e) (key : String) : e ≠ .unknownKey key := by
  cases h <;> simp

end SettingKind

/-! ### Setting a named value -/

namespace Settings

variable {c : Settings} {k : SettingKey} {v : String}

/-- Assigning a key reads its text by the key's kind: each of the twenty-eight assignments
reads with its kind's reader and writes what it reads to its own key. -/
theorem applyKey_map_get (c : Settings) (k : SettingKey) (v : String) :
    (c.applyKey k v).map (·.get k) = k.kind.read k v := by
  have hmap : ∀ {α : Type} (g : α → Settings) (x : Except SettingsError α),
      (x.map g).map (·.get k) = x.map fun a => (g a).get k :=
    fun g x => Functor.map_map g _ x
  cases k
  case repoDir | appsFile | workspaceDir | archiveDir | localRepo | version | host
    | expectedListenHost | buildCmd | runCmd | nativeBuildCmd | nativeRunCmd | devCmd
    | generateCmd => rfl
  -- a number or a yes-or-no word: the reader's value is what is written
  all_goals
    simp only [applyKey]
    rw [hmap]
    rfl

theorem applyKey_read_ok {c' : Settings} (h : c.applyKey k v = .ok c') :
    k.kind.read k v = .ok (c'.get k) := by
  rw [← applyKey_map_get, h]
  rfl

theorem applyKey_of_read_ok {x : SettingValue} (h : k.kind.read k v = .ok x) :
    ∃ c', c.applyKey k v = .ok c' := by
  rw [← applyKey_map_get c] at h
  cases hc : c.applyKey k v with
  | error e => rw [hc] at h; cases h
  | ok c' => exact ⟨c', rfl⟩

theorem applyKey_read_error {e : SettingsError} (h : c.applyKey k v = .error e) :
    k.kind.read k v = .error e := by
  rw [← applyKey_map_get, h]
  rfl

theorem apply_name (c : Settings) (k : SettingKey) (v : String) :
    c.apply k.name v = c.applyKey k v := by
  simp only [apply, SettingKey.ofName?_name]

theorem ofName?_eq_none {key : String} (h : key ∉ SettingKey.all.map SettingKey.name) :
    SettingKey.ofName? key = none := by
  simp only [SettingKey.ofName?, List.find?_eq_none, decide_eq_true_eq]
  exact fun k hk hname => h (List.mem_map.2 ⟨k, hk, hname⟩)

/-- Setting a value by its name. A name that is none of the twenty-eight settings' names is
refused as an invalid line (`invalid config line: unknown config key: ` and the name), and no
other name is. For a setting's name the text is accepted exactly when it is one the setting's
kind takes: any text for a location, a text or a command line, a yes or no word for a
yes-or-no setting, and a numeral that fits the width, and is not zero where it must be
positive, for a number. Then that setting takes the value the text gives and every other
setting keeps its value; any other text is refused with the kind's error, naming the
setting. -/
theorem apply_spec (c : Settings) (key v : String) :
    (c.apply key v = .error (.unknownKey key) ↔ key ∉ SettingKey.all.map SettingKey.name) ∧
    ∀ k : SettingKey, k.name = key →
      (∀ c', c.apply key v = .ok c' →
        k.kind.Gives v (c'.get k) ∧ ∀ k', k' ≠ k → c'.get k' = c.get k') ∧
      ((∃ x, k.kind.Gives v x) → ∃ c', c.apply key v = .ok c') ∧
      (∀ e, c.apply key v = .error e → k.kind.Refuses k.name v e) := by
  -- what a setting's name does, through the kind of the setting
  have hnamed : ∀ k : SettingKey, k.name = key →
      (∀ c', c.apply key v = .ok c' →
        k.kind.Gives v (c'.get k) ∧ ∀ k', k' ≠ k → c'.get k' = c.get k') ∧
      ((∃ x, k.kind.Gives v x) → ∃ c', c.apply key v = .ok c') ∧
      (∀ e, c.apply key v = .error e → k.kind.Refuses k.name v e) := by
    rintro k rfl
    rw [apply_name]
    refine ⟨fun c' h => ⟨?_, fun k' hk => applyKey_get_ne h hk⟩, fun ⟨x, hx⟩ => ?_,
      fun e h => SettingKind.read_eq_error (applyKey_read_error h)⟩
    · exact (SettingKind.read_eq_ok_iff _ _).1 (applyKey_read_ok h)
    · exact applyKey_of_read_ok ((SettingKind.read_eq_ok_iff _ _).2 hx)
  refine ⟨⟨fun h hkey => ?_, fun hkey => ?_⟩, hnamed⟩
  · -- a setting's name is refused only with its kind's error
    obtain ⟨k, -, rfl⟩ := List.mem_map.1 hkey
    exact SettingKind.Refuses.ne_unknownKey ((hnamed k rfl).2.2 _ h) k.name rfl
  · simp only [apply, ofName?_eq_none hkey]

end Settings

end LaunchBench
