import LaunchBench.Log.Timing
import LaunchBench.Proofs.OffendingLines
/-!
Start and stop times read from a log.

A line reports a time after a key in one of two forms. The plain form is the key, a numeral
`[0-9]+(\.[0-9]+)?` and `s` (`PlainAt`). The coloured form is the key, a run of characters
other than a line feed, the colour code `188m` and a numeral read as far as it goes
(`ColouredAt`). A pattern search reports a form's leftmost match, and of the coloured form's
matches there the one whose run before `188m` is shortest; a line reports the plain form's
time, or when the plain form does not occur in it, the coloured form's (`Reports`).

* **`plainSeconds_eq_some_iff`**, **`colouredSeconds_eq_some_iff`**: each form's search gives
  the numeral of that form's first match, and nothing when the form does not occur.
* **`reportedSeconds_eq_some_iff`**: a line reports exactly the time `Reports` names;
  **`reportedSeconds_isSome_iff`**: it reports one exactly when either form occurs in it, as
  every numeral has a value.
* **`parseStartStop_eq_findSome?`**: a log's start and stop times are those of the first line
  that reports one, each searched on its own; **`parseStartStop_of_complete`**: once both are
  found, the lines after change nothing.
* **`parseStartStop_firstReports`**: the three together.

Design notes: a search over the suffixes of a line is read once, by position
(`findSome?_suffixes_eq_some_iff`); each form is then a statement about the text at one
position, and `readSeconds_eq_some_iff` says which numeral is read there.
-/

namespace LaunchBench

open Decimal Text

/-! ### Numerals -/

/-- The digits of a numeral `[0-9]+(\.[0-9]+)?`: one or more whole digits, and the fractional
digits, none when the numeral has no point. -/
structure DecimalDigits (whole frac : List Char) : Prop where
  whole_ne_nil : whole ≠ []
  whole_digits : ∀ c ∈ whole, c.isDigit = true
  frac_digits : ∀ c ∈ frac, c.isDigit = true

/-- The text of a numeral: its whole digits, then a point and the fractional digits when there
are any. -/
def numeralText (whole frac : List Char) : List Char :=
  whole ++ if frac = [] then [] else '.' :: frac

/-- Whether a numeral with fractional digits `frac` would read on into what follows it: by one
more digit, or, while it has no point, by a point and a digit. -/
def readsOn (frac : List Char) : List Char → Bool
  | '.' :: d :: _ => frac.isEmpty && d.isDigit
  | c :: _ => c.isDigit
  | [] => false

theorem readsOn_eq_false_iff {frac rest : List Char} :
    readsOn frac rest = false ↔ (∀ c ∈ rest.head?, c.isDigit = false) ∧
      (frac = [] → ∀ more, rest = '.' :: more → ∀ d ∈ more.head?, d.isDigit = false) := by
  unfold readsOn
  split
  · next d more => cases frac <;> simp
  · next c more h =>
    constructor
    · intro hc
      refine ⟨by simpa using hc, fun _ more' h' d hd => ?_⟩
      obtain ⟨rfl, rfl⟩ := List.cons.inj h'
      cases more with
      | nil => cases hd
      | cons d' more'' => exact absurd rfl (h d' more'' rfl)
    · intro ⟨hc, _⟩
      simpa using hc
  · simp

/-- A character that is neither a digit nor a point ends a numeral. -/
theorem readsOn_cons {frac rest : List Char} {c : Char} (hc : c.isDigit = false) (hdot : c ≠ '.') :
    readsOn frac (c :: rest) = false :=
  readsOn_eq_false_iff.2 ⟨by simpa using hc, fun _ _ h => absurd (List.cons.inj h).1 hdot⟩

theorem digits_takeWhile (cs : List Char) : ∀ c ∈ cs.takeWhile Char.isDigit, c.isDigit = true :=
  List.all_eq_true.1 List.all_takeWhile

theorem head_dropWhile_isDigit (cs : List Char) :
    ∀ c ∈ (cs.dropWhile Char.isDigit).head?, c.isDigit = false := by
  intro c hc
  have h := List.head?_dropWhile_not Char.isDigit cs
  rw [Option.mem_def] at hc
  rw [hc] at h
  exact h

/-- A run of digits followed by no digit is what `takeWhile` takes and `dropWhile` leaves. -/
theorem digits_append {ds r : List Char} (hds : ∀ c ∈ ds, c.isDigit = true)
    (hr : ∀ c ∈ r.head?, c.isDigit = false) :
    (ds ++ r).takeWhile Char.isDigit = ds ∧ (ds ++ r).dropWhile Char.isDigit = r := by
  rw [List.takeWhile_append_of_pos hds, List.dropWhile_append_of_pos hds]
  cases r with
  | nil => simp
  | cons c r =>
    have hc : c.isDigit = false := hr c rfl
    simp [hc]

theorem readSeconds_eq_some {cs whole frac rest : List Char}
    (h : readSeconds cs = some (whole, frac, rest)) :
    DecimalDigits whole frac ∧ cs = numeralText whole frac ++ rest ∧ readsOn frac rest = false := by
  have hsplit := (List.takeWhile_append_dropWhile (p := Char.isDigit) (l := cs)).symm
  have hW := digits_takeWhile cs
  have hR := head_dropWhile_isDigit cs
  simp only [readSeconds] at h
  split at h
  · cases h
  · next hW0 =>
    have hWne : cs.takeWhile Char.isDigit ≠ [] := by simpa using hW0
    split at h
    · next more hmore =>
      -- a point follows the whole digits; a fraction when digits follow the point
      rw [hmore] at hsplit
      have hF := digits_takeWhile more
      have hD := head_dropWhile_isDigit more
      split at h
      · next hF0 =>
        simp only [Option.some.injEq, Prod.mk.injEq] at h
        obtain ⟨rfl, rfl, rfl⟩ := h
        rw [hmore]
        refine ⟨⟨hWne, hW, by simp⟩, by simpa [numeralText] using hsplit, ?_⟩
        refine readsOn_eq_false_iff.2 ⟨by simp, fun _ more' h' d hd => ?_⟩
        obtain rfl := (List.cons.inj h').2
        cases more with
        | nil => cases hd
        | cons d' more =>
          obtain rfl : d' = d := Option.some.inj hd
          simpa [List.takeWhile_cons] using hF0
      · next hF0 =>
        simp only [Option.some.injEq, Prod.mk.injEq] at h
        obtain ⟨rfl, rfl, rfl⟩ := h
        have hFne : more.takeWhile Char.isDigit ≠ [] := by simpa using hF0
        refine ⟨⟨hWne, hW, hF⟩, ?_, readsOn_eq_false_iff.2 ⟨hD, fun h => absurd h hFne⟩⟩
        rw [numeralText, if_neg hFne]
        exact hsplit.trans (by simp [List.takeWhile_append_dropWhile])
    · next _ hnot =>
      simp only [Option.some.injEq, Prod.mk.injEq] at h
      obtain ⟨rfl, rfl, rfl⟩ := h
      refine ⟨⟨hWne, hW, by simp⟩, by simp [numeralText], ?_⟩
      exact readsOn_eq_false_iff.2 ⟨hR, fun _ more h' => absurd h' (hnot more)⟩

theorem readSeconds_numeralText {whole frac rest : List Char} (hd : DecimalDigits whole frac)
    (hon : readsOn frac rest = false) :
    readSeconds (numeralText whole frac ++ rest) = some (whole, frac, rest) := by
  obtain ⟨hR, hdot⟩ := readsOn_eq_false_iff.1 hon
  have hne : (whole.isEmpty = true) = False := by simpa using hd.whole_ne_nil
  unfold numeralText
  by_cases hf : frac = []
  · subst hf
    obtain ⟨htake, hdrop⟩ := digits_append hd.whole_digits hR
    simp only [readSeconds, if_true, List.append_nil, htake, hdrop, hne, if_false]
    rcases rest with _ | ⟨c, more⟩
    · rfl
    · by_cases hc : c = '.'
      · -- a point with no digit after it is left unread
        subst hc
        have hF : more.takeWhile Char.isDigit = [] := by
          cases more with
          | nil => rfl
          | cons d more' => simp [hdot rfl _ rfl d rfl]
        simp [hF]
      · split
        · next more' h => exact absurd (List.cons.inj h).1 hc
        · rfl
  · obtain ⟨htake, hdrop⟩ := digits_append hd.whole_digits (r := '.' :: (frac ++ rest)) (by simp)
    obtain ⟨htakeF, hdropF⟩ := digits_append hd.frac_digits hR
    have hfe : (frac.isEmpty = true) = False := by simpa using hf
    simp only [readSeconds, hf, if_false, List.append_assoc, List.cons_append, htake, hdrop, hne,
      htakeF, hdropF, hfe]

/-- A number is read from the start of a text as the numeral there that reads furthest. -/
theorem readSeconds_eq_some_iff {cs whole frac rest : List Char} :
    readSeconds cs = some (whole, frac, rest) ↔
      DecimalDigits whole frac ∧ cs = numeralText whole frac ++ rest ∧
        readsOn frac rest = false :=
  ⟨readSeconds_eq_some, fun ⟨hd, hcs, hon⟩ => hcs ▸ readSeconds_numeralText hd hon⟩

/-! ### Searching a line by position -/

/-- Searching the suffixes of a list, longest first, finds what `g` gives at the first position
where it gives something. -/
theorem findSome?_suffixes_eq_some_iff {α β : Type} {g : List α → Option β} {l : List α}
    {b : β} :
    (suffixes l).findSome? g = some b ↔
      ∃ n, g (l.drop n) = some b ∧ ∀ m < n, g (l.drop m) = none := by
  induction l with
  | nil =>
    simp only [suffixes, List.findSome?_cons, List.findSome?_nil, List.drop_nil]
    constructor
    · intro h
      refine ⟨0, ?_, fun m hm => absurd hm (Nat.not_lt_zero m)⟩
      split at h <;> simp_all
    · rintro ⟨n, hn, -⟩
      simp [hn]
  | cons x xs ih =>
    rw [suffixes, List.findSome?_cons]
    cases hx : g (x :: xs) with
    | some b' =>
      constructor
      · intro h
        exact ⟨0, by simpa using hx.trans h, fun m hm => absurd hm (Nat.not_lt_zero m)⟩
      · rintro ⟨n, hn, hmin⟩
        cases n with
        | zero => simpa [hx] using hn
        | succ n =>
          have h0 : g (x :: xs) = none := by simpa using hmin 0 (Nat.succ_pos n)
          simp [h0] at hx
    | none =>
      dsimp only
      rw [ih]
      constructor
      · rintro ⟨n, hn, hmin⟩
        refine ⟨n + 1, by simpa using hn, fun m hm => ?_⟩
        cases m with
        | zero => exact hx
        | succ m => simpa using hmin m (by omega)
      · rintro ⟨n, hn, hmin⟩
        cases n with
        | zero => simp [hx] at hn
        | succ n => exact ⟨n, by simpa using hn, fun m hm => by simpa using hmin (m + 1) (by omega)⟩

theorem findSome?_suffixes_eq_none_iff {α β : Type} {g : List α → Option β} {l : List α} :
    (suffixes l).findSome? g = none ↔ ∀ n, g (l.drop n) = none := by
  induction l with
  | nil => simp [suffixes]
  | cons x xs ih =>
    rw [suffixes, List.findSome?_cons]
    cases hx : g (x :: xs) with
    | some b =>
      simp only [reduceCtorEq, false_iff]
      exact fun h => by simpa [hx] using h 0
    | none =>
      dsimp only
      rw [ih]
      constructor
      · intro h n
        cases n with
        | zero => exact hx
        | succ n => simpa using h n
      · intro h n
        simpa using h (n + 1)

/-! ### The plain form -/

/-- The plain form `key([0-9]+(\.[0-9]+)?)s` matches the line at position `n`, capturing the
numeral with these digits. -/
def PlainAt (key line : List Char) (n : Nat) (whole frac : List Char) : Prop :=
  DecimalDigits whole frac ∧ ∃ post, line.drop n = key ++ numeralText whole frac ++ 's' :: post

theorem plainSecondsAt_eq_some_iff {key line : List Char} {n : Nat} {v : Binary64} :
    plainSecondsAt key (line.drop n) = some v ↔
      ∃ whole frac, PlainAt key line n whole frac ∧ v = secondsValue whole frac := by
  unfold plainSecondsAt PlainAt
  split
  · next hpre =>
    obtain ⟨u, hu⟩ := List.isPrefixOf_iff_prefix.1 hpre
    have hdrop : (line.drop n).drop key.length = u := by rw [← hu]; simp
    rw [hdrop]
    -- what follows the key is read once, so any match there captures that numeral
    have hread : ∀ w f post, DecimalDigits w f →
        (line.drop n = key ++ numeralText w f ++ 's' :: post ↔
          readSeconds u = some (w, f, 's' :: post)) := by
      intro w f post hd
      rw [readSeconds_eq_some_iff, ← hu, List.append_assoc, List.append_cancel_left_eq]
      exact ⟨fun h => ⟨hd, h, readsOn_cons rfl (by decide)⟩, fun h => h.2.1⟩
    split
    · next w f post hr =>
      have hd := (readSeconds_eq_some hr).1
      constructor
      · intro hv
        obtain rfl := Option.some.inj hv
        exact ⟨w, f, ⟨hd, post, (hread w f post hd).2 hr⟩, rfl⟩
      · rintro ⟨w', f', ⟨hd', post', ht⟩, rfl⟩
        rw [(hread w' f' post' hd').1 ht] at hr
        simp only [Option.some.injEq, Prod.mk.injEq] at hr
        rw [hr.1, hr.2.1]
    · next hnot =>
      simp only [reduceCtorEq, false_iff, not_exists, not_and]
      rintro w f ⟨hd, post, ht⟩ -
      exact hnot w f post ((hread w f post hd).1 ht)
  · next hpre =>
    simp only [reduceCtorEq, false_iff, not_exists, not_and]
    rintro w f ⟨-, post, ht⟩ -
    exact hpre (List.isPrefixOf_iff_prefix.2 ⟨_, by rw [ht, List.append_assoc]⟩)

theorem plainSecondsAt_eq_none_iff {key line : List Char} {n : Nat} :
    plainSecondsAt key (line.drop n) = none ↔ ∀ whole frac, ¬ PlainAt key line n whole frac := by
  rw [Option.eq_none_iff_forall_ne_some]
  simp only [ne_eq, plainSecondsAt_eq_some_iff, not_exists, not_and]
  exact ⟨fun h w f hp => h _ w f hp rfl, fun h _ w f hp _ => h w f hp⟩

/-- The plain form's search gives the numeral of its leftmost match. -/
theorem plainSeconds_eq_some_iff {key line : List Char} {v : Binary64} :
    plainSeconds key line = some v ↔
      ∃ n whole frac, PlainAt key line n whole frac ∧ v = secondsValue whole frac ∧
        ∀ m < n, ∀ w f, ¬ PlainAt key line m w f := by
  unfold plainSeconds
  rw [findSome?_suffixes_eq_some_iff]
  simp only [plainSecondsAt_eq_some_iff, plainSecondsAt_eq_none_iff]
  constructor
  · rintro ⟨n, ⟨w, f, hp, rfl⟩, hmin⟩
    exact ⟨n, w, f, hp, rfl, hmin⟩
  · rintro ⟨n, w, f, hp, rfl, hmin⟩
    exact ⟨n, ⟨w, f, hp, rfl⟩, hmin⟩

theorem plainSeconds_eq_none_iff {key line : List Char} :
    plainSeconds key line = none ↔ ∀ n whole frac, ¬ PlainAt key line n whole frac := by
  unfold plainSeconds
  rw [findSome?_suffixes_eq_none_iff]
  simp only [plainSecondsAt_eq_none_iff]

/-! ### The coloured form -/

/-- The text starts with the colour code `188m` and a numeral with these digits, read as far as
it goes. -/
def MarkedNumeral (u whole frac : List Char) : Prop :=
  DecimalDigits whole frac ∧
    ∃ post, u = "188m".toList ++ numeralText whole frac ++ post ∧ readsOn frac post = false

/-- The coloured form `key.*?188m([0-9]+(\.[0-9]+)?)` matches the line at position `n`, its lazy
run covering `mid`, and captures the numeral with these digits. -/
def ColouredAt (key line : List Char) (n : Nat) (mid whole frac : List Char) : Prop :=
  '\n' ∉ mid ∧ ∃ u, line.drop n = key ++ mid ++ u ∧ MarkedNumeral u whole frac

theorem markedSecondsAt_eq_some_iff {u : List Char} {v : Binary64} :
    markedSecondsAt u = some v ↔
      ∃ whole frac, MarkedNumeral u whole frac ∧ v = secondsValue whole frac := by
  unfold markedSecondsAt MarkedNumeral
  split
  · next hpre =>
    obtain ⟨u', rfl⟩ := List.isPrefixOf_iff_prefix.1 hpre
    have hdrop : ("188m".toList ++ u').drop 4 = u' := List.drop_left' rfl
    rw [hdrop, Option.map_eq_some_iff]
    constructor
    · rintro ⟨⟨w, f, r⟩, hr, rfl⟩
      obtain ⟨hd, rfl, hon⟩ := readSeconds_eq_some hr
      exact ⟨w, f, ⟨hd, r, by simp, hon⟩, rfl⟩
    · rintro ⟨w, f, ⟨hd, post, hu, hon⟩, rfl⟩
      rw [List.append_assoc, List.append_cancel_left_eq] at hu
      exact ⟨(w, f, post), hu ▸ readSeconds_numeralText hd hon, rfl⟩
  · next hpre =>
    simp only [reduceCtorEq, false_iff, not_exists, not_and]
    rintro w f ⟨-, post, hu, -⟩ -
    exact hpre (List.isPrefixOf_iff_prefix.2 ⟨_, by rw [hu, List.append_assoc]⟩)

theorem markedSecondsAt_eq_none_iff {u : List Char} :
    markedSecondsAt u = none ↔ ∀ whole frac, ¬ MarkedNumeral u whole frac := by
  rw [Option.eq_none_iff_forall_ne_some]
  simp only [ne_eq, markedSecondsAt_eq_some_iff, not_exists, not_and]
  exact ⟨fun h w f hm => h _ w f hm rfl, fun h _ w f hm _ => h w f hm⟩

theorem colouredAt_iff {key line u : List Char} {n : Nat} (hlf : '\n' ∉ line)
    (hu : key ++ u = line.drop n) {mid whole frac : List Char} :
    ColouredAt key line n mid whole frac ↔ ∃ u', u = mid ++ u' ∧ MarkedNumeral u' whole frac := by
  unfold ColouredAt
  rw [← hu]
  simp only [List.append_assoc, List.append_cancel_left_eq]
  constructor
  · rintro ⟨-, u', rfl, hm⟩
    exact ⟨u', rfl, hm⟩
  · rintro ⟨u', rfl, hm⟩
    refine ⟨fun h => hlf ?_, u', rfl, hm⟩
    have : '\n' ∈ line.drop n := by rw [← hu]; simp [h]
    exact List.mem_of_mem_drop this

theorem colouredSecondsAt_eq_some_iff {key line : List Char} {n : Nat} {v : Binary64}
    (hlf : '\n' ∉ line) :
    colouredSecondsAt key (line.drop n) = some v ↔
      ∃ mid whole frac, ColouredAt key line n mid whole frac ∧ v = secondsValue whole frac ∧
        ∀ mid' w f, ColouredAt key line n mid' w f → mid.length ≤ mid'.length := by
  unfold colouredSecondsAt
  split
  · next hpre =>
    obtain ⟨u, hu⟩ := List.isPrefixOf_iff_prefix.1 hpre
    have hdrop : (line.drop n).drop key.length = u := by rw [← hu]; simp
    simp only [hdrop, findSome?_suffixes_eq_some_iff, markedSecondsAt_eq_some_iff,
      markedSecondsAt_eq_none_iff, colouredAt_iff hlf hu]
    constructor
    · rintro ⟨k, ⟨w, f, hm, rfl⟩, hmin⟩
      -- the mark is inside `u`, so the lazy run is the first `k` characters
      have hk : k ≤ u.length := by
        apply Nat.le_of_not_lt
        intro hlt
        rw [List.drop_of_length_le (Nat.le_of_lt hlt)] at hm
        obtain ⟨-, post, hpost, -⟩ := hm
        simp at hpost
      refine ⟨u.take k, w, f, ⟨u.drop k, (List.take_append_drop k u).symm, hm⟩, rfl, ?_⟩
      rintro mid' w' f' ⟨u', rfl, hm'⟩
      rw [List.length_take_of_le hk]
      apply Nat.le_of_not_lt
      intro hlt
      exact hmin mid'.length hlt w' f' (by simpa using hm')
    · rintro ⟨mid, w, f, ⟨u', rfl, hm⟩, rfl, hmin⟩
      refine ⟨mid.length, ⟨w, f, by simpa using hm, rfl⟩, fun j hj w' f' hm' => ?_⟩
      have hjle : j ≤ (mid ++ u').length := by simp; omega
      have := hmin ((mid ++ u').take j) w' f' ⟨_, (List.take_append_drop j _).symm, hm'⟩
      rw [List.length_take_of_le hjle] at this
      omega
  · next hpre =>
    simp only [reduceCtorEq, false_iff, not_exists, not_and]
    rintro mid w f ⟨-, u, hu, -⟩
    exact absurd (List.isPrefixOf_iff_prefix.2 ⟨_, by rw [hu, List.append_assoc]⟩) hpre

theorem colouredSecondsAt_eq_none_iff {key line : List Char} {n : Nat} (hlf : '\n' ∉ line) :
    colouredSecondsAt key (line.drop n) = none ↔
      ∀ mid whole frac, ¬ ColouredAt key line n mid whole frac := by
  unfold colouredSecondsAt
  split
  · next hpre =>
    obtain ⟨u, hu⟩ := List.isPrefixOf_iff_prefix.1 hpre
    have hdrop : (line.drop n).drop key.length = u := by rw [← hu]; simp
    simp only [hdrop, findSome?_suffixes_eq_none_iff, markedSecondsAt_eq_none_iff,
      colouredAt_iff hlf hu, not_exists, not_and]
    constructor
    · rintro h mid w f u' rfl hm
      exact h mid.length w f (by simpa using hm)
    · intro h k w f hm
      by_cases hk : k ≤ u.length
      · exact h (u.take k) w f (u.drop k) (List.take_append_drop k u).symm hm
      · rw [List.drop_of_length_le (by omega)] at hm
        obtain ⟨-, post, hpost, -⟩ := hm
        simp at hpost
  · next hpre =>
    simp only [true_iff]
    rintro mid w f ⟨-, u, hu, -⟩
    exact absurd (List.isPrefixOf_iff_prefix.2 ⟨_, by rw [hu, List.append_assoc]⟩) hpre

/-- The coloured form's search gives the numeral of its leftmost match with the shortest lazy
run. -/
theorem colouredSeconds_eq_some_iff {key line : List Char} {v : Binary64} (hlf : '\n' ∉ line) :
    colouredSeconds key line = some v ↔
      ∃ n mid whole frac, ColouredAt key line n mid whole frac ∧ v = secondsValue whole frac ∧
        ∀ m mid' w f, ColouredAt key line m mid' w f →
          n < m ∨ n = m ∧ mid.length ≤ mid'.length := by
  unfold colouredSeconds
  simp only [findSome?_suffixes_eq_some_iff, colouredSecondsAt_eq_some_iff hlf,
    colouredSecondsAt_eq_none_iff hlf]
  constructor
  · rintro ⟨n, ⟨mid, w, f, hc, rfl, hshort⟩, hmin⟩
    refine ⟨n, mid, w, f, hc, rfl, fun m mid' w' f' hc' => ?_⟩
    rcases Nat.lt_trichotomy n m with hlt | rfl | hgt
    · exact .inl hlt
    · exact .inr ⟨rfl, hshort mid' w' f' hc'⟩
    · exact absurd hc' (hmin m hgt mid' w' f')
  · rintro ⟨n, mid, w, f, hc, rfl, hfirst⟩
    refine ⟨n, ⟨mid, w, f, hc, rfl, fun mid' w' f' hc' => ?_⟩, fun m hm mid' w' f' hc' => ?_⟩
    · rcases hfirst n mid' w' f' hc' with hlt | ⟨-, hle⟩
      · exact absurd hlt (Nat.lt_irrefl n)
      · exact hle
    · rcases hfirst m mid' w' f' hc' with hlt | ⟨rfl, -⟩ <;> omega

theorem colouredSeconds_eq_none_iff {key line : List Char} (hlf : '\n' ∉ line) :
    colouredSeconds key line = none ↔ ∀ n mid whole frac, ¬ ColouredAt key line n mid whole frac := by
  unfold colouredSeconds
  simp only [findSome?_suffixes_eq_none_iff, colouredSecondsAt_eq_none_iff hlf]

/-! ### What a line reports -/

/-- The time a line reports after a key, as a pattern search reads it: the numeral of the plain
form's leftmost match, or when the plain form does not occur, of the coloured form's leftmost
match with the shortest lazy run. -/
def Reports (key line : List Char) (v : Binary64) : Prop :=
  (∃ n whole frac, PlainAt key line n whole frac ∧ v = secondsValue whole frac ∧
      ∀ m < n, ∀ w f, ¬ PlainAt key line m w f) ∨
    ((∀ n w f, ¬ PlainAt key line n w f) ∧
      ∃ n mid whole frac, ColouredAt key line n mid whole frac ∧ v = secondsValue whole frac ∧
        ∀ m mid' w f, ColouredAt key line m mid' w f →
          n < m ∨ n = m ∧ mid.length ≤ mid'.length)

theorem reportedSeconds_eq_some_iff {key line : String} {v : Binary64} (hlf : '\n' ∉ line.toList) :
    reportedSeconds key line = some v ↔ Reports key.toList line.toList v := by
  unfold reportedSeconds Reports
  rw [← plainSeconds_eq_some_iff, ← plainSeconds_eq_none_iff, ← colouredSeconds_eq_some_iff hlf]
  split
  · next v' h => simp [h]
  · next h => simp [h]

theorem reportedSeconds_isSome_iff {key line : String} (hlf : '\n' ∉ line.toList) :
    (reportedSeconds key line).isSome ↔
      (∃ n whole frac, PlainAt key.toList line.toList n whole frac) ∨
        ∃ n mid whole frac, ColouredAt key.toList line.toList n mid whole frac := by
  unfold reportedSeconds
  split
  · next v h =>
    obtain ⟨n, w, f, hp, -⟩ := plainSeconds_eq_some_iff.1 h
    exact ⟨fun _ => .inl ⟨n, w, f, hp⟩, fun _ => rfl⟩
  · next h =>
    have hnone := plainSeconds_eq_none_iff.1 h
    rw [Option.isSome_iff_ne_none, ne_eq, colouredSeconds_eq_none_iff hlf]
    simp only [Classical.not_forall, Classical.not_not]
    constructor
    · exact .inr
    · rintro (⟨n, w, f, hp⟩ | h)
      · exact absurd hp (hnone n w f)
      · exact h

/-! ### The first line that reports a time -/

namespace StartStop

/-- Both times are found. -/
def Complete (t : StartStop) : Prop := t.startedS.isSome ∧ t.stoppedS.isSome

/-- Once both times are found, a line changes nothing. -/
theorem addLine_of_complete {t : StartStop} (h : t.Complete) (line : String) :
    t.addLine line = t := by
  obtain ⟨h₁, h₂⟩ := h
  obtain ⟨s₁, s₂⟩ := t
  obtain ⟨a, rfl⟩ := Option.isSome_iff_exists.1 h₁
  obtain ⟨b, rfl⟩ := Option.isSome_iff_exists.1 h₂
  rfl

theorem foldl_of_complete {t : StartStop} (h : t.Complete) (ls : List String) :
    ls.foldl addLine t = t := by
  induction ls with
  | nil => rfl
  | cons l ls ih => rw [List.foldl_cons, addLine_of_complete h, ih]

/-- Reading lines keeps each time already found, and otherwise takes it from the first line that
reports it. -/
theorem foldl_addLine (ls : List String) (t : StartStop) :
    ls.foldl addLine t =
      { startedS := t.startedS <|> ls.findSome? (reportedSeconds "started in ")
        stoppedS := t.stoppedS <|> ls.findSome? (reportedSeconds "stopped in ") } := by
  induction ls generalizing t with
  | nil => cases t; simp
  | cons l ls ih =>
    rw [List.foldl_cons, ih, List.findSome?_cons, List.findSome?_cons]
    simp only [addLine]
    cases reportedSeconds "started in " l <;> cases reportedSeconds "stopped in " l <;> simp

end StartStop

/-- The times read from the first `n` lines of a log. -/
def timesUpTo (content : String) (n : Nat) : StartStop :=
  ((lines content).take n).foldl StartStop.addLine {}

theorem parseStartStop_eq_findSome? (content : String) :
    parseStartStop content =
      { startedS := (lines content).findSome? (reportedSeconds "started in ")
        stoppedS := (lines content).findSome? (reportedSeconds "stopped in ") } := by
  unfold parseStartStop
  rw [StartStop.foldl_addLine]
  simp

/-- Reading may stop after the first `n` lines once both times are found there. -/
theorem parseStartStop_of_complete {content : String} {n : Nat}
    (h : (timesUpTo content n).Complete) : timesUpTo content n = parseStartStop content := by
  -- the whole log is read as its first `n` lines, then the rest from there
  have hsplit : parseStartStop content =
      ((lines content).drop n).foldl StartStop.addLine (timesUpTo content n) := by
    rw [parseStartStop, timesUpTo, ← List.foldl_append, List.take_append_drop]
  rw [hsplit, StartStop.foldl_of_complete h]

/-- A log's start and stop times are those of the first line that reports each, and reading may
stop once both are found. A line reports the numeral of the plain form's leftmost match, or
when there is none, of the coloured form's leftmost match with the shortest run before the
colour code; it reports a time exactly when either form occurs in it. -/
theorem parseStartStop_firstReports (content : String) :
    parseStartStop content =
        { startedS := (lines content).findSome? (reportedSeconds "started in ")
          stoppedS := (lines content).findSome? (reportedSeconds "stopped in ") } ∧
      (∀ n, (timesUpTo content n).Complete → timesUpTo content n = parseStartStop content) ∧
      ∀ line ∈ lines content, ∀ key v,
        (reportedSeconds key line = some v ↔ Reports key.toList line.toList v) ∧
          ((reportedSeconds key line).isSome ↔
            (∃ n whole frac, PlainAt key.toList line.toList n whole frac) ∨
              ∃ n mid whole frac, ColouredAt key.toList line.toList n mid whole frac) :=
  ⟨parseStartStop_eq_findSome? content, fun _ h => parseStartStop_of_complete h,
    fun _ hl _ _ => ⟨reportedSeconds_eq_some_iff (lf_not_mem_of_mem_lines hl),
      reportedSeconds_isSome_iff (lf_not_mem_of_mem_lines hl)⟩⟩

/-- A log whose start time is shown only in colour: its line reports the coloured form's
numeral. -/
theorem parseStartStop_coloured_start :
    "started in \x1b[38;5;188m1.5\x1b[39ms" ∈ lines "started in \x1b[38;5;188m1.5\x1b[39ms\n" ∧
      (reportedSeconds "started in " "started in \x1b[38;5;188m1.5\x1b[39ms" =
          some (secondsValue ['1'] ['5']) ↔
        Reports "started in ".toList "started in \x1b[38;5;188m1.5\x1b[39ms".toList
          (secondsValue ['1'] ['5'])) :=
  ⟨by decide,
    ((parseStartStop_firstReports "started in \x1b[38;5;188m1.5\x1b[39ms\n").2.2 _ (by decide)
      _ _).1⟩

end LaunchBench
