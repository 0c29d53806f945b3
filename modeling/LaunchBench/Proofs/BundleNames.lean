import Mathlib
import LaunchBench.Archive
import LaunchBench.Proofs.TreeEdits
/-!
Bundle names made by calls that race.

Calls that make bundle directories under one archive root may run at once, for scenarios that
finish within the same second. Each makes the archive root, then tries its names in turn, and
the only check that a name is free is the creation of its directory, which either makes it or
finds something there. Here the calls race as atomic steps over one shared tree (`Race`): the
making of the archive root is one step, and each try at a name is one step, as the host's
directory creation is atomic. Nothing else changes the tree meanwhile, and nothing is removed.
The model leaves out the clock (each call's base name is given) and every other program.

Neither step removes or changes anything, and a directory is only made under a name of its own,
never `.` or `..` (`FileTree.resolve_fresh`), so the tree only grows (`FileTree.Grows`). A name
that leads to a place holding something (`FileTree.Taken`) stays so, because a walk that does
not follow a link at the last name goes the same way in a grown tree (`resolve_grows`); and
creating a directory there fails.

* **`race_spec`**: under every schedule of the calls, two calls that returned a path returned
  different ones; each call that returned a path made its directory itself, at a step where its
  name was free and every earlier name of its own was taken; a call that returned an error got
  it from the archive root or from a try that failed other than on a taken name, and tried no
  more; and a call that has taken as many steps as the tree has entries, plus two steps and
  the root's depth for every call, has returned. The bound holds for every base name whose
  text after its last slash is a plain name (`OwnLast`), so that its names lead to places
  one level below one place, each its own (`place_candidate`): every base made from an
  application's name, whatever slashes it holds, is one (`ownLast_bundleBase`).
* **`race_alone`**: a call alone returns, within that many steps, what making a bundle directory
  returns, and leaves the files that the making leaves.
-/

namespace LaunchBench.Host.FileTree

/-! ### Trees that only grow -/

/-! ### Where a walk ends -/

section Fresh

variable {t : FileTree}

/-- A walk from a place reached through directories ends where something is, or at a name one
level down that is neither `.` nor `..`: those steps only lead to directories passed before. -/
theorem walkNames_fresh {b : Bool} {j : List String → Except Errno Location}
    (hj : ∀ L r, j L = .ok r → t.get? r = none → ∃ d c, r = d ++ [c] ∧ ¬ DotName c) :
    ∀ {done todo r}, t.DirsAlong done → t.walkNames b j done todo = .ok r → t.get? r = none →
      ∃ d c, r = d ++ [c] ∧ ¬ DotName c := by
  intro done todo
  induction todo generalizing done with
  | nil =>
    intro r hd h hr
    obtain rfl : done = r := by simpa [walkNames] using h
    rw [hd.get?_self] at hr
    cases hr
  | cons x rest ih =>
    intro r hd h hr
    cases hget : t.get? (done ++ [x]) with
    | none =>
      by_cases hx : DotName x
      · -- a step stays in the directory reached or goes up to one passed before
        rw [walkNames_cons_step t b j done x rest hget hx] at h
        refine ih ?_ h hr
        split
        · exact hd
        · exact hd.above (List.dropLast_prefix done)
      · have hx' := ne_of_not_dotName hx
        by_cases hrest : rest = []
        · subst hrest
          obtain rfl : done ++ [x] = r := by simpa [walkNames, hget, hx'] using h
          exact ⟨done, x, rfl, hx⟩
        · simp [walkNames, hget, hx', hrest] at h
    | some e =>
      have hhere : ∀ {r}, done ++ [x] = r → t.get? r = none → False := by
        rintro r rfl hr
        rw [hget] at hr
        cases hr
      cases e with
      | link target =>
        by_cases hgo : (rest.isEmpty && !b) = true
        · exact (hhere (by simpa [walkNames, hget, hgo] using h) hr).elim
        · rw [walkNames_cons_link t b j done x rest hget (by simpa using hgo)] at h
          exact hj _ _ h hr
      | dir =>
        rw [walkNames_cons_dir t b j done x rest hget] at h
        exact ih (hd.snoc hget) h hr
      | file | program | fifo =>
        by_cases hrest : rest = []
        · subst hrest
          exact (hhere (by simpa [walkNames, hget] using h) hr).elim
        · simp [walkNames, hget, hrest] at h

theorem walk_fresh {b : Bool} : ∀ {fuel done todo r}, t.DirsAlong done →
    t.walk b fuel done todo = .ok r → t.get? r = none → ∃ d c, r = d ++ [c] ∧ ¬ DotName c := by
  intro fuel
  -- on the fuel: a followed link walks its target from the root
  induction fuel with
  | zero => exact walkNames_fresh fun _ _ h => by cases h
  | succ f ih => exact walkNames_fresh fun _ _ h hr => ih (fun k _ hkl => by simp at hkl; omega) h hr

/-- A place that a path resolves to and that holds nothing is a name one level down, neither
`.` nor `..`. -/
theorem resolve_fresh {b : Bool} {loc r : Location} (h : t.resolve b loc = .ok r)
    (hr : t.get? r = none) : ∃ d c, r = d ++ [c] ∧ ¬ DotName c :=
  walk_fresh (fun k _ hkl => by simp at hkl; omega) h hr

theorem placeFor_eq_ok {loc r : Location} (h : t.placeFor loc = .ok r) :
    t.resolve false loc = .ok r ∧ r ≠ [] ∧ t.get? r.dropLast = some .dir := by
  unfold placeFor at h
  cases hres : t.resolve false loc with
  | error e => simp [hres, bind, Except.bind] at h
  | ok r₀ =>
    by_cases hne : r₀ = []
    · simp [hres, hne, bind, Except.bind] at h
    · have hemp : r₀.isEmpty = false := by simpa using hne
      simp only [hres, bind, Except.bind, hemp, Bool.false_eq_true, if_false] at h
      cases hd : t.get? r₀.dropLast with
      | none => simp [hd] at h
      | some e =>
        cases e <;> simp only [hd, reduceCtorEq] at h
        cases h
        exact ⟨rfl, hne, hd⟩

end Fresh

/-! ### Trees that only grow -/

/-- `t'` keeps every entry of `t`, and what it adds has a name of its own: places may be
filled, never emptied or changed, and never by an entry named `.` or `..`. -/
structure Grows (t t' : FileTree) : Prop where
  keeps : ∀ l e, t.get? l = some e → t'.get? l = some e
  named : ∀ l e, t'.get? l = some e → t.get? l = none → ∀ c ∈ l.getLast?, ¬ DotName c

section Grows

variable {t t' t'' : FileTree}

theorem Grows.refl (t : FileTree) : Grows t t where
  keeps _ _ h := h
  named _ _ h h' := by
    rw [h'] at h
    cases h

theorem Grows.trans (h : Grows t t') (h' : Grows t' t'') : Grows t t'' where
  keeps l e hl := h'.keeps l e (h.keeps l e hl)
  named l e hl hnone := by
    cases hmid : t'.get? l with
    | none => exact h'.named l e hl hmid
    | some e' => exact h.named l e' hmid hnone

/-- Putting an entry with a name of its own where nothing is keeps every other entry. -/
theorem grows_put {l : Location} (h : t.get? l = none) (hname : ∀ c ∈ l.getLast?, ¬ DotName c)
    (e : Entry) : Grows t (t.put l e) where
  keeps l' e' hl' := by
    have hne : l' ≠ l := by
      rintro rfl
      rw [h] at hl'
      cases hl'
    rw [get?_put_ne _ _ hne]
    exact hl'
  named l' e' hl' hnone := by
    by_cases hne : l' = l
    · subst hne
      exact hname
    · rw [get?_put_ne _ _ hne, hnone] at hl'
      cases hl'

theorem length_put_le (t : FileTree) (l : Location) (e : Entry) :
    (t.put l e).entries.length ≤ t.entries.length + 1 := by
  simp only [put, List.length_cons]
  have := List.length_filter_le (fun x : Location × Entry => x.1 != l) t.entries
  omega

/-- Making a directory puts it where nothing was. -/
theorem mkdir_eq_put {loc : Location} (h : t.mkdir loc = .ok t') :
    ∃ r, t.placeFor loc = .ok r ∧ t.get? r = none ∧ t' = t.put r .dir := by
  unfold mkdir at h
  cases hp : t.placeFor loc with
  | error e => simp [hp, bind, Except.bind] at h
  | ok r =>
    cases hr : t.get? r with
    | none =>
      simp only [hp, hr, bind, Except.bind, Except.ok.injEq] at h
      exact ⟨r, rfl, hr, h.symm⟩
    | some e => simp [hp, hr, bind, Except.bind] at h

/-- A directory is made where nothing was, under a name of its own. -/
theorem mkdir_grows {loc : Location} (h : t.mkdir loc = .ok t') : Grows t t' := by
  obtain ⟨r, hp, hr, rfl⟩ := mkdir_eq_put h
  obtain ⟨d, c, rfl, hc⟩ := resolve_fresh (placeFor_eq_ok hp).1 hr
  exact grows_put hr (by simpa using hc) .dir

theorem mkdir_length {loc : Location} (h : t.mkdir loc = .ok t') :
    t'.entries.length ≤ t.entries.length + 1 := by
  obtain ⟨r, -, -, rfl⟩ := mkdir_eq_put h
  exact length_put_le t r .dir

/-- Making a directory and those above it only makes directories where nothing was, at most
one for each level climbed. -/
theorem mkdirUp_grows : ∀ (d : Nat) (loc : Location) {t'}, t.mkdirUp d loc = .ok t' →
    Grows t t' ∧ t'.entries.length ≤ t.entries.length + d := by
  intro d
  induction d generalizing t with
  | zero =>
    intro loc t' h
    cases h
    exact ⟨Grows.refl t, by omega⟩
  | succ d ih =>
    intro loc t' h
    unfold mkdirUp at h
    split at h
    · cases h
      exact ⟨Grows.refl t, by omega⟩
    · split at h
      · -- the place is made at once
        next t₁ hmk =>
        cases h
        exact ⟨mkdir_grows hmk, by have := mkdir_length hmk; omega⟩
      · -- the places above are made first, then this one when it is still missing
        cases hup : t.mkdirUp d loc.dropLast with
        | error e => simp [hup, bind, Except.bind] at h
        | ok t₁ =>
          obtain ⟨hg₁, hl₁⟩ := ih loc.dropLast hup
          simp only [hup, bind, Except.bind] at h
          split at h
          · next t₂ hmk =>
            cases h
            exact ⟨hg₁.trans (mkdir_grows hmk), by have := mkdir_length hmk; omega⟩
          · split at h
            · cases h
              exact ⟨hg₁, by omega⟩
            · cases h
      · split at h
        · cases h
          exact ⟨Grows.refl t, by omega⟩
        · cases h

theorem mkdirAll_grows {loc : Location} (h : t.mkdirAll loc = .ok t') :
    Grows t t' ∧ t'.entries.length ≤ t.entries.length + (loc.length + 1) :=
  mkdirUp_grows _ loc h

end Grows

/-! ### Walks in a grown tree -/

section Walks

variable {t t' : FileTree}

/-- A walk never fails with "already exists". -/
theorem walkNames_ne_alreadyExists {b : Bool} {j : List String → Except Errno Location}
    (hj : ∀ L, j L ≠ .error .alreadyExists) :
    ∀ done todo, t.walkNames b j done todo ≠ .error .alreadyExists := by
  intro done todo
  induction todo generalizing done with
  | nil => simp [walkNames]
  | cons x rest ih =>
    cases hget : t.get? (done ++ [x]) with
    | none =>
      by_cases hx : DotName x
      · rw [walkNames_cons_step t b j done x rest hget hx]
        exact ih _
      · have hx' := ne_of_not_dotName hx
        by_cases hr : rest = [] <;> simp [walkNames, hget, hr, hx']
    | some e =>
      cases e with
      | link target =>
        by_cases hgo : (rest.isEmpty && !b) = true
        · simp [walkNames, hget, hgo]
        · rw [walkNames_cons_link t b j done x rest hget (by simpa using hgo)]
          exact hj _
      | dir =>
        rw [walkNames_cons_dir t b j done x rest hget]
        exact ih _
      | file | program | fifo => by_cases hr : rest = [] <;> simp [walkNames, hget, hr]

theorem walk_ne_alreadyExists (b : Bool) :
    ∀ fuel done todo, t.walk b fuel done todo ≠ .error .alreadyExists := by
  intro fuel
  induction fuel with
  | zero => exact walkNames_ne_alreadyExists fun _ => by simp
  | succ f ih => exact walkNames_ne_alreadyExists fun L => ih [] L

variable (hg : Grows t t')
include hg

/-- A walk that does not follow a link at the last name goes the same way in a grown tree:
every place it passed through is as it was, the last place is not looked into, and no new
entry is named like a step. -/
theorem walkNames_grows {j j' : List String → Except Errno Location}
    (hj : ∀ L r, j L = .ok r → j' L = .ok r) :
    ∀ {done todo r}, t.walkNames false j done todo = .ok r →
      t'.walkNames false j' done todo = .ok r := by
  intro done todo
  induction todo generalizing done with
  | nil =>
    intro r h
    simpa [walkNames] using h
  | cons x rest ih =>
    intro r h
    cases hget : t.get? (done ++ [x]) with
    | none =>
      cases hget' : t'.get? (done ++ [x]) with
      | none =>
        -- nothing there in either tree: a step goes alike, a last name ends both walks
        by_cases hx : DotName x
        · rw [walkNames_cons_step t false j done x rest hget hx] at h
          rw [walkNames_cons_step t' false j' done x rest hget' hx]
          exact ih h
        · have hx' := ne_of_not_dotName hx
          by_cases hr : rest = []
          · subst hr
            simpa [walkNames, hget, hget', hx'] using h
          · simp [walkNames, hget, hx', hr] at h
      | some e' =>
        -- a new entry has a name of its own, so the walk in `t` ended at it
        have hx := hg.named _ _ hget' hget x (by simp)
        have hx' := ne_of_not_dotName hx
        by_cases hr : rest = []
        · subst hr
          rw [walkNames_single t' _ _ _ hx]
          simpa [walkNames, hget, hx'] using h
        · simp [walkNames, hget, hx', hr] at h
    | some e =>
      have hget' := hg.keeps _ _ hget
      cases e with
      | link target =>
        by_cases hr : rest = []
        · subst hr
          simpa [walkNames, hget, hget'] using h
        · rw [walkNames_cons_link t false j done x rest hget (by simp [hr])] at h
          rw [walkNames_cons_link t' false j' done x rest hget' (by simp [hr])]
          exact hj _ _ h
      | dir =>
        rw [walkNames_cons_dir t false j done x rest hget] at h
        rw [walkNames_cons_dir t' false j' done x rest hget']
        exact ih h
      | file | program | fifo => simpa [walkNames, hget, hget'] using h

theorem walk_grows : ∀ {fuel done todo r}, t.walk false fuel done todo = .ok r →
    t'.walk false fuel done todo = .ok r := by
  intro fuel
  induction fuel with
  | zero => exact walkNames_grows hg fun _ _ h => by cases h
  | succ f ih => exact walkNames_grows hg fun _ _ h => ih h

/-- Resolving a place without following a link at its last name gives the same place in a
grown tree. -/
theorem resolve_grows {loc r : Location} (h : t.resolve false loc = .ok r) :
    t'.resolve false loc = .ok r :=
  walk_grows hg h

end Walks

/-! ### Taken names -/

/-- The name `loc`, its last part not followed, leads to a place that holds something. -/
def Taken (t : FileTree) (loc : Location) : Prop :=
  ∃ r, t.resolve false loc = .ok r ∧ (t.get? r).isSome

section Taken

variable {t t' : FileTree} {loc : Location}

theorem Taken.grows (h : t.Taken loc) (hg : Grows t t') : t'.Taken loc := by
  obtain ⟨r, hr, hsome⟩ := h
  obtain ⟨e, he⟩ := Option.isSome_iff_exists.1 hsome
  exact ⟨r, resolve_grows hg hr, by rw [hg.keeps _ _ he]; rfl⟩

/-- A directory is made only where the name leads to nothing. -/
theorem not_taken_of_mkdir (h : t.mkdir loc = .ok t') : ¬ t.Taken loc := by
  rintro ⟨r, hr, hsome⟩
  obtain ⟨r', hp, hnone, -⟩ := mkdir_eq_put h
  have hr' := (placeFor_eq_ok hp).1
  rw [hr] at hr'
  cases hr'
  rw [hnone] at hsome
  cases hsome

/-- Once made, the directory is what the name leads to. -/
theorem taken_of_mkdir (h : t.mkdir loc = .ok t') : t'.Taken loc := by
  have hg := mkdir_grows h
  obtain ⟨r, hp, -, rfl⟩ := mkdir_eq_put h
  obtain ⟨hr, hne, -⟩ := placeFor_eq_ok hp
  exact ⟨r, resolve_grows hg hr, by rw [get?_put _ _ _ hne]; rfl⟩

/-- Finding the place for a new entry fails with "already exists" only at the root, which is
always there. -/
theorem taken_of_placeFor_exists (h : t.placeFor loc = .error .alreadyExists) : t.Taken loc := by
  unfold placeFor at h
  cases hres : t.resolve false loc with
  | error e =>
    have he : e = .alreadyExists := by simpa [hres, bind, Except.bind] using h
    subst he
    exact absurd hres (walk_ne_alreadyExists false 40 [] loc)
  | ok r =>
    refine ⟨r, hres, ?_⟩
    by_cases hne : r = []
    · subst hne
      rfl
    · exfalso
      have hemp : r.isEmpty = false := by simpa using hne
      simp only [hres, bind, Except.bind, hemp, Bool.false_eq_true, if_false] at h
      cases hd : t.get? r.dropLast with
      | none => simp [hd] at h
      | some e => cases e <;> simp [hd] at h

/-- Making a directory fails with "already exists" only where the name leads to something. -/
theorem taken_of_mkdir_exists (h : t.mkdir loc = .error .alreadyExists) : t.Taken loc := by
  cases hp : t.placeFor loc with
  | ok r =>
    obtain ⟨hr, -, -⟩ := placeFor_eq_ok hp
    refine ⟨r, hr, ?_⟩
    cases hget : t.get? r with
    | some e => rfl
    | none => simp [mkdir, hp, hget, bind, Except.bind] at h
  | error e =>
    have he : e = .alreadyExists := by simpa [mkdir, hp, bind, Except.bind] using h
    subst he
    exact taken_of_placeFor_exists hp

end Taken

end LaunchBench.Host.FileTree

namespace LaunchBench.Archive

open Host FileTree

/-! ### Bundle names -/

theorem toList_candidateName_succ (base : String) (k : Nat) :
    (candidateName base (k + 1)).toList = base.toList ++ '-' :: Nat.toDigits 10 (k + 1) := by
  simp [candidateName, Nat.toList_repr]

/-- The plain name is shorter than every name with a suffix. -/
theorem candidateName_succ_ne_zero (base : String) (k : Nat) :
    candidateName base (k + 1) ≠ candidateName base 0 := by
  intro h
  have hlen := congrArg (fun s : String => s.toList.length) h
  simp [candidateName] at hlen

/-- Different tries use different names. -/
theorem candidateName_injective (base : String) : Function.Injective (candidateName base) := by
  intro k k' h
  cases k with
  | zero =>
    cases k' with
    | zero => rfl
    | succ k' => exact absurd h.symm (candidateName_succ_ne_zero base k')
  | succ k =>
    cases k' with
    | zero => exact absurd h (candidateName_succ_ne_zero base k)
    | succ k' =>
      -- past the base and the dash, the digits spell the numbers
      have hlist := congrArg String.toList h
      rw [toList_candidateName_succ, toList_candidateName_succ] at hlist
      have hdigits : Nat.toDigits 10 (k + 1) = Nat.toDigits 10 (k' + 1) := by simpa using hlist
      have hval := congrArg (fun ds => Nat.ofDigitChars 10 ds 0) hdigits
      simpa [Nat.ofDigitChars_ten_toDigits] using hval

/-- The names tried for a plain base name are plain. -/
theorem plainName_candidateName {base : String} (h : PlainName base) (k : Nat) :
    PlainName (candidateName base k) := by
  cases k with
  | zero => exact h
  | succ k =>
    obtain ⟨hne, hslash, -, -⟩ := h
    have hbase : base.toList ≠ [] := by simpa using hne
    -- a name with a suffix has at least three characters, so it is none of "", "." and ".."
    have hlong : ∀ s : String, s.toList.length < 3 → candidateName base (k + 1) ≠ s := by
      intro s hs he
      have := List.length_pos_iff.2 hbase
      have := List.length_pos_iff.2 (Nat.toDigits_ne_nil (n := k + 1) (b := 10))
      rw [← he, toList_candidateName_succ] at hs
      simp only [List.length_append, List.length_cons] at hs
      omega
    refine ⟨hlong "" (by simp), fun hs => ?_, hlong "." (by simp), hlong ".." (by simp)⟩
    -- the suffix is a dash and digits, and no digit is a slash
    rw [toList_candidateName_succ, List.mem_append, List.mem_cons] at hs
    rcases hs with hs | hs | hs
    · exact hslash hs
    · exact absurd hs (by decide)
    · have := Nat.isDigit_of_mem_toDigits (by decide) (by decide) hs
      exact absurd this (by decide)

/-- A path that names no place fails to name one with "no entry" or "name too long", never with
"already exists". -/
theorem place_ne_alreadyExists (cwd : Location) (p : HostPath) :
    place cwd p ≠ .error (.os .alreadyExists) := by
  have hlocate : locate cwd p ≠ .error .alreadyExists := by
    unfold locate
    dsimp only
    split_ifs <;> simp
  unfold place
  cases hl : locate cwd p with
  | ok loc => simp [Except.mapError]
  | error e =>
    simp only [Except.mapError, ne_eq, Except.error.injEq, IoError.os.injEq]
    rintro rfl
    exact hlocate hl

/-- Below an archive root that names a place, a plain name names the place one level down, or
is refused as too long. -/
theorem place_join_of_ok {cwd : Location} {root : HostPath} {R : Location}
    (hR : place cwd root = .ok R) {c : String} (hc : PlainName c) {loc : Location}
    (h : place cwd (root.join c) = .ok loc) : loc = R ++ [c] := by
  have hR' : locate cwd root = .ok R := by
    unfold place at hR
    cases hl : locate cwd root <;> simp_all [Except.mapError]
  unfold place at h
  by_cases hshort : c.utf8ByteSize ≤ 255
  · rw [locate_join_of_ok hR' hc hshort] at h
    simpa [Except.mapError] using h.symm
  · have hpe : root.isEmpty = false := by simpa using ne_empty_of_locate hR'
    rw [locate_join_plain cwd root hc, hpe, if_neg Bool.false_ne_true, hR'] at h
    simp [Except.bind, Nat.lt_of_not_le hshort, Except.mapError] at h

/-! ### Base names with slashes -/

theorem slash_not_mem_toDigits (n : Nat) : '/' ∉ Nat.toDigits 10 n := fun h =>
  absurd (Nat.isDigit_of_mem_toDigits (by decide) (by decide) h) (by decide)

/-- A compact time stamp is digits, signs and a dash: it holds no slash. -/
theorem slash_not_mem_compactStamp (t : Clock.Timestamp) : '/' ∉ t.compactStamp.toList := by
  have hpad (w n : Nat) : '/' ∉ (Clock.Timestamp.padded w n).toList := by
    simp [Clock.Timestamp.padded, slash_not_mem_toDigits]
  have htwo (n : Nat) : '/' ∉ (Clock.Timestamp.twoDigits n).toList := by
    unfold Clock.Timestamp.twoDigits
    split <;> simp [slash_not_mem_toDigits]
  have hyear (y : Int) : '/' ∉ (Clock.Timestamp.yearText y).toList := by
    unfold Clock.Timestamp.yearText
    split
    · exact hpad _ _
    · split <;> simp [hpad]
  unfold Clock.Timestamp.compactStamp
  simp [hyear, htwo]

/-- A text holds no slash, or splits at its last slash. -/
theorem exists_last_slash (s : String) :
    '/' ∉ s.toList ∨ ∃ front last, s = front ++ "/" ++ last ∧ '/' ∉ last.toList := by
  by_cases h : '/' ∈ s.toList
  · right
    -- the text after the last slash is the reversed text up to its first slash
    set r := s.toList.reverse with hr
    have hmem : '/' ∈ r := by simpa [hr] using h
    obtain ⟨b, hb⟩ : ∃ b, r.dropWhile (· != '/') = '/' :: b := by
      cases hd : r.dropWhile (· != '/') with
      | nil =>
        have := List.dropWhile_eq_nil_iff.1 hd '/' hmem
        simp at this
      | cons c b =>
        have := List.head_dropWhile_not (fun x => x != '/') (l := r) (by simp [hd])
        simp only [hd, List.head_cons, bne_eq_false_iff_eq] at this
        exact ⟨b, by rw [this]⟩
    have hsplit : r = r.takeWhile (· != '/') ++ '/' :: b := by
      rw [← hb, List.takeWhile_append_dropWhile]
    have hnot : '/' ∉ r.takeWhile (· != '/') := fun hm => by
      have := List.mem_takeWhile_imp hm
      simp at this
    refine ⟨String.ofList b.reverse, String.ofList (r.takeWhile (· != '/')).reverse, ?_, ?_⟩
    · rw [← String.toList_inj]
      have hs : s.toList = (r.takeWhile (· != '/') ++ '/' :: b).reverse := by
        rw [← hsplit, hr, List.reverse_reverse]
      rw [String.toList_append, String.toList_append, String.toList_ofList, String.toList_ofList, hs,
        List.reverse_append, List.reverse_cons]
      simp
    · simpa using hnot
  · exact .inl h

/-- A text with a dash and no slash names one directory entry. -/
theorem plainName_of_dash {s : String} (hslash : '/' ∉ s.toList) (hdash : '-' ∈ s.toList) :
    PlainName s := by
  refine ⟨?_, hslash, ?_, ?_⟩ <;> rintro rfl <;> revert hdash <;> decide

/-- A base name whose text after its last slash, or the whole of it when it has none, is a
plain name: the names tried for it differ in that part only. -/
def OwnLast (base : String) : Prop :=
  PlainName base ∨ ∃ front last, base = front ++ "/" ++ last ∧ PlainName last

/-- Every base name made from an application's name, a mode and a time ends in a plain name,
whatever slashes the application's name holds. -/
theorem ownLast_bundleBase (app : String) (mode : Mode) (now : Clock.Timestamp) :
    OwnLast (app ++ "-" ++ mode.name ++ "-" ++ now.compactStamp) := by
  -- the mode and the time after the application's name add a dash and no slash
  have hmode : '/' ∉ mode.name.toList := by cases mode <;> decide
  have hstamp := slash_not_mem_compactStamp now
  have hassoc : app ++ "-" ++ mode.name ++ "-" ++ now.compactStamp =
      app ++ ("-" ++ mode.name ++ "-" ++ now.compactStamp) := by simp [String.append_assoc]
  rw [hassoc]
  rcases exists_last_slash app with happ | ⟨front, last, rfl, hlast⟩
  · exact .inl (plainName_of_dash (by simp [happ, hmode, hstamp]) (by simp))
  · refine .inr ⟨front, last ++ ("-" ++ mode.name ++ "-" ++ now.compactStamp),
      by simp [String.append_assoc], plainName_of_dash (by simp [hlast, hmode, hstamp]) (by simp)⟩

theorem candidateName_append_slash (front last : String) (k : Nat) :
    candidateName (front ++ "/" ++ last) k = front ++ "/" ++ candidateName last k := by
  cases k <;> simp [candidateName, String.append_assoc]

/-- Whether a text starts with a slash is read off its first character, which appending keeps. -/
theorem startsWith_slash_append {a : String} (ha : a ≠ "") (c : String) :
    (a ++ c).startsWith "/" = a.startsWith "/" := by
  obtain ⟨x, xs, hx⟩ : ∃ x xs, a.toList = x :: xs := by
    cases h : a.toList with
    | nil => exact absurd (String.toList_eq_nil_iff.1 h) ha
    | cons x xs => exact ⟨x, xs, rfl⟩
  apply Bool.eq_iff_iff.2
  simp [hx]

/-- Joining a path with a slash in it: the text before its last slash is joined to the root,
and the name after it follows. A path that starts with its slash is taken as it is. -/
theorem join_append_slash (root front c : HostPath) :
    root.join (front ++ "/" ++ c) = (if front = "" then "" else root.join front) ++ "/" ++ c := by
  by_cases hf : front = ""
  · subst hf
    simp [HostPath.join, HostPath.isAbsolute]
  · have habs : HostPath.isAbsolute (front ++ "/" ++ c) = HostPath.isAbsolute front :=
      (startsWith_slash_append (by simp) c).trans (startsWith_slash_append hf "/")
    rw [if_neg hf]
    unfold HostPath.join
    rw [habs]
    split
    · rfl
    · split <;> simp [String.append_assoc]

/-- A place named by a path with a plain name after its last slash is one level below the
place the text before it leads to. -/
theorem locate_append_slash {cwd : Location} {Y c : String} (hc : PlainName c) {loc : Location}
    (h : locate cwd (Y ++ "/" ++ c) = .ok loc) :
    loc = (if (Y ++ "/").startsWith "/" then [] else cwd) ++ (pathParts Y).filter (· != ".") ++
      [c] := by
  have hne : (Y ++ "/" ++ c).isEmpty = false := by
    cases h' : (Y ++ "/" ++ c).isEmpty
    · rfl
    · simp [String.isEmpty_iff] at h'
  have hstart : (Y ++ "/" ++ c).startsWith "/" = (Y ++ "/").startsWith "/" :=
    startsWith_slash_append (by simp) c
  have hkept : [c].filter (· != ".") = [c] := by simp [hc.2.2.1]
  unfold locate at h
  rw [hne, pathParts_append_slash, pathParts_of_plain hc, hstart] at h
  simp only [Bool.false_eq_true, if_false, List.filter_append, hkept] at h
  split at h
  · cases h
  · exact (Except.ok.inj h).symm.trans (by simp [List.append_assoc])

/-- The names tried for a base that ends in a plain name lead, below an archive root that names
a place, one level below one place, the same for all of them, each by its own last name. -/
theorem place_candidate {cwd : Location} {root base : HostPath} {R : Location} (hb : OwnLast base)
    (hR : place cwd root = .ok R) :
    ∃ A last, (∀ k, PlainName (candidateName last k)) ∧
      ∀ k loc, place cwd (root.join (candidateName base k)) = .ok loc →
        loc = A ++ [candidateName last k] := by
  rcases hb with hplain | ⟨front, last, rfl, hlast⟩
  · exact ⟨R, base, plainName_candidateName hplain, fun k loc h =>
      place_join_of_ok hR (plainName_candidateName hplain k) h⟩
  · -- the names tried differ after the last slash only
    set Y : HostPath := if front = "" then "" else root.join front
    refine ⟨(if (Y ++ "/").startsWith "/" then [] else cwd) ++ (pathParts Y).filter (· != "."),
      last, plainName_candidateName hlast, fun k loc h => ?_⟩
    rw [candidateName_append_slash, join_append_slash] at h
    change place cwd (Y ++ "/" ++ candidateName last k) = .ok loc at h
    have h' : locate cwd (Y ++ "/" ++ candidateName last k) = .ok loc := by
      unfold place at h
      cases hl : locate cwd (Y ++ "/" ++ candidateName last k) <;>
        simp only [hl, Except.mapError, reduceCtorEq, Except.ok.injEq] at h ⊢
      exact h
    exact locate_append_slash (plainName_candidateName hlast k) h'

/-- The `k`-th name of `base` below the archive root leads to a place that holds something. -/
def NameTaken (fs : FileTree) (cwd : Location) (root base : HostPath) (k : Nat) : Prop :=
  ∃ loc, place cwd (root.join (candidateName base k)) = .ok loc ∧ fs.Taken loc

theorem NameTaken.grows {fs fs' : FileTree} {cwd : Location} {root base : HostPath} {k : Nat}
    (h : NameTaken fs cwd root base k) (hg : Grows fs fs') : NameTaken fs' cwd root base k := by
  obtain ⟨loc, hloc, ht⟩ := h
  exact ⟨loc, hloc, ht.grows hg⟩

/-! ### One try at a name -/

section Try

variable {fs fs' : FileTree} {cwd : Location} {root base : HostPath} {k : Nat}

/-- A try that made a directory made it itself, where the name was free, at the place of the
path it returns. -/
theorem tryName_made {p : HostPath} (h : tryName fs cwd root base k = .made fs' p) :
    p = root.join (candidateName base k) ∧
      ∃ loc, place cwd p = .ok loc ∧ fs.mkdir loc = .ok fs' := by
  unfold tryName at h
  cases hp : place cwd (root.join (candidateName base k)) with
  | error e => simp [hp] at h
  | ok loc =>
    cases hmk : fs.mkdir loc with
    | ok fs₁ =>
      simp only [hp, hmk, Attempt.made.injEq] at h
      obtain ⟨rfl, rfl⟩ := h
      exact ⟨rfl, loc, hp, hmk⟩
    | error e => cases e <;> simp [hp, hmk] at h

/-- A try finds its name taken only when the name leads to something. -/
theorem tryName_taken (h : tryName fs cwd root base k = .taken) : NameTaken fs cwd root base k := by
  unfold tryName at h
  cases hp : place cwd (root.join (candidateName base k)) with
  | error e => simp [hp] at h
  | ok loc =>
    refine ⟨loc, hp, taken_of_mkdir_exists ?_⟩
    cases hmk : fs.mkdir loc with
    | ok fs₁ => simp [hp, hmk] at h
    | error e => cases e <;> simp_all

/-- A try that fails does so with an error other than "already exists". -/
theorem tryName_failed {e : IoError} (h : tryName fs cwd root base k = .failed e) :
    e ≠ .os .alreadyExists := by
  unfold tryName at h
  cases hp : place cwd (root.join (candidateName base k)) with
  | error e' =>
    simp only [hp, Attempt.failed.injEq] at h
    subst h
    exact fun he => place_ne_alreadyExists cwd _ (he ▸ hp)
  | ok loc =>
    cases hmk : fs.mkdir loc with
    | ok fs₁ => simp [hp, hmk] at h
    | error e' =>
      cases e' <;> simp only [hp, hmk, Attempt.failed.injEq, reduceCtorEq] at h <;> subst h <;> simp

end Try

/-- Below an archive root, every earlier name of a base ending in a plain name that is taken
leads to an entry of its own: so a call can find no more names taken than the tree has
entries. -/
theorem le_entries_of_taken {fs : FileTree} {cwd : Location} {root base : HostPath} {R : Location}
    (hb : OwnLast base) (hR : place cwd root = .ok R) :
    ∀ {k}, (∀ k' < k, NameTaken fs cwd root base k') → k ≤ fs.entries.length := by
  intro k hk
  obtain ⟨A, last, hplain, hloc⟩ := place_candidate hb hR
  cases k with
  | zero => exact Nat.zero_le _
  | succ k =>
    -- each taken name leads to the place the common part resolves to, with its last name added
    have hplace : ∀ k', NameTaken fs cwd root base k' → ∃ R₀, fs.resolve true A = .ok R₀ ∧
        (fs.get? (R₀ ++ [candidateName last k'])).isSome := by
      intro k' ⟨loc, hloc', r, hr, hsome⟩
      rw [hloc k' loc hloc'] at hr
      obtain ⟨R₀, hR₀, rfl⟩ := resolve_snoc_nofollow (hplain k').not_dotName hr
      exact ⟨R₀, hR₀, hsome⟩
    obtain ⟨R₀, hR₀, -⟩ := hplace 0 (hk 0 (Nat.succ_pos k))
    have hentry : ∀ k' < k + 1, R₀ ++ [candidateName last k'] ∈ fs.entries.map (·.1) := by
      intro k' hk'
      obtain ⟨R₁, hR₁, hsome⟩ := hplace k' (hk k' hk')
      rw [hR₀] at hR₁
      cases hR₁
      obtain ⟨e, he⟩ := Option.isSome_iff_exists.1 hsome
      exact List.mem_map.2 ⟨_, mem_of_get? he (by simp), rfl⟩
    have hnd : ((List.range (k + 1)).map fun k' => R₀ ++ [candidateName last k']).Nodup :=
      List.nodup_range.map fun a b hab => candidateName_injective last (by simpa using hab)
    have hsub : ((List.range (k + 1)).map fun k' => R₀ ++ [candidateName last k']) ⊆
        fs.entries.map (·.1) := by
      intro l hl
      obtain ⟨k', hk', rfl⟩ := List.mem_map.1 hl
      exact hentry k' (List.mem_range.1 hk')
    simpa using (hnd.subperm hsub).length_le

/-! ### Calls that race -/

/-- Where one call making a bundle directory stands. -/
inductive Claim where
  /-- About to make the archive root. -/
  | start
  /-- About to try its `k`-th name. -/
  | trying (k : Nat)
  /-- Returned the path of its `k`-th name. -/
  | made (k : Nat) (path : HostPath)
  /-- Returned an error. -/
  | failed (e : IoError)
deriving DecidableEq, Repr

/-- One atomic step of a call whose base name is `base`: making the archive root, as the call
starts, or one try at a name. A call that has returned takes no more steps. -/
def claimStep (cwd : Location) (root base : HostPath) (fs : FileTree) : Claim → FileTree × Claim
  | .start =>
    match place cwd root with
    | .error e => (fs, .failed e)
    | .ok rootLoc =>
      match fs.mkdirAll rootLoc with
      | .ok fs' => (fs', .trying 0)
      | .error e => (fs, .failed (.os e))
  | .trying k =>
    match tryName fs cwd root base k with
    | .made fs' path => (fs', .made k path)
    | .taken => (fs, .trying (k + 1))
    | .failed e => (fs, .failed e)
  | c => (fs, c)

/-- Calls making bundle directories under one archive root at once: the host's files, which
they share, and each call's base name with where it stands. -/
structure Race where
  /-- The host's files. -/
  files : FileTree
  /-- Each call's base name and where it stands. -/
  calls : List (String × Claim)

namespace Race

variable (cwd : Location) (root : HostPath)

/-- The calls before any step, one for each base name. -/
def init (fs : FileTree) (bases : List String) : Race := ⟨fs, bases.map (·, .start)⟩

/-- Call `i` takes its next step; an index with no call changes nothing. -/
def step (r : Race) (i : Nat) : Race :=
  match r.calls[i]? with
  | none => r
  | some (base, c) =>
    ⟨(claimStep cwd root base r.files c).1,
      r.calls.set i (base, (claimStep cwd root base r.files c).2)⟩

/-- The calls take their steps in the order a schedule gives. -/
def run (r : Race) (σ : List Nat) : Race := σ.foldl (step cwd root) r

end Race

/-! ### One call's step -/

/-- What a call's state says about the files: a call trying its `k`-th name found the archive
root, and each earlier name of its own taken; a call that returned the path of its `k`-th name
found each earlier one taken, and that name is taken now. -/
def ClaimHolds (cwd : Location) (root : HostPath) (fs : FileTree) (base : String) : Claim → Prop
  | .start => True
  | .trying k => (∃ R, place cwd root = .ok R) ∧ ∀ k' < k, NameTaken fs cwd root base k'
  | .made k p => p = root.join (candidateName base k) ∧
      (∀ k' < k, NameTaken fs cwd root base k') ∧ NameTaken fs cwd root base k
  | .failed _ => True

/-- What a call may still add to the files, `d` being the archive root's levels: those
directories as it starts, then the one of the name it makes. -/
def Claim.cost (d : Nat) : Claim → Nat
  | .start => d + 1
  | .trying _ => 1
  | _ => 0

/-- How many steps a call that has not returned has taken. -/
def Claim.stage? : Claim → Option Nat
  | .start => some 0
  | .trying k => some (k + 1)
  | _ => none

/-- The levels the making of the archive root climbs. -/
def rootLevels (cwd : Location) (root : HostPath) : Nat :=
  match place cwd root with
  | .ok R => R.length + 1
  | .error _ => 0

/-- Everything one step of a call can do. A call that has returned stays as it is. A call at
its start makes the archive root and goes on to its first name, or fails. A call trying a name
makes its directory and returns its path, finds the name taken and goes on to the next one, or
fails. -/
theorem claimStep_cases (cwd : Location) (root : HostPath) (base : String) (fs : FileTree)
    (c : Claim) :
    (c.stage? = none ∧ claimStep cwd root base fs c = (fs, c)) ∨
    (c = .start ∧ ∃ R fs', place cwd root = .ok R ∧ fs.mkdirAll R = .ok fs' ∧
      claimStep cwd root base fs c = (fs', .trying 0)) ∨
    (c = .start ∧ ∃ e, claimStep cwd root base fs c = (fs, .failed e)) ∨
    (∃ k fs' p, c = .trying k ∧ tryName fs cwd root base k = .made fs' p ∧
      claimStep cwd root base fs c = (fs', .made k p)) ∨
    (∃ k, c = .trying k ∧ tryName fs cwd root base k = .taken ∧
      claimStep cwd root base fs c = (fs, .trying (k + 1))) ∨
    (∃ k e, c = .trying k ∧ tryName fs cwd root base k = .failed e ∧
      claimStep cwd root base fs c = (fs, .failed e)) := by
  cases c with
  | start =>
    cases hR : place cwd root with
    | error e => simp [claimStep, hR]
    | ok R => cases hmk : fs.mkdirAll R <;> simp [claimStep, hR, hmk]
  | trying k => cases ht : tryName fs cwd root base k <;> simp [claimStep, ht]
  | made | failed => simp [claimStep, Claim.stage?]

section Step

variable {cwd : Location} {root : HostPath} {base : String} {fs : FileTree}

theorem ClaimHolds.grows {fs' : FileTree} {c : Claim} (h : ClaimHolds cwd root fs base c)
    (hg : Grows fs fs') : ClaimHolds cwd root fs' base c := by
  cases c with
  | start | failed => trivial
  | trying k => exact ⟨h.1, fun k' hk' => (h.2 k' hk').grows hg⟩
  | made k p => exact ⟨h.1, fun k' hk' => (h.2.1 k' hk').grows hg, h.2.2.grows hg⟩

/-- A call that has returned stays as it is. -/
theorem claimStep_of_returned {c : Claim} (hc : c.stage? = none) :
    claimStep cwd root base fs c = (fs, c) := by
  cases c <;> simp_all [Claim.stage?, claimStep]

/-- A step only grows the files. -/
theorem claimStep_grows (c : Claim) : Grows fs (claimStep cwd root base fs c).1 := by
  rcases claimStep_cases cwd root base fs c with ⟨-, hs⟩ | ⟨-, R, fs', -, hmk, hs⟩ | ⟨-, e, hs⟩ |
    ⟨k, fs', p, -, hmade, hs⟩ | ⟨k, -, -, hs⟩ | ⟨k, e, -, -, hs⟩ <;> rw [hs]
  · exact Grows.refl fs
  · exact (mkdirAll_grows hmk).1
  · exact Grows.refl fs
  · obtain ⟨-, loc, -, hmk⟩ := tryName_made hmade
    exact mkdir_grows hmk
  · exact Grows.refl fs
  · exact Grows.refl fs

/-- A step keeps the call's state borne out by the files. -/
theorem claimStep_holds {c : Claim} (h : ClaimHolds cwd root fs base c) :
    ClaimHolds cwd root (claimStep cwd root base fs c).1 base (claimStep cwd root base fs c).2 := by
  rcases claimStep_cases cwd root base fs c with ⟨-, hs⟩ | ⟨-, R, fs', hR, -, hs⟩ | ⟨-, e, hs⟩ |
    ⟨k, fs', p, rfl, hmade, hs⟩ | ⟨k, rfl, htaken, hs⟩ | ⟨k, e, -, -, hs⟩ <;> rw [hs]
  · exact h
  · exact ⟨⟨R, hR⟩, fun _ hk => absurd hk (Nat.not_lt_zero _)⟩
  · trivial
  · -- the name just made is taken now, and the earlier ones still are
    obtain ⟨rfl, loc, hloc, hmk⟩ := tryName_made hmade
    exact ⟨rfl, fun k' hk' => (h.2 k' hk').grows (mkdir_grows hmk),
      ⟨loc, hloc, taken_of_mkdir hmk⟩⟩
  · refine ⟨h.1, fun k' hk' => ?_⟩
    rcases Nat.lt_succ_iff_lt_or_eq.1 hk' with hlt | rfl
    · exact h.2 k' hlt
    · exact tryName_taken htaken
  · trivial

/-- A step that returns a path made its directory, at the place of that path, where the name was
free. -/
theorem claimStep_made {c : Claim} {k : Nat} {p : HostPath} (hc : c.stage?.isSome)
    (h : (claimStep cwd root base fs c).2 = .made k p) :
    c = .trying k ∧ p = root.join (candidateName base k) ∧
      (∃ fs', tryName fs cwd root base k = .made fs' p) ∧
      ∃ loc, place cwd p = .ok loc ∧ ¬ fs.Taken loc := by
  rcases claimStep_cases cwd root base fs c with ⟨hc', -⟩ | ⟨-, R, fs', -, -, hs⟩ | ⟨-, e, hs⟩ |
    ⟨k₀, fs', p₀, rfl, hmade, hs⟩ | ⟨k₀, -, -, hs⟩ | ⟨k₀, e, -, -, hs⟩
  · simp [hc'] at hc
  all_goals rw [hs] at h; cases h
  obtain ⟨rfl, loc, hloc, hmk⟩ := tryName_made hmade
  exact ⟨rfl, rfl, ⟨fs', hmade⟩, loc, hloc, not_taken_of_mkdir hmk⟩

/-- A step that returns an error fails to make the archive root, or fails to make a name with an
error other than "already exists". -/
theorem claimStep_failed {c : Claim} {e : IoError} (hc : c.stage?.isSome)
    (h : (claimStep cwd root base fs c).2 = .failed e) :
    c = .start ∨ ∃ k, c = .trying k ∧ tryName fs cwd root base k = .failed e ∧
      e ≠ .os .alreadyExists := by
  rcases claimStep_cases cwd root base fs c with ⟨hc', -⟩ | ⟨hstart, -⟩ | ⟨hstart, -⟩ |
    ⟨k, fs', p, -, -, hs⟩ | ⟨k, -, -, hs⟩ | ⟨k, e', rfl, hfail, hs⟩
  · simp [hc'] at hc
  · exact .inl hstart
  · exact .inl hstart
  all_goals rw [hs] at h; cases h
  exact .inr ⟨k, rfl, hfail, tryName_failed hfail⟩

/-- A step adds no more to the files than the call's cost goes down. -/
theorem claimStep_cost (c : Claim) :
    (claimStep cwd root base fs c).1.entries.length +
        (claimStep cwd root base fs c).2.cost (rootLevels cwd root) ≤
      fs.entries.length + c.cost (rootLevels cwd root) := by
  rcases claimStep_cases cwd root base fs c with ⟨-, hs⟩ | ⟨rfl, R, fs', hR, hmk, hs⟩ |
    ⟨rfl, e, hs⟩ | ⟨k, fs', p, rfl, hmade, hs⟩ | ⟨k, rfl, -, hs⟩ | ⟨k, e, rfl, -, hs⟩ <;> rw [hs]
  -- a call that has returned changes nothing, and `rw` closes its case
  · -- making the archive root adds at most one directory for each of its levels
    have := (mkdirAll_grows hmk).2
    simp only [Claim.cost, rootLevels, hR]
    omega
  · simp [Claim.cost]
  · obtain ⟨-, loc, -, hmk⟩ := tryName_made hmade
    have := mkdir_length hmk
    simp only [Claim.cost]
    omega
  · simp [Claim.cost]
  · simp [Claim.cost]

/-- A call that has not returned after a step had taken one step less before it. -/
theorem claimStep_stage {c : Claim} {s : Nat} (h : (claimStep cwd root base fs c).2.stage? = some s) :
    ∃ s₀, c.stage? = some s₀ ∧ s = s₀ + 1 := by
  rcases claimStep_cases cwd root base fs c with ⟨hc, hs⟩ | ⟨rfl, R, fs', -, -, hs⟩ |
    ⟨rfl, e, hs⟩ | ⟨k, fs', p, rfl, -, hs⟩ | ⟨k, rfl, -, hs⟩ | ⟨k, e, rfl, -, hs⟩
  · simp [hs, hc] at h
  all_goals simp only [hs, Claim.stage?, Option.some.injEq, reduceCtorEq] at h
  · exact ⟨0, rfl, h.symm⟩
  · exact ⟨k + 1, rfl, h.symm⟩

end Step

/-! ### The race, step by step -/

namespace Race

variable {cwd : Location} {root : HostPath}

theorem step_of_some {r : Race} {i : Nat} {b : String} {c : Claim} (h : r.calls[i]? = some (b, c)) :
    r.step cwd root i = ⟨(claimStep cwd root b r.files c).1,
      r.calls.set i (b, (claimStep cwd root b r.files c).2)⟩ := by
  simp [step, h]

theorem step_of_none {r : Race} {i : Nat} (h : r.calls[i]? = none) : r.step cwd root i = r := by
  simp [step, h]

theorem run_cons (r : Race) (j : Nat) (σ : List Nat) :
    r.run cwd root (j :: σ) = (r.step cwd root j).run cwd root σ :=
  rfl

/-- A step of one call only grows the files. -/
theorem step_grows (r : Race) (j : Nat) : Grows r.files (r.step cwd root j).files := by
  cases h : r.calls[j]? with
  | none =>
    rw [step_of_none h]
    exact Grows.refl _
  | some x =>
    obtain ⟨b, c⟩ := x
    rw [step_of_some h]
    exact claimStep_grows c

/-- A step of one call leaves every other call as it was. -/
theorem step_calls_ne (r : Race) {i j : Nat} (hji : j ≠ i) :
    (r.step cwd root j).calls[i]? = r.calls[i]? := by
  cases h : r.calls[j]? with
  | none => rw [step_of_none h]
  | some x =>
    obtain ⟨b, c⟩ := x
    rw [step_of_some h]
    simp [hji]

theorem step_calls_self {r : Race} {i : Nat} {b : String} {c : Claim}
    (h : r.calls[i]? = some (b, c)) :
    (r.step cwd root i).calls[i]? = some (b, (claimStep cwd root b r.files c).2) := by
  rw [step_of_some h]
  have hi : i < r.calls.length := (List.getElem?_eq_some_iff.1 h).1
  simp [hi]

/-- After a step of call `j`, a call stands where the step put it, or where it stood. -/
theorem step_calls_eq_some {r : Race} {i j : Nat} {b : String} {c : Claim}
    (h : (r.step cwd root j).calls[i]? = some (b, c)) :
    (j = i ∧ ∃ c₀, r.calls[i]? = some (b, c₀) ∧ c = (claimStep cwd root b r.files c₀).2) ∨
      r.calls[i]? = some (b, c) := by
  by_cases hji : j = i
  · subst hji
    cases h₀ : r.calls[j]? with
    | none =>
      rw [step_of_none h₀, h₀] at h
      cases h
    | some x =>
      obtain ⟨b₀, c₀⟩ := x
      rw [step_calls_self h₀] at h
      cases h
      exact .inl ⟨rfl, c₀, rfl, rfl⟩
  · rw [step_calls_ne r hji] at h
    exact .inr h

/-- What every race keeps: each call's state is borne out by the files, and no two calls have
returned the same path. -/
structure Good (cwd : Location) (root : HostPath) (r : Race) : Prop where
  /-- Each call's state is borne out by the files. -/
  holds : ∀ (i : Nat) b c, r.calls[i]? = some (b, c) → ClaimHolds cwd root r.files b c
  /-- No two calls have returned the same path. -/
  distinct : ∀ (i j : Nat) b b' k k' p, i ≠ j → r.calls[i]? = some (b, .made k p) →
    r.calls[j]? = some (b', .made k' p) → False

/-- Before any step, every call stands at its start. -/
theorem init_calls_eq_some {fs : FileTree} {bases : List String} {i : Nat} {b : String} {c : Claim}
    (h : (init fs bases).calls[i]? = some (b, c)) : c = .start := by
  simp only [Race.init, List.getElem?_map, Option.map_eq_some_iff, Prod.mk.injEq] at h
  obtain ⟨_, -, -, rfl⟩ := h
  rfl

theorem Good.init (fs : FileTree) (bases : List String) : Good cwd root (init fs bases) where
  holds i b c h := by
    rw [init_calls_eq_some h]
    trivial
  distinct i j b b' k k' p _ h := nomatch init_calls_eq_some h

/-- A call whose step returns a path takes it from no other call: the path's name was free. -/
theorem Good.made_fresh {r : Race} (hg : Good cwd root r) {b : String} {c : Claim}
    {k : Nat} {p : HostPath} (hc : c.stage?.isSome)
    (hmade : (claimStep cwd root b r.files c).2 = .made k p) {i : Nat} {b' : String} {k' : Nat}
    (hi : r.calls[i]? = some (b', .made k' p)) : False := by
  obtain ⟨-, -, -, loc, hloc, hfree⟩ := claimStep_made hc hmade
  obtain ⟨rfl, -, loc', hloc', htaken⟩ := hg.holds i b' _ hi
  rw [hloc] at hloc'
  cases hloc'
  exact hfree htaken

/-- Every step keeps a race good: the stepping call's state stays borne out, the others' grow
with the files, and a path returned at this step was free, so no other call holds it. -/
theorem Good.step {r : Race} (hg : Good cwd root r) (j : Nat) : Good cwd root (r.step cwd root j) := by
  have hgrow : Grows r.files (r.step cwd root j).files := step_grows r j
  refine ⟨fun i b c h => ?_, fun i i' b₁ b₂ k k' p hii' h h' => ?_⟩
  · rcases step_calls_eq_some h with ⟨rfl, c₀, h₀, rfl⟩ | hold
    · -- the stepping call: its step keeps its state borne out
      rw [step_of_some h₀]
      exact claimStep_holds (hg.holds _ _ _ h₀)
    · exact (hg.holds i b c hold).grows hgrow
  · -- a call that returned `p` at this step found its name free, so no other call had it
    have hfresh : ∀ {i i' b₁ b₂ k k'}, i ≠ i' →
        (j = i ∧ ∃ c₀, r.calls[i]? = some (b₁, c₀) ∧
          Claim.made k p = (claimStep cwd root b₁ r.files c₀).2) →
        r.calls[i']? = some (b₂, .made k' p) → False := by
      intro i i' b₁ b₂ k k' hne ⟨_, c₀, h₀, hm⟩ h'
      by_cases hc : c₀.stage?.isSome
      · exact hg.made_fresh hc hm.symm h'
      · have hfix : claimStep cwd root b₁ r.files c₀ = (r.files, c₀) :=
          claimStep_of_returned (Option.not_isSome_iff_eq_none.1 hc)
        have hc₀ : c₀ = .made k p := by rw [hfix] at hm; exact hm.symm
        rw [hc₀] at h₀
        exact hg.distinct _ _ _ _ _ _ _ hne h₀ h'
    rcases step_calls_eq_some h with hnew | hold <;>
      rcases step_calls_eq_some h' with hnew' | hold'
    · exact hii' (hnew.1.symm.trans hnew'.1)
    · exact hfresh hii' hnew hold'
    · exact hfresh (Ne.symm hii') hnew' hold
    · exact hg.distinct i i' _ _ _ _ _ hii' hold hold'

theorem Good.run {r : Race} (hg : Good cwd root r) (σ : List Nat) :
    Good cwd root (r.run cwd root σ) := by
  induction σ generalizing r with
  | nil => exact hg
  | cons j σ ih => exact ih (hg.step j)

/-! ### How far the calls get -/

/-- The files' entries together with what the calls may still add to them. -/
def load (cwd : Location) (root : HostPath) (r : Race) : Nat :=
  r.files.entries.length + (r.calls.map fun x => x.2.cost (rootLevels cwd root)).sum

theorem sum_map_set {f : String × Claim → Nat} :
    ∀ {l : List (String × Claim)} {i : Nat} {x : String × Claim}, l[i]? = some x →
      ∀ y, ((l.set i y).map f).sum + f x = (l.map f).sum + f y
  | [], _, _, h, _ => by simp at h
  | a :: l, 0, x, h, y => by
    simp only [List.getElem?_cons_zero, Option.some.injEq] at h
    subst h
    simp only [List.set_cons_zero, List.map_cons, List.sum_cons]
    omega
  | a :: l, i + 1, x, h, y => by
    simp only [List.getElem?_cons_succ] at h
    have ih := sum_map_set (f := f) h y
    simp only [List.set_cons_succ, List.map_cons, List.sum_cons]
    omega

/-- No step adds more to the files than the calls' costs go down. -/
theorem load_step (r : Race) (j : Nat) : load cwd root (r.step cwd root j) ≤ load cwd root r := by
  cases hj : r.calls[j]? with
  | none => rw [step_of_none hj]
  | some x =>
    obtain ⟨b, c⟩ := x
    have hcost : (claimStep cwd root b r.files c).1.entries.length +
        (claimStep cwd root b r.files c).2.cost (rootLevels cwd root) ≤
        r.files.entries.length + c.cost (rootLevels cwd root) := claimStep_cost c
    have hsum := sum_map_set (f := fun x : String × Claim => x.2.cost (rootLevels cwd root)) hj
      (b, (claimStep cwd root b r.files c).2)
    rw [step_of_some hj]
    unfold load
    dsimp only at hsum ⊢
    omega

theorem load_run (r : Race) (σ : List Nat) : load cwd root (r.run cwd root σ) ≤ load cwd root r := by
  induction σ generalizing r with
  | nil => exact Nat.le_refl _
  | cons j σ ih => exact (ih (r.step cwd root j)).trans (load_step r j)

theorem load_init (fs : FileTree) (bases : List String) :
    load cwd root (init fs bases) = fs.entries.length + bases.length * (rootLevels cwd root + 1) := by
  simp [load, init, Claim.cost, Function.comp_def, List.sum_replicate]

/-- A call that has not returned has taken as many steps as the schedule gave it. -/
theorem run_stage {i : Nat} {b : String} : ∀ (σ : List Nat) (r : Race) {c₀ c : Claim} {s : Nat},
    r.calls[i]? = some (b, c₀) → (r.run cwd root σ).calls[i]? = some (b, c) →
    c.stage? = some s → ∃ s₀, c₀.stage? = some s₀ ∧ s = s₀ + σ.count i
  | [], r, c₀, c, s, h₀, h, hs => by
    rw [show r.run cwd root [] = r from rfl, h₀] at h
    cases h
    exact ⟨s, hs, by simp⟩
  | j :: σ, r, c₀, c, s, h₀, h, hs => by
    by_cases hji : j = i
    · -- the call's own step: one step more
      subst hji
      obtain ⟨s₁, hs₁, rfl⟩ := run_stage σ (r.step cwd root j) (step_calls_self h₀) h hs
      obtain ⟨s₀, hs₀, rfl⟩ := claimStep_stage hs₁
      exact ⟨s₀, hs₀, by rw [List.count_cons_self]; omega⟩
    · have h₁ : (r.step cwd root j).calls[i]? = some (b, c₀) := by
        rw [step_calls_ne r hji]
        exact h₀
      obtain ⟨s₀, hs₀, rfl⟩ := run_stage σ (r.step cwd root j) h₁ h hs
      exact ⟨s₀, hs₀, by rw [List.count_cons_of_ne hji]⟩

/-- A call stays in the race, with its base name, whatever the schedule. -/
theorem run_calls_some {i : Nat} {b : String} : ∀ (σ : List Nat) (r : Race) {c₀ : Claim},
    r.calls[i]? = some (b, c₀) → ∃ c, (r.run cwd root σ).calls[i]? = some (b, c)
  | [], _, c₀, h₀ => ⟨c₀, h₀⟩
  | j :: σ, r, c₀, h₀ => by
    by_cases hji : j = i
    · subst hji
      exact run_calls_some σ (r.step cwd root j) (step_calls_self h₀)
    · exact run_calls_some σ (r.step cwd root j) (by rw [step_calls_ne r hji]; exact h₀)

/-- A call that has returned did so at one step of its own, from a state where it had not. -/
theorem run_returned {i : Nat} {b : String} : ∀ (σ : List Nat) (r : Race) {c : Claim},
    (r.run cwd root σ).calls[i]? = some (b, c) → c.stage? = none →
    r.calls[i]? = some (b, c) ∨
      ∃ σ₁ σ₂ c₀, σ = σ₁ ++ i :: σ₂ ∧ (r.run cwd root σ₁).calls[i]? = some (b, c₀) ∧
        c₀.stage?.isSome ∧ (claimStep cwd root b (r.run cwd root σ₁).files c₀).2 = c
  | [], r, c, h, _ => .inl h
  | j :: σ, r, c, h, hc => by
    rcases run_returned σ (r.step cwd root j) h hc with hnow | ⟨σ₁, σ₂, c₀, rfl, h₁, hs, hstep⟩
    · rcases step_calls_eq_some hnow with ⟨rfl, c₀, h₀, rfl⟩ | hold
      · by_cases hs : c₀.stage?.isSome
        · -- this very step returned
          exact .inr ⟨[], σ, c₀, rfl, h₀, hs, rfl⟩
        · -- it had returned before
          have hfix : claimStep cwd root b r.files c₀ = (r.files, c₀) :=
            claimStep_of_returned (Option.not_isSome_iff_eq_none.1 hs)
          rw [hfix]
          exact .inl h₀
      · exact .inl hold
    · exact .inr ⟨j :: σ₁, σ₂, c₀, rfl, h₁, hs, hstep⟩

end Race

/-! ### Every schedule -/

/-- The calls, one for each base name, on the files `fs`, after the steps of a schedule. -/
def race (cwd : Location) (root : HostPath) (fs : FileTree) (bases : List String)
    (σ : List Nat) : Race :=
  (Race.init fs bases).run cwd root σ

/-! ### A call alone -/

/-- What a call that has returned answers, with the files as they are: the files and the path
it made, or its error; nothing while it is still going. -/
def Claim.answer (fs : FileTree) : Claim → Option (Except IoError (FileTree × HostPath))
  | .made _ p => some (.ok (fs, p))
  | .failed e => some (.error e)
  | _ => none

namespace Race

variable {cwd : Location} {root : HostPath}

/-- A call alone takes its steps one after another. -/
theorem run_alone_succ (fs : FileTree) (b : String) (c : Claim) (n : Nat) :
    (⟨fs, [(b, c)]⟩ : Race).run cwd root (List.replicate (n + 1) 0) =
      (⟨(claimStep cwd root b fs c).1, [(b, (claimStep cwd root b fs c).2)]⟩ : Race).run cwd root
        (List.replicate n 0) := by
  rw [List.replicate_succ, run_cons, step_of_some rfl]
  rfl

/-- A call alone that has returned stays as it is. -/
theorem run_alone_returned (fs : FileTree) (b : String) {c : Claim} (hc : c.stage? = none)
    (n : Nat) : (⟨fs, [(b, c)]⟩ : Race).run cwd root (List.replicate n 0) = ⟨fs, [(b, c)]⟩ := by
  induction n with
  | zero => rfl
  | succ n ih =>
    rw [run_alone_succ, claimStep_of_returned hc]
    exact ih

/-- A call alone trying its `k`-th name, each earlier one taken, has returned once its steps
and `k` together exceed the tree's entries; it answers what trying the names in turn from the
`k`-th answers, with as many tries as it is given from then on. -/
theorem run_alone_trying {base : String} {R : Location} (hb : OwnLast base)
    (hR : place cwd root = .ok R) :
    ∀ m k fs, (∀ j < k, NameTaken fs cwd root base j) → fs.entries.length < k + m →
      ∃ fs' c, ∀ F, m ≤ F →
        (⟨fs, [(base, .trying k)]⟩ : Race).run cwd root (List.replicate F 0) =
            ⟨fs', [(base, c)]⟩ ∧
          c.answer fs' = some (claimName fs cwd root base F k) := by
  intro m
  -- the induction is on the steps left; the name tried and the files vary
  induction m with
  | zero =>
    intro k fs htaken hlt
    exact absurd (le_entries_of_taken hb hR htaken) (by omega)
  | succ m ih =>
    intro k fs htaken hlt
    cases ht : tryName fs cwd root base k with
    | made fs' p =>
      refine ⟨fs', .made k p, fun F hF => ?_⟩
      obtain ⟨F, rfl⟩ : ∃ F', F = F' + 1 := ⟨F - 1, by omega⟩
      have hstep : claimStep cwd root base fs (.trying k) = (fs', .made k p) := by
        simp [claimStep, ht]
      rw [run_alone_succ, hstep]
      exact ⟨run_alone_returned fs' base rfl F, by simp [Claim.answer, claimName, ht]⟩
    | taken =>
      -- the name is taken, so the next try starts with one more name taken
      have htaken' : ∀ j < k + 1, NameTaken fs cwd root base j := fun j hj => by
        rcases Nat.lt_succ_iff_lt_or_eq.1 hj with hlt | rfl
        · exact htaken j hlt
        · exact tryName_taken ht
      obtain ⟨fs', c, hrun⟩ := ih (k + 1) fs htaken' (by omega)
      refine ⟨fs', c, fun F hF => ?_⟩
      obtain ⟨F, rfl⟩ : ∃ F', F = F' + 1 := ⟨F - 1, by omega⟩
      have hstep : claimStep cwd root base fs (.trying k) = (fs, .trying (k + 1)) := by
        simp [claimStep, ht]
      rw [run_alone_succ, hstep]
      simpa [claimName, ht] using hrun F (by omega)
    | failed e =>
      refine ⟨fs, .failed e, fun F hF => ?_⟩
      obtain ⟨F, rfl⟩ : ∃ F', F = F' + 1 := ⟨F - 1, by omega⟩
      have hstep : claimStep cwd root base fs (.trying k) = (fs, .failed e) := by
        simp [claimStep, ht]
      rw [run_alone_succ, hstep]
      exact ⟨run_alone_returned fs base rfl F, by simp [Claim.answer, claimName, ht]⟩

end Race

/-- A call alone is the making of a bundle directory: once it has taken as many steps as the
tree has entries, plus the archive root's levels and two, it has returned what making the
bundle directory returns, and the files are those the making leaves. -/
theorem race_alone (fs : FileTree) (cwd : Location) (root : HostPath) (app : String)
    (mode : Mode) (now : Clock.Timestamp) :
    let base := app ++ "-" ++ mode.name ++ "-" ++ now.compactStamp
    ∀ n, fs.entries.length + rootLevels cwd root + 2 ≤ n →
      ∃ c, (race cwd root fs [base] (List.replicate n 0)).calls = [(base, c)] ∧
        c.answer (race cwd root fs [base] (List.replicate n 0)).files =
          some (createBundleDir fs cwd root app mode now) := by
  intro base n hn
  have hb : OwnLast base := ownLast_bundleBase app mode now
  obtain ⟨n, rfl⟩ : ∃ n', n = n' + 1 := ⟨n - 1, by omega⟩
  have hinit : Race.init fs [base] = ⟨fs, [(base, .start)]⟩ := rfl
  rw [race, hinit, Race.run_alone_succ]
  cases hR : place cwd root with
  | error e =>
    have hstep : claimStep cwd root base fs .start = (fs, .failed e) := by simp [claimStep, hR]
    rw [hstep, Race.run_alone_returned fs base rfl n]
    exact ⟨.failed e, rfl, by simp [Claim.answer, createBundleDir, hR, bind, Except.bind]⟩
  | ok R =>
    cases hmk : fs.mkdirAll R with
    | error e =>
      have hstep : claimStep cwd root base fs .start = (fs, .failed (.os e)) := by
        simp [claimStep, hR, hmk]
      rw [hstep, Race.run_alone_returned fs base rfl n]
      refine ⟨.failed (.os e), rfl, ?_⟩
      simp [Claim.answer, createBundleDir, hR, hmk, bind, Except.bind, Except.mapError]
    | ok fs₁ =>
      -- the archive root made, the call tries its names in the files that leaves
      have hstep : claimStep cwd root base fs .start = (fs₁, .trying 0) := by
        simp [claimStep, hR, hmk]
      have hlen : fs₁.entries.length ≤ fs.entries.length + (R.length + 1) := (mkdirAll_grows hmk).2
      have hlevels : rootLevels cwd root = R.length + 1 := by simp [rootLevels, hR]
      obtain ⟨fs', c, hrun⟩ := Race.run_alone_trying hb hR (fs₁.entries.length + 1) 0 fs₁
        (fun _ hj => absurd hj (Nat.not_lt_zero _)) (by omega)
      have hcode : createBundleDir fs cwd root app mode now =
          claimName fs₁ cwd root base (fs₁.entries.length + 2) 0 := by
        simp [createBundleDir, hR, hmk, bind, Except.bind, Except.mapError, base]
      rw [hstep, (hrun n (by omega)).1, hcode, ← (hrun (fs₁.entries.length + 2) (by omega)).2]
      exact ⟨c, rfl, rfl⟩

/-- Calls racing to make bundle directories under one archive root, their atomic steps in any
order. Two calls that have returned a path returned different ones. A call that has returned a
path made its directory itself: at a step of its own, trying that name, it found each earlier
name of its own taken and this one free, and the path is the archive root joined with the name.
A call that has returned an error got it making the archive root, or from a try whose name was
not taken, and tried no more. A call whose base name ends in a plain name (as every base made
from an application's name, a mode and a time does, `ownLast_bundleBase`) that has taken as
many steps as the tree had entries, plus two, plus the root's levels and one for each call, has
returned. -/
theorem race_spec (cwd : Location) (root : HostPath) (fs : FileTree) (bases : List String)
    (σ : List Nat) :
    (∀ (i j : Nat) (b b' : String) (k k' : Nat) (p p' : HostPath), i ≠ j →
      (race cwd root fs bases σ).calls[i]? = some (b, .made k p) →
      (race cwd root fs bases σ).calls[j]? = some (b', .made k' p') → p ≠ p') ∧
    (∀ (i : Nat) (b : String) (k : Nat) (p : HostPath),
      (race cwd root fs bases σ).calls[i]? = some (b, .made k p) →
      p = root.join (candidateName b k) ∧
      ∃ σ₁ σ₂, σ = σ₁ ++ i :: σ₂ ∧
        (race cwd root fs bases σ₁).calls[i]? = some (b, .trying k) ∧
        (∀ k' < k, NameTaken (race cwd root fs bases σ₁).files cwd root b k') ∧
        ¬ NameTaken (race cwd root fs bases σ₁).files cwd root b k ∧
        ∃ fs', tryName (race cwd root fs bases σ₁).files cwd root b k = .made fs' p) ∧
    (∀ (i : Nat) (b : String) (e : IoError),
      (race cwd root fs bases σ).calls[i]? = some (b, .failed e) →
      ∃ σ₁ σ₂, σ = σ₁ ++ i :: σ₂ ∧
        ((race cwd root fs bases σ₁).calls[i]? = some (b, .start) ∨
          ∃ k, (race cwd root fs bases σ₁).calls[i]? = some (b, .trying k) ∧
            (∀ k' < k, NameTaken (race cwd root fs bases σ₁).files cwd root b k') ∧
            tryName (race cwd root fs bases σ₁).files cwd root b k = .failed e ∧
            e ≠ .os .alreadyExists)) ∧
    (∀ (i : Nat) (b : String), bases[i]? = some b → OwnLast b →
      fs.entries.length + bases.length * (rootLevels cwd root + 1) + 2 ≤ σ.count i →
      (∃ k p, (race cwd root fs bases σ).calls[i]? = some (b, .made k p)) ∨
        ∃ e, (race cwd root fs bases σ).calls[i]? = some (b, .failed e)) := by
  have hgood : ∀ σ', Race.Good cwd root (race cwd root fs bases σ') := fun σ' =>
    (Race.Good.init fs bases).run σ'
  refine ⟨?_, ?_, ?_, ?_⟩
  · rintro i j b b' k k' p p' hij hi hj rfl
    exact (hgood σ).distinct i j b b' k k' p hij hi hj
  · intro i b k p h
    refine ⟨((hgood σ).holds i b _ h).1, ?_⟩
    rcases Race.run_returned σ (Race.init fs bases) h rfl with h₀ | ⟨σ₁, σ₂, c₀, rfl, h₁, hs, hstep⟩
    · exact nomatch Race.init_calls_eq_some h₀
    · -- the step that returned the path made its directory where the name was free
      obtain ⟨rfl, hp, hmade, loc, hloc, hfree⟩ := claimStep_made hs hstep
      refine ⟨σ₁, σ₂, rfl, h₁, ((hgood σ₁).holds i b _ h₁).2, ?_, hmade⟩
      rintro ⟨loc', hloc', htaken⟩
      rw [← hp, hloc] at hloc'
      cases hloc'
      exact hfree htaken
  · intro i b e h
    rcases Race.run_returned σ (Race.init fs bases) h rfl with h₀ | ⟨σ₁, σ₂, c₀, rfl, h₁, hs, hstep⟩
    · exact nomatch Race.init_calls_eq_some h₀
    · refine ⟨σ₁, σ₂, rfl, ?_⟩
      rcases claimStep_failed hs hstep with rfl | ⟨k, rfl, hfail, hne⟩
      · exact .inl h₁
      · exact .inr ⟨k, h₁, ((hgood σ₁).holds i b _ h₁).2, hfail, hne⟩
  · intro i b hb hplain hcount
    have h₀ : (Race.init fs bases).calls[i]? = some (b, .start) := by
      simp [Race.init, hb]
    obtain ⟨c, hc⟩ := Race.run_calls_some σ (Race.init fs bases) h₀
    cases hst : c.stage? with
    | none =>
      cases c with
      | made k p => exact .inl ⟨k, p, hc⟩
      | failed e => exact .inr ⟨e, hc⟩
      | start | trying => simp [Claim.stage?] at hst
    | some s =>
      -- a call still going has taken one step for each name it found taken, and one to start
      obtain ⟨s₀, hs₀, hs⟩ := Race.run_stage σ (Race.init fs bases) h₀ hc hst
      simp only [Claim.stage?, Option.some.injEq] at hs₀
      subst hs₀
      have hload : Race.load cwd root (race cwd root fs bases σ) ≤
          fs.entries.length + bases.length * (rootLevels cwd root + 1) :=
        (Race.load_run _ σ).trans_eq (Race.load_init fs bases)
      cases c with
      | start =>
        simp only [Claim.stage?, Option.some.injEq] at hst
        omega
      | trying k =>
        simp only [Claim.stage?, Option.some.injEq] at hst
        obtain ⟨⟨R, hR⟩, htaken⟩ := (hgood σ).holds i b _ hc
        have hk := le_entries_of_taken hplain hR htaken
        unfold Race.load at hload
        omega
      | made | failed => simp [Claim.stage?] at hst

/-- An archive directory `/arch` that is there already. -/
def sampleArchive : FileTree := ⟨[(["arch"], .dir)]⟩

/-- Two calls in the same second, with the same base name, under `/arch`: both make the archive
root, the first makes the plain name, and the second, finding it taken, makes the name with
`-1`. The paths differ, and the second call, whose base is plain, has returned after its nine
steps. -/
theorem race_spec_sameSecond :
    PlainName "hello-jvm-20250101-120000" ∧
      ((∃ k p, (race [] "/arch" sampleArchive
          ["hello-jvm-20250101-120000", "hello-jvm-20250101-120000"]
          [0, 1, 0, 1, 1, 1, 1, 1, 1, 1, 1]).calls[1]? =
            some ("hello-jvm-20250101-120000", .made k p)) ∨
        ∃ e, (race [] "/arch" sampleArchive
          ["hello-jvm-20250101-120000", "hello-jvm-20250101-120000"]
          [0, 1, 0, 1, 1, 1, 1, 1, 1, 1, 1]).calls[1]? =
            some ("hello-jvm-20250101-120000", .failed e)) ∧
      "/arch/hello-jvm-20250101-120000" ≠ "/arch/hello-jvm-20250101-120000-1" := by
  have hplain : PlainName "hello-jvm-20250101-120000" := by decide +kernel
  have hcalls : (race [] "/arch" sampleArchive
      ["hello-jvm-20250101-120000", "hello-jvm-20250101-120000"]
      [0, 1, 0, 1, 1, 1, 1, 1, 1, 1, 1]).calls =
      [("hello-jvm-20250101-120000", .made 0 "/arch/hello-jvm-20250101-120000"),
        ("hello-jvm-20250101-120000", .made 1 "/arch/hello-jvm-20250101-120000-1")] := by
    decide +kernel
  have hspec := race_spec [] "/arch" sampleArchive
    ["hello-jvm-20250101-120000", "hello-jvm-20250101-120000"] [0, 1, 0, 1, 1, 1, 1, 1, 1, 1, 1]
  refine ⟨hplain, hspec.2.2.2 1 _ rfl (.inl hplain) (by decide +kernel), ?_⟩
  exact hspec.1 0 1 _ _ 0 1 _ _ (by decide) (by rw [hcalls]; rfl) (by rw [hcalls]; rfl)

end LaunchBench.Archive
