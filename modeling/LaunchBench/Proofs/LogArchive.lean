import Mathlib.Data.List.Forall2
import Mathlib.Data.String.Basic
import LaunchBench.Archive
import LaunchBench.Proofs.TreeEdits
/-!
Archiving logs into a bundle.

The logs below a directory `L` are copied into a bundle directory `B` at the same relative
paths, then the manifest is written into the bundle under a fixed name, one line per copy in
path order. While the logs are copied, the bundle overlays the copies made so far on what it
held (`Overlays`): a copy of each log copied and the directories above it, what was there
before kept but where a copy went, and outside the bundle the tree as it was. A log is copied
exactly when its way down the bundle is clear (`Clear`: no file above its place and no
directory at it); otherwise its copy fails and it is listed as failed (`Overlays.copy`,
`Overlays.copy_blocked`). Copying below a directory copies or fails exactly the logs below it
(`copiesBelow`), child by child. A copy, once made, is a regular file that nothing later
replaces, so no hash of a copy fails to read it.

* **`archiveLogs_accounts`**: in any tree, the files the copy phase archived are hashed or
  failed, each once, and the failed list holds the copy phase's failures (a listing or a copy
  that failed), then the hashes that failed.
* **`archiveLogs_partition`**: when the logs directory is reached through directories (or is
  no directory), the bundle is apart from it and holds only directories and regular files,
  and nothing lies at or below the manifest's name, every regular file below the logs is
  archived or failed, never both, failed exactly when its way is blocked, with a
  byte-identical copy and one manifest line for each archived one; nothing outside the bundle
  changes.
* **`archiveLogs_copies`**: into a fresh bundle every way is clear, so every log is archived
  and nothing fails.
* **`archiveLogs_manifest_clash`**: a log named like the manifest is listed as archived, yet
  the bundle holds the manifest written over its copy, and the manifest's line for it gives
  the digest of the empty text.
-/

namespace LaunchBench.Archive

open Host FileTree

/-- A log below `L`: a regular file at the path `p` from `L`. -/
def LogFile (t : FileTree) (L : Location) (p : List String) : Prop :=
  p ≠ [] ∧ ∃ e, t.get? (L ++ p) = some e ∧ e.isRegular = true

/-- A manifest line: the digest of a file's bytes, two spaces and its path. -/
def manifestLine (p : List String) (bytes : List UInt8) : String :=
  Digest.sha256Hex bytes ++ "  " ++ showRelative p ++ "\n"

/-! ### Path order -/

theorem pathLe_total : ∀ a b : List String, (pathLe a b || pathLe b a) = true
  | [], _ => by simp [pathLe]
  | _ :: _, [] => by simp [pathLe]
  | x :: xs, y :: ys => by
    rcases lt_trichotomy x y with h | rfl | h
    · simp [pathLe, h, h.ne, h.ne']
    · simpa [pathLe] using pathLe_total xs ys
    · simp [pathLe, h, h.ne, h.ne']

theorem pathLe_trans :
    ∀ a b c : List String, pathLe a b = true → pathLe b c = true → pathLe a c = true
  | [], _, _, _, _ => by simp [pathLe]
  | _ :: _, [], _, h, _ => by simp [pathLe] at h
  | _ :: _, _ :: _, [], _, h => by simp [pathLe] at h
  | x :: xs, y :: ys, z :: zs, h₁, h₂ => by
    -- names decide at the first place they differ; equal names pass the order down
    rcases lt_trichotomy x y with hxy | rfl | hxy
    · rcases lt_trichotomy y z with hyz | rfl | hyz
      · simp [pathLe, hxy.trans hyz, (hxy.trans hyz).ne]
      · simp [pathLe, hxy, hxy.ne]
      · simp [pathLe, hyz.ne', not_lt.2 hyz.le] at h₂
    · rcases lt_trichotomy x z with hxz | rfl | hxz
      · simp [pathLe, hxz, hxz.ne]
      · simp only [pathLe, beq_self_eq_true, if_true] at h₁ h₂ ⊢
        exact pathLe_trans xs ys zs h₁ h₂
      · simp [pathLe, hxz.ne', not_lt.2 hxz.le] at h₂
    · simp [pathLe, hxy.ne', not_lt.2 hxy.le] at h₁

/-- Sorted paths come in path order. -/
theorem sortPaths_pairwise (ps : List (List String)) :
    (sortPaths ps).Pairwise fun a b => pathLe a b = true :=
  List.pairwise_mergeSort pathLe_trans pathLe_total ps

/-! ### The bundle while logs are copied -/

section Bundle

variable {t₀ t : FileTree} {L B : Location} {done failed : List (List String)}

/-- Nothing lies below a log but the log itself. -/
theorem LogFile.eq_of_entry_below (hw₀ : t₀.WellFormed) {p q : List String} (hp : LogFile t₀ L p)
    {e : Entry} (hq : t₀.get? (L ++ q) = some e) (h : p <+: q) : p = q := by
  obtain ⟨_, e', he', hreg⟩ := hp
  have hne : e' ≠ .dir := by
    rintro rfl
    simp [Entry.isRegular] at hreg
  simpa using hw₀.eq_of_not_dir he' hne hq ((List.prefix_append_right_inj L).2 h)

/-- The way from the bundle `B` down to the place of a copy `p` is clear in `t`: every place
above it holds a directory or nothing, and the place itself holds no directory. -/
def Clear (t : FileTree) (B : Location) (p : List String) : Prop :=
  (∀ q, q <+: p → q ≠ p → t.get? (B ++ q) = none ∨ t.get? (B ++ q) = some .dir) ∧
    t.get? (B ++ p) ≠ some .dir

/-- The bundle holds directories and regular files only: no link and no pipe. -/
def PlainBundle (t : FileTree) (B : Location) : Prop :=
  ∀ q e, t.get? (B ++ q) = some e → e = .dir ∨ e.isRegular = true

/-- The bundle `B` of `t` is that of `t₀` with a copy of each log of `done`, read from below `L`
in `t₀`, put over it and the directories above the copies made. The logs of `done` are those
whose way was clear, those of `failed` those whose way was not, and these were not copied.
Outside `B`, `t` is `t₀`. -/
structure Overlays (t₀ : FileTree) (L B : Location) (done failed : List (List String))
    (t : FileTree) : Prop where
  wf : t.WellFormed
  outside : t.outside B = t₀.outside B
  bundle : t.DirsAlong B
  logs : ∀ p ∈ done ++ failed, LogFile t₀ L p
  nodup : (done ++ failed).Nodup
  clear : ∀ p ∈ done, Clear t₀ B p
  blocked : ∀ p ∈ failed, ¬ Clear t₀ B p
  /-- Each copy holds the log's bytes. -/
  copies : ∀ p ∈ done, ∃ e x, t₀.get? (L ++ p) = some e ∧ t.get? (B ++ p) = some (.file e.bytes x)
  /-- Below the bundle are the copies, what was there before, and the directories above the
  copies. -/
  below : ∀ q e, q ≠ [] → t.get? (B ++ q) = some e →
    q ∈ done ∨ t₀.get? (B ++ q) = some e ∨ (e = .dir ∧ ∃ p ∈ done, q <+: p)
  /-- What the bundle held is there still, but where a copy went. -/
  kept : ∀ q e, t₀.get? (B ++ q) = some e → q ∉ done → t.get? (B ++ q) = some e

/-- Before any log is copied, the bundle is as it was. -/
theorem Overlays.init (hw : t₀.WellFormed) (hB : t₀.DirsAlong B) : Overlays t₀ L B [] [] t₀ where
  wf := hw
  outside := rfl
  bundle := hB
  logs := by simp
  nodup := .nil
  clear := by simp
  blocked := by simp
  copies := by simp
  below _ _ _ h := .inr (.inl h)
  kept _ _ h _ := h

/-- A copied log at or above a log is that log. -/
theorem Overlays.eq_of_done (hm : Overlays t₀ L B done failed t) (hw₀ : t₀.WellFormed)
    {p q : List String} {e : Entry} (he : t₀.get? (L ++ p) = some e) (hq : q <+: p)
    (hdone : q ∈ done) : q = p :=
  (hm.logs q (List.mem_append_left _ hdone)).eq_of_entry_below hw₀ he hq

/-- On the clear way to a log not yet copied, the bundle holds directories or nothing, and at
the log's own place nothing or a regular file. -/
theorem Overlays.way (hm : Overlays t₀ L B done failed t) (hw₀ : t₀.WellFormed)
    (hplain : PlainBundle t₀ B) {p : List String} (hp : LogFile t₀ L p) (hnew : p ∉ done)
    (hclear : Clear t₀ B p) :
    (∀ q, q <+: p → q ≠ p → t.get? (B ++ q) = none ∨ t.get? (B ++ q) = some .dir) ∧
      (t.get? (B ++ p) = none ∨ ∃ e, t.get? (B ++ p) = some e ∧ e.isRegular = true) := by
  obtain ⟨hp₀, e₀, he₀, _⟩ := id hp
  refine ⟨fun q hq hqp => ?_, ?_⟩
  · rcases eq_or_ne q [] with rfl | hq₀
    · exact .inr (by simpa using hm.bundle.get?_self)
    cases hget : t.get? (B ++ q) with
    | none => exact .inl rfl
    | some e =>
      right
      rcases hm.below q e hq₀ hget with hdone | h₀ | ⟨rfl, _⟩
      · exact absurd (hm.eq_of_done hw₀ he₀ hq hdone) hqp
      · -- what the bundle held there lies on the clear way
        rcases hclear.1 q hq hqp with h | h
        · rw [h] at h₀
          cases h₀
        · rw [h₀] at h
          exact h
      · rfl
  · cases hget : t.get? (B ++ p) with
    | none => exact .inl rfl
    | some e =>
      refine .inr ⟨e, rfl, ?_⟩
      rcases hm.below p e hp₀ hget with hdone | h₀ | ⟨rfl, p', hp', hpp'⟩
      · exact absurd hdone hnew
      · rcases hplain p e h₀ with rfl | hreg
        · exact absurd h₀ hclear.2
        · exact hreg
      · -- a directory made above a copy below `p`: that copy is `p`
        obtain ⟨_, e', he', _⟩ := hm.logs p' (List.mem_append_left _ hp')
        rw [← hp.eq_of_entry_below hw₀ he' hpp'] at hp'
        exact absurd hp' hnew

/-- A log, reached in a tree that is `t₀` outside the bundle, is found and read as in `t₀`. -/
theorem LogFile.source (hw₀ : t₀.WellFormed) (hBL : ∀ q, ¬ B <+: L ++ q) {p' : List String}
    {n : String} {e : Entry} (he : t₀.get? (L ++ (p' ++ [n])) = some e) (hreg : e.isRegular = true)
    (hout : t.outside B = t₀.outside B) :
    t.stat (L ++ (p' ++ [n])) = .ok e ∧ t.read (L ++ (p' ++ [n])) = .ok e.bytes := by
  have hsrc : t.get? (L ++ p' ++ [n]) = some e := by
    rw [get?_eq_of_outside hout (by simpa using hBL (p' ++ [n]))]
    simpa using he
  have hdirs : t.DirsAlong (L ++ p') :=
    (hw₀.dirsAlong (hw₀.get?_above he (by simp) (by simp))).of_outside hout.symm (hBL p')
  rw [← List.append_assoc]
  refine ⟨stat_of_not_link hdirs hsrc fun target h => ?_, read_regular hdirs hsrc hreg⟩
  subst h
  simp [Entry.isRegular] at hreg

/-- Copying a regular file to a place below the directory that `mkdirAll` makes, where nothing
or a regular file is: the copy holds the file's bytes. -/
theorem copyFile_regular {t t₁ : FileTree} {src dir : Location} {name : String} {e : Entry}
    (hmk : t.mkdirAll dir = .ok t₁) (hstat : t₁.stat src = .ok e) (hreg : e.isRegular = true)
    (hread : t₁.read src = .ok e.bytes) (hdirs : t₁.DirsAlong dir)
    (hdest : t₁.get? (dir ++ [name]) = none ∨
      ∃ e', t₁.get? (dir ++ [name]) = some e' ∧ e'.isRegular = true) (hname : ¬ DotName name) :
    ∃ x, Archive.copyFile t src (dir ++ [name]) = .ok (t₁.put (dir ++ [name]) (.file e.bytes x)) := by
  obtain ⟨x', hwrite⟩ : ∃ x', t₁.write (dir ++ [name]) e.bytes false =
      .ok (t₁.put (dir ++ [name]) (.file e.bytes x')) := by
    rcases hdest with hnew | ⟨e', he', hreg'⟩
    · exact ⟨false, write_new hdirs hnew hname _ _⟩
    · exact write_regular hdirs he' hreg' _
  -- the copy may be run when the file may
  cases e with
  | file d x =>
    simp only [Entry.bytes] at hread hwrite ⊢
    cases x
    · exact ⟨x', by simp [Archive.copyFile, hmk, hstat, hread, hwrite, Entry.isRegular, pure,
        Except.pure, bind, Except.bind]⟩
    · exact ⟨true, by simp [Archive.copyFile, hmk, hstat, hread, hwrite, Entry.isRegular,
        setExecutable_put_file hdirs, pure, Except.pure, bind, Except.bind]⟩
  | program tool =>
    simp only [Entry.bytes] at hread hwrite ⊢
    exact ⟨true, by simp [Archive.copyFile, hmk, hstat, hread, hwrite, Entry.isRegular,
      setExecutable_put_file hdirs, pure, Except.pure, bind, Except.bind]⟩
  | dir | link _ | fifo => simp [Entry.isRegular] at hreg

/-- The bundle with one more copy, of a log whose way was clear: the directories made on the
way down to it, then the copy in place of nothing or of a regular file. -/
theorem Overlays.add (hm : Overlays t₀ L B done failed t) {t₁ : FileTree} {p' : List String}
    {n : String} (hmade : DirsMade t t₁ B p')
    (hdest : t₁.get? (B ++ p' ++ [n]) = none ∨
      ∃ e', t₁.get? (B ++ p' ++ [n]) = some e' ∧ e'.isRegular = true)
    (hp : LogFile t₀ L (p' ++ [n])) (hnew : p' ++ [n] ∉ done ++ failed)
    (hclear : Clear t₀ B (p' ++ [n])) {e : Entry} (he : t₀.get? (L ++ (p' ++ [n])) = some e)
    (hn : ¬ DotName n) (x : Bool) :
    Overlays t₀ L B (done ++ [p' ++ [n]]) failed (t₁.put (B ++ (p' ++ [n])) (.file e.bytes x)) := by
  have hdest' : B ++ (p' ++ [n]) ≠ [] := by simp
  have hne : ∀ q, q ≠ p' ++ [n] → B ++ q ≠ B ++ (p' ++ [n]) := fun q hq h =>
    hq (List.append_cancel_left h)
  have hnotdone : p' ++ [n] ∉ done := fun h => hnew (List.mem_append_left _ h)
  exact {
    wf := hmade.wf.put hdest' (by simpa using hmade.dirs.get?_self) (fun h => by
      rw [← List.append_assoc] at h
      rcases hdest with h' | ⟨e', h', hreg⟩ <;> rw [h'] at h <;> cases h
      simp [Entry.isRegular] at hreg) (by simpa using hn)
    outside := by
      rw [outside_put (List.prefix_append _ _), hmade.outside B (List.prefix_refl B)]
      exact hm.outside
    bundle := (hmade.dirs.above (List.prefix_append B p')).put_elsewhere
      (fun h => by
        have := h.length_le
        simp at this) _
    logs := by
      intro q hq
      simp only [List.mem_append, List.mem_singleton] at hq
      rcases hq with (hq | rfl) | hq
      · exact hm.logs q (List.mem_append_left _ hq)
      · exact hp
      · exact hm.logs q (List.mem_append_right _ hq)
    nodup := by
      rw [List.append_assoc, List.singleton_append]
      exact List.perm_middle.nodup_iff.2 (List.nodup_cons.2 ⟨hnew, hm.nodup⟩)
    clear := by
      intro q hq
      rcases List.mem_append.1 hq with hq | hq
      · exact hm.clear q hq
      · rw [List.mem_singleton.1 hq]
        exact hclear
    blocked := hm.blocked
    copies := by
      intro q hq
      rcases List.mem_append.1 hq with hq | hq
      · obtain ⟨e', x', h₀, h₁⟩ := hm.copies q hq
        refine ⟨e', x', h₀, ?_⟩
        rw [get?_put_ne _ _ (hne q fun h => hnotdone (h ▸ hq)), hmade.kept _ _ h₁]
      · rw [List.mem_singleton.1 hq]
        exact ⟨e, x, he, get?_put _ _ _ hdest'⟩
    below := by
      intro q e' hq₀ hq
      by_cases hqp : q = p' ++ [n]
      · exact .inl (by simp [hqp])
      rw [get?_put_ne _ _ (hne q hqp)] at hq
      cases ht : t.get? (B ++ q) with
      | some e₀ =>
        -- what was there is there still, as before
        rw [hmade.kept _ _ ht] at hq
        obtain rfl : e₀ = e' := Option.some.inj hq
        rcases hm.below q e₀ hq₀ ht with h | h | ⟨h₁, p'', hp'', h₂⟩
        · exact .inl (List.mem_append_left _ h)
        · exact .inr (.inl h)
        · exact .inr (.inr ⟨h₁, p'', List.mem_append_left _ hp'', h₂⟩)
      | none =>
        -- a place that was empty and holds something now was made on the way down
        by_cases hway : ∀ k, 0 < k → k ≤ p'.length → B ++ q ≠ B ++ p'.take k
        · rw [hmade.same _ hway, ht] at hq
          cases hq
        push Not at hway
        obtain ⟨k, hk, hkl, hqk⟩ := hway
        obtain rfl : q = p'.take k := List.append_cancel_left hqk
        rw [hmade.dirs.get?_append hk hkl] at hq
        cases hq
        exact .inr (.inr ⟨rfl, p' ++ [n], by simp,
          (List.take_prefix k p').trans (List.prefix_append _ _)⟩)
    kept := by
      intro q e' h₀ hq
      have hqp : q ≠ p' ++ [n] := fun h => hq (by simp [h])
      rw [get?_put_ne _ _ (hne q hqp)]
      exact hmade.kept _ _ (hm.kept q e' h₀ fun h => hq (List.mem_append_left _ h)) }

/-- A log whose way was not clear joins the failed ones; nothing else changes. -/
theorem Overlays.fail (hm : Overlays t₀ L B done failed t) {p : List String}
    (hp : LogFile t₀ L p) (hnew : p ∉ done ++ failed) (hblocked : ¬ Clear t₀ B p) :
    Overlays t₀ L B done (failed ++ [p]) t where
  wf := hm.wf
  outside := hm.outside
  bundle := hm.bundle
  logs q hq := by
    rw [← List.append_assoc, List.mem_append, List.mem_singleton] at hq
    rcases hq with hq | rfl
    · exact hm.logs q hq
    · exact hp
  nodup := by
    rw [← List.append_assoc]
    exact List.nodup_append.2 ⟨hm.nodup, List.nodup_singleton _, fun a ha b hb hab => by
      rw [List.mem_singleton.1 hb] at hab
      exact hnew (hab ▸ ha)⟩
  clear := hm.clear
  blocked q hq := by
    rcases List.mem_append.1 hq with hq | hq
    · exact hm.blocked q hq
    · rw [List.mem_singleton.1 hq]
      exact hblocked
  copies := hm.copies
  below := hm.below
  kept := hm.kept

/-- Copying a log not yet copied, whose way is clear, makes the directories above its copy,
then the copy. -/
theorem Overlays.copy (hm : Overlays t₀ L B done failed t) (hw₀ : t₀.WellFormed)
    (hplain : PlainBundle t₀ B) (hBL : ∀ q, ¬ B <+: L ++ q) {p : List String}
    (hp : LogFile t₀ L p) (hnew : p ∉ done ++ failed) (hclear : Clear t₀ B p) :
    ∃ t', Archive.copyFile t (L ++ p) (B ++ p) = .ok t' ∧ Overlays t₀ L B (done ++ [p]) failed t' := by
  obtain ⟨hp₀, e, he, hreg⟩ := id hp
  obtain ⟨p', n, rfl⟩ : ∃ p' n, p = p' ++ [n] := by
    rcases List.eq_nil_or_concat p with h | ⟨p', n, h⟩
    · exact absurd h hp₀
    · exact ⟨p', n, by simpa using h⟩
  obtain ⟨hway, hat⟩ := hm.way hw₀ hplain hp (fun h => hnew (List.mem_append_left _ h)) hclear
  -- the names on the way are those of the log's own place
  have hnames : ∀ c ∈ p' ++ [n], ¬ DotName c := fun c hc => hw₀.not_dotName_of_mem he hc
  obtain ⟨t₁, hmk, hmade⟩ := mkdirUp_along hm.wf hm.bundle p'
      (fun c hc => hnames c (List.mem_append_left _ hc)) ((B ++ p').length + 1)
      (by simp only [List.length_append]; omega) fun k hk hkl =>
    hway _ ((List.take_prefix k p').trans (List.prefix_append _ _)) fun h => by
      have := congrArg List.length h
      simp at this
      omega
  have hsame : t₁.get? (B ++ p' ++ [n]) = t.get? (B ++ p' ++ [n]) :=
    hmade.same _ fun k hk hkl heq => by
      have := congrArg List.length heq
      simp at this
      omega
  -- the log lies outside the bundle, so `t₁` holds it as `t₀` does
  have hout : t₁.outside B = t₀.outside B := (hmade.outside B (List.prefix_refl B)).trans hm.outside
  obtain ⟨hstat, hread⟩ := LogFile.source hw₀ hBL he hreg hout
  have hn : ¬ DotName n := hnames n (by simp)
  obtain ⟨x, hcopy⟩ := copyFile_regular hmk hstat hreg hread hmade.dirs
    (by rw [hsame]; simpa using hat) hn
  rw [List.append_assoc] at hcopy
  exact ⟨_, hcopy, hm.add hmade (by rw [hsame]; simpa using hat) hp hnew hclear he hn x⟩

/-- Copying a log whose way is blocked fails: a file above its place stops the directories
being made, and a directory at its place stops the copy being written. -/
theorem Overlays.copy_blocked (hm : Overlays t₀ L B done failed t) (hw₀ : t₀.WellFormed)
    (hplain : PlainBundle t₀ B) (hBL : ∀ q, ¬ B <+: L ++ q) {p : List String}
    (hp : LogFile t₀ L p) (hnew : p ∉ done ++ failed) (hblocked : ¬ Clear t₀ B p) :
    ∃ err, Archive.copyFile t (L ++ p) (B ++ p) = .error err := by
  obtain ⟨hp₀, e, he, hreg⟩ := id hp
  obtain ⟨p', n, rfl⟩ : ∃ p' n, p = p' ++ [n] := by
    rcases List.eq_nil_or_concat p with h | ⟨p', n, h⟩
    · exact absurd h hp₀
    · exact ⟨p', n, by simpa using h⟩
  have hdest : (B ++ (p' ++ [n])).dropLast = B ++ p' := by
    rw [← List.append_assoc, List.dropLast_concat]
  by_cases hway : ∀ q, q <+: p' ++ [n] → q ≠ p' ++ [n] →
      t₀.get? (B ++ q) = none ∨ t₀.get? (B ++ q) = some .dir
  · -- the way is clear, so a directory sits at the log's place: the copy cannot be written
    have hdir₀ : t₀.get? (B ++ (p' ++ [n])) = some .dir := by
      by_contra h
      exact hblocked ⟨hway, h⟩
    have hdir : t.get? (B ++ p' ++ [n]) = some .dir := by
      simpa using hm.kept _ _ hdir₀ fun h => hnew (List.mem_append_left _ h)
    have hdirs : t.DirsAlong (B ++ p') :=
      (hm.wf.dirsAlong hdir).above (List.prefix_append _ _)
    obtain ⟨hstat, hread⟩ := LogFile.source hw₀ hBL he hreg hm.outside
    have hwrite (data : List UInt8) :
        t.write (B ++ (p' ++ [n])) data false = .error .isDirectory := by
      rw [← List.append_assoc]
      exact write_dir hdirs hdir data false
    refine ⟨.os .isDirectory, ?_⟩
    cases e with
    | file d x =>
      cases x <;> simp [Archive.copyFile, hdest, mkdirAll_of_dirs hdirs, hstat, hread,
        Entry.isRegular, hwrite, bind, Except.bind]
    | program tool =>
      simp [Archive.copyFile, hdest, mkdirAll_of_dirs hdirs, hstat, hread, Entry.isRegular,
        hwrite, bind, Except.bind]
    | dir | link _ | fifo => simp [Entry.isRegular] at hreg
  · -- something other than a directory lies above the log's place: no directory is made
    push Not at hway
    obtain ⟨q, hq, hqp, hnone, hnotdir⟩ := hway
    obtain ⟨e', he'⟩ := Option.ne_none_iff_exists'.1 hnone
    have hq' : t.get? (B ++ q) = some e' :=
      hm.kept q e' he' fun hdone => hqp (hm.eq_of_done hw₀ he hq hdone)
    have he'dir : e' ≠ .dir := fun h => hnotdir (h ▸ he')
    have he'link : ∀ a, e' ≠ .link a := fun a h => by
      rcases hplain q e' he' with h' | h' <;> subst h
      · cases h'
      · simp [Entry.isRegular] at h'
    obtain ⟨q', m, rfl⟩ : ∃ q' m, q = q' ++ [m] := by
      rcases List.eq_nil_or_concat q with h | ⟨q', m, h⟩
      · subst h
        rw [List.append_nil, hm.bundle.get?_self] at hq'
        exact absurd (Option.some.inj hq').symm he'dir
      · exact ⟨q', m, by simpa using h⟩
    have hdirs : t.DirsAlong (B ++ q') := hm.wf.dirsAlong
      (hm.wf.get?_above (by simpa using hq') (List.prefix_append _ _) (by simp))
    -- the place of the copy's directory lies at or below the one in the way
    obtain ⟨rest, hrest⟩ : q' ++ [m] <+: p' := by
      rcases List.prefix_concat_iff.1 hq with h | h
      · exact absurd h hqp
      · exact h
    obtain ⟨err, hmk⟩ := mkdirUp_blocked hdirs (by simpa using hq') he'dir he'link rest
      (B ++ (q' ++ [m] ++ rest)).length
    refine ⟨.os err, ?_⟩
    have hmk' : t.mkdirAll (B ++ p') = .error err := by
      rw [mkdirAll, ← hrest]
      simpa using hmk
    simp [Archive.copyFile, hdest, hmk', bind, Except.bind]

/-- Two names one level below the same place, both on the way to `p`, are one name. -/
theorem prefix_snoc_eq {r p : List String} {a b : String} (ha : r ++ [a] <+: p)
    (hb : r ++ [b] <+: p) : a = b := by
  have h := List.prefix_of_prefix_length_le ha hb (by simp)
  simpa using h.eq_of_length (by simp)

/-- The bundle apart from the logs directory is apart from everything below it. -/
theorem not_prefix_of_apart (hLB : ¬ L <+: B) (hBL : ¬ B <+: L) (q : List String) :
    ¬ B <+: L ++ q := fun h =>
  (List.prefix_or_prefix_of_prefix h (List.prefix_append L q)).elim hBL hLB

/-! ### Copying below a directory -/

/-- One child's turn in a copy below `dir`: a directory is copied below it, a regular file is
copied, anything else is left. -/
def copyChild (L B : Location) (depth : Nat) (dir : Location) (st : CopyState) :
    String × Entry → CopyState
  | (name, e) =>
    let path := dir ++ [name]
    let rel := path.drop L.length
    match e with
    | .dir => copyTree L B depth path st
    | .file .. | .program _ =>
      match Archive.copyFile st.fs path (B ++ rel) with
      | .ok fs => { st with fs, archived := st.archived ++ [rel] }
      | .error _ => { st with failed := st.failed ++ [rel] }
    | _ => st

theorem copyTree_of_list {depth : Nat} {dir : Location} {st : CopyState}
    {children : List (String × Entry)} (h : st.fs.list dir = .ok children) :
    copyTree L B (depth + 1) dir st = children.foldl (copyChild L B depth dir) st := by
  simp only [copyTree, h]
  rfl

theorem copyChild_dir (depth : Nat) (dir : Location) (st : CopyState) (name : String) :
    copyChild L B depth dir st (name, .dir) = copyTree L B depth (dir ++ [name]) st :=
  rfl

theorem copyChild_of_copy {depth : Nat} {dir : Location} {st : CopyState} {name : String}
    {e : Entry} (hreg : e.isRegular = true) {rel : List String}
    (hrel : (dir ++ [name]).drop L.length = rel) {fs : FileTree}
    (h : Archive.copyFile st.fs (dir ++ [name]) (B ++ rel) = .ok fs) :
    copyChild L B depth dir st (name, e) = { st with fs, archived := st.archived ++ [rel] } := by
  subst hrel
  cases e <;> simp_all [copyChild, Entry.isRegular]

theorem copyChild_of_other {depth : Nat} {dir : Location} {st : CopyState} {name : String}
    {e : Entry} (hdir : e ≠ .dir) (hreg : e.isRegular = false) :
    copyChild L B depth dir st (name, e) = st := by
  cases e <;> simp_all [copyChild, Entry.isRegular]

theorem copyChild_of_fail {depth : Nat} {dir : Location} {st : CopyState} {name : String}
    {e : Entry} (hreg : e.isRegular = true) {rel : List String}
    (hrel : (dir ++ [name]).drop L.length = rel) {err : IoError}
    (h : Archive.copyFile st.fs (dir ++ [name]) (B ++ rel) = .error err) :
    copyChild L B depth dir st (name, e) = { st with failed := st.failed ++ [rel] } := by
  subst hrel
  cases e <;> simp_all [copyChild, Entry.isRegular]

/-- `st'` is `st` with the logs `new` copied and the logs `blocked` failed, the bundle
overlaying the copies. -/
structure Copied (t₀ : FileTree) (L B : Location) (st st' : CopyState)
    (new blocked : List (List String)) : Prop where
  archived : st'.archived = st.archived ++ new
  failed : st'.failed = st.failed ++ blocked
  overlays : Overlays t₀ L B st'.archived st'.failed st'.fs

section Copied

variable {st st₁ st₂ : CopyState} {new₁ new₂ blocked₁ blocked₂ : List (List String)}

theorem Copied.refl (hm : Overlays t₀ L B st.archived st.failed st.fs) :
    Copied t₀ L B st st [] [] :=
  ⟨by simp, by simp, hm⟩

theorem Copied.trans (h₁ : Copied t₀ L B st st₁ new₁ blocked₁)
    (h₂ : Copied t₀ L B st₁ st₂ new₂ blocked₂) :
    Copied t₀ L B st st₂ (new₁ ++ new₂) (blocked₁ ++ blocked₂) :=
  ⟨by rw [h₂.archived, h₁.archived, List.append_assoc],
    by rw [h₂.failed, h₁.failed, List.append_assoc], h₂.overlays⟩

end Copied

/-- Copying below `L ++ r`, with `depth` levels to go, from any state whose logs, copied or
failed, lie none below it, copies or fails exactly the logs below it. -/
def CopiesBelow (t₀ : FileTree) (L B : Location) (depth : Nat) (r : List String) : Prop :=
  ∀ st : CopyState, Overlays t₀ L B st.archived st.failed st.fs →
    (∀ p ∈ st.archived ++ st.failed, ¬ r <+: p) →
    ∃ new blocked, Copied t₀ L B st (copyTree L B depth (L ++ r) st) new blocked ∧
      ∀ p, p ∈ new ++ blocked ↔ LogFile t₀ L p ∧ r <+: p

section Below

variable (hw₀ : t₀.WellFormed) (hplain : PlainBundle t₀ B) (hBL : ∀ q, ¬ B <+: L ++ q)
include hw₀ hplain hBL

/-- One child of `L ++ r`: copying it copies or fails exactly the logs at or below it, given
that copying below it does when it is a directory. -/
theorem copyChild_copies {depth : Nat} {r : List String} {name : String} {e : Entry}
    (hc : (L ++ r ++ [name], e) ∈ t₀.entries)
    (hsub : e = .dir → CopiesBelow t₀ L B depth (r ++ [name])) {st : CopyState}
    (hm : Overlays t₀ L B st.archived st.failed st.fs)
    (hfresh : ∀ p ∈ st.archived ++ st.failed, ¬ r ++ [name] <+: p) :
    ∃ new blocked, Copied t₀ L B st (copyChild L B depth (L ++ r) st (name, e)) new blocked ∧
      ∀ p, p ∈ new ++ blocked ↔ LogFile t₀ L p ∧ r ++ [name] <+: p := by
  have he : t₀.get? (L ++ (r ++ [name])) = some e := by simpa using hw₀.get?_of_mem hc
  by_cases hdir : e = .dir
  · subst hdir
    rw [copyChild_dir, List.append_assoc]
    exact hsub rfl st hm hfresh
  cases hreg : e.isRegular
  · -- a link or a pipe: nothing is copied, and no log lies at or below it
    rw [copyChild_of_other hdir hreg]
    refine ⟨[], [], .refl hm, fun p => ⟨by simp, ?_⟩⟩
    rintro ⟨⟨_, e', he', hreg'⟩, hpre⟩
    have hp := hw₀.eq_of_not_dir he hdir he' ((List.prefix_append_right_inj L).2 hpre)
    rw [hp, he'] at he
    cases he
    simp [hreg] at hreg'
  · -- a regular file: it is the only log at or below it, copied when its way is clear
    have hlog : LogFile t₀ L (r ++ [name]) := ⟨by simp, e, he, hreg⟩
    have hnew : r ++ [name] ∉ st.archived ++ st.failed := fun h => hfresh _ h (List.prefix_refl _)
    have hrel : (L ++ r ++ [name]).drop L.length = r ++ [name] := by simp
    have honly : ∀ p, p = r ++ [name] ↔ LogFile t₀ L p ∧ r ++ [name] <+: p := fun p =>
      ⟨fun h => by subst h; exact ⟨hlog, List.prefix_refl _⟩, fun ⟨⟨_, e', he', _⟩, hpre⟩ =>
        (hlog.eq_of_entry_below hw₀ he' hpre).symm⟩
    by_cases hclear : Clear t₀ B (r ++ [name])
    · obtain ⟨t', hcopy, hm'⟩ := hm.copy hw₀ hplain hBL hlog hnew hclear
      rw [copyChild_of_copy hreg hrel (by simpa using hcopy)]
      exact ⟨[r ++ [name]], [], ⟨rfl, by simp, hm'⟩, fun p => by simpa using honly p⟩
    · obtain ⟨err, hcopy⟩ := hm.copy_blocked hw₀ hplain hBL hlog hnew hclear
      rw [copyChild_of_fail hreg hrel (by simpa using hcopy)]
      exact ⟨[], [r ++ [name]], ⟨by simp, rfl, hm.fail hlog hnew hclear⟩,
        fun p => by simpa using honly p⟩

/-- The children of `L ++ r`, one after another: each copies or fails the logs at or below
it. -/
theorem foldl_copyChild {depth : Nat} {r : List String} :
    ∀ (cs : List (String × Entry)) (st : CopyState), (cs.map (·.1)).Nodup →
      (∀ c ∈ cs, (L ++ r ++ [c.1], c.2) ∈ t₀.entries) →
      (∀ c ∈ cs, c.2 = .dir → CopiesBelow t₀ L B depth (r ++ [c.1])) →
      Overlays t₀ L B st.archived st.failed st.fs →
      (∀ p ∈ st.archived ++ st.failed, ∀ c ∈ cs, ¬ r ++ [c.1] <+: p) →
      ∃ new blocked, Copied t₀ L B st (cs.foldl (copyChild L B depth (L ++ r)) st) new blocked ∧
        ∀ p, p ∈ new ++ blocked ↔ LogFile t₀ L p ∧ ∃ c ∈ cs, r ++ [c.1] <+: p := by
  intro cs
  induction cs with
  | nil =>
    intro st _ _ _ hm _
    exact ⟨[], [], .refl hm, by simp⟩
  | cons c cs ih =>
    intro st hnd hcs hsub hm hfresh
    rw [List.map_cons, List.nodup_cons] at hnd
    obtain ⟨new₁, blocked₁, hc₁, hnew₁⟩ := copyChild_copies hw₀ hplain hBL (hcs c (by simp))
      (hsub c (by simp)) hm fun p hp => hfresh p hp c (by simp)
    -- the rest goes on from there: what the first child gave lies below no other child
    obtain ⟨new₂, blocked₂, hc₂, hnew₂⟩ := ih _ hnd.2 (fun c' h => hcs c' (by simp [h]))
      (fun c' h => hsub c' (by simp [h])) hc₁.overlays fun p hp c' hc' hpre => by
        have hp' : p ∈ st.archived ++ st.failed ∨ p ∈ new₁ ++ blocked₁ := by
          rw [hc₁.archived, hc₁.failed] at hp
          simp only [List.mem_append] at hp ⊢
          tauto
        rcases hp' with hp | hp
        · exact hfresh p hp c' (by simp [hc']) hpre
        · have hname := prefix_snoc_eq hpre ((hnew₁ p).1 hp).2
          exact hnd.1 (hname ▸ List.mem_map_of_mem hc')
    refine ⟨new₁ ++ new₂, blocked₁ ++ blocked₂, hc₁.trans hc₂, fun p => ?_⟩
    have hsplit : p ∈ new₁ ++ new₂ ++ (blocked₁ ++ blocked₂) ↔
        p ∈ new₁ ++ blocked₁ ∨ p ∈ new₂ ++ blocked₂ := by
      simp only [List.mem_append]
      tauto
    rw [hsplit, hnew₁, hnew₂]
    simp only [List.mem_cons, or_and_right, exists_or, exists_eq_left, and_or_left]

/-- Copying below a directory of the logs copies or fails exactly the logs below it, given
levels enough for the deepest of them. -/
theorem copiesBelow :
    ∀ depth r, t₀.get? (L ++ r) = some .dir →
      (∀ q e, t₀.get? (L ++ r ++ q) = some e → q.length < depth) →
      CopiesBelow t₀ L B depth r := by
  intro depth
  induction depth with
  | zero =>
    intro r hdir hdepth
    exact absurd (hdepth [] .dir (by simpa using hdir)) (by simp)
  | succ d ih =>
    intro r hdir hdepth st hm hfresh
    have hdirs := hw₀.dirsAlong hdir
    obtain ⟨children, hlist, hmem, hnames⟩ := mem_list hw₀ hdirs
    -- the bundle lies apart from the logs, so the copy lists them as they were
    have hlist' : st.fs.list (L ++ r) = .ok children := by
      rw [list_eq_of_outside hm.outside.symm hdirs fun l hl => by
        obtain ⟨x, rfl⟩ := hl
        simpa using hBL (r ++ x)]
      exact hlist
    rw [copyTree_of_list hlist']
    obtain ⟨new, blocked, hcop, hnew⟩ := foldl_copyChild hw₀ hplain hBL children st hnames
      (fun c hc => (hmem c.1 c.2).1 hc)
      (fun c hc hcd => ih (r ++ [c.1])
        (by simpa [hcd] using hw₀.get?_of_mem ((hmem c.1 c.2).1 hc))
        fun q e h => by simpa using hdepth (c.1 :: q) e (by simpa using h))
      hm fun p hp c _ hpre => hfresh p hp ((List.prefix_append r [c.1]).trans hpre)
    refine ⟨new, blocked, hcop, fun p => (hnew p).trans
      ⟨fun ⟨hp, c, _, hpre⟩ => ⟨hp, (List.prefix_append _ _).trans hpre⟩, fun ⟨hp, hpre⟩ => ?_⟩⟩
    -- a log below `L ++ r` lies at or below one of its children
    refine ⟨hp, ?_⟩
    obtain ⟨s, rfl⟩ := hpre
    obtain ⟨_, e', he', hreg⟩ := hp
    cases s with
    | nil =>
      rw [List.append_nil, hdir] at he'
      cases he'
      simp [Entry.isRegular] at hreg
    | cons n s' =>
      obtain ⟨ec, hec⟩ : ∃ ec, t₀.get? (L ++ r ++ [n]) = some ec := by
        by_cases hs' : s' = []
        · subst hs'
          exact ⟨e', by simpa using he'⟩
        · exact ⟨.dir, hw₀.get?_above he' ⟨s', by simp⟩ (by simp [hs'])⟩
      exact ⟨(n, ec), (hmem n ec).2 (mem_of_get? hec (by simp)), ⟨s', by simp⟩⟩

end Below

/-- The copy phase of archiving: with the logs directory reached through directories, or no
directory at all, every log below it is copied when its way in the bundle is clear and failed
otherwise, each once. -/
theorem copyPhase {fs : FileTree} (hw : fs.WellFormed) (hlogs : fs.DirsAlong L ∨ fs.isDir L = false)
    (hB : fs.DirsAlong B) (hplain : PlainBundle fs B) (hLB : ¬ L <+: B) (hBL : ¬ B <+: L) :
    ∃ st : CopyState, (if fs.isDir L then copyTree L B (fs.entries.length + 1) L ⟨fs, [], []⟩
        else ⟨fs, [], []⟩) = st ∧
      Overlays fs L B st.archived st.failed st.fs ∧
      ∀ p, p ∈ st.archived ++ st.failed ↔ LogFile fs L p := by
  have hinit : Overlays fs L B [] [] fs := .init hw hB
  rcases hlogs with hdirs | hnot
  · rw [if_pos hdirs.isDir]
    -- no entry below `L` is deeper than the tree has entries
    have hcopies := copiesBelow hw hplain (not_prefix_of_apart hLB hBL)
      (fs.entries.length + 1) [] (by simpa using hdirs.get?_self) (fun q e h => by
        have := hw.length_le h
        simp at this
        omega) ⟨fs, [], []⟩ hinit (by simp)
    simp only [List.append_nil] at hcopies
    obtain ⟨new, blocked, hcop, hnew⟩ := hcopies
    refine ⟨_, rfl, hcop.overlays, fun p => ?_⟩
    rw [hcop.archived, hcop.failed, List.nil_append, List.nil_append, hnew]
    simp
  · rw [if_neg (by simp [hnot])]
    refine ⟨_, rfl, hinit, fun p => ⟨by simp, ?_⟩⟩
    -- a log below `L` would make it a directory
    rintro ⟨hp₀, e, he, _⟩
    have hdir := hw.get?_above he (List.prefix_append _ _) (by simpa using hp₀)
    have h := (hw.dirsAlong hdir).isDir
    rw [hnot] at h
    cases h

/-! ### The manifest -/

/-- The copied logs' bytes, in the order of `ps`. -/
theorem Overlays.contents (hm : Overlays t₀ L B done failed t) (hw₀ : t₀.WellFormed) :
    ∀ ps : List (List String), (∀ p ∈ ps, p ∈ done) →
      ∃ ds, List.Forall₂ (fun p d => p ∈ done ∧ t₀.read (L ++ p) = .ok d ∧
        ∃ x, t.get? (B ++ p) = some (.file d x)) ps ds
  | [], _ => ⟨[], .nil⟩
  | p :: ps, hps => by
    have hp : p ∈ done := hps p (by simp)
    obtain ⟨e, x, h₀, h₁⟩ := hm.copies p hp
    obtain ⟨_, e', he', hreg⟩ := hm.logs p (List.mem_append_left _ hp)
    rw [h₀] at he'
    cases he'
    obtain ⟨ds, hds⟩ := hm.contents hw₀ ps fun q hq => hps q (by simp [hq])
    exact ⟨e.bytes :: ds, .cons ⟨hp, hw₀.read_eq_bytes h₀ hreg, x, h₁⟩ hds⟩

/-- The manifest's place stays empty while nothing in the bundle and no log lies at or below
its name. -/
theorem Overlays.manifest_none (hm : Overlays t₀ L B done failed t)
    (hfree : ∀ q, t₀.get? (B ++ manifestFile :: q) = none)
    (hname : ∀ q, ¬ LogFile t₀ L (manifestFile :: q)) : t.get? (B ++ [manifestFile]) = none := by
  cases h : t.get? (B ++ [manifestFile]) with
  | none => rfl
  | some e =>
    rcases hm.below _ e (by simp) h with hp | h₀ | ⟨_, p, hp, q, rfl⟩
    · exact absurd (hm.logs _ (List.mem_append_left _ hp)) (hname [])
    · rw [hfree []] at h₀
      cases h₀
    · exact absurd (hm.logs _ (List.mem_append_left _ hp)) (hname q)

/-- The manifest written at an empty place of the bundle keeps the tree well formed. -/
theorem Overlays.wf_manifest (hm : Overlays t₀ L B done failed t)
    (hM : t.get? (B ++ [manifestFile]) = none) (c : List UInt8) :
    (t.put (B ++ [manifestFile]) (.file c false)).WellFormed :=
  hm.wf.put (by simp) (by simpa using hm.bundle.get?_self) (fun h => by
    rw [hM] at h
    cases h) (by simp; decide)

/-- With the manifest written at an empty place, a copy reads as before. -/
theorem Overlays.read_copy (hm : Overlays t₀ L B done failed t)
    (hM : t.get? (B ++ [manifestFile]) = none) {p : List String} (hp : p ≠ [manifestFile])
    {d : List UInt8} {x : Bool} (h : t.get? (B ++ p) = some (.file d x)) (c : List UInt8) :
    (t.put (B ++ [manifestFile]) (.file c false)).read (B ++ p) = .ok d := by
  have hne : B ++ p ≠ B ++ [manifestFile] := fun h => hp (List.append_cancel_left h)
  exact (hm.wf_manifest hM c).read_eq_bytes (e := .file d x)
    (by rw [get?_put_ne _ _ hne]; exact h) rfl

/-- Hashing a copy into a manifest holding `c` appends the copy's line. -/
theorem hashInto_line {t : FileTree} (hB : t.DirsAlong B) {c : List UInt8}
    {hashed failed : List (List String)} {p : List String} {d : List UInt8}
    (hread : (t.put (B ++ [manifestFile]) (.file c false)).read (B ++ p) = .ok d) :
    (hashInto B (hashed, failed) p).run (t.put (B ++ [manifestFile]) (.file c false)) =
      .ok (hashed ++ [p], failed)
        (t.put (B ++ [manifestFile]) (.file (c ++ Text.utf8Bytes (manifestLine p d)) false)) := by
  have hdirs := hB.put_elsewhere (l := B ++ [manifestFile]) (fun h => by
    have := h.length_le
    simp at this) (.file c false)
  have hwrite := write_file hdirs (get?_put _ _ _ (by simp)) (Text.utf8Bytes (manifestLine p d))
  simp only [manifestLine] at hwrite ⊢
  simp [hashInto, EStateM.run, hread, hwrite]

/-- Hashing the copies one after another puts one line per copy into the manifest, in
order. -/
theorem foldl_hashInto {t : FileTree} (hB : t.DirsAlong B) {ps : List (List String)}
    {ds : List (List UInt8)}
    (h : List.Forall₂
      (fun p d => ∀ c, (t.put (B ++ [manifestFile]) (.file c false)).read (B ++ p) = .ok d) ps ds)
    (c : List UInt8) (hashed failed : List (List String)) :
    (ps.foldlM (hashInto B) (hashed, failed)).run (t.put (B ++ [manifestFile]) (.file c false)) =
      .ok (hashed ++ ps, failed) (t.put (B ++ [manifestFile])
        (.file (c ++ Text.utf8Bytes (String.join (List.zipWith manifestLine ps ds))) false)) := by
  induction h generalizing c hashed with
  | nil => simp [Text.utf8Bytes, EStateM.run, pure, EStateM.pure]
  | cons hpd _ ih =>
    rw [List.foldlM_cons, EStateM.run_bind, hashInto_line hB (hpd c)]
    simp only [ih, List.append_assoc, List.singleton_append, List.zipWith_cons_cons,
      String.join_cons, Text.utf8Bytes_append]

/-- One turn of hashing, in any tree, hashes the copy or fails it. -/
theorem hashInto_cases {t t₁ : FileTree} {hashed failed : List (List String)} {p : List String}
    {acc : List (List String) × List (List String)}
    (h : (hashInto B (hashed, failed) p).run t = .ok acc t₁) :
    acc = (hashed ++ [p], failed) ∨ acc = (hashed, failed ++ [p]) := by
  simp only [hashInto, EStateM.run] at h
  split at h
  · split at h
    · exact .inl (EStateM.Result.ok.inj h).1.symm
    · cases h
  · exact .inr (EStateM.Result.ok.inj h).1.symm

/-- Hashing copies one after another, in any tree, hashes or fails each copy once and keeps
their order: a copy that cannot be read at its turn is failed, and a manifest line that cannot
be written stops the hashing with its error. The induction is on the copies, the lists growing
at each turn. -/
theorem foldlM_hashInto_split :
    ∀ (ps hashed failed : List (List String)) (t t' : FileTree)
      (r : List (List String) × List (List String)),
      (ps.foldlM (hashInto B) (hashed, failed)).run t = .ok r t' →
      ∃ good bad, r = (hashed ++ good, failed ++ bad) ∧ good.Sublist ps ∧ (good ++ bad).Perm ps
  | [], hashed, failed, t, t', r, h => by
    simp only [List.foldlM_nil, EStateM.run, pure, EStateM.pure, EStateM.Result.ok.injEq] at h
    exact ⟨[], [], by simp [h.1], .slnil, .nil⟩
  | p :: ps, hashed, failed, t, t', r, h => by
    rw [List.foldlM_cons, EStateM.run_bind] at h
    cases hstep : (hashInto B (hashed, failed) p).run t with
    | error e t₁ =>
      rw [hstep] at h
      cases h
    | ok acc t₁ =>
      rw [hstep] at h
      obtain ⟨good, bad, rfl, hsub, hperm⟩ := foldlM_hashInto_split ps acc.1 acc.2 t₁ t' r h
      rcases hashInto_cases hstep with rfl | rfl
      · exact ⟨p :: good, bad, by simp, hsub.cons_cons p, hperm.cons p⟩
      · exact ⟨good, p :: bad, by simp, hsub.cons p, List.perm_middle.trans (hperm.cons p)⟩

/-- What archiving gives, in any tree: the copy phase's archived files are hashed or failed,
each once, the hashed ones in path order; the failed ones are those of the copy phase, whose
listing or copy failed, in path order, then those whose hash failed. -/
theorem archiveLogs_accounts {fs fs' : FileTree} {cwd : Location} {logsDir bundle : HostPath}
    {a : ArchivedLogs} (hL : place cwd logsDir = .ok L) (hB : place cwd bundle = .ok B)
    (h : archiveLogs fs cwd logsDir bundle = (fs', .ok a)) :
    let st : CopyState :=
      if fs.isDir L then copyTree L B (fs.entries.length + 1) L ⟨fs, [], []⟩ else ⟨fs, [], []⟩
    ∃ unhashed, a.archived.Sublist (sortPaths st.archived) ∧
      (a.archived ++ unhashed).Perm (sortPaths st.archived) ∧
      a.failed = sortPaths st.failed ++ unhashed := by
  intro st
  simp only [archiveLogs, hL, hB] at h
  split at h
  · cases h
  · split at h
    · rename_i hashed failed t' hrun
      obtain rfl : a = ⟨hashed, failed⟩ := (Except.ok.inj (Prod.mk.inj h).2).symm
      obtain ⟨good, bad, heq, hsub, hperm⟩ := foldlM_hashInto_split _ [] _ _ _ _ hrun
      simp only [Prod.mk.injEq, List.nil_append] at heq
      obtain ⟨rfl, rfl⟩ := heq
      exact ⟨bad, hsub, hperm, rfl⟩
    · cases h

/-- Archiving logs into a bundle that may hold directories and regular files already, apart
from the logs directory, which is reached through directories (or is no directory), when
nothing in the bundle and no log lies at or below the manifest's name: every regular file
below the logs is archived or failed, never both, and it fails exactly when its way in the
bundle is blocked, by a file above its place or a directory at it. Both lists come in path
order; each copy reads as its log; the manifest holds one line per archived file, its digest
and path, in that order and nothing else; the archive is complete exactly when no log is
blocked; and nothing outside the bundle changes. -/
theorem archiveLogs_partition {fs : FileTree} {cwd : Location} {logsDir bundle : HostPath}
    (hL : place cwd logsDir = .ok L) (hB : place cwd bundle = .ok B) (hw : fs.WellFormed)
    (hlogs : fs.DirsAlong L ∨ fs.isDir L = false) (hbundle : fs.DirsAlong B)
    (hplain : PlainBundle fs B) (hfree : ∀ q, fs.get? (B ++ manifestFile :: q) = none)
    (hLB : ¬ L <+: B) (hBL : ¬ B <+: L) (hname : ∀ q, ¬ LogFile fs L (manifestFile :: q)) :
    ∃ fs' archived failed, archiveLogs fs cwd logsDir bundle = (fs', .ok ⟨archived, failed⟩) ∧
      archived.Pairwise (fun a b => pathLe a b = true) ∧
      failed.Pairwise (fun a b => pathLe a b = true) ∧ (archived ++ failed).Nodup ∧
      (∀ p, p ∈ archived ↔ LogFile fs L p ∧ Clear fs B p) ∧
      (∀ p, p ∈ failed ↔ LogFile fs L p ∧ ¬ Clear fs B p) ∧
      ((⟨archived, failed⟩ : ArchivedLogs).isComplete = true ↔
        ∀ p, LogFile fs L p → Clear fs B p) ∧
      (∀ p ∈ archived, fs'.read (B ++ p) = fs.read (L ++ p)) ∧
      (∃ contents, List.Forall₂ (fun p d => fs.read (L ++ p) = .ok d) archived contents ∧
        fs'.read (B ++ [manifestFile]) =
          .ok (Text.utf8Bytes (String.join (List.zipWith manifestLine archived contents)))) ∧
      fs'.outside B = fs.outside B := by
  obtain ⟨st, hst, hm, hlog⟩ := copyPhase hw hlogs hbundle hplain hLB hBL
  have hpermA : (sortPaths st.archived).Perm st.archived := List.mergeSort_perm _ _
  have hpermF : (sortPaths st.failed).Perm st.failed := List.mergeSort_perm _ _
  have hM := hm.manifest_none hfree hname
  have hnotM : ∀ p ∈ st.archived, p ≠ [manifestFile] := fun p hp h =>
    hname [] (h ▸ hm.logs p (List.mem_append_left _ hp))
  obtain ⟨ds, hds⟩ := hm.contents hw (sortPaths st.archived) fun p hp => hpermA.mem_iff.1 hp
  -- the lines are hashed from the copies, which read as the logs, so no hash fails
  have hfold := foldl_hashInto hm.bundle (hds.imp fun p d ⟨hp, _, x, hcp⟩ =>
    hm.read_copy hM (hnotM p hp) hcp) [] [] (sortPaths st.failed)
  have hrun : archiveLogs fs cwd logsDir bundle =
      (st.fs.put (B ++ [manifestFile])
        (.file (Text.utf8Bytes (String.join (List.zipWith manifestLine (sortPaths st.archived) ds)))
          false),
        .ok ⟨sortPaths st.archived, sortPaths st.failed⟩) := by
    simp only [archiveLogs, hL, hB, hst, write_new hm.bundle hM (by decide), hfold, List.nil_append]
  -- a log is copied exactly when its way is clear
  have hmemA : ∀ p, p ∈ st.archived ↔ LogFile fs L p ∧ Clear fs B p := fun p =>
    ⟨fun hp => ⟨hm.logs p (List.mem_append_left _ hp), hm.clear p hp⟩, fun ⟨hp, hc⟩ =>
      (List.mem_append.1 ((hlog p).2 hp)).resolve_right fun hf => hm.blocked p hf hc⟩
  have hmemF : ∀ p, p ∈ st.failed ↔ LogFile fs L p ∧ ¬ Clear fs B p := fun p =>
    ⟨fun hp => ⟨hm.logs p (List.mem_append_right _ hp), hm.blocked p hp⟩, fun ⟨hp, hc⟩ =>
      (List.mem_append.1 ((hlog p).2 hp)).resolve_left fun ha => hc (hm.clear p ha)⟩
  refine ⟨_, _, _, hrun, sortPaths_pairwise _, sortPaths_pairwise _,
    (hpermA.append hpermF).nodup_iff.2 hm.nodup, fun p => hpermA.mem_iff.trans (hmemA p),
    fun p => hpermF.mem_iff.trans (hmemF p), ?_, fun p hp => ?_,
    ⟨ds, hds.imp fun p d h => h.2.1, ?_⟩, ?_⟩
  · -- complete exactly when nothing failed
    simp only [ArchivedLogs.isComplete, List.isEmpty_iff, List.eq_nil_iff_forall_not_mem]
    refine ⟨fun h p hp => ?_, fun h p hp => ?_⟩
    · by_contra hc
      exact h p (hpermF.mem_iff.2 ((hmemF p).2 ⟨hp, hc⟩))
    · obtain ⟨hlogp, hc⟩ := (hmemF p).1 (hpermF.mem_iff.1 hp)
      exact hc (h p hlogp)
  · -- each copy reads as its log
    have hp' := hpermA.mem_iff.1 hp
    obtain ⟨e, x, h₀, h₁⟩ := hm.copies p hp'
    obtain ⟨_, e', he', hreg⟩ := hm.logs p (List.mem_append_left _ hp')
    rw [h₀] at he'
    cases he'
    rw [hm.read_copy hM (hnotM p hp') h₁, hw.read_eq_bytes h₀ hreg]
  · exact (hm.wf_manifest hM _).read_eq_bytes (e := .file _ false) (get?_put _ _ _ (by simp)) rfl
  · rw [outside_put (List.prefix_append _ _)]
    exact hm.outside

/-- Two logs, the place of one of which the bundle holds as a directory already: that log
fails and the other is archived. -/
theorem archiveLogs_partition_blocked :
    let fs : FileTree := ⟨[(["logs"], .dir), (["logs", "a.log"], .file [97] false),
      (["logs", "b.log"], .file [98] false), (["bundle"], .dir), (["bundle", "a.log"], .dir)]⟩
    ∃ fs' archived failed, archiveLogs fs [] "/logs" "/bundle" = (fs', .ok ⟨archived, failed⟩) ∧
      ["a.log"] ∈ failed ∧ ["b.log"] ∈ archived := by
  intro fs
  have hw : fs.WellFormed := ⟨by decide +kernel, fun l e h => by
    simp only [fs, List.mem_cons, List.not_mem_nil, Prod.mk.injEq, or_false] at h
    rcases h with ⟨rfl, rfl⟩ | ⟨rfl, rfl⟩ | ⟨rfl, rfl⟩ | ⟨rfl, rfl⟩ | ⟨rfl, rfl⟩ <;>
      exact ⟨by simp, rfl⟩,
    fun l e h => by
    simp only [fs, List.mem_cons, List.not_mem_nil, Prod.mk.injEq, or_false] at h
    rcases h with ⟨rfl, rfl⟩ | ⟨rfl, rfl⟩ | ⟨rfl, rfl⟩ | ⟨rfl, rfl⟩ | ⟨rfl, rfl⟩ <;>
      simp [DotName]⟩
  have hdirs : ∀ n, fs.get? [n] = some .dir → fs.DirsAlong [n] := fun n h k hk hkl => by
    obtain rfl : k = 1 := by simp at hkl; omega
    exact h
  have hplace : ∀ {p : HostPath} {l : Location}, (place [] p).toOption = some l →
      place [] p = .ok l := fun h => by
    cases hp : place [] _ <;> simp_all [Except.toOption]
  have hplain : PlainBundle fs ["bundle"] := fun q e h => by
    cases q with
    | nil => simp [fs, FileTree.get?] at h; exact .inl h.symm
    | cons a q => simp [fs, FileTree.get?] at h; exact .inl h.2.symm
  obtain ⟨fs', archived, failed, hrun, -, -, -, harch, hfailed, -⟩ :=
    @archiveLogs_partition ["logs"] ["bundle"] fs [] "/logs" "/bundle"
      (hplace (by decide +kernel)) (hplace (by decide +kernel)) hw
      (.inl (hdirs _ rfl)) (hdirs _ rfl) hplain
      (fun q => by simp [fs, FileTree.get?, manifestFile]) (by simp) (by simp)
      (fun q hq => by
        obtain ⟨_, e, he, _⟩ := hq
        simp [fs, FileTree.get?, manifestFile] at he)
  refine ⟨fs', archived, failed, hrun,
    (hfailed _).2 ⟨⟨by simp, .file [97] false, by simp [fs, FileTree.get?], rfl⟩, fun h => h.2 ?_⟩,
    (harch _).2 ⟨⟨by simp, .file [98] false, by simp [fs, FileTree.get?], rfl⟩, fun q hq hqb => ?_,
      by simp [fs, FileTree.get?]⟩⟩
  · simp [fs, FileTree.get?]
  · rcases List.prefix_concat_iff.1 (show q <+: [] ++ ["b.log"] from hq) with h | h
    · exact absurd (by simpa using h) hqb
    · rw [List.prefix_nil.1 h]
      exact .inr (by simp [fs, FileTree.get?])

/-- Archiving logs into a fresh bundle apart from the logs directory, which is reached through
directories (or is no directory), when no log lies at or below the manifest's name: every
regular file below the logs is archived, once, in path order; its copy in the bundle reads as
it does; the manifest holds one line per archived file, its digest and path, in that order
and nothing else; nothing fails; and nothing outside the bundle changes. -/
theorem archiveLogs_copies {fs : FileTree} {cwd : Location} {logsDir bundle : HostPath}
    (hL : place cwd logsDir = .ok L) (hB : place cwd bundle = .ok B) (hw : fs.WellFormed)
    (hlogs : fs.DirsAlong L ∨ fs.isDir L = false) (hbundle : fs.DirsAlong B)
    (hfresh : ∀ q ≠ [], fs.get? (B ++ q) = none) (hLB : ¬ L <+: B) (hBL : ¬ B <+: L)
    (hname : ∀ q, ¬ LogFile fs L (manifestFile :: q)) :
    ∃ fs' archived, archiveLogs fs cwd logsDir bundle = (fs', .ok ⟨archived, []⟩) ∧
      archived.Pairwise (fun a b => pathLe a b = true) ∧ archived.Nodup ∧
      (∀ p, p ∈ archived ↔ LogFile fs L p) ∧
      (∀ p ∈ archived, fs'.read (B ++ p) = fs.read (L ++ p)) ∧
      (∃ contents, List.Forall₂ (fun p d => fs.read (L ++ p) = .ok d) archived contents ∧
        fs'.read (B ++ [manifestFile]) =
          .ok (Text.utf8Bytes (String.join (List.zipWith manifestLine archived contents)))) ∧
      fs'.outside B = fs.outside B := by
  -- a fresh bundle holds nothing, so every way in it is clear and no log fails
  have hplain : PlainBundle fs B := fun q e h => by
    rcases eq_or_ne q [] with rfl | hq
    · rw [List.append_nil, hbundle.get?_self] at h
      exact .inl (Option.some.inj h).symm
    · rw [hfresh q hq] at h
      cases h
  have hclear : ∀ p, LogFile fs L p → Clear fs B p := fun p ⟨hp₀, _⟩ =>
    ⟨fun q _ _ => by
      rcases eq_or_ne q [] with rfl | hq
      · exact .inr (by simpa using hbundle.get?_self)
      · exact .inl (hfresh q hq), by simp [hfresh p hp₀]⟩
  obtain ⟨fs', archived, failed, hrun, hsorted, -, hnodup, harch, hfailed, -, hcopy, hmanifest,
    hout⟩ := archiveLogs_partition hL hB hw hlogs hbundle hplain (fun q => hfresh _ (by simp))
      hLB hBL hname
  obtain rfl : failed = [] := List.eq_nil_iff_forall_not_mem.2 fun p hp =>
    ((hfailed p).1 hp).2 (hclear p ((hfailed p).1 hp).1)
  exact ⟨fs', archived, hrun, hsorted, by simpa using hnodup,
    fun p => (harch p).trans ⟨And.left, fun hp => ⟨hp, hclear p hp⟩⟩, hcopy, hmanifest, hout⟩

/-- One log below `/logs`, archived into the fresh `/bundle`: the hypotheses hold, so it is
archived with a copy that reads as it does. -/
theorem archiveLogs_copies_one_log :
    let fs : FileTree :=
      ⟨[(["logs"], .dir), (["logs", "a.log"], .file [97] false), (["bundle"], .dir)]⟩
    ∃ fs' archived, archiveLogs fs [] "/logs" "/bundle" = (fs', .ok ⟨archived, []⟩) ∧
      (∀ p, p ∈ archived ↔ LogFile fs ["logs"] p) ∧
      ∀ p ∈ archived, fs'.read (["bundle"] ++ p) = fs.read (["logs"] ++ p) := by
  intro fs
  have hw : fs.WellFormed := ⟨by decide +kernel, fun l e h => by
    simp only [fs, List.mem_cons, List.not_mem_nil, Prod.mk.injEq, or_false] at h
    rcases h with ⟨rfl, rfl⟩ | ⟨rfl, rfl⟩ | ⟨rfl, rfl⟩ <;> exact ⟨by simp, rfl⟩,
    fun l e h => by
    simp only [fs, List.mem_cons, List.not_mem_nil, Prod.mk.injEq, or_false] at h
    rcases h with ⟨rfl, rfl⟩ | ⟨rfl, rfl⟩ | ⟨rfl, rfl⟩ <;> simp [DotName]⟩
  have hdirs : ∀ n, fs.get? [n] = some .dir → fs.DirsAlong [n] := fun n h k hk hkl => by
    obtain rfl : k = 1 := by simp at hkl; omega
    exact h
  have hplace : ∀ {p : HostPath} {l : Location}, (place [] p).toOption = some l →
      place [] p = .ok l := fun h => by
    cases hp : place [] _ <;> simp_all [Except.toOption]
  obtain ⟨fs', archived, hrun, -, -, hmem, hcopy, -, -⟩ :=
    @archiveLogs_copies ["logs"] ["bundle"] fs [] "/logs" "/bundle"
      (hplace (by decide +kernel)) (hplace (by decide +kernel)) hw
      (.inl (hdirs _ rfl)) (hdirs _ rfl)
      (fun q hq => by
        cases q with
        | nil => exact absurd rfl hq
        | cons a q => simp [fs, FileTree.get?])
      (by simp) (by simp)
      (fun q ⟨_, e, he, _⟩ => by simp [fs, FileTree.get?, manifestFile] at he)
  exact ⟨fs', archived, hrun, hmem, hcopy⟩

end Bundle

/-- A log named like the manifest, `x` in it: it is listed as archived, yet the bundle holds
the manifest in place of its copy, and the line for it gives the digest of the manifest as it
was when the log was hashed, still empty. -/
theorem archiveLogs_manifest_clash :
    let logs : FileTree :=
      ⟨[(["logs"], .dir), (["logs", manifestFile], .file [120] false), (["bundle"], .dir)]⟩
    let run := archiveLogs logs [] "/logs" "/bundle"
    run.2.toOption.map (·.archived) = some [[manifestFile]] ∧
      (logs.read ["logs", manifestFile]).toOption = some [120] ∧
      (run.1.read ["bundle", manifestFile]).toOption =
        some (Text.utf8Bytes (Digest.sha256Hex [] ++ "  " ++ manifestFile ++ "\n")) ∧
      Digest.sha256Hex [] ≠ Digest.sha256Hex [120] := by
  decide +kernel

end LaunchBench.Archive
