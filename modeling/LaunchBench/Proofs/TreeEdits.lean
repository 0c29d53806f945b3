import Mathlib.Data.List.Infix
import Mathlib.Data.List.Nodup
import Mathlib.Data.List.Perm.Subperm
import LaunchBench.Proofs.Paths
/-!
Editing a file tree below one place.

A file tree is well formed (`FileTree.WellFormed`) when each place is listed once, the
place above every entry is a directory, and no entry is named `.` or `..`, as the host's files
are; then every place above an entry is a directory (`WellFormed.get?_take`).

Edits below a place `B` keep the entries outside it, in their order (`FileTree.outside`), so
everything outside `B` reads as before: entries, directories on the way, and listings of
directories with nothing of `B` below them (`list_eq_of_outside`).

* **`mkdirUp_along`**: making a place below directories, down a way of directories and
  empty places, makes directories at the empty ones and changes nothing else (`DirsMade`).
* **`mem_list`**: listing a directory reached through directories gives the entries one
  level below it, by name, each once.
-/

namespace LaunchBench.Host

/-- The bytes a regular entry reads as; a program reads as empty. -/
def Entry.bytes : Entry → List UInt8
  | .file d _ => d
  | _ => []

namespace FileTree

/-- What the host's file trees are: each place is listed once, the place above every entry
is a directory, and no entry is named `.` or `..`, the names a walk takes as steps. -/
structure WellFormed (t : FileTree) : Prop where
  /-- No place is listed twice. -/
  nodup : (t.entries.map (·.1)).Nodup
  /-- Every entry is below the root, and the place above it is a directory. -/
  parent : ∀ l e, (l, e) ∈ t.entries → l ≠ [] ∧ t.get? l.dropLast = some .dir
  /-- No entry's own name is `.` or `..`. -/
  names : ∀ l e, (l, e) ∈ t.entries → ∀ c ∈ l.getLast?, ¬ DotName c

section Entries

variable {t : FileTree}

theorem mem_of_get? {l : Location} {e : Entry} (h : t.get? l = some e) (hl : l ≠ []) :
    (l, e) ∈ t.entries := by
  unfold get? at h
  simp only [List.isEmpty_iff, hl, if_false, Option.map_eq_some_iff] at h
  obtain ⟨x, hx, rfl⟩ := h
  have hxl : x.1 = l := by simpa using List.find?_some hx
  rw [← hxl]
  exact List.mem_of_find?_eq_some hx

theorem WellFormed.get?_of_mem (hw : t.WellFormed) {l : Location} {e : Entry}
    (h : (l, e) ∈ t.entries) : t.get? l = some e := by
  have hl := (hw.parent l e h).1
  unfold get?
  simp only [List.isEmpty_iff, hl, if_false]
  -- the first entry at `l` is the one given, as `l` is listed once
  obtain ⟨x, hx⟩ : ∃ x, t.entries.find? (·.1 == l) = some x := by
    cases hf : t.entries.find? (·.1 == l) with
    | none => exact absurd ((List.find?_eq_none.1 hf) _ h) (by simp)
    | some x => exact ⟨x, rfl⟩
  have hxl : x.1 = l := by simpa using List.find?_some hx
  rw [hx, List.inj_on_of_nodup_map hw.nodup (List.mem_of_find?_eq_some hx) h hxl]
  rfl

/-- The name of an entry of a well-formed tree is no step. -/
theorem WellFormed.not_dotName (hw : t.WellFormed) {dir : Location} {name : String} {e : Entry}
    (h : t.get? (dir ++ [name]) = some e) : ¬ DotName name :=
  hw.names _ e (mem_of_get? h (by simp)) name (by simp)

/-- In a well-formed tree every place above an entry is a directory. -/
theorem WellFormed.get?_take (hw : t.WellFormed) {l : Location} :
    ∀ {e : Entry}, t.get? l = some e → ∀ k < l.length, t.get? (l.take k) = some .dir := by
  induction l using List.reverseRecOn with
  | nil =>
    intro e _ k hk
    simp at hk
  | append_singleton init x ih =>
    intro e h k hk
    have hparent : t.get? init = some .dir := by
      simpa using (hw.parent _ _ (mem_of_get? h (by simp))).2
    rcases Nat.lt_or_ge k init.length with hlt | hge
    · rw [List.take_append_of_le_length hlt.le]
      exact ih hparent k hlt
    · have hk' : k = init.length := by simp at hk; omega
      subst hk'
      simpa using hparent

/-- A directory of a well-formed tree is reached through directories. -/
theorem WellFormed.dirsAlong (hw : t.WellFormed) {d : Location} (h : t.get? d = some .dir) :
    t.DirsAlong d := by
  intro k _ hkl
  rcases Nat.lt_or_ge k d.length with hlt | hge
  · exact hw.get?_take h k hlt
  · rw [show k = d.length by omega, List.take_length]
    exact h

/-- In a well-formed tree every place strictly above an entry is a directory. -/
theorem WellFormed.get?_above (hw : t.WellFormed) {l l' : Location} {e : Entry}
    (h : t.get? l = some e) (hp : l' <+: l) (hne : l' ≠ l) : t.get? l' = some .dir := by
  have hlt : l'.length < l.length :=
    lt_of_le_of_ne hp.length_le fun hlen => hne (hp.eq_of_length hlen)
  rw [List.prefix_iff_eq_take.1 hp]
  exact hw.get?_take h _ hlt

/-- No name on the way down to an entry is `.` or `..`: each is the last name of an entry. -/
theorem WellFormed.not_dotName_of_mem (hw : t.WellFormed) {base q : Location} {e : Entry}
    (h : t.get? (base ++ q) = some e) {c : String} (hc : c ∈ q) : ¬ DotName c := by
  obtain ⟨q₁, q₂, rfl⟩ := List.append_of_mem hc
  have hpre : base ++ q₁ ++ [c] <+: base ++ (q₁ ++ c :: q₂) := ⟨q₂, by simp⟩
  by_cases heq : base ++ q₁ ++ [c] = base ++ (q₁ ++ c :: q₂)
  · rw [← heq] at h
    exact hw.not_dotName h
  · exact hw.not_dotName (hw.get?_above h hpre heq)

/-- A well-formed tree is no deeper than it has entries: the places above an entry are
entries too, each of its own length. -/
theorem WellFormed.length_le (hw : t.WellFormed) {l : Location} {e : Entry}
    (h : t.get? l = some e) : l.length ≤ t.entries.length := by
  have hsub : (List.range l.length).map (fun k => l.take (k + 1)) ⊆ t.entries.map (·.1) := by
    intro p hp
    obtain ⟨k, hk, rfl⟩ := List.mem_map.1 hp
    rw [List.mem_range] at hk
    obtain ⟨e', he'⟩ : ∃ e', t.get? (l.take (k + 1)) = some e' := by
      rcases Nat.lt_or_ge (k + 1) l.length with hlt | hge
      · exact ⟨_, hw.get?_take h (k + 1) hlt⟩
      · rw [show k + 1 = l.length by omega, List.take_length]
        exact ⟨e, h⟩
    have hl : l ≠ [] := by
      rintro rfl
      simp at hk
    exact List.mem_map.2 ⟨_, mem_of_get? he' (by simp [List.take_eq_nil_iff, hl]), rfl⟩
  have hnd : ((List.range l.length).map (fun k => l.take (k + 1))).Nodup := by
    refine List.nodup_range.map_on fun a ha b hb hab => ?_
    have := congrArg List.length hab
    simp only [List.mem_range] at ha hb
    simp only [List.length_take] at this
    omega
  simpa using (hnd.subperm hsub).length_le

/-- Putting an entry below a directory keeps a tree well formed, unless it puts something
other than a directory in place of one. -/
theorem WellFormed.put (hw : t.WellFormed) {l : Location} {e : Entry} (hl : l ≠ [])
    (hp : t.get? l.dropLast = some .dir) (hdir : t.get? l = some .dir → e = .dir)
    (hname : ∀ c ∈ l.getLast?, ¬ DotName c) : (t.put l e).WellFormed where
  nodup := by
    simp only [FileTree.put, List.map_cons, List.nodup_cons]
    refine ⟨by simp, (List.filter_sublist.map _).nodup hw.nodup⟩
  parent l' e' h := by
    have hdrop : l.dropLast ≠ l := fun heq => by
      have := congrArg List.length heq
      simp only [List.length_dropLast] at this
      exact hl (List.eq_nil_of_length_eq_zero (by omega))
    simp only [FileTree.put, List.mem_cons, List.mem_filter, Prod.mk.injEq, bne_iff_ne, ne_eq] at h
    rcases h with ⟨rfl, rfl⟩ | ⟨hmem, hne⟩
    · exact ⟨hl, by rw [get?_put_ne _ _ hdrop]; exact hp⟩
    · obtain ⟨hl', hp'⟩ := hw.parent l' e' hmem
      refine ⟨hl', ?_⟩
      by_cases hpl : l'.dropLast = l
      · rw [hpl, get?_put _ _ _ hl, hdir (hpl ▸ hp')]
      · rw [get?_put_ne _ _ hpl]
        exact hp'
  names l' e' h := by
    simp only [FileTree.put, List.mem_cons, List.mem_filter, Prod.mk.injEq] at h
    rcases h with ⟨rfl, rfl⟩ | ⟨hmem, -⟩
    exacts [hname, hw.names l' e' hmem]

end Entries

/-- Putting twice at one place keeps the second entry only. -/
@[simp] theorem put_put (t : FileTree) (l : Location) (e e' : Entry) :
    (t.put l e).put l e' = t.put l e' := by
  simp [put, List.filter_filter]

/-- Marking a file just written as one that may be run. -/
theorem setExecutable_put_file {t : FileTree} {dir : Location} {name : String}
    (hd : t.DirsAlong dir) (d : List UInt8) (x : Bool) :
    (t.put (dir ++ [name]) (.file d x)).setExecutable (dir ++ [name]) =
      t.put (dir ++ [name]) (.file d true) := by
  have hget := get?_put t (dir ++ [name]) (.file d x) (by simp)
  simp [setExecutable, resolve_of_entry _ true (hd.put _) hget (by simp), hget]

theorem DirsAlong.put_elsewhere {t : FileTree} {d l : Location} (hd : t.DirsAlong d)
    (h : ¬ l <+: d) (e : Entry) : (t.put l e).DirsAlong d := by
  intro k hk hkl
  rw [get?_put_ne t e fun heq : d.take k = l => h (heq ▸ List.take_prefix k d)]
  exact hd k hk hkl

theorem DirsAlong.above {t : FileTree} {d d' : Location} (hd : t.DirsAlong d) (h : d' <+: d) :
    t.DirsAlong d' := by
  intro k hk hkl
  rw [List.prefix_iff_eq_take.1 h, List.take_take, Nat.min_eq_left (by simpa using hkl)]
  exact hd k hk (hkl.trans h.length_le)

/-- A directory reached through directories is one. -/
theorem DirsAlong.isDir {t : FileTree} {d : Location} (hd : t.DirsAlong d) : t.isDir d = true := by
  simp [FileTree.isDir, stat, resolve_dir t true hd, hd.get?_self, Entry.isDir, bind, Except.bind]

/-- A regular file reached through directories reads as its bytes. -/
theorem read_regular {t : FileTree} {dir : Location} {name : String} {e : Entry}
    (hd : t.DirsAlong dir) (hf : t.get? (dir ++ [name]) = some e) (he : e.isRegular = true) :
    t.read (dir ++ [name]) = .ok e.bytes := by
  have hres := resolve_of_entry t true hd hf fun target h => by
    subst h
    simp [Entry.isRegular] at he
  cases e with
  | file d x => simp [read, hres, hf, Entry.bytes, bind, Except.bind]
  | program tool => simp [read, hres, hf, Entry.bytes, bind, Except.bind]
  | dir | link _ | fifo => simp [Entry.isRegular] at he

/-- A place below directories that holds no link is found as it is. -/
theorem stat_of_not_link {t : FileTree} {dir : Location} {name : String} {e : Entry}
    (hd : t.DirsAlong dir) (hf : t.get? (dir ++ [name]) = some e)
    (hl : ∀ target, e ≠ .link target) : t.stat (dir ++ [name]) = .ok e := by
  have hres := resolve_of_entry t true hd hf hl
  simp [stat, hres, hf, bind, Except.bind]

/-- In a well-formed tree a regular file reads as its bytes. -/
theorem WellFormed.read_eq_bytes {t : FileTree} (hw : t.WellFormed) {l : Location} {e : Entry}
    (h : t.get? l = some e) (he : e.isRegular = true) : t.read l = .ok e.bytes := by
  rcases List.eq_nil_or_concat l with rfl | ⟨dir, name, rfl⟩
  · simp [get?] at h
    subst h
    simp [Entry.isRegular] at he
  · rw [List.concat_eq_append] at h ⊢
    exact read_regular (hw.dirsAlong (hw.get?_above h (List.prefix_append _ _) (by simp))) h he

/-- Nothing lies below a place that is not a directory. -/
theorem WellFormed.eq_of_not_dir {t : FileTree} (hw : t.WellFormed) {l l' : Location} {e e' : Entry}
    (h : t.get? l = some e) (he : e ≠ .dir) (h' : t.get? l' = some e') (hp : l <+: l') : l = l' := by
  by_contra hne
  rw [hw.get?_above h' hp hne] at h
  exact he (Option.some.inj h).symm

theorem DirsAlong.get?_append {t : FileTree} {base more : Location} (hd : t.DirsAlong (base ++ more))
    {k : Nat} (hk : 0 < k) (hkl : k ≤ more.length) : t.get? (base ++ more.take k) = some .dir := by
  have h := hd (base.length + k) (by omega) (by simp; omega)
  rwa [List.take_append, List.take_of_length_le (by omega), Nat.add_sub_cancel_left] at h

/-! ### Entries outside a place -/

/-- The entries of a tree outside the place `B`, in order. -/
def outside (t : FileTree) (B : Location) : List (Location × Entry) :=
  t.entries.filter fun x => !B.isPrefixOf x.1

section Outside

variable {t t' : FileTree} {B : Location}

theorem outside_put {l : Location} (h : B <+: l) (e : Entry) :
    (t.put l e).outside B = t.outside B := by
  have hin : B.isPrefixOf l = true := List.isPrefixOf_iff_prefix.2 h
  simp only [outside, put, List.filter_cons, hin, Bool.not_true, Bool.false_eq_true, if_false,
    List.filter_filter]
  congr 1
  funext x
  by_cases hx : x.1 = l
  · simp [hx, hin]
  · simp [hx]

/-- A place outside `B` is found as it was. -/
theorem get?_eq_of_outside (h : t.outside B = t'.outside B) {l : Location} (hl : ¬ B <+: l) :
    t.get? l = t'.get? l := by
  -- the first entry at `l` is the first one at `l` outside `B`
  have hfind : ∀ u : FileTree, u.entries.find? (·.1 == l) = (u.outside B).find? (·.1 == l) := by
    intro u
    rw [outside, List.find?_filter]
    congr 1
    funext x
    by_cases hx : x.1 = l
    · have hout : B.isPrefixOf l = false := by
        cases hb : B.isPrefixOf l
        · rfl
        · exact absurd (List.isPrefixOf_iff_prefix.1 hb) hl
      simp [hx, hout]
    · simp [hx]
  unfold get?
  split
  · rfl
  · rw [hfind t, hfind t', h]

theorem DirsAlong.of_outside (h : t.outside B = t'.outside B) {d : Location} (hB : ¬ B <+: d)
    (hd : t.DirsAlong d) : t'.DirsAlong d := by
  intro k hk hkl
  rw [← get?_eq_of_outside h fun hp => hB (hp.trans (List.take_prefix k d))]
  exact hd k hk hkl

end Outside

/-! ### Making directories -/

section Make

variable {t : FileTree}

theorem DirsAlong.snoc {dir : Location} {x : String} (hd : t.DirsAlong dir)
    (hx : t.get? (dir ++ [x]) = some .dir) : t.DirsAlong (dir ++ [x]) := by
  intro k hk hkl
  rcases Nat.lt_or_ge k (dir.length + 1) with hlt | hge
  · rw [List.take_append_of_le_length (by omega)]
    exact hd k hk (by omega)
  · rw [show k = (dir ++ [x]).length by simp at hkl ⊢; omega, List.take_length]
    exact hx

/-- Making a directory where nothing is, below directories, puts it there. -/
theorem mkdir_new {dir : Location} {name : String} (hd : t.DirsAlong dir)
    (hnew : t.get? (dir ++ [name]) = none) (hname : ¬ DotName name) :
    t.mkdir (dir ++ [name]) = .ok (t.put (dir ++ [name]) .dir) := by
  have hplace : t.placeFor (dir ++ [name]) = .ok (dir ++ [name]) := by
    simp [placeFor, resolve_of_dirs t false hd (.inl hnew) hname, hd.get?_self, bind, Except.bind]
  simp [mkdir, hplace, hnew, bind, Except.bind]

/-- A walk down places that each hold nothing or a directory fails at the first empty one
when names follow it. -/
theorem walk_missing {b : Bool} {fuel : Nat} {rest : List String} (hr : rest ≠ []) :
    ∀ {done l : Location}, l ≠ [] → (∀ c ∈ l, ¬ DotName c) →
      (∀ k, 0 < k → k ≤ l.length →
        t.get? (done ++ l.take k) = none ∨ t.get? (done ++ l.take k) = some .dir) →
      t.get? (done ++ l) = none → t.walk b fuel done (l ++ rest) = .error .noEntry := by
  intro done l
  induction l generalizing done with
  | nil => exact fun h => absurd rfl h
  | cons x l ih =>
    intro _ hnames hplaces hnone
    rcases hplaces 1 (by omega) (by simp) with hx | hx
    · exact walk_cons_none t b fuel done x (l ++ rest) (by simpa using hx)
        (hnames x List.mem_cons_self) (by simp [hr])
    · -- the first place is a directory, so the empty one is further down
      have hl : l ≠ [] := by
        rintro rfl
        simp_all
      rw [List.cons_append, walk_cons_dir t b fuel done x _ (by simpa using hx)]
      refine ih hl (fun c hc => hnames c (List.mem_cons_of_mem x hc)) (fun k hk hkl => ?_)
        (by simpa using hnone)
      simpa [List.take_succ_cons] using hplaces (k + 1) (by omega) (by simp; omega)

/-- Making a place fails when a place above it is empty, on a way down of directories and
empty places. -/
theorem mkdir_of_missing {l : Location} {rest : List String} (hl : l ≠ []) (hr : rest ≠ [])
    (hnames : ∀ c ∈ l, ¬ DotName c) (hplaces : ∀ k, 0 < k → k ≤ l.length →
      t.get? (l.take k) = none ∨ t.get? (l.take k) = some .dir)
    (hnone : t.get? l = none) : t.mkdir (l ++ rest) = .error .noEntry := by
  have hres : t.resolve false (l ++ rest) = .error .noEntry :=
    walk_missing hr hl hnames (by simpa using hplaces) (by simpa using hnone)
  simp [mkdir, placeFor, hres, bind, Except.bind]

/-- `mkdirUp` makes the place at once when `mkdir` can. -/
theorem mkdirUp_of_mkdir {loc : Location} {t' : FileTree} (hne : loc ≠ []) (d : Nat)
    (h : t.mkdir loc = .ok t') : t.mkdirUp (d + 1) loc = .ok t' := by
  simp [mkdirUp, hne, h]

/-- When the place above is missing, `mkdirUp` makes the places above first, then this one. -/
theorem mkdirUp_of_missing {loc : Location} {t₁ t₂ : FileTree} (hne : loc ≠ []) {d : Nat}
    (hmiss : t.mkdir loc = .error .noEntry) (hup : t.mkdirUp d loc.dropLast = .ok t₁)
    (hmk : t₁.mkdir loc = .ok t₂) : t.mkdirUp (d + 1) loc = .ok t₂ := by
  simp [mkdirUp, hne, hmiss, hup, hmk, bind, Except.bind]

/-- `t'` is the well-formed `t` with directories made at the empty places from `base` down to
`base ++ more`. -/
structure DirsMade (t t' : FileTree) (base more : Location) : Prop where
  /-- Every place from the root down to `base ++ more` is a directory. -/
  dirs : t'.DirsAlong (base ++ more)
  /-- A place that held something holds it still. -/
  kept : ∀ q e, t.get? q = some e → t'.get? q = some e
  /-- A place off the way down is as it was. -/
  same : ∀ q, (∀ k, 0 < k → k ≤ more.length → q ≠ base ++ more.take k) → t'.get? q = t.get? q
  /-- The entries outside any place above `base` are as they were. -/
  outside : ∀ B, B <+: base → t'.outside B = t.outside B
  /-- The tree stays well formed. -/
  wf : t'.WellFormed

theorem DirsMade.refl {base more : Location} (hw : t.WellFormed) (hd : t.DirsAlong (base ++ more)) :
    DirsMade t t base more :=
  ⟨hd, fun _ _ h => h, fun _ _ => rfl, fun _ _ => rfl, hw⟩

theorem DirsMade.snoc {t₁ : FileTree} {base more : Location} {x : String}
    (h : DirsMade t t₁ base more) (hlast : t.get? (base ++ more ++ [x]) = none)
    (hx : ¬ DotName x) :
    DirsMade t (t₁.put (base ++ more ++ [x]) .dir) base (more ++ [x]) where
  dirs := by
    rw [← List.append_assoc]
    exact (h.dirs.put .dir).snoc (get?_put _ _ _ (by simp))
  kept q e hq := by
    have hne : q ≠ base ++ more ++ [x] := by
      rintro rfl
      rw [hlast] at hq
      cases hq
    rw [get?_put_ne _ _ hne]
    exact h.kept q e hq
  same q hq := by
    have hne : q ≠ base ++ more ++ [x] := by
      have h := hq (more ++ [x]).length (by simp) (Nat.le_refl _)
      rwa [List.take_length, ← List.append_assoc] at h
    rw [get?_put_ne _ _ hne]
    exact h.same q fun k hk hkl => by
      simpa [List.take_append_of_le_length hkl] using hq k hk (by simp; omega)
  outside B hB := by
    rw [outside_put ((hB.trans (List.prefix_append _ _)).trans (List.prefix_append _ _))]
    exact h.outside B hB
  wf := h.wf.put (by simp) (by simpa using h.dirs.get?_self) (fun _ => rfl) (by simpa using hx)

/-- Making a place fails when the way down to the place above it, of directories and empty
places, is not all directories: the first empty place stops it. -/
theorem mkdir_of_not_dirs (hw : t.WellFormed) {base more : Location} {x : String}
    (hbase : t.DirsAlong base) (hmore : ∀ c ∈ more, ¬ DotName c)
    (hplaces : ∀ k, 0 < k → k ≤ more.length →
      t.get? (base ++ more.take k) = none ∨ t.get? (base ++ more.take k) = some .dir)
    (hup : ¬ t.DirsAlong (base ++ more)) : t.mkdir (base ++ more ++ [x]) = .error .noEntry := by
  have hmore' : more ≠ [] := by
    rintro rfl
    exact hup (by simpa using hbase)
  -- the place above is empty: a directory there would be reached through directories
  have hnone : t.get? (base ++ more) = none := by
    rcases hplaces more.length (List.length_pos_iff.2 hmore') (Nat.le_refl _) with h | h
    · simpa using h
    · exact absurd (hw.dirsAlong (by simpa using h)) hup
  have hnames : ∀ c ∈ base ++ more, ¬ DotName c := by
    intro c hc
    rcases List.mem_append.1 hc with hc | hc
    · -- a name on the way down to a directory is an entry's own name
      obtain ⟨k, hk, hkl, hlast⟩ : ∃ k, 0 < k ∧ k ≤ base.length ∧ (base.take k).getLast? = some c := by
        obtain ⟨i, hi, rfl⟩ := List.getElem_of_mem hc
        exact ⟨i + 1, by omega, hi, by simp [List.getLast?_take, hi]⟩
      have hne : base.take k ≠ [] := fun h => by
        have := congrArg List.length h
        rw [List.length_take, List.length_nil] at this
        omega
      exact hw.names _ _ (mem_of_get? (hbase k hk hkl) hne) _ hlast
    · exact hmore c hc
  refine mkdir_of_missing (by simp [hmore']) (by simp) hnames (fun k hk hkl => ?_) hnone
  rcases Nat.lt_or_ge base.length k with hlt | hge
  · obtain ⟨j, rfl⟩ : ∃ j, k = base.length + j := ⟨k - base.length, by omega⟩
    rw [List.take_append, List.take_of_length_le (by omega), Nat.add_sub_cancel_left]
    exact hplaces j (by omega) (by simp at hkl; omega)
  · rw [List.take_append_of_le_length hge]
    exact .inr (hbase k hk hge)

/-- Making a place below directories, down a way of directories and empty places, makes
directories at the empty ones and changes nothing else. -/
theorem mkdirUp_along (hw : t.WellFormed) {base : Location} (hbase : t.DirsAlong base)
    (more : Location) (hmore : ∀ c ∈ more, ¬ DotName c) :
    ∀ depth, more.length < depth →
      (∀ k, 0 < k → k ≤ more.length →
        t.get? (base ++ more.take k) = none ∨ t.get? (base ++ more.take k) = some .dir) →
      ∃ t', t.mkdirUp depth (base ++ more) = .ok t' ∧ DirsMade t t' base more := by
  induction more using List.reverseRecOn with
  | nil =>
    intro depth hdepth _
    obtain ⟨d, rfl⟩ : ∃ d, depth = d + 1 := ⟨depth - 1, by simp at hdepth; omega⟩
    exact ⟨t, by simpa using mkdirUp_of_dirs hbase d, .refl hw (by simpa using hbase)⟩
  | append_singleton more x ih =>
    intro depth hdepth hplaces
    obtain ⟨d, rfl⟩ : ∃ d, depth = d + 1 := ⟨depth - 1, by simp at hdepth; omega⟩
    have habove : ∀ k, 0 < k → k ≤ more.length →
        t.get? (base ++ more.take k) = none ∨ t.get? (base ++ more.take k) = some .dir :=
      fun k hk hkl => by
        simpa [List.take_append_of_le_length hkl] using hplaces k hk (by simp; omega)
    have hlast := hplaces (more ++ [x]).length (by simp) (Nat.le_refl _)
    rw [List.take_length, ← List.append_assoc] at hlast
    have hne : base ++ more ++ [x] ≠ [] := by simp
    rcases hlast with hlast | hlast
    · -- the last place is empty: the places above are made first, when they are missing
      have hnames : ∀ c ∈ more, ¬ DotName c := fun c hc => hmore c (List.mem_append_left _ hc)
      have hx : ¬ DotName x := hmore x (by simp)
      obtain ⟨t₁, hmk₁, hmade⟩ := ih hnames d (by simp at hdepth; omega) habove
      have hlast₁ : t₁.get? (base ++ more ++ [x]) = none := by
        rw [hmade.same _ fun k hk hkl h => by
          have := congrArg List.length h
          simp at this
          omega]
        exact hlast
      refine ⟨_, ?_, hmade.snoc hlast hx⟩
      rw [← List.append_assoc]
      by_cases hup : t.DirsAlong (base ++ more)
      · -- nothing above is missing: `mkdir` makes the place at once
        have ht₁ : t₁ = t := by
          obtain ⟨d', rfl⟩ : ∃ d', d = d' + 1 := ⟨d - 1, by simp at hdepth; omega⟩
          rw [mkdirUp_of_dirs hup d'] at hmk₁
          exact (Except.ok.inj hmk₁).symm
        subst ht₁
        exact mkdirUp_of_mkdir hne d (mkdir_new hup hlast hx)
      · -- the place above is empty, which stops `mkdir` until the places above are made
        exact mkdirUp_of_missing hne (mkdir_of_not_dirs hw hbase hnames habove hup)
          (by rwa [List.dropLast_concat]) (mkdir_new hmade.dirs hlast₁ hx)
    · -- the last place is a directory already: nothing is made
      have hd : t.DirsAlong (base ++ more ++ [x]) := hw.dirsAlong hlast
      rw [← List.append_assoc]
      exact ⟨t, mkdirUp_of_dirs hd d, .refl hw (by simpa using hd)⟩

/-- Making a place whose way down holds only directories or nothing makes the directories
there and changes nothing else. -/
theorem mkdirAll_along (hw : t.WellFormed) {D : Location} (hD : ∀ c ∈ D, ¬ DotName c)
    (hway : ∀ l, l <+: D → t.get? l = none ∨ t.get? l = some .dir) :
    ∃ t₁, t.mkdirAll D = .ok t₁ ∧ DirsMade t t₁ [] D := by
  have hroot : t.DirsAlong [] := fun k hk hkl => by simp at hkl; omega
  obtain ⟨t₁, hmk, hmade⟩ := mkdirUp_along hw hroot D hD (D.length + 1) (by omega)
    fun k _ _ => by simpa using hway _ (List.take_prefix k D)
  exact ⟨t₁, by rw [mkdirAll]; simpa using hmk, hmade⟩

/-- Nothing is found at an empty place whose way down holds only directories or nothing: the
walk stops at the first empty place, or reaches the place itself. -/
theorem existsAt_of_way {cwd : Location} {path : HostPath} {dir : Location} {name : String}
    (hl : locate cwd path = .ok (dir ++ [name])) (hnames : ∀ c ∈ dir, ¬ DotName c)
    (hname : ¬ DotName name) (hway : ∀ l, l <+: dir → t.get? l = none ∨ t.get? l = some .dir)
    (hnew : t.get? (dir ++ [name]) = none) : t.existsAt cwd path = false := by
  by_cases hd : t.DirsAlong dir
  · exact existsAt_new hl hd hnew hname
  obtain ⟨k, hk, hkl, hnone⟩ : ∃ k, 0 < k ∧ k ≤ dir.length ∧ t.get? (dir.take k) = none := by
    by_contra hall
    push Not at hall
    exact hd fun k hk hkl => (hway _ (List.take_prefix k dir)).resolve_left (hall k hk hkl)
  -- the walk down stops at the empty place `dir.take k`, with names still to go
  have hres : t.resolve true (dir ++ [name]) = .error .noEntry := by
    have hsplit : dir ++ [name] = [] ++ dir.take k ++ (dir.drop k ++ [name]) := by
      rw [List.nil_append, ← List.append_assoc, List.take_append_drop]
    rw [resolve, hsplit]
    refine walk_missing (by simp) (List.ne_nil_of_length_pos (by simp; omega))
      (fun c hc => hnames c (List.mem_of_mem_take hc)) (fun j hj hjl => ?_) (by simpa using hnone)
    simpa [List.take_take] using hway _ (List.take_prefix (min j k) dir)
  simp [existsAt, hl, exists?, stat, hres, bind, Except.bind]

/-- A name that holds neither a directory nor a link, with names after it, ends the walk:
there is no directory to go into. -/
theorem walk_cons_blocked {b : Bool} {fuel : Nat} {done : Location} {x : String}
    {rest : List String} {e : Entry} (h : t.get? (done ++ [x]) = some e) (hdir : e ≠ .dir)
    (hlink : ∀ a, e ≠ .link a) (hr : rest ≠ []) :
    t.walk b fuel done (x :: rest) = .error .notDirectory := by
  cases e with
  | dir => exact absurd rfl hdir
  | link a => exact absurd rfl (hlink a)
  | _ => cases fuel <;> simp [walk, walkNames, h, hr]

/-- Something other than a directory, below directories, blocks making any place at or below
it: `mkdir` finds it in the way, and the place is then no directory. -/
theorem mkdirUp_blocked {dir : Location} {name : String} {e : Entry} (hd : t.DirsAlong dir)
    (he : t.get? (dir ++ [name]) = some e) (hdir : e ≠ .dir) (hlink : ∀ a, e ≠ .link a)
    (rest : List String) (depth : Nat) :
    ∃ err, t.mkdirUp (depth + 1) (dir ++ [name] ++ rest) = .error err := by
  cases rest with
  | nil =>
    have hres (b : Bool) := resolve_of_entry t b hd he hlink
    have hmk : t.mkdir (dir ++ [name]) = .error .alreadyExists := by
      simp [mkdir, placeFor, hres, hd.get?_self, he, bind, Except.bind]
    have hisdir : t.isDir (dir ++ [name]) = false := by
      cases e <;> simp_all [isDir, stat, Entry.isDir, bind, Except.bind]
    exact ⟨.alreadyExists, by simp [mkdirUp, hmk, hisdir]⟩
  | cons x rest =>
    -- the walk goes down the directories to the entry and can go no further
    have hres (b : Bool) : t.resolve b (dir ++ [name] ++ x :: rest) = .error .notDirectory := by
      rw [resolve, List.append_assoc, List.singleton_append,
        walk_append_of_dirs t b 40 [] dir _ (fun k hk hkl => by simpa using hd k hk hkl),
        List.nil_append]
      exact walk_cons_blocked he hdir hlink (by simp)
    have hmk : t.mkdir (dir ++ [name] ++ x :: rest) = .error .notDirectory := by
      unfold mkdir placeFor
      rw [hres]
      rfl
    have hisdir : t.isDir (dir ++ [name] ++ x :: rest) = false := by
      unfold isDir stat
      rw [hres]
      rfl
    refine ⟨.notDirectory, ?_⟩
    rw [mkdirUp, if_neg (by simp), hmk]
    dsimp only
    rw [hisdir]
    rfl

end Make

section Write

variable {t : FileTree} {dir : Location} {name : String}

/-- A directory cannot be written as a file. -/
theorem write_dir (hd : t.DirsAlong dir) (h : t.get? (dir ++ [name]) = some .dir)
    (data : List UInt8) (append : Bool) :
    t.write (dir ++ [name]) data append = .error .isDirectory := by
  simp [write, resolve_of_entry t true hd h (by simp), h, bind, Except.bind]

/-- Writing over a regular file in place of its bytes leaves a file of the new bytes. -/
theorem write_regular {e : Entry} (hd : t.DirsAlong dir) (h : t.get? (dir ++ [name]) = some e)
    (he : e.isRegular = true) (data : List UInt8) :
    ∃ x, t.write (dir ++ [name]) data false = .ok (t.put (dir ++ [name]) (.file data x)) := by
  have hres := resolve_of_entry t true hd h fun a ha => by
    subst ha
    simp [Entry.isRegular] at he
  cases e with
  | file d x => exact ⟨x, by simp [write, hres, h, bind, Except.bind]⟩
  | program tool => exact ⟨true, by simp [write, hres, h, bind, Except.bind]⟩
  | dir | link _ | fifo => simp [Entry.isRegular] at he

end Write

/-! ### Listing a directory -/

/-- The name of a place one level below `d`. -/
def childName (d l : Location) : Option String :=
  if l.length == d.length + 1 && d.isPrefixOf l then l.getLast? else none

/-- The entry of a place one level below `d`, by its name. -/
def childAt (d : Location) (x : Location × Entry) : Option (String × Entry) :=
  (childName d x.1).map (·, x.2)

theorem childName_eq_some {d l : Location} {name : String} :
    childName d l = some name ↔ l = d ++ [name] := by
  unfold childName
  constructor
  · intro h
    split at h
    · next hc =>
      simp only [Bool.and_eq_true, beq_iff_eq, List.isPrefixOf_iff_prefix] at hc
      obtain ⟨hlen, u, rfl⟩ := hc
      obtain ⟨a, rfl⟩ := List.length_eq_one_iff.1 (by simpa using hlen)
      simpa using h
    · cases h
  · rintro rfl
    simp

theorem childAt_eq_some {d : Location} {x : Location × Entry} {name : String} {e : Entry} :
    childAt d x = some (name, e) ↔ x = (d ++ [name], e) := by
  obtain ⟨l, e'⟩ := x
  simp [childAt, childName_eq_some, and_comm]

section List

variable {t : FileTree} {d : Location}

theorem list_of_dirs (hd : t.DirsAlong d) :
    t.list d = .ok ((t.entries.filterMap (childAt d)).mergeSort fun a b => decide (a.1 ≤ b.1)) := by
  simp only [list, resolve_dir t true hd, hd.get?_self, bind, Except.bind]
  congr
  funext x
  unfold childAt childName
  split <;> simp

/-- Listing a directory reached through directories gives the entries one level below it,
by name, each once. -/
theorem mem_list (hw : t.WellFormed) (hd : t.DirsAlong d) :
    ∃ children, t.list d = .ok children ∧
      (∀ name e, (name, e) ∈ children ↔ (d ++ [name], e) ∈ t.entries) ∧
      (children.map (·.1)).Nodup := by
  refine ⟨_, list_of_dirs hd, fun name e => ?_, ?_⟩
  · rw [(List.mergeSort_perm _ _).mem_iff, List.mem_filterMap]
    constructor
    · rintro ⟨x, hx, hchild⟩
      rwa [childAt_eq_some.1 hchild] at hx
    · intro h
      exact ⟨_, h, childAt_eq_some.2 rfl⟩
  · -- the names come from the places, which are listed once
    rw [((List.mergeSort_perm _ _).map _).nodup_iff, List.map_filterMap]
    have hnames : (fun x => Option.map (·.1) (childAt d x)) = childName d ∘ (·.1) := by
      funext x
      simp [childAt, Option.map_map, Function.comp_def]
    rw [hnames, ← List.filterMap_map]
    exact hw.nodup.filterMap fun l l' name h h' => by
      rw [childName_eq_some.1 h, childName_eq_some.1 h']

/-- Listing a directory with nothing of `B` at or below it reads only entries outside `B`. -/
theorem list_eq_of_outside {t' : FileTree} {B : Location} (h : t.outside B = t'.outside B)
    (hd : t.DirsAlong d) (hB : ∀ l, d <+: l → ¬ B <+: l) : t'.list d = t.list d := by
  have hd' : t'.DirsAlong d := hd.of_outside h (hB d (List.prefix_refl d))
  -- the children of `d` lie outside `B`, so both trees have the same ones, in the same order
  have hchildren : ∀ u : FileTree,
      u.entries.filterMap (childAt d) = (u.outside B).filterMap (childAt d) := by
    intro u
    rw [outside, List.filterMap_filter]
    congr 1
    funext x
    by_cases hx : B.isPrefixOf x.1
    · have hnone : childAt d x = none := by
        cases hc : childAt d x with
        | none => rfl
        | some c =>
          obtain ⟨name, e⟩ := c
          rw [childAt_eq_some] at hc
          subst hc
          exact absurd (List.isPrefixOf_iff_prefix.1 hx) (hB _ (List.prefix_append _ _))
      simp [hx, hnone]
    · simp [hx]
  rw [list_of_dirs hd, list_of_dirs hd', hchildren t, hchildren t', h]

end List

end FileTree

end LaunchBench.Host
