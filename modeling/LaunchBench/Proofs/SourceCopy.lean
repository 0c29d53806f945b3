import Mathlib.Data.String.Basic
import Mathlib.Data.Set.Insert
import LaunchBench.Scenario.Workspace
import LaunchBench.Proofs.TreeEdits
/-!
Copying an application's sources into a fresh workspace.

The copy of a source directory `S` into a destination `D` makes `D` and the directories above
it, then goes through `S` name by name: a directory is copied below its namesake in `D` unless
its name is `target` or `.git`, a regular file is written with its bytes, and links and pipes are
left. What `D` should end up holding is `sourceCopy`: the directories of `S` none of whose names
is left out, and the regular files in them, a file called `target` included.

While the copy runs, the tree is the source's tree with the way down to `D` made of directories
and, below `D`, the copy of the paths done so far and nothing else (`CopyingInto`). Making a
directory, writing a file and leaving an entry each keep that picture, with more paths done,
and going through a directory's entries does so entry by entry (`forM_copyEntry`). The source
itself is never touched, so it reads the same throughout (`CopyingInto.list_source`).

* **`copySources_spec`**: from a well-formed tree, a source directory reached through
  directories, and a fresh destination not inside it whose way down holds only directories or
  nothing, the copy with the levels the workspace gives it succeeds; below the destination it
  leaves exactly the kept directories and byte-identical copies of the regular files in them,
  it makes the way down to it, and changes nothing else. A source that cannot be listed stops
  the copy with the listing's error, and the destination made before stays.
* **`copySources_error`**: no copy fails part-way; one that fails has failed at its first
  listing, having made only the way down to the destination.
-/

namespace LaunchBench

open Host FileTree

/-! ### Runs of file operations -/

namespace FileOps

variable {t t' : FileTree}

theorem change_run_ok {f : FileTree → Except Errno FileTree} (h : f t = .ok t') :
    (change f).run t = .ok () t' := by
  simp [change, EStateM.run, h]

theorem query_run_ok {α : Type} {f : FileTree → Except Errno α} {a : α} (h : f t = .ok a) :
    (query f).run t = .ok a t := by
  simp [query, EStateM.run, h]

theorem query_run_error {α : Type} {f : FileTree → Except Errno α} {e : Errno}
    (h : f t = .error e) : (query f).run t = .error e t := by
  simp [query, EStateM.run, h]

end FileOps

theorem run_bind_ok {α β : Type} {m : FileOps α} {f : α → FileOps β} {t t₁ : FileTree} {a : α}
    (h : m.run t = .ok a t₁) : (m >>= f).run t = (f a).run t₁ := by
  rw [EStateM.run_bind, h]

theorem run_bind_error {α β : Type} {m : FileOps α} {f : α → FileOps β} {t t₁ : FileTree}
    {e : Errno} (h : m.run t = .error e t₁) : (m >>= f).run t = .error e t₁ := by
  rw [EStateM.run_bind, h]

theorem run_forM_cons {α : Type} {f : α → FileOps Unit} {c : α} {cs : List α} {t t₁ : FileTree}
    (h : (f c).run t = .ok () t₁) : ((c :: cs).forM f).run t = (cs.forM f).run t₁ := by
  change (f c >>= fun _ => cs.forM f).run t = _
  exact run_bind_ok h

/-! ### One entry's turn -/

/-- One entry's turn in a copy of `src` into `dest`: a directory not left out is copied below
its namesake, a regular file is written with its bytes and may be run when the source may, and
anything else is left. -/
def copyEntry (src dest : Location) (depth : Nat) : String × Entry → FileOps Unit
  | (name, e) =>
    match e with
    | .dir =>
      if skippedSourceDirs.contains name then pure ()
      else copySources (src ++ [name]) (dest ++ [name]) depth
    | .file data exec => do
      FileOps.change (·.write (dest ++ [name]) data false)
      if exec then modify (·.setExecutable (dest ++ [name]))
    | .program _ => do
      let data ← FileOps.query (·.read (src ++ [name]))
      FileOps.change (·.write (dest ++ [name]) data false)
      modify (·.setExecutable (dest ++ [name]))
    | _ => pure ()

theorem copySources_succ (src dest : Location) (depth : Nat) :
    copySources src dest (depth + 1) = (do
      FileOps.change (·.mkdirAll dest)
      let children ← FileOps.query (·.list src)
      children.forM (copyEntry src dest depth)) :=
  rfl

/-- With the destination made and the source listed, the copy goes through the entries. -/
theorem copySources_run_of_list {src dest : Location} {depth : Nat} {t t₁ : FileTree}
    {children : List (String × Entry)} (hmk : t.mkdirAll dest = .ok t₁)
    (hl : t₁.list src = .ok children) :
    (copySources src dest (depth + 1)).run t = (children.forM (copyEntry src dest depth)).run t₁ := by
  rw [copySources_succ, run_bind_ok (FileOps.change_run_ok hmk),
    run_bind_ok (FileOps.query_run_ok hl)]

/-- A source that cannot be listed stops the copy once the destination is made. -/
theorem copySources_run_of_list_error {src dest : Location} {depth : Nat} {t t₁ : FileTree}
    {e : Errno} (hmk : t.mkdirAll dest = .ok t₁) (hl : t₁.list src = .error e) :
    (copySources src dest (depth + 1)).run t = .error e t₁ := by
  rw [copySources_succ, run_bind_ok (FileOps.change_run_ok hmk),
    run_bind_error (FileOps.query_run_error hl)]


/-! ### What the copy should hold -/

/-- None of the names along a relative path is one the copy leaves out. -/
def Kept (p : Location) : Prop := ∀ c ∈ p, c ∉ skippedSourceDirs

instance : DecidablePred Kept := fun p =>
  inferInstanceAs (Decidable (∀ c ∈ p, c ∉ skippedSourceDirs))

@[simp] theorem kept_nil : Kept [] := fun _ hc => nomatch hc

theorem kept_append {p q : Location} : Kept (p ++ q) ↔ Kept p ∧ Kept q := by
  simp only [Kept, List.forall_mem_append]

theorem kept_singleton {c : String} : Kept [c] ↔ skippedSourceDirs.contains c = false := by
  simp [Kept]

theorem Kept.of_prefix {p q : Location} (h : Kept q) (hp : p <+: q) : Kept p :=
  fun c hc => h c (hp.subset hc)

/-- What a copy makes of an entry of the source at the relative path `p`: a directory none of
whose names is left out, and a regular file in such a directory, with its bytes; a file may be
run when the source's may, and a program is copied as a file that may be run and holds what the
program reads as. Links and pipes are not copied. -/
def copyOf (p : Location) : Entry → Option Entry
  | .dir => if Kept p then some .dir else none
  | .file d x => if Kept p.dropLast then some (.file d x) else none
  | .program _ => if Kept p.dropLast then some (.file [] true) else none
  | _ => none

/-- What the copy of the source `S` should hold at the relative path `p`. -/
def sourceCopy (t : FileTree) (S p : Location) : Option Entry :=
  (t.get? (S ++ p)).bind (copyOf p)

section CopyOf

variable {p : Location}

/-- Below a directory left out, nothing is copied. -/
theorem copyOf_of_not_kept (h : ¬ Kept p.dropLast) (e : Entry) : copyOf p e = none := by
  have hp : ¬ Kept p := fun hk => h (hk.of_prefix (List.dropLast_prefix p))
  cases e <;> simp [copyOf, h, hp]

/-- A copy is a directory or a regular file. -/
theorem copyOf_eq_some {e e' : Entry} (h : copyOf p e = some e') : e' = .dir ∨ ∃ d x, e' = .file d x := by
  cases e <;> simp only [copyOf] at h <;> (try split at h) <;> cases h
  · exact .inr ⟨_, _, rfl⟩
  · exact .inr ⟨_, _, rfl⟩
  · exact .inl rfl

theorem copyOf_eq_dir_iff {e : Entry} : copyOf p e = some .dir ↔ Kept p ∧ e = .dir := by
  cases e <;> simp [copyOf]

theorem copyOf_regular_iff {e : Entry} :
    (∃ e', copyOf p e = some e' ∧ e'.isRegular) ↔ Kept p.dropLast ∧ e.isRegular := by
  by_cases hk : Kept p.dropLast <;> cases e <;> simp [copyOf, hk, Entry.isRegular]

/-- A copied regular file holds the source's bytes. -/
theorem copyOf_bytes {e e' : Entry} (h : copyOf p e = some e') (he : e.isRegular) :
    e'.bytes = e.bytes := by
  cases e <;> simp only [copyOf] at h <;> (try split at h) <;> simp_all [Entry.isRegular, Entry.bytes]
  all_goals (subst h; rfl)

end CopyOf

section SourceCopy

variable {t : FileTree} {S : Location}

theorem sourceCopy_congr {t' : FileTree} (h : ∀ q, t.get? (S ++ q) = t'.get? (S ++ q)) (q : Location) :
    sourceCopy t S q = sourceCopy t' S q := by
  rw [sourceCopy, sourceCopy, h]

theorem sourceCopy_of_get? {q : Location} {e : Entry} (h : t.get? (S ++ q) = some e) :
    sourceCopy t S q = copyOf q e := by
  simp [sourceCopy, h]

theorem sourceCopy_of_none {q : Location} (h : t.get? (S ++ q) = none) : sourceCopy t S q = none := by
  simp [sourceCopy, h]

/-- The names of a copied place are the source's own, none of them `.` or `..`. -/
theorem sourceCopy_not_dotName (hw : t.WellFormed) {q : Location} {e : Entry}
    (h : sourceCopy t S q = some e) {c : String} (hc : c ∈ q) : ¬ DotName c := by
  cases hget : t.get? (S ++ q) with
  | none =>
    rw [sourceCopy_of_none hget] at h
    cases h
  | some e₀ => exact hw.not_dotName_of_mem hget hc

/-- A copied place is a directory or a regular file. -/
theorem sourceCopy_eq_some {q : Location} {e : Entry} (h : sourceCopy t S q = some e) :
    e = .dir ∨ ∃ d x, e = .file d x := by
  cases hget : t.get? (S ++ q) with
  | none =>
    rw [sourceCopy_of_none hget] at h
    cases h
  | some e₀ =>
    rw [sourceCopy_of_get? hget] at h
    exact copyOf_eq_some h

/-- The copy holds a regular file exactly where the source does, in a directory whose names are
all kept, whatever the file's own name. -/
theorem sourceCopy_regular_iff {q : Location} :
    (∃ e, sourceCopy t S q = some e ∧ e.isRegular) ↔
      Kept q.dropLast ∧ ∃ e, t.get? (S ++ q) = some e ∧ e.isRegular := by
  cases h : t.get? (S ++ q) with
  | none => simp [sourceCopy_of_none h]
  | some e =>
    rw [sourceCopy_of_get? h, copyOf_regular_iff]
    simp

/-- Nothing at or below a directory the copy leaves out is copied. -/
theorem sourceCopy_skipped {p : Location} {c : String} (hc : skippedSourceDirs.contains c = true)
    (hd : t.get? (S ++ (p ++ [c])) = some .dir) (r : Location) :
    sourceCopy t S (p ++ [c] ++ r) = none := by
  have hnot : ¬ Kept (p ++ [c]) := by
    rw [kept_append, kept_singleton, hc]
    simp
  rcases List.eq_nil_or_concat r with rfl | ⟨r', x, rfl⟩
  · -- the directory itself
    rw [List.append_nil, sourceCopy_of_get? hd]
    simp [copyOf, hnot]
  · -- below it, the names up to the last one pass through the directory left out
    have hdrop : ¬ Kept (p ++ [c] ++ r'.concat x).dropLast := by
      rw [List.concat_eq_append, ← List.append_assoc, List.dropLast_concat, kept_append]
      exact fun hk => hnot hk.1
    cases hget : t.get? (S ++ (p ++ [c] ++ r'.concat x)) with
    | none => exact sourceCopy_of_none hget
    | some e => rw [sourceCopy_of_get? hget, copyOf_of_not_kept hdrop]

/-- Nothing below a place of the source that is not a directory is copied. -/
theorem sourceCopy_below_entry (hw : t.WellFormed) {q : Location} {e : Entry}
    (h : t.get? (S ++ q) = some e) (he : e ≠ .dir) {r : Location} (hr : r ≠ []) :
    sourceCopy t S (q ++ r) = none := by
  apply sourceCopy_of_none
  cases h' : t.get? (S ++ (q ++ r)) with
  | none => rfl
  | some e' =>
    have heq := hw.eq_of_not_dir h he h' ⟨r, List.append_assoc S q r⟩
    have hnil : r = [] := by simpa using heq
    exact absurd hnil hr

/-- Nothing below an empty place of the source is copied. -/
theorem sourceCopy_below_none (hw : t.WellFormed) {q : Location} (h : t.get? (S ++ q) = none)
    (r : Location) : sourceCopy t S (q ++ r) = none := by
  apply sourceCopy_of_none
  cases h' : t.get? (S ++ (q ++ r)) with
  | none => rfl
  | some e' =>
    by_cases hr : r = []
    · subst hr
      simp_all
    · -- a place above an entry is a directory
      have habove := hw.get?_above h' ⟨r, List.append_assoc S q r⟩ fun heq => hr (by simpa using heq)
      rw [h] at habove
      cases habove

end SourceCopy

theorem sourceCopy_eq_dir_iff {t : FileTree} {S q : Location} :
    sourceCopy t S q = some .dir ↔ Kept q ∧ t.get? (S ++ q) = some .dir := by
  cases h : t.get? (S ++ q) with
  | none => simp [sourceCopy_of_none h]
  | some e =>
    rw [sourceCopy_of_get? h, copyOf_eq_dir_iff]
    simp

/-- Two names that each follow `p` at the start of one place are the same. -/
theorem name_eq_of_prefix {p q : Location} {a b : String} (ha : p ++ [a] <+: q) (hb : p ++ [b] <+: q) :
    a = b := by
  have heq := (List.prefix_of_prefix_length_le ha hb (by simp)).eq_of_length (by simp)
  simpa using heq

/-! ### The copy under way -/

/-- `t` is the tree `t₁` while the source `S` is copied into the directory `D`, with the
relative paths in `done` finished: there the destination holds their copy, every other place
below `D` is empty, and nothing outside `D` has changed. -/
structure CopyingInto (t₁ : FileTree) (S D : Location) (done : Location → Prop) (t : FileTree) :
    Prop where
  /-- The tree stays well formed. -/
  wf : t.WellFormed
  /-- Outside the destination the tree is as it was. -/
  outside : t.outside D = t₁.outside D
  /-- A finished place holds its copy. -/
  copied : ∀ q, done q → t.get? (D ++ q) = sourceCopy t₁ S q
  /-- A place not finished is empty. -/
  pending : ∀ q, ¬ done q → t.get? (D ++ q) = none

section Copying

variable {t₁ t : FileTree} {S D : Location} {done : Location → Prop}

theorem CopyingInto.of_iff {done' : Location → Prop} (h : CopyingInto t₁ S D done t)
    (hiff : ∀ q, done q ↔ done' q) : CopyingInto t₁ S D done' t where
  wf := h.wf
  outside := h.outside
  copied q hq := h.copied q ((hiff q).2 hq)
  pending q hq := h.pending q fun hd => hq ((hiff q).1 hd)

/-- Places whose copy is empty are finished as they are. -/
theorem CopyingInto.extend (h : CopyingInto t₁ S D done t) {P : Location → Prop}
    (hP : ∀ q, P q → ¬ done q → sourceCopy t₁ S q = none) :
    CopyingInto t₁ S D (fun q => done q ∨ P q) t where
  wf := h.wf
  outside := h.outside
  copied q hq := by
    by_cases hd : done q
    · exact h.copied q hd
    · rw [h.pending q hd, hP q (hq.resolve_left hd) hd]
  pending q hq := h.pending q fun hd => hq (.inl hd)

/-- Putting the copy of a place not yet finished, in a directory, finishes it. -/
theorem CopyingInto.put (h : CopyingInto t₁ S D done t) (hw₁ : t₁.WellFormed) {q₀ : Location}
    {e : Entry} (hq : q₀ ≠ []) (hnew : ¬ done q₀) (hup : t.get? (D ++ q₀.dropLast) = some .dir)
    (he : sourceCopy t₁ S q₀ = some e) :
    CopyingInto t₁ S D (fun q => done q ∨ q = q₀) (t.put (D ++ q₀) e) where
  wf := h.wf.put (by simp [hq]) (by rwa [List.dropLast_append_of_ne_nil hq]) (fun hdir => by
      rw [h.pending q₀ hnew] at hdir
      cases hdir) fun c hc => by
    rw [List.getLast?_append_of_ne_nil D hq] at hc
    exact sourceCopy_not_dotName hw₁ he (List.mem_of_getLast? hc)
  outside := by rw [outside_put (List.prefix_append D q₀), h.outside]
  copied q hq' := by
    by_cases hq₀ : q = q₀
    · subst hq₀
      rw [get?_put _ _ _ (by simp [hq]), he]
    · rw [get?_put_ne _ _ (by simpa using hq₀), h.copied q (hq'.resolve_right hq₀)]
  pending q hq' := by
    have hq₀ : q ≠ q₀ := fun heq => hq' (.inr heq)
    rw [get?_put_ne _ _ (by simpa using hq₀), h.pending q fun hd => hq' (.inl hd)]

/-- A place finished on its own, and everything below it, is finished with everything below. -/
theorem CopyingInto.absorb {p : Location}
    (h : CopyingInto t₁ S D (fun q => (done q ∨ q = p) ∨ p <+: q) t) :
    CopyingInto t₁ S D (fun q => done q ∨ p <+: q) t :=
  h.of_iff fun q => by
    constructor
    · rintro ((hd | rfl) | hq)
      exacts [.inl hd, .inr (List.prefix_refl _), .inr hq]
    · rintro (hd | hq)
      exacts [.inl (.inl hd), .inr hq]

/-- The source reads the same while it is copied, when nothing at or below it is at or below
the destination. -/
theorem CopyingInto.get?_source (h : CopyingInto t₁ S D done t) (hS : ∀ l, S <+: l → ¬ D <+: l)
    (q : Location) : t.get? (S ++ q) = t₁.get? (S ++ q) :=
  get?_eq_of_outside h.outside (hS _ (List.prefix_append S q))

theorem CopyingInto.dirsAlong_source (h : CopyingInto t₁ S D done t) (hS : ∀ l, S <+: l → ¬ D <+: l)
    {p : Location} (hd : t₁.DirsAlong (S ++ p)) : t.DirsAlong (S ++ p) :=
  hd.of_outside h.outside.symm (hS _ (List.prefix_append S p))

theorem CopyingInto.list_source (h : CopyingInto t₁ S D done t) (hS : ∀ l, S <+: l → ¬ D <+: l)
    {p : Location} (hd : t₁.DirsAlong (S ++ p)) : t.list (S ++ p) = t₁.list (S ++ p) :=
  list_eq_of_outside h.outside.symm hd fun l hl => hS l ((List.prefix_append S p).trans hl)

/-- A finished directory of the copy is reached through directories. -/
theorem CopyingInto.dirsAlong_dest (h : CopyingInto t₁ S D done t) {p : Location} (hp : done p)
    (hpk : Kept p) (hpd : t₁.get? (S ++ p) = some .dir) : t.DirsAlong (D ++ p) :=
  h.wf.dirsAlong (by rw [h.copied p hp, sourceCopy_eq_dir_iff.2 ⟨hpk, hpd⟩])

/-- Copying a place of the source that is not a directory finishes it and everything below it. -/
theorem CopyingInto.putLeaf (h : CopyingInto t₁ S D done t) (hw₁ : t₁.WellFormed) {q₀ : Location}
    {e₀ e : Entry} (hq : q₀ ≠ []) (hnew : ∀ q, q₀ <+: q → ¬ done q)
    (hup : t.get? (D ++ q₀.dropLast) = some .dir) (hsrc : t₁.get? (S ++ q₀) = some e₀)
    (he₀ : e₀ ≠ .dir) (he : sourceCopy t₁ S q₀ = some e) :
    CopyingInto t₁ S D (fun q => done q ∨ q₀ <+: q) (t.put (D ++ q₀) e) := by
  have hput := h.put hw₁ hq (hnew q₀ (List.prefix_refl q₀)) hup he
  refine (hput.extend (P := fun q => q₀ <+: q) fun q hq' hnot => ?_).absorb
  -- the place itself is finished, and below a file nothing is copied
  obtain ⟨r, rfl⟩ := hq'
  have hr : r ≠ [] := by
    rintro rfl
    exact hnot (.inr (List.append_nil q₀))
  exact sourceCopy_below_entry hw₁ hsrc he₀ hr

/-- Leaving a place of the source whose copy is empty, and that is not a directory, finishes it
and everything below it. -/
theorem CopyingInto.skipLeaf (h : CopyingInto t₁ S D done t) (hw₁ : t₁.WellFormed) {q₀ : Location}
    {e₀ : Entry} (hsrc : t₁.get? (S ++ q₀) = some e₀) (he₀ : e₀ ≠ .dir)
    (hnone : sourceCopy t₁ S q₀ = none) :
    CopyingInto t₁ S D (fun q => done q ∨ q₀ <+: q) t :=
  h.extend fun q hq' _ => by
    obtain ⟨r, rfl⟩ := hq'
    by_cases hr : r = []
    · subst hr
      simpa using hnone
    · exact sourceCopy_below_entry hw₁ hsrc he₀ hr

end Copying

/-! ### Each entry's turn -/

/-- Copying a kept directory `p` of the source with `n` levels works: with the copy under way,
the place above `p` finished and nothing at or below `p` finished, and the source reaching less
than `n` levels below `p`, the copy finishes `p` and everything below it. -/
def CopiesWithin (t₁ : FileTree) (S D : Location) (n : Nat) : Prop :=
  ∀ p t done, p ≠ [] → Kept p → t₁.get? (S ++ p) = some .dir →
    (∀ r e, t₁.get? (S ++ p ++ r) = some e → r.length < n) →
    CopyingInto t₁ S D done t → done p.dropLast → (∀ q, p <+: q → ¬ done q) →
    ∃ t', (copySources (S ++ p) (D ++ p) n).run t = .ok () t' ∧
      CopyingInto t₁ S D (fun q => done q ∨ p <+: q) t'

section Entries

variable {t₁ t : FileTree} {S D : Location} {done : Location → Prop}
  (hS : ∀ l, S <+: l → ¬ D <+: l) (hw₁ : t₁.WellFormed)
include hS hw₁

/-- One entry's turn in the copy of the kept directory `p`, finished already, finishes the
entry and everything below it. -/
theorem copyEntry_run {n : Nat} (hn : CopiesWithin t₁ S D n) (h : CopyingInto t₁ S D done t)
    {p : Location} (hpk : Kept p) (hp : done p) (hpd : t₁.get? (S ++ p) = some .dir)
    {name : String} {e : Entry} (hc : t₁.get? (S ++ (p ++ [name])) = some e)
    (hbound : ∀ r e', t₁.get? (S ++ (p ++ [name]) ++ r) = some e' → r.length < n)
    (hnew : ∀ q, p ++ [name] <+: q → ¬ done q) :
    ∃ t', (copyEntry (S ++ p) (D ++ p) n (name, e)).run t = .ok () t' ∧
      CopyingInto t₁ S D (fun q => done q ∨ p ++ [name] <+: q) t' := by
  have hdest : t.DirsAlong (D ++ p) := h.dirsAlong_dest hp hpk hpd
  have hfree : t.get? (D ++ p ++ [name]) = none := by
    rw [List.append_assoc]
    exact h.pending _ (hnew _ (List.prefix_refl _))
  have hup : t.get? (D ++ (p ++ [name]).dropLast) = some .dir := by
    rw [List.dropLast_concat]
    exact hdest.get?_self
  have hname : ¬ DotName name := hw₁.not_dotName_of_mem hc (by simp)
  cases e with
  | dir =>
    by_cases hskip : skippedSourceDirs.contains name
    · -- a directory left out: nothing at or below it is copied
      refine ⟨t, by simp only [copyEntry, hskip, if_true]; rfl, h.extend fun q hq _ => ?_⟩
      obtain ⟨r, rfl⟩ := hq
      exact sourceCopy_skipped hskip hc r
    · -- a kept directory is copied with one level less
      have hkept : Kept (p ++ [name]) := kept_append.2 ⟨hpk, kept_singleton.2 (by simpa using hskip)⟩
      obtain ⟨t', hrun, h'⟩ := hn (p ++ [name]) t done (by simp) hkept hc hbound h
        (by rwa [List.dropLast_concat]) hnew
      refine ⟨t', ?_, h'⟩
      simp only [copyEntry, hskip, Bool.false_eq_true, if_false]
      rw [List.append_assoc, List.append_assoc]
      exact hrun
  | file d x =>
    -- the bytes are written, then the file may be run when the source's may
    have hcopy : sourceCopy t₁ S (p ++ [name]) = some (.file d x) := by
      rw [sourceCopy_of_get? hc]
      simp [copyOf, hpk]
    refine ⟨t.put (D ++ p ++ [name]) (.file d x), ?_, ?_⟩
    · change (FileOps.change (·.write (D ++ p ++ [name]) d false) >>= fun _ =>
        if x then modify (·.setExecutable (D ++ p ++ [name])) else pure ()).run t = _
      rw [run_bind_ok (FileOps.change_run_ok (write_new hdest hfree hname d false))]
      cases x
      · rfl
      · rw [if_pos rfl, EStateM.run_modify, setExecutable_put_file hdest]
    · rw [List.append_assoc]
      exact h.putLeaf hw₁ (by simp) hnew hup hc (by simp) hcopy
  | program tool =>
    -- a program reads as empty, and its copy may be run
    have hcopy : sourceCopy t₁ S (p ++ [name]) = some (.file [] true) := by
      rw [sourceCopy_of_get? hc]
      simp [copyOf, hpk]
    have hread : t.read (S ++ p ++ [name]) = .ok [] := by
      have hsrc : t.get? (S ++ p ++ [name]) = some (.program tool) := by
        rw [List.append_assoc, h.get?_source hS, hc]
      exact read_regular (h.dirsAlong_source hS (hw₁.dirsAlong hpd)) hsrc rfl
    refine ⟨t.put (D ++ p ++ [name]) (.file [] true), ?_, ?_⟩
    · change (FileOps.query (·.read (S ++ p ++ [name])) >>= fun data =>
        FileOps.change (·.write (D ++ p ++ [name]) data false) >>= fun _ =>
          modify (·.setExecutable (D ++ p ++ [name]))).run t = _
      rw [run_bind_ok (FileOps.query_run_ok hread),
        run_bind_ok (FileOps.change_run_ok (write_new hdest hfree hname [] false)), EStateM.run_modify,
        setExecutable_put_file hdest]
    · rw [List.append_assoc]
      exact h.putLeaf hw₁ (by simp) hnew hup hc (by simp) hcopy
  | link target =>
    refine ⟨t, rfl, h.skipLeaf hw₁ hc (by simp) ?_⟩
    rw [sourceCopy_of_get? hc]
    rfl
  | fifo =>
    refine ⟨t, rfl, h.skipLeaf hw₁ hc (by simp) ?_⟩
    rw [sourceCopy_of_get? hc]
    rfl

/-- Going through the entries of the kept directory `p`, finished already, finishes each entry
and everything below it. -/
theorem forM_copyEntry {n : Nat} (hn : CopiesWithin t₁ S D n) {p : Location} (hpk : Kept p)
    (hpd : t₁.get? (S ++ p) = some .dir)
    (hbound : ∀ r e, t₁.get? (S ++ p ++ r) = some e → r.length < n + 1) :
    ∀ cs : List (String × Entry), (∀ c ∈ cs, t₁.get? (S ++ (p ++ [c.1])) = some c.2) →
      (cs.map (·.1)).Nodup → ∀ done t, CopyingInto t₁ S D done t → done p →
      (∀ q, (∃ c ∈ cs, p ++ [c.1] <+: q) → ¬ done q) →
      ∃ t', (cs.forM (copyEntry (S ++ p) (D ++ p) n)).run t = .ok () t' ∧
        CopyingInto t₁ S D (fun q => done q ∨ ∃ c ∈ cs, p ++ [c.1] <+: q) t' := by
  intro cs
  induction cs with
  | nil =>
    intro _ _ done t h _ _
    exact ⟨t, rfl, h.of_iff fun q => by simp⟩
  | cons c cs ih =>
    intro hcs hnd done t h hp hnew
    obtain ⟨name, e⟩ := c
    rw [List.map_cons, List.nodup_cons] at hnd
    -- the entry's own turn, then the rest with it finished
    have hbound' : ∀ r e', t₁.get? (S ++ (p ++ [name]) ++ r) = some e' → r.length < n :=
      fun r e' he' => by
        have := hbound ([name] ++ r) e' (by simpa using he')
        simp at this
        omega
    obtain ⟨t₂, hrun₂, h₂⟩ := copyEntry_run hS hw₁ hn h hpk hp hpd (hcs _ (.head _)) hbound'
      fun q hq => hnew q ⟨_, .head _, hq⟩
    obtain ⟨t', hrun', h'⟩ := ih (fun c hc => hcs c (.tail _ hc)) hnd.2 _ t₂ h₂ (.inl hp)
      fun q ⟨c, hc, hq⟩ => by
        rintro (hd | hq')
        · exact hnew q ⟨c, .tail _ hc, hq⟩ hd
        · -- two entries of one directory have different names
          have hname := name_eq_of_prefix hq' hq
          exact hnd.1 (hname ▸ List.mem_map_of_mem hc)
    refine ⟨t', by rw [run_forM_cons hrun₂]; exact hrun', h'.of_iff fun q => ?_⟩
    simp only [List.mem_cons, exists_eq_or_imp, or_assoc]

end Entries

/-! ### Whole directories -/

section Directories

variable {t₁ t : FileTree} {S D : Location} {done : Location → Prop}

/-- Once every entry of the directory `p` is finished, so is everything below `p`: below a name
that is not there the source has nothing. -/
theorem CopyingInto.close (hw₁ : t₁.WellFormed) {p : Location} {cs : List (String × Entry)}
    (h : CopyingInto t₁ S D (fun q => done q ∨ ∃ c ∈ cs, p ++ [c.1] <+: q) t) (hp : done p)
    (hcs : ∀ name e, (name, e) ∈ cs ↔ (S ++ p ++ [name], e) ∈ t₁.entries) :
    CopyingInto t₁ S D (fun q => done q ∨ p <+: q) t := by
  refine (h.extend (P := fun q => p <+: q) fun q hq hnot => ?_).of_iff fun q => ?_
  · obtain ⟨r, rfl⟩ := hq
    obtain ⟨x, r, rfl⟩ : ∃ x r', r = x :: r' := by
      cases r with
      | nil => exact absurd (.inl (by simpa using hp)) hnot
      | cons x r => exact ⟨x, r, rfl⟩
    -- the name below `p` is no entry of the directory, so the source has nothing there
    have hnone : t₁.get? (S ++ (p ++ [x])) = none := by
      cases hget : t₁.get? (S ++ (p ++ [x])) with
      | none => rfl
      | some e =>
        have hmem := (hcs x e).2 (by rw [List.append_assoc]; exact mem_of_get? hget (by simp))
        exact absurd (.inr ⟨_, hmem, r, by simp⟩) hnot
    have := sourceCopy_below_none (r := r) hw₁ hnone
    simpa using this
  · constructor
    · rintro ((hd | ⟨c, _, hc⟩) | hq)
      exacts [.inl hd, .inr ((List.prefix_append p _).trans hc), .inr hq]
    · rintro (hd | hq)
      exacts [.inl (.inl hd), .inr hq]

variable (hS : ∀ l, S <+: l → ¬ D <+: l) (hw₁ : t₁.WellFormed)
include hS hw₁

/-- With one more level, the copy of a kept directory makes it, lists the source's directory and
goes through its entries. -/
theorem copiesWithin_succ {n : Nat} (hn : CopiesWithin t₁ S D n) : CopiesWithin t₁ S D (n + 1) := by
  intro p t done hp hpk hpd hbound h hup hnew
  obtain ⟨p', x, rfl⟩ : ∃ p' x, p = p' ++ [x] := ⟨_, _, (List.dropLast_append_getLast hp).symm⟩
  rw [List.dropLast_concat] at hup
  -- the directory is made below its finished parent
  have hparent : t.DirsAlong (D ++ p') := by
    have hp'd : t₁.get? (S ++ p') = some .dir :=
      hw₁.get?_above hpd (by simp) (by simp)
    exact h.dirsAlong_dest hup (hpk.of_prefix (List.prefix_append _ _)) hp'd
  have hfree : t.get? (D ++ p' ++ [x]) = none := by
    rw [List.append_assoc]
    exact h.pending _ (hnew _ (List.prefix_refl _))
  have hmk : t.mkdirAll (D ++ (p' ++ [x])) = .ok (t.put (D ++ (p' ++ [x])) .dir) := by
    rw [← List.append_assoc]
    exact mkdirUp_of_mkdir (by simp) _ (mkdir_new hparent hfree (hw₁.not_dotName_of_mem hpd (by simp)))
  have h₂ : CopyingInto t₁ S D (fun q => done q ∨ q = p' ++ [x]) (t.put (D ++ (p' ++ [x])) .dir) :=
    h.put hw₁ (by simp) (hnew _ (List.prefix_refl _))
    (by rw [List.dropLast_concat]; exact hparent.get?_self) (sourceCopy_eq_dir_iff.2 ⟨hpk, hpd⟩)
  -- the source's directory lists its entries, each once
  obtain ⟨cs, hl, hcs, hnd⟩ := mem_list hw₁ (hw₁.dirsAlong hpd)
  have hl₂ := (h₂.list_source hS (hw₁.dirsAlong hpd)).trans hl
  obtain ⟨t', hrun, h'⟩ := forM_copyEntry hS hw₁ hn hpk hpd hbound cs
    (fun c hc => by
      rw [← List.append_assoc]
      exact hw₁.get?_of_mem ((hcs c.1 c.2).1 hc))
    hnd _ _ h₂ (.inr rfl) fun q ⟨c, _, hq⟩ => by
      have hlong : (p' ++ [x]).length < q.length := by
        have := hq.length_le
        simp at this ⊢
        omega
      rintro (hd | rfl)
      · exact hnew q ((List.prefix_append _ _).trans hq) hd
      · exact absurd hlong (Nat.lt_irrefl _)
  exact ⟨t', by rw [copySources_run_of_list hmk hl₂]; exact hrun, (h'.close hw₁ (.inr rfl) hcs).absorb⟩

/-- Every number of levels copies the kept directories the source reaches within it. -/
theorem copiesWithin (n : Nat) : CopiesWithin t₁ S D n := by
  induction n with
  | zero =>
    -- no directory lies within no levels: it is itself one level deep
    intro p t done _ _ hpd hbound
    exact absurd (hbound [] .dir (by simpa using hpd)) (Nat.lt_irrefl 0)
  | succ n ih => exact copiesWithin_succ hS hw₁ ih

end Directories

/-! ### The whole copy -/

section Whole

variable {t t₁ : FileTree} {S D : Location}

/-- Making the way down to the destination leaves a source that is not on it as it was. -/
theorem Host.FileTree.DirsMade.get?_apart (hmade : DirsMade t t₁ [] D) (hapart : ¬ S <+: D) (q : Location) :
    t₁.get? (S ++ q) = t.get? (S ++ q) :=
  hmade.same _ fun k _ _ heq => hapart <|
    (show S <+: D.take k from ⟨q, by simpa using heq⟩).trans (List.take_prefix k D)

/-- A source reached through directories and a fresh destination not inside it lie apart:
nothing is at or below both. -/
theorem apart_of_fresh (hsrc : t.DirsAlong S) (hfresh : ∀ q, t.get? (D ++ q) = none)
    (hapart : ¬ S <+: D) : ∀ l, S <+: l → ¬ D <+: l := by
  intro l hS hD
  rcases Nat.le_total S.length D.length with hle | hle
  · exact hapart (List.prefix_of_prefix_length_le hS hD hle)
  · -- the source would be inside the destination, where nothing is
    obtain ⟨q, rfl⟩ := List.prefix_of_prefix_length_le hD hS hle
    have hdir := hsrc.get?_self
    rw [hfresh q] at hdir
    cases hdir

/-- Listing a place that is missing, below directories, fails. -/
theorem list_of_missing {dir : Location} {name : String} (hd : t.DirsAlong dir)
    (h : t.get? (dir ++ [name]) = none) (hname : ¬ DotName name) :
    t.list (dir ++ [name]) = .error .noEntry := by
  simp [list, resolve_of_dirs t true hd (.inl h) hname, h, bind, Except.bind]

/-- Listing a place below directories that holds something other than a directory or a link
fails. -/
theorem list_of_not_dir {dir : Location} {name : String} {e : Entry} (hd : t.DirsAlong dir)
    (h : t.get? (dir ++ [name]) = some e) (hdir : e ≠ .dir) (hlink : ∀ a, e ≠ .link a) :
    t.list (dir ++ [name]) = .error .notDirectory := by
  have hres := resolve_of_entry t true hd h hlink
  cases e with
  | dir => exact absurd rfl hdir
  | link a => exact absurd rfl (hlink a)
  | _ => simp [list, hres, h, bind, Except.bind]

/-- Right after the destination is made, it is its own copy, and nothing is below it. -/
theorem CopyingInto.start (hmade : DirsMade t t₁ [] D) (hfresh : ∀ q, t.get? (D ++ q) = none)
    (hS₁ : t₁.get? (S ++ []) = some .dir) : CopyingInto t₁ S D (· = []) t₁ where
  wf := hmade.wf
  outside := rfl
  copied q hq := by
    subst hq
    rw [sourceCopy_eq_dir_iff.2 ⟨kept_nil, hS₁⟩]
    simpa using hmade.dirs.get?_self
  pending q hq := by
    -- a place strictly below the destination is off the way down to it
    rw [hmade.same _ fun k _ _ heq => hq (List.eq_nil_of_length_eq_zero (by
      have hlen := congrArg List.length heq
      simp at hlen
      omega))]
    exact hfresh q

/-- The copy with as many levels as the tree has entries, plus one, makes the destination with
the directories above it, then finishes the whole copy of the source below it. -/
theorem copySources_copies (hw : t.WellFormed) (hD : ∀ c ∈ D, ¬ DotName c)
    (hway : ∀ l, l <+: D → t.get? l = none ∨ t.get? l = some .dir)
    (hfresh : ∀ q, t.get? (D ++ q) = none) (hapart : ¬ S <+: D) (hsrc : t.DirsAlong S) :
    ∃ t₁ t', DirsMade t t₁ [] D ∧ (copySources S D (t.entries.length + 1)).run t = .ok () t' ∧
      CopyingInto t₁ S D (fun _ => True) t' := by
  have hS := apart_of_fresh hsrc hfresh hapart
  obtain ⟨t₁, hmk, hmade⟩ := mkdirAll_along hw hD hway
  have hw₁ := hmade.wf
  have hsrc₁ : t₁.DirsAlong S := fun k hk hkl => hmade.kept _ _ (hsrc k hk hkl)
  have hS₁ : t₁.get? (S ++ []) = some .dir := by simpa using hsrc₁.get?_self
  have hstart := CopyingInto.start hmade hfresh hS₁
  obtain ⟨cs, hl, hcs, hnd⟩ := mem_list hw₁ hsrc₁
  have hcs' : ∀ name e, (name, e) ∈ cs ↔ (S ++ [] ++ [name], e) ∈ t₁.entries := by
    simpa using hcs
  -- the source reaches no deeper than the tree has entries
  have hbound : ∀ r e, t₁.get? (S ++ [] ++ r) = some e → r.length < t.entries.length + 1 :=
    fun r e he => by
      rw [List.append_nil, hmade.get?_apart hapart] at he
      have hlen := hw.length_le he
      simp at hlen
      omega
  obtain ⟨t', hrun, h'⟩ := forM_copyEntry hS hw₁ (copiesWithin hS hw₁ _) kept_nil
    hS₁ hbound cs (fun c hc => by rw [List.nil_append]; exact hw₁.get?_of_mem ((hcs c.1 c.2).1 hc))
    hnd _ _ hstart rfl fun q ⟨c, _, hq⟩ hq₀ => by
      subst hq₀
      simp at hq
  refine ⟨t₁, t', hmade, ?_, (h'.close hw₁ rfl hcs').of_iff fun q => by simp⟩
  rw [copySources_run_of_list hmk hl]
  simpa only [List.append_nil] using hrun

/-- A copy that fails, from a source below directories that is no link, has failed at the
listing of the source, which is no directory: the way down to the destination is made, and
nothing is below the destination. No copy fails part-way. -/
theorem copySources_error (hw : t.WellFormed) (hD : ∀ c ∈ D, ¬ DotName c)
    (hway : ∀ l, l <+: D → t.get? l = none ∨ t.get? l = some .dir)
    (hfresh : ∀ q, t.get? (D ++ q) = none) (hapart : ¬ S <+: D) (hup : t.DirsAlong S.dropLast)
    (hlink : ∀ a, t.get? S ≠ some (.link a)) (hlast : ∀ c ∈ S.getLast?, ¬ DotName c)
    {e : Errno} {t₁ : FileTree} (h : (copySources S D (t.entries.length + 1)).run t = .error e t₁) :
    t.get? S ≠ some .dir ∧ DirsMade t t₁ [] D ∧ ∀ q, q ≠ [] → t₁.get? (D ++ q) = none := by
  have hnotdir : t.get? S ≠ some .dir := by
    -- a source directory is copied whole, with no error
    intro hdir
    obtain ⟨_, _, -, hok, -⟩ := copySources_copies hw hD hway hfresh hapart (hw.dirsAlong hdir)
    rw [hok] at h
    cases h
  obtain ⟨S', x, rfl⟩ : ∃ S' x, S = S' ++ [x] := by
    rcases List.eq_nil_or_concat S with rfl | ⟨S', x, rfl⟩
    · exact absurd rfl hnotdir
    · exact ⟨S', x, List.concat_eq_append⟩
  rw [List.dropLast_concat] at hup
  obtain ⟨t₂, hmk, hmade⟩ := mkdirAll_along hw hD hway
  have hup₂ : t₂.DirsAlong S' := fun k hk hkl => hmade.kept _ _ (hup k hk hkl)
  have hS₂ : t₂.get? (S' ++ [x]) = t.get? (S' ++ [x]) := by
    simpa using hmade.get?_apart hapart []
  -- the source is missing, or holds a file or a pipe: its listing fails right after the
  -- destination is made
  obtain ⟨e', hl⟩ : ∃ e', t₂.list (S' ++ [x]) = .error e' := by
    cases hS : t.get? (S' ++ [x]) with
    | none => exact ⟨_, list_of_missing hup₂ (hS₂.trans hS) (hlast x (by simp))⟩
    | some en =>
      exact ⟨_, list_of_not_dir hup₂ (hS₂.trans hS) (fun h' => hnotdir (h' ▸ hS))
        fun a h' => hlink a (h' ▸ hS)⟩
  rw [copySources_run_of_list_error hmk hl] at h
  obtain ⟨-, rfl⟩ : e' = e ∧ t₂ = t₁ := by
    cases h
    exact ⟨rfl, rfl⟩
  refine ⟨hnotdir, hmade, fun q hq => ?_⟩
  -- a place strictly below the destination is off the way down to it
  rw [hmade.same _ fun k _ hk heq => by
    have := congrArg List.length heq
    simp at this
    have : q.length ≠ 0 := by simpa using hq
    omega]
  exact hfresh q

end Whole

/-- Copying the sources into a fresh workspace. From a well-formed tree, a source directory
reached through directories, and a fresh destination not inside it, named by names none of
which is `.` or `..`, whose way down holds only directories or nothing, the copy with as many levels as the tree has entries, plus one,
succeeds. Below the destination it leaves exactly the copy of the source: the directories none
of whose names is `target` or `.git`, and the regular files in them, byte for byte, whatever
their own names; nothing else, so no link and no pipe. The way down to the destination is made
of directories, and every other place is as it was. A source that is missing, below
directories, and whose own name is not `.` or `..`, stops the copy with the listing's error,
and the destination made before stays. No copy fails part-way: from a source below directories
that is no link, a copy that fails has failed at that first listing, the source being no
directory, and leaves the way down to the destination made and nothing below it. -/
theorem copySources_spec (t : FileTree) (S D : Location) (hw : t.WellFormed)
    (hD : ∀ c ∈ D, ¬ DotName c) (hway : ∀ l, l <+: D → t.get? l = none ∨ t.get? l = some .dir)
    (hfresh : ∀ q, t.get? (D ++ q) = none) (hapart : ¬ S <+: D) :
    (t.DirsAlong S →
      ∃ t', (copySources S D (t.entries.length + 1)).run t = .ok () t' ∧ t'.WellFormed ∧
        (∀ q, t'.get? (D ++ q) = sourceCopy t S q) ∧
        (∀ q, t'.get? (D ++ q) = some .dir ↔ Kept q ∧ t.get? (S ++ q) = some .dir) ∧
        (∀ q, (∃ e, t'.get? (D ++ q) = some e ∧ e.isRegular) ↔
          Kept q.dropLast ∧ ∃ e, t.get? (S ++ q) = some e ∧ e.isRegular) ∧
        (∀ q e, t.get? (S ++ q) = some e → e.isRegular → Kept q.dropLast →
          t'.read (D ++ q) = t.read (S ++ q)) ∧
        (∀ q e, t'.get? (D ++ q) = some e → e = .dir ∨ ∃ d x, e = .file d x) ∧
        t'.DirsAlong D ∧ (∀ l, ¬ l <+: D → ¬ D <+: l → t'.get? l = t.get? l)) ∧
    (t.DirsAlong S.dropLast → t.get? S = none → (∀ c ∈ S.getLast?, ¬ DotName c) →
      ∃ t₁, (copySources S D (t.entries.length + 1)).run t = .error .noEntry t₁ ∧
        DirsMade t t₁ [] D) ∧
    (t.DirsAlong S.dropLast → (∀ a, t.get? S ≠ some (.link a)) → (∀ c ∈ S.getLast?, ¬ DotName c) →
      ∀ e t₁, (copySources S D (t.entries.length + 1)).run t = .error e t₁ →
        t.get? S ≠ some .dir ∧ DirsMade t t₁ [] D ∧ ∀ q, q ≠ [] → t₁.get? (D ++ q) = none) := by
  refine ⟨fun hsrc => ?_, fun hup hmiss hlast => ?_,
    fun hup hlink hlast _ _ h => copySources_error hw hD hway hfresh hapart hup hlink hlast h⟩
  · obtain ⟨t₁, t', hmade, hrun, h'⟩ := copySources_copies hw hD hway hfresh hapart hsrc
    have hcopy : ∀ q, t'.get? (D ++ q) = sourceCopy t S q := fun q =>
      (h'.copied q trivial).trans (sourceCopy_congr (hmade.get?_apart hapart) q)
    have hD : t'.get? D = some .dir := by
      simpa using (hcopy []).trans (sourceCopy_eq_dir_iff.2 ⟨kept_nil, by simpa using hsrc.get?_self⟩)
    -- a regular file and its copy read as the same bytes
    have hread : ∀ q e, t.get? (S ++ q) = some e → e.isRegular → Kept q.dropLast →
        t'.read (D ++ q) = t.read (S ++ q) := by
      intro q e he hreg hk
      obtain ⟨e', he', hreg'⟩ := copyOf_regular_iff.2 ⟨hk, hreg⟩
      rw [h'.wf.read_eq_bytes ((hcopy q).trans ((sourceCopy_of_get? he).trans he')) hreg',
        hw.read_eq_bytes he hreg, copyOf_bytes he' hreg]
    -- a place neither on the way down to the destination nor below it is as it was
    have hoff : ∀ l, ¬ l <+: D → ¬ D <+: l → t'.get? l = t.get? l := fun l hl hD =>
      (get?_eq_of_outside h'.outside hD).trans
        (hmade.same l fun k _ _ heq => hl (by rw [heq]; exact List.take_prefix k D))
    refine ⟨t', hrun, h'.wf, hcopy, fun q => ?_, fun q => ?_, hread, fun q e he => ?_,
      h'.wf.dirsAlong hD, hoff⟩
    · rw [hcopy, sourceCopy_eq_dir_iff]
    · simp only [hcopy]
      exact sourceCopy_regular_iff
    · exact sourceCopy_eq_some ((hcopy q).symm.trans he)
  · obtain ⟨S', x, rfl⟩ : ∃ S' x, S = S' ++ [x] := by
      rcases List.eq_nil_or_concat S with rfl | ⟨S', x, rfl⟩
      · simp [get?] at hmiss
      · exact ⟨S', x, List.concat_eq_append⟩
    rw [List.dropLast_concat] at hup
    -- the destination is made first; the listing of the missing source then fails
    obtain ⟨t₁, hmk, hmade⟩ := mkdirAll_along hw hD hway
    have hup₁ : t₁.DirsAlong S' := fun k hk hkl => hmade.kept _ _ (hup k hk hkl)
    have hmiss₁ : t₁.get? (S' ++ [x]) = none := by
      simpa using (hmade.get?_apart hapart []).trans (by simpa using hmiss)
    exact ⟨t₁, copySources_run_of_list_error hmk (list_of_missing hup₁ hmiss₁ (hlast x (by simp))), hmade⟩

/-- A project with its sources, its build output in `target`, and a workspace directory. -/
def sampleProject : FileTree := ⟨[
  (["p"], .dir),
  (["p", "pom.xml"], .file [60] false),
  (["p", "src"], .dir),
  (["p", "src", "main"], .dir),
  (["p", "src", "main", "App.java"], .file [99] false),
  (["p", "target"], .dir),
  (["p", "target", "classes"], .dir),
  (["p", "target", "classes", "App.class"], .file [98] false),
  (["ws"], .dir)]⟩

theorem sampleProject_wellFormed : sampleProject.WellFormed where
  nodup := by decide
  parent l e h := by
    simp only [sampleProject, List.mem_cons, Prod.mk.injEq, List.not_mem_nil, or_false] at h
    rcases h with ⟨rfl, rfl⟩ | ⟨rfl, rfl⟩ | ⟨rfl, rfl⟩ | ⟨rfl, rfl⟩ | ⟨rfl, rfl⟩ | ⟨rfl, rfl⟩ |
      ⟨rfl, rfl⟩ | ⟨rfl, rfl⟩ | ⟨rfl, rfl⟩ <;> exact ⟨by simp, rfl⟩
  names l e h := by
    simp only [sampleProject, List.mem_cons, Prod.mk.injEq, List.not_mem_nil, or_false] at h
    rcases h with ⟨rfl, rfl⟩ | ⟨rfl, rfl⟩ | ⟨rfl, rfl⟩ | ⟨rfl, rfl⟩ | ⟨rfl, rfl⟩ | ⟨rfl, rfl⟩ |
      ⟨rfl, rfl⟩ | ⟨rfl, rfl⟩ | ⟨rfl, rfl⟩ <;> simp [DotName]

/-- Copying the sample project into `/ws/app` keeps its sources and leaves out `target`. -/
theorem copySources_sampleProject :
    ∃ t', (copySources ["p"] ["ws", "app"] (sampleProject.entries.length + 1)).run sampleProject =
        .ok () t' ∧
      t'.get? ["ws", "app", "pom.xml"] = some (.file [60] false) ∧
      t'.get? ["ws", "app", "src", "main", "App.java"] = some (.file [99] false) ∧
      t'.get? ["ws", "app", "target"] = none := by
  have hway : ∀ l, l <+: ["ws", "app"] →
      sampleProject.get? l = none ∨ sampleProject.get? l = some .dir := by
    intro l hl
    obtain ⟨k, rfl⟩ : ∃ k, l = ["ws", "app"].take k := ⟨_, List.prefix_iff_eq_take.1 hl⟩
    rcases k with _ | _ | k
    · exact .inr rfl
    · exact .inr rfl
    · exact .inl (by simp [get?, sampleProject])
  have hfresh : ∀ q, sampleProject.get? (["ws", "app"] ++ q) = none := by
    intro q
    simp [get?, sampleProject]
  have hsrc : sampleProject.DirsAlong ["p"] := fun k hk hkl => by
    obtain rfl : k = 1 := by simp at hkl; omega
    rfl
  obtain ⟨t', hrun, -, hcopy, -⟩ := (copySources_spec sampleProject ["p"] ["ws", "app"]
    sampleProject_wellFormed (by decide) hway hfresh (by decide)).1 hsrc
  exact ⟨t', hrun, (hcopy ["pom.xml"]).trans rfl, (hcopy ["src", "main", "App.java"]).trans rfl,
    (hcopy ["target"]).trans rfl⟩

end LaunchBench
