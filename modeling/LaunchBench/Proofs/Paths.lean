import LaunchBench.Host.FileTree
import LaunchBench.HostPath
/-!
Paths on the host.

A path's text is cut at its slashes into parts, and its `.` parts are dropped; a `..` part
is left for the walk, which takes it to the directory above the one it has reached. Joining a
name without a slash to a path puts that name's parts after the path's, so a plain name (not
empty, not `.`, not `..`) goes exactly one name further than the path, and the empty name or
`.` adds none. Walking to a place one name below another meets the same links as walking to
the place above; only the last name is taken as it is.

* **`locate_join_plain`**: joining a plain name goes one level down; the empty path
  stands for the working directory, as `.` does.
* **`locate_join_here`**: joining the empty name or `.` names the same place.
* **`resolve_snoc_nofollow`**: resolving a place one name further down, without
  following a link at that name, resolves the place above and adds the name.
* **`FileTree.write_new`**, **`FileTree.write_file`**: below directories, writing makes a
  file of the bytes or appends them to the file there, and nothing else changes.
-/

namespace LaunchBench

open Host

namespace Text

theorem toList_loop (bs : ByteArray) (i : Nat) (r : List UInt8) :
    ByteArray.toList.loop bs i r = r.reverse ++ bs.data.toList.drop i := by
  fun_induction ByteArray.toList.loop bs i r with
  | case1 i r hi ih =>
    rw [ih, List.reverse_cons, List.append_assoc]
    congr 1
    have : bs.get! i = bs.data.toList[i] := by
      simp [ByteArray.get!, hi]
    rw [this, List.singleton_append]
    exact (List.drop_eq_getElem_cons (by simpa using hi)).symm
  | case2 i r hi =>
    have : bs.data.toList.drop i = [] := List.drop_eq_nil_of_le (by simpa using Nat.le_of_not_lt hi)
    simp [this]

theorem utf8Bytes_append (s t : String) : utf8Bytes (s ++ t) = utf8Bytes s ++ utf8Bytes t := by
  simp [utf8Bytes, String.toByteArray_append, ByteArray.toList, toList_loop, ByteArray.data_append]

end Text

/-- A name that is one directory entry: not empty, without a slash, and neither `.`
nor `..`. -/
def PlainName (c : String) : Prop :=
  c ≠ "" ∧ '/' ∉ c.toList ∧ c ≠ "." ∧ c ≠ ".."

instance : DecidablePred PlainName := fun _ => inferInstanceAs (Decidable (_ ∧ _ ∧ _ ∧ _))

/-- A name the walk takes as a step and not as an entry: `.` or `..`. -/
def DotName (c : String) : Prop := c = "." ∨ c = ".."

instance : DecidablePred DotName := fun _ => inferInstanceAs (Decidable (_ ∨ _))

theorem PlainName.not_dotName {c : String} (h : PlainName c) : ¬ DotName c := by
  rintro (rfl | rfl)
  · exact h.2.2.1 rfl
  · exact h.2.2.2 rfl

theorem ne_of_not_dotName {c : String} (h : ¬ DotName c) : c ≠ "." ∧ c ≠ ".." :=
  ⟨fun he => h (.inl he), fun he => h (.inr he)⟩

/-- A path without a slash is not absolute. -/
theorem not_absolute_of_no_slash {d : String} (h : '/' ∉ d.toList) :
    HostPath.isAbsolute d = false := by
  simp only [HostPath.isAbsolute, String.startsWith_string_eq_false_iff]
  rintro ⟨t, ht⟩
  exact h (by simp [← ht])

theorem PlainName.not_absolute {c : String} (h : PlainName c) : HostPath.isAbsolute c = false :=
  not_absolute_of_no_slash h.2.1

theorem PlainName.components {c : String} (h : PlainName c) : HostPath.components c = [c] := by
  obtain ⟨hne, hslash, -, -⟩ := h
  simp [HostPath.components, List.splitOn_eq_singleton hslash, hne]

/-- A plain name sits in the directory the empty path names. -/
theorem PlainName.parent? {c : String} (h : PlainName c) : HostPath.parent? c = some "" := by
  simp [HostPath.parent?, h.components, h.not_absolute]

theorem HostPath.isAbsolute_root : HostPath.isAbsolute "/" = true := by
  simp [HostPath.isAbsolute]

theorem HostPath.isAbsolute_append {p : HostPath} (h : HostPath.isAbsolute p = true) (q : String) :
    HostPath.isAbsolute (p ++ q) = true := by
  simp only [HostPath.isAbsolute, String.startsWith_string_iff, String.toList_append] at h ⊢
  exact h.trans (List.prefix_append _ _)

/-- Whatever is joined to an absolute path stays absolute. -/
theorem HostPath.isAbsolute_join {base : HostPath} (h : HostPath.isAbsolute base = true)
    (p : HostPath) : HostPath.isAbsolute (HostPath.join base p) = true := by
  unfold HostPath.join
  split
  · assumption
  · split
    · exact HostPath.isAbsolute_append h p
    · exact HostPath.isAbsolute_append (HostPath.isAbsolute_append h "/") p

@[simp] theorem mapError_ok {ε ε' α : Type} (f : ε → ε') (a : α) :
    (Except.ok a : Except ε α).mapError f = .ok a := rfl

@[simp] theorem mapError_error {ε ε' α : Type} (f : ε → ε') (e : ε) :
    (Except.error e : Except ε α).mapError f = .error (f e) := rfl

namespace Host

/-- The text of a place is an absolute path. -/
theorem Location.isAbsolute_render (loc : Location) : HostPath.isAbsolute loc.render = true := by
  unfold Location.render
  cases loc with
  | nil => exact HostPath.isAbsolute_root
  | cons x rest =>
    simp only [List.isEmpty_cons, Bool.false_eq_true, if_false, List.map_cons, String.join_cons]
    exact HostPath.isAbsolute_append (HostPath.isAbsolute_append HostPath.isAbsolute_root x) _

theorem pathParts_append_slash (a b : String) :
    pathParts (a ++ "/" ++ b) = pathParts a ++ pathParts b := by
  simp [pathParts, List.splitOn_append_cons_self]

theorem pathParts_empty : pathParts "" = [] := by
  simp [pathParts]

theorem pathParts_dot : pathParts "." = ["."] := by
  decide

theorem pathParts_of_plain {c : String} (h : PlainName c) : pathParts c = [c] := by
  obtain ⟨hne, hslash, -, -⟩ := h
  simp [pathParts, List.splitOn_eq_singleton hslash, hne]

/-- A path that ends in a slash is some path and a slash. -/
theorem eq_append_slash_of_endsWith {p : String} (h : p.endsWith "/" = true) :
    ∃ q, p = q ++ "/" := by
  have hsuf : ['/'] <:+ p.toList := by
    simpa using (@String.Slice.endsWith_string_iff "/" p.toSlice).1 h
  obtain ⟨l, hl⟩ := hsuf
  exact ⟨String.ofList l, by rw [← String.toList_inj]; simp [← hl]⟩

section Join

variable {p : HostPath} {d : String}

/-- Joining a name without a slash to a path that is not empty puts it after the path, with
one slash between them. -/
theorem join_of_no_slash (hd : '/' ∉ d.toList) (hp : p ≠ "") :
    p.join d = if p.endsWith "/" then p ++ d else p ++ "/" ++ d := by
  have hpe : p.isEmpty = false := by simpa using hp
  simp [HostPath.join, not_absolute_of_no_slash hd, hpe]

theorem pathParts_join (hd : '/' ∉ d.toList) (hp : p ≠ "") :
    pathParts (p.join d) = pathParts p ++ pathParts d := by
  rw [join_of_no_slash hd hp]
  split
  · next hend =>
    -- the path's own trailing slash separates it from the name
    obtain ⟨q, rfl⟩ := eq_append_slash_of_endsWith hend
    rw [pathParts_append_slash, show q ++ "/" = q ++ "/" ++ "" by simp, pathParts_append_slash,
      pathParts_empty, List.append_nil]
  · rw [pathParts_append_slash]

theorem join_ne_empty (hd : '/' ∉ d.toList) (hp : p ≠ "") : p.join d ≠ "" := by
  rw [join_of_no_slash hd hp]
  split <;> simp [hp]

theorem startsWith_join (hd : '/' ∉ d.toList) (hp : p ≠ "") :
    (p.join d).startsWith "/" = p.startsWith "/" := by
  obtain ⟨x, xs, hx⟩ : ∃ x xs, p.toList = x :: xs := by
    cases h : p.toList with
    | nil => exact absurd (String.toList_eq_nil_iff.1 h) hp
    | cons x xs => exact ⟨x, xs, rfl⟩
  rw [join_of_no_slash hd hp]
  apply Bool.eq_iff_iff.2
  split <;> simp [hx]

/-- Reading a joined path: the parts of the name come after the path's, read from the same
start. -/
theorem locate_join (cwd : Location) (hd : '/' ∉ d.toList) (hp : p ≠ "") :
    locate cwd (p.join d) =
      if (pathParts p ++ pathParts d).any (·.utf8ByteSize > 255) then .error .nameTooLong
      else
        .ok ((if p.startsWith "/" then [] else cwd) ++ (pathParts p ++ pathParts d).filter (· != ".")) := by
  have hje : (p.join d).isEmpty = false := by simpa using join_ne_empty hd hp
  simp only [locate, hje, pathParts_join hd hp, startsWith_join hd hp, Bool.false_eq_true,
    if_false]

end Join

/-- The working directory is where `.` leads. -/
theorem locate_dot (cwd : Location) : locate cwd "." = .ok cwd := by
  have hshort : ".".utf8ByteSize ≤ 255 := by decide
  simp [locate, pathParts_dot, hshort]

/-- Joining a plain name goes one level down from the place the path names; the empty
path stands for the working directory, as `.` does. -/
theorem locate_join_plain (cwd : Location) (p : HostPath) {c : String} (hc : PlainName c) :
    locate cwd (p.join c) =
      (locate cwd (if p.isEmpty then "." else p)).bind fun l =>
        if 255 < c.utf8ByteSize then .error .nameTooLong else .ok (l ++ [c]) := by
  have hkept : [c].filter (· != ".") = [c] := by simp [hc.2.2.1]
  have hcs : c.startsWith "/" = false := hc.not_absolute
  by_cases hp : p = ""
  · -- the empty path joined is the name itself, read from the working directory
    subst hp
    have hj : HostPath.join "" c = c := by simp [HostPath.join, hc.not_absolute]
    have hce : c.isEmpty = false := by simpa using hc.1
    rw [hj, if_pos (show ("" : String).isEmpty = true from rfl), locate_dot]
    simp only [locate, hce, pathParts_of_plain hc, hcs, Bool.false_eq_true, if_false,
      List.any_cons, List.any_nil, Bool.or_false, hkept]
    by_cases hlong : 255 < c.utf8ByteSize <;> simp [hlong, Except.bind]
  · have hpe : p.isEmpty = false := by simpa using hp
    rw [locate_join cwd hc.2.1 hp, pathParts_of_plain hc]
    simp only [hpe, Bool.false_eq_true, if_false, locate, List.any_append, List.any_cons,
      List.any_nil, Bool.or_false, List.filter_append, hkept]
    by_cases hlong : (pathParts p).any (fun x => decide (x.utf8ByteSize > 255)) = true
    · simp [hlong, Except.bind]
    · by_cases hc255 : 255 < c.utf8ByteSize <;> simp [hlong, hc255, Except.bind]

/-- A plain name, read from the working directory, is the place one level below it. -/
theorem locate_plain (cwd : Location) {c : String} (hc : PlainName c)
    (hshort : c.utf8ByteSize ≤ 255) : locate cwd c = .ok (cwd ++ [c]) := by
  have hj : HostPath.join "" c = c := by simp [HostPath.join, hc.not_absolute]
  calc locate cwd c = locate cwd (HostPath.join "" c) := by rw [hj]
    _ = .ok (cwd ++ [c]) := by
      rw [locate_join_plain cwd "" hc, if_pos (show ("" : String).isEmpty = true from rfl),
        locate_dot]
      simp only [Except.bind, if_neg (Nat.not_lt.2 hshort)]

/-- Only a path that is not empty names a place. -/
theorem ne_empty_of_locate {cwd : Location} {p : HostPath} {l : Location}
    (h : locate cwd p = .ok l) : p ≠ "" := by
  rintro rfl
  simp [locate] at h

/-- A short plain name joined to a path that names a place names the place one level down. -/
theorem locate_join_of_ok {cwd : Location} {p : HostPath} {l : Location} (hp : locate cwd p = .ok l)
    {c : String} (hc : PlainName c) (hshort : c.utf8ByteSize ≤ 255) :
    locate cwd (p.join c) = .ok (l ++ [c]) := by
  have hpe : p.isEmpty = false := by simpa using ne_empty_of_locate hp
  rw [locate_join_plain cwd p hc, hpe, if_neg Bool.false_ne_true, hp]
  simp [Except.bind, Nat.not_lt.2 hshort]

/-- Joining the empty name or `.` to a path that is not empty names the same place. -/
theorem locate_join_here (cwd : Location) {p : HostPath} (hp : p ≠ "") {d : String}
    (hd : d = "" ∨ d = ".") : locate cwd (p.join d) = locate cwd p := by
  have hslash : '/' ∉ d.toList := by rcases hd with rfl | rfl <;> decide
  have hpe : p.isEmpty = false := by simpa using hp
  rw [locate_join cwd hslash hp]
  rcases hd with rfl | rfl
  · simp [locate, hpe, pathParts_empty]
  · have hshort : ¬ 255 < ".".utf8ByteSize := by decide
    simp only [locate, hpe, pathParts_dot, List.any_append, List.any_cons, List.any_nil,
      hshort, decide_false, Bool.or_false, Bool.false_eq_true, if_false, List.filter_append]
    simp

namespace FileTree

section Walk

variable (t : FileTree) (b : Bool) (fuel : Nat) (done : Location) (x : String)
  (rest : List String)

theorem walk_nil : t.walk b fuel done [] = .ok done := by
  cases fuel <;> rfl

theorem walk_cons_dir (h : t.get? (done ++ [x]) = some .dir) :
    t.walk b fuel done (x :: rest) = t.walk b fuel (done ++ [x]) rest := by
  cases fuel <;> simp [walk, walkNames, h]

/-- A last name that holds no link, and is no step, is where the walk ends. -/
theorem walk_single_of_not_link (h : ∀ target, t.get? (done ++ [x]) ≠ some (.link target))
    (hx : ¬ DotName x) : t.walk b fuel done [x] = .ok (done ++ [x]) := by
  have hx' := ne_of_not_dotName hx
  cases hget : t.get? (done ++ [x]) with
  | none => cases fuel <;> simp [walk, walkNames, hget, hx']
  | some e =>
    cases e <;> first
      | exact absurd hget (h _)
      | (cases fuel <;> simp [walk, walkNames, hget])

/-- A last name that holds an entry other than a link is where the walk ends. -/
theorem walk_single_of_entry {e : Entry} (h : t.get? (done ++ [x]) = some e)
    (he : ∀ target, e ≠ .link target) : t.walk b fuel done [x] = .ok (done ++ [x]) := by
  cases e with
  | link target => exact absurd rfl (he target)
  | _ => cases fuel <;> simp [walk, walkNames, h]

/-- A name that holds nothing, with names after it, ends the walk: nothing is there to go
through. -/
theorem walk_cons_none (h : t.get? (done ++ [x]) = none) (hx : ¬ DotName x) (hr : rest ≠ []) :
    t.walk b fuel done (x :: rest) = .error .noEntry := by
  have hx' := ne_of_not_dotName hx
  cases fuel <;> simp [walk, walkNames, h, hr, hx']

end Walk

/-- A list that is `x :: rest` and ends in `n` is `[n]` itself, or `x :: todo` with
`rest = todo ++ [n]`. -/
theorem cons_eq_snoc {x n : String} {rest todo : List String} (h : x :: rest = todo ++ [n]) :
    (todo = [] ∧ x = n ∧ rest = []) ∨ ∃ todo', todo = x :: todo' ∧ rest = todo' ++ [n] := by
  cases todo with
  | nil => simp_all
  | cons y todo' => simp_all

section WalkNames

variable (t : FileTree) (b : Bool) (jump : List String → Except Errno Location) (done : Location)
  (x : String) (rest : List String)

theorem walkNames_cons_dir (h : t.get? (done ++ [x]) = some .dir) :
    t.walkNames b jump done (x :: rest) = t.walkNames b jump (done ++ [x]) rest := by
  simp [walkNames, h]

theorem walkNames_cons_link {target : String} (h : t.get? (done ++ [x]) = some (.link target))
    (hgo : (rest.isEmpty && !b) = false) :
    t.walkNames b jump done (x :: rest) =
      jump ((if target.startsWith "/" then [] else done) ++ pathParts target ++ rest) := by
  simp [walkNames, h, hgo]

/-- A name that holds nothing and is `.` or `..` is a step: it stays or goes up. -/
theorem walkNames_cons_step (h : t.get? (done ++ [x]) = none) (hx : DotName x) :
    t.walkNames b jump done (x :: rest) =
      t.walkNames b jump (if x = "." then done else done.dropLast) rest := by
  rcases hx with rfl | rfl <;> simp [walkNames, h]

/-- Without following a link at the last name, the walk of a single name that is no step ends
at it. -/
theorem walkNames_single (hx : ¬ DotName x) : t.walkNames false jump done [x] = .ok (done ++ [x]) := by
  have hx' := ne_of_not_dotName hx
  cases h : t.get? (done ++ [x]) with
  | none => simp [walkNames, h, hx']
  | some e => cases e <;> simp [walkNames, h]

end WalkNames

/-- Walking names to a place one name below another without following a link at the last
name: the walk meets the links of the place above as a walk that follows every link does,
jump for jump, and then takes the name as it is. -/
theorem walkNames_snoc_nofollow (t : FileTree) {n : String} (hn : ¬ DotName n)
    {j₁ j₂ : List String → Except Errno Location}
    (hj : ∀ L r, j₁ L = .ok r → ∀ todo, L = todo ++ [n] → ∃ r₀, j₂ todo = .ok r₀ ∧ r = r₀ ++ [n])
    {done L : List String} {r : Location} :
    t.walkNames false j₁ done L = .ok r → ∀ todo, L = todo ++ [n] →
      ∃ r₀, t.walkNames true j₂ done todo = .ok r₀ ∧ r = r₀ ++ [n] := by
  induction L generalizing done with
  | nil =>
    intro _ todo hL
    simp at hL
  | cons x rest ih =>
    intro h todo hL
    obtain ⟨rfl, rfl, rfl⟩ | ⟨todo', rfl, rfl⟩ := cons_eq_snoc hL
    · -- the last name is taken as it is
      rw [walkNames_single t _ _ _ hn] at h
      exact ⟨done, rfl, (Except.ok.inj h).symm⟩
    · -- a name before the last: both walks pass a directory or follow a link alike
      cases hget : t.get? (done ++ [x]) with
      | none =>
        by_cases hx : DotName x
        · -- a step stays or goes up alike in both walks
          rw [walkNames_cons_step t false j₁ done x _ hget hx] at h
          rw [walkNames_cons_step t true j₂ done x todo' hget hx]
          exact ih h todo' rfl
        · have hx' := ne_of_not_dotName hx
          simp [walkNames, hget, hx'] at h
      | some e =>
        cases e with
        | link target =>
          rw [walkNames_cons_link t false j₁ done x _ hget (by simp)] at h
          rw [walkNames_cons_link t true j₂ done x todo' hget (by simp)]
          exact hj _ _ h _ (List.append_assoc _ _ _).symm
        | dir =>
          rw [walkNames_cons_dir t false j₁ done x _ hget] at h
          rw [walkNames_cons_dir t true j₂ done x todo' hget]
          exact ih h todo' rfl
        | file => simp [walkNames, hget] at h
        | program => simp [walkNames, hget] at h
        | fifo => simp [walkNames, hget] at h

/-- Walking to a place one name below another without following a link at the last name:
the walk meets the links of the place above as a walk that follows every link does, with
the same fuel, and then takes the name as it is. -/
theorem walk_snoc_nofollow (t : FileTree) {n : String} (hn : ¬ DotName n) {fuel : Nat}
    {done L : List String} {r : Location} :
    t.walk false fuel done L = .ok r → ∀ todo, L = todo ++ [n] →
      ∃ r₀, t.walk true fuel done todo = .ok r₀ ∧ r = r₀ ++ [n] := by
  -- on the fuel: a followed link restarts both walks with one unit less
  induction fuel generalizing done L r with
  | zero => exact walkNames_snoc_nofollow t hn (fun _ _ h => by cases h)
  | succ f ih => exact walkNames_snoc_nofollow t hn (fun _ _ h todo hL => ih h todo hL)

/-- Resolving a place one name below another, without following a link at that name,
resolves the place above and adds the name. -/
theorem resolve_snoc_nofollow {t : FileTree} {loc : Location} {n : String} {r : Location}
    (hn : ¬ DotName n) (h : t.resolve false (loc ++ [n]) = .ok r) :
    ∃ r₀, t.resolve true loc = .ok r₀ ∧ r = r₀ ++ [n] :=
  walk_snoc_nofollow t hn h loc rfl


/-! ### Files below directories

When every place from the root down to a directory is a directory, a walk to a name in it
goes straight there, so writing and reading that name touch that one entry only.
-/

theorem get?_put_ne (t : FileTree) {loc loc' : Location} (e : Entry) (h : loc' ≠ loc) :
    (t.put loc e).get? loc' = t.get? loc' := by
  unfold get? put
  split
  · rfl
  · -- a place other than `loc` is found past the new entry exactly where it was before
    simp only [List.find?_cons, bne_iff_ne, ne_eq, List.find?_filter]
    have hne : (loc == loc') = false := by simpa using Ne.symm h
    simp only [hne]
    congr 2
    funext a
    by_cases ha : a.1 = loc'
    · simp [ha, h]
    · simp [ha]

/-- Every place from the root down to `dir` is a directory. -/
def DirsAlong (t : FileTree) (dir : Location) : Prop :=
  ∀ k, 0 < k → k ≤ dir.length → t.get? (dir.take k) = some .dir

/-- A walk passes through directories unchanged. -/
theorem walk_append_of_dirs (t : FileTree) (b : Bool) (fuel : Nat) (done rest more : Location)
    (h : ∀ k, 0 < k → k ≤ rest.length → t.get? (done ++ rest.take k) = some .dir) :
    t.walk b fuel done (rest ++ more) = t.walk b fuel (done ++ rest) more := by
  induction rest generalizing done with
  | nil => simp
  | cons x rest ih =>
    have hx : t.get? (done ++ [x]) = some .dir := by simpa using h 1 (by omega) (by simp)
    rw [List.cons_append, walk_cons_dir t b fuel done x _ hx, ih (done ++ [x]) fun k hk hkl => by
      simpa [List.take_succ_cons] using h (k + 1) (by omega) (by simp; omega)]
    simp

/-- A place below directories that holds no link, named by no step, resolves to itself. -/
theorem resolve_of_not_link (t : FileTree) (b : Bool) {dir : Location} {name : String}
    (hd : t.DirsAlong dir) (hx : ∀ target, t.get? (dir ++ [name]) ≠ some (.link target))
    (hname : ¬ DotName name) : t.resolve b (dir ++ [name]) = .ok (dir ++ [name]) := by
  unfold resolve
  rw [walk_append_of_dirs t b 40 [] dir [name] (fun k hk hkl => by simpa using hd k hk hkl), List.nil_append]
  exact walk_single_of_not_link t b 40 dir name hx hname

/-- A place below directories that holds an entry other than a link resolves to itself. -/
theorem resolve_of_entry (t : FileTree) (b : Bool) {dir : Location} {name : String} {e : Entry}
    (hd : t.DirsAlong dir) (hx : t.get? (dir ++ [name]) = some e)
    (he : ∀ target, e ≠ .link target) : t.resolve b (dir ++ [name]) = .ok (dir ++ [name]) := by
  unfold resolve
  rw [walk_append_of_dirs t b 40 [] dir [name] (fun k hk hkl => by simpa using hd k hk hkl), List.nil_append]
  exact walk_single_of_entry t b 40 dir name hx he

/-- A place below directories that holds nothing or a file, named by no step, resolves to
itself. -/
theorem resolve_of_dirs (t : FileTree) (b : Bool) {dir : Location} {name : String}
    (hd : t.DirsAlong dir)
    (hx : t.get? (dir ++ [name]) = none ∨ ∃ d x, t.get? (dir ++ [name]) = some (.file d x))
    (hname : ¬ DotName name) : t.resolve b (dir ++ [name]) = .ok (dir ++ [name]) :=
  resolve_of_not_link t b hd (fun target => by rcases hx with hx | ⟨d, x, hx⟩ <;> simp [hx]) hname

/-- A directory below directories resolves to itself. -/
theorem resolve_dir (t : FileTree) (b : Bool) {dir : Location} (hd : t.DirsAlong dir) :
    t.resolve b dir = .ok dir := by
  unfold resolve
  simpa [walk_nil] using walk_append_of_dirs t b 40 [] dir [] (fun k hk hkl => by simpa using hd k hk hkl)

/-- A place is found as a directory or a file exactly as it was after a put elsewhere. -/
theorem DirsAlong.put {t : FileTree} {dir : Location} (hd : t.DirsAlong dir) {name : String}
    (e : Entry) : (t.put (dir ++ [name]) e).DirsAlong dir := by
  intro k hk hkl
  rw [get?_put_ne t e (fun h => by
    have := congrArg List.length h
    simp at this
    omega)]
  exact hd k hk hkl

theorem DirsAlong.get?_self {t : FileTree} {dir : Location} (hd : t.DirsAlong dir) :
    t.get? dir = some .dir := by
  cases dir with
  | nil => rfl
  | cons x xs =>
    have h := hd (x :: xs).length (by simp) (Nat.le_refl _)
    rwa [List.take_length] at h

/-- Making a directory that is already there changes nothing, whatever the levels allowed. -/
theorem mkdirUp_of_dirs {t : FileTree} {dir : Location} (hd : t.DirsAlong dir) (depth : Nat) :
    t.mkdirUp (depth + 1) dir = .ok t := by
  rcases List.eq_nil_or_concat dir with rfl | ⟨front, name, rfl⟩
  · rfl
  · rw [List.concat_eq_append] at hd ⊢
    have hself : t.get? (front ++ [name]) = some .dir := hd.get?_self
    have hfront : t.get? front = some .dir := by
      cases front with
      | nil => rfl
      | cons x xs => simpa using hd (x :: xs).length (by simp) (by simp)
    -- `mkdir` finds the directory there, and the directory check then accepts it
    have hplace : t.placeFor (front ++ [name]) = .ok (front ++ [name]) := by
      simp [placeFor, resolve_dir t false hd, hfront, bind, Except.bind]
    have hmk : t.mkdir (front ++ [name]) = .error .alreadyExists := by
      simp [mkdir, hplace, hself, bind, Except.bind]
    have hisdir : t.isDir (front ++ [name]) = true := by
      simp [isDir, stat, resolve_dir t true hd, hself, Entry.isDir, bind, Except.bind]
    simp [mkdirUp, hmk, hisdir]

/-- Making a directory that is already there changes nothing. -/
theorem mkdirAll_of_dirs {t : FileTree} {dir : Location} (hd : t.DirsAlong dir) :
    t.mkdirAll dir = .ok t :=
  mkdirUp_of_dirs hd dir.length

section Place

variable {t : FileTree} {dir : Location} {name : String}

theorem existsAt_new {cwd : Location} {path : HostPath} (hl : locate cwd path = .ok (dir ++ [name]))
    (hd : t.DirsAlong dir) (hnew : t.get? (dir ++ [name]) = none) (hname : ¬ DotName name) :
    t.existsAt cwd path = false := by
  simp [existsAt, hl, exists?, stat, resolve_of_dirs t true hd (.inl hnew) hname, hnew, bind, Except.bind]

theorem existsAt_file {cwd : Location} {path : HostPath} (hl : locate cwd path = .ok (dir ++ [name]))
    (hd : t.DirsAlong dir) {d : List UInt8} {x : Bool} (hf : t.get? (dir ++ [name]) = some (.file d x)) :
    t.existsAt cwd path = true := by
  simp [existsAt, hl, exists?, stat, resolve_of_entry t true hd hf (by simp), hf, bind,
    Except.bind]

/-- Writing where nothing is makes a file of the bytes. -/
theorem write_new (hd : t.DirsAlong dir) (hnew : t.get? (dir ++ [name]) = none)
    (hname : ¬ DotName name) (data : List UInt8) (append : Bool) :
    t.write (dir ++ [name]) data append = .ok (t.put (dir ++ [name]) (.file data false)) := by
  simp [write, resolve_of_dirs t true hd (.inl hnew) hname, hnew, hd.get?_self, bind, Except.bind]

/-- Appending to a file puts the bytes after what it holds. -/
theorem write_file (hd : t.DirsAlong dir) {d : List UInt8} {x : Bool}
    (hf : t.get? (dir ++ [name]) = some (.file d x)) (data : List UInt8) :
    t.write (dir ++ [name]) data true = .ok (t.put (dir ++ [name]) (.file (d ++ data) x)) := by
  simp [write, resolve_of_entry t true hd hf (by simp), hf, bind, Except.bind]

theorem read_file (hd : t.DirsAlong dir) {d : List UInt8} {x : Bool}
    (hf : t.get? (dir ++ [name]) = some (.file d x)) : t.read (dir ++ [name]) = .ok d := by
  simp [read, resolve_of_entry t true hd hf (by simp), hf, bind, Except.bind]

end Place

end FileTree

end Host

end LaunchBench
