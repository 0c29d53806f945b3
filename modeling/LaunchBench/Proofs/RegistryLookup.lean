import Mathlib.Data.List.Nodup
import LaunchBench.App.Registry
/-!
Reading a registry, and finding an application in it.

A registry text is TOML whose `[[app]]` tables decode to a list of applications
(`registryApps?`). Reading it then checks the applications in file order against the names
seen before each: the first application that repeats an earlier name, or else has no page,
is reported, a repeated name first (`Faulty`). A registry that was read finds each name's
application by looking for the first one with that name; since the names are distinct, that is
the only one.

* **`Registry.firstProblem_eq_none_iff`**, **`Registry.firstProblem_eq_some_iff`**: the check
  passes exactly when the names are distinct and every application has a page, and otherwise
  reports the first faulty application.
* **`Registry.get?_eq_ok_iff`**, **`Registry.get?_eq_error_iff`**: over distinct names, a
  lookup finds exactly the application with the name, and fails exactly when there is none.
* **`registryParse_spec`**: what reading a registry whose text decodes to given applications
  gives, and what the registry read finds.
-/

namespace LaunchBench.App

/-- The applications a registry text decodes to, in file order, when it is TOML of the
registry's shape. -/
def registryApps? (content : String) : Option (List Descriptor) :=
  match Toml.parse content with
  | .ok root => (decodeDescriptors root).toOption
  | .error _ => none

theorem registryApps?_eq_some {content : String} {A : List Descriptor}
    (h : registryApps? content = some A) :
    ∃ root, Toml.parse content = .ok root ∧ decodeDescriptors root = .ok A := by
  unfold registryApps? at h
  split at h
  · rename_i root hroot
    refine ⟨root, hroot, ?_⟩
    cases hd : decodeDescriptors root with
    | ok A' =>
      rw [hd] at h
      cases h
      rfl
    | error e =>
      rw [hd] at h
      cases h
  · cases h

/-- The application `d`, after applications named `before`, is at fault with the error `e`: it
repeats a name, or else it has no page. -/
def Faulty (before : List String) (d : Descriptor) (e : RegistryError) : Prop :=
  (d.name ∈ before ∧ e = .duplicate d.name) ∨
    (d.name ∉ before ∧ d.pages = [] ∧ e = .noPages d.name)

/-- Only which names came before matters, not their order. -/
theorem faulty_congr {before before' : List String} (h : ∀ x, x ∈ before ↔ x ∈ before')
    {d : Descriptor} {e : RegistryError} : Faulty before d e ↔ Faulty before' d e := by
  simp only [Faulty, h]

/-- An application with a page has a readiness page, the first of its pages, and the others
follow it in file order. -/
theorem Descriptor.readiness?_of_pages {d : Descriptor} (h : d.pages ≠ []) :
    ∃ p rest, d.pages = p :: rest ∧ d.readiness? = some p ∧ d.additionalPages = rest := by
  obtain ⟨p, rest, hp⟩ := List.exists_cons_of_ne_nil h
  exact ⟨p, rest, hp, by simp [Descriptor.readiness?, hp],
    by simp [Descriptor.additionalPages, hp]⟩

namespace Registry

variable {content : String} {origin : HostPath} {A : List Descriptor}

section Check

variable {seen : List String} {d : Descriptor} {ds : List Descriptor}

@[simp] theorem firstProblem_nil : firstProblem seen [] = none := rfl

theorem firstProblem_cons_of_mem (hs : d.name ∈ seen) :
    firstProblem seen (d :: ds) = some (.duplicate d.name) := by
  simp [firstProblem, hs]

theorem firstProblem_cons_of_noPages (hs : d.name ∉ seen) (hp : d.pages = []) :
    firstProblem seen (d :: ds) = some (.noPages d.name) := by
  simp [firstProblem, hs, hp]

theorem firstProblem_cons_of_pass (hs : d.name ∉ seen) (hp : d.pages ≠ []) :
    firstProblem seen (d :: ds) = firstProblem (d.name :: seen) ds := by
  simp [firstProblem, hs, hp]

end Check

/-- The check passes exactly when the names are distinct, none was seen before, and every
application has a page. -/
theorem firstProblem_eq_none_iff (seen : List String) (ds : List Descriptor) :
    firstProblem seen ds = none ↔
      (ds.map (·.name)).Nodup ∧ ∀ d ∈ ds, d.name ∉ seen ∧ d.pages ≠ [] := by
  induction ds generalizing seen with
  | nil => simp [firstProblem]
  | cons d ds ih =>
    by_cases hs : d.name ∈ seen
    · simp [firstProblem_cons_of_mem hs, hs]
    · by_cases hp : d.pages = []
      · simp [firstProblem_cons_of_noPages hs hp, hp]
      · -- the head passes, and the rest is checked with its name seen
        rw [firstProblem_cons_of_pass hs hp, ih]
        simp only [List.forall_mem_cons]
        simp only [List.map_cons, List.nodup_cons, List.mem_map, List.mem_cons, not_or,
          not_exists, not_and]
        constructor
        · rintro ⟨hnd, hall⟩
          exact ⟨⟨fun d' hd' heq => (hall d' hd').1.1 heq, hnd⟩, ⟨hs, hp⟩,
            fun d' hd' => ⟨(hall d' hd').1.2, (hall d' hd').2⟩⟩
        · rintro ⟨⟨hnew, hnd⟩, -, hall⟩
          exact ⟨hnd, fun d' hd' => ⟨⟨hnew d' hd', (hall d' hd').1⟩, (hall d' hd').2⟩⟩

/-- A split of `a :: l` around one element is the split at the head, or a split of `l`. -/
theorem exists_cons_split_iff {α : Type} {a : α} {l : List α} {P : List α → α → List α → Prop} :
    (∃ pre b post, a :: l = pre ++ b :: post ∧ P pre b post) ↔
      P [] a l ∨ ∃ pre b post, l = pre ++ b :: post ∧ P (a :: pre) b post := by
  constructor
  · rintro ⟨pre, b, post, h, hp⟩
    cases pre with
    | nil =>
      obtain ⟨rfl, rfl⟩ := List.cons_eq_cons.1 h
      exact .inl hp
    | cons a' pre =>
      obtain ⟨rfl, rfl⟩ := List.cons_eq_cons.1 h
      exact .inr ⟨pre, b, post, rfl, hp⟩
  · rintro (hp | ⟨pre, b, post, rfl, hp⟩)
    · exact ⟨[], a, l, rfl, hp⟩
    · exact ⟨a :: pre, b, post, rfl, hp⟩

/-- Otherwise the check reports the first application at fault, after the names seen before
and those of the applications ahead of it. -/
theorem firstProblem_eq_some_iff (seen : List String) (ds : List Descriptor)
    (e : RegistryError) :
    firstProblem seen ds = some e ↔ ∃ pre d post, ds = pre ++ d :: post ∧
      firstProblem seen pre = none ∧ Faulty (seen ++ pre.map (·.name)) d e := by
  induction ds generalizing seen with
  | nil =>
    simp only [firstProblem, reduceCtorEq, false_iff, not_exists, not_and]
    intro pre d post h
    simp at h
  | cons d ds ih =>
    -- the fault is at the head, or it is in the rest and the head passed
    rw [exists_cons_split_iff]
    by_cases hs : d.name ∈ seen
    · simp [firstProblem_cons_of_mem hs, Faulty, hs, eq_comm]
    · by_cases hp : d.pages = []
      · simp [firstProblem_cons_of_noPages hs hp, Faulty, hs, hp, eq_comm]
      · -- past the head, its name counts as seen
        have hnames : ∀ (pre : List Descriptor) b, Faulty (seen ++ (d :: pre).map (·.name)) b e ↔
            Faulty (d.name :: seen ++ pre.map (·.name)) b e := fun pre b =>
          faulty_congr fun x => by
            simp only [List.cons_append, List.mem_cons, List.mem_append, List.map_cons]
            tauto
        simp only [firstProblem_cons_of_pass hs hp, hnames, ih]
        simp [Faulty, hs, hp]

theorem parse_eq_ok_iff (hA : registryApps? content = some A) {r : Registry} :
    parse content origin = .ok r ↔ firstProblem [] A = none ∧ r = ⟨A⟩ := by
  obtain ⟨root, hroot, hdec⟩ := registryApps?_eq_some hA
  simp only [parse, hroot, hdec]
  cases firstProblem [] A with
  | none => simp [eq_comm]
  | some p => simp

theorem parse_eq_error_iff (hA : registryApps? content = some A) {e : RegistryError} :
    parse content origin = .error e ↔ firstProblem [] A = some e := by
  obtain ⟨root, hroot, hdec⟩ := registryApps?_eq_some hA
  simp only [parse, hroot, hdec]
  cases firstProblem [] A with
  | none => simp
  | some p => simp

/-- Over distinct names, a lookup finds exactly the application with the name. -/
theorem get?_eq_ok_iff {r : Registry} (hr : (r.apps.map (·.name)).Nodup) {n : String}
    {d : Descriptor} : r.get? n = .ok d ↔ d ∈ r.apps ∧ d.name = n := by
  unfold get?
  split
  · rename_i d' hfind
    have hmem := List.mem_of_find?_eq_some hfind
    have hname : d'.name = n := by simpa using List.find?_some hfind
    constructor
    · rintro ⟨⟩
      exact ⟨hmem, hname⟩
    · -- the one found and the one asked for share a name, so they are one application
      rintro ⟨hd, rfl⟩
      rw [List.inj_on_of_nodup_map hr hmem hd hname]
  · rename_i hnone
    simp only [reduceCtorEq, false_iff, not_and]
    intro hd hname
    exact List.find?_eq_none.1 hnone d hd (by simp [hname])

/-- A lookup fails exactly when no application has the name. -/
theorem get?_eq_error_iff {r : Registry} {n : String} {e : RegistryError} :
    r.get? n = .error e ↔ (∀ d ∈ r.apps, d.name ≠ n) ∧ e = .unknown n := by
  unfold get?
  split
  · rename_i d hfind
    simp only [reduceCtorEq, false_iff, not_and]
    intro hall
    exact absurd (by simpa using List.find?_some hfind) (hall d (List.mem_of_find?_eq_some hfind))
  · rename_i hnone
    simp only [Except.error.injEq]
    have hall : ∀ d ∈ r.apps, d.name ≠ n := fun d hd hname =>
      List.find?_eq_none.1 hnone d hd (by simp [hname])
    exact ⟨fun h => ⟨hall, h.symm⟩, fun h => h.2.symm⟩

end Registry

/-- What reading a registry whose text decodes to the applications `A` gives. -/
structure ReadsAs (content : String) (origin : HostPath) (A : List Descriptor) : Prop where
  /-- Reading succeeds exactly when the names are distinct and every application has a
  page. -/
  succeeds : (∃ r, Registry.parse content origin = .ok r) ↔
    (A.map (·.name)).Nodup ∧ ∀ d ∈ A, d.pages ≠ []
  /-- Otherwise it fails with the error of the first application that repeats an earlier
  name, or else has no page. -/
  fails : ∀ e, Registry.parse content origin = .error e ↔ ∃ pre d post, A = pre ++ d :: post ∧
    (pre.map (·.name)).Nodup ∧ (∀ d' ∈ pre, d'.pages ≠ []) ∧ Faulty (pre.map (·.name)) d e
  /-- A registry read holds the applications in file order. -/
  apps : ∀ r, Registry.parse content origin = .ok r → r.apps = A
  /-- It finds, for each name, the one application with that name. -/
  finds : ∀ r, Registry.parse content origin = .ok r →
    ∀ n d, r.get? n = .ok d ↔ d ∈ A ∧ d.name = n
  /-- It fails to find a name exactly when no application has it. -/
  unknown : ∀ r, Registry.parse content origin = .ok r →
    ∀ n e, r.get? n = .error e ↔ (∀ d ∈ A, d.name ≠ n) ∧ e = .unknown n
  /-- Each application it finds has a readiness page, the first of its pages, and its other
  pages follow in file order. -/
  pages : ∀ r, Registry.parse content origin = .ok r → ∀ n d, r.get? n = .ok d →
    ∃ p rest, d.pages = p :: rest ∧ d.readiness? = some p ∧ d.additionalPages = rest

/-- A registry whose text decodes to the applications `A` is read exactly when their names are
distinct and each has a page; otherwise the first application that repeats a name, or else has
no page, is reported. A registry read finds each name's one application, whose first page is
its readiness page, or reports the name unknown. -/
theorem registryParse_spec (content : String) (origin : HostPath) (A : List Descriptor)
    (hA : registryApps? content = some A) : ReadsAs content origin A := by
  have hnone := Registry.firstProblem_eq_none_iff [] A
  simp only [List.not_mem_nil, not_false_eq_true, true_and] at hnone
  -- a registry read holds `A`, whose names are distinct and whose applications have pages
  have hread : ∀ r, Registry.parse content origin = .ok r →
      r.apps = A ∧ (A.map (·.name)).Nodup ∧ ∀ d ∈ A, d.pages ≠ [] := by
    intro r hr
    obtain ⟨hp, rfl⟩ := (Registry.parse_eq_ok_iff hA).1 hr
    exact ⟨rfl, hnone.1 hp⟩
  refine ⟨⟨fun ⟨r, hr⟩ => (hread r hr).2, fun h => ⟨⟨A⟩, ?_⟩⟩, fun e => ?_, fun r hr => ?_,
    fun r hr n d => ?_, fun r hr n e => ?_, fun r hr n d hd => ?_⟩
  · exact (Registry.parse_eq_ok_iff hA).2 ⟨hnone.2 h, rfl⟩
  · rw [Registry.parse_eq_error_iff hA, Registry.firstProblem_eq_some_iff]
    simp only [Registry.firstProblem_eq_none_iff, List.not_mem_nil, not_false_eq_true, true_and,
      List.nil_append, and_assoc]
  · exact (hread r hr).1
  · obtain ⟨rfl, hnd, -⟩ := hread r hr
    exact Registry.get?_eq_ok_iff hnd
  · obtain ⟨rfl, -⟩ := hread r hr
    exact Registry.get?_eq_error_iff
  · obtain ⟨rfl, hnd, hpages⟩ := hread r hr
    exact Descriptor.readiness?_of_pages (hpages d ((Registry.get?_eq_ok_iff hnd).1 hd).1)

/-- The registry of a hello application with two pages and a REST application with one is
read with both applications, in file order. -/
theorem registryParse_spec_two_apps :
    registryApps? "[[app]]\nname = \"hello\"\ndir = \"apps/hello\"\n[[app.url]]\npath = \"/\"\nexpected = \"Welcome\"\n[[app.url]]\npath = \"/hello\"\nexpected = \"Hello\"\n[[app]]\nname = \"rest\"\ndir = \"apps/rest\"\ngenerated = true\n[[app.url]]\npath = \"/q\"\nexpected = \"UP\"\n" =
        some [⟨"hello", "apps/hello", [⟨"/", "Welcome"⟩, ⟨"/hello", "Hello"⟩], [], none, [], false⟩,
          ⟨"rest", "apps/rest", [⟨"/q", "UP"⟩], [], none, [], true⟩] ∧
      ReadsAs "[[app]]\nname = \"hello\"\ndir = \"apps/hello\"\n[[app.url]]\npath = \"/\"\nexpected = \"Welcome\"\n[[app.url]]\npath = \"/hello\"\nexpected = \"Hello\"\n[[app]]\nname = \"rest\"\ndir = \"apps/rest\"\ngenerated = true\n[[app.url]]\npath = \"/q\"\nexpected = \"UP\"\n"
        "apps.toml"
        [⟨"hello", "apps/hello", [⟨"/", "Welcome"⟩, ⟨"/hello", "Hello"⟩], [], none, [], false⟩,
          ⟨"rest", "apps/rest", [⟨"/q", "UP"⟩], [], none, [], true⟩] :=
  (fun h => ⟨h, registryParse_spec _ _ _ h⟩) (by decide +kernel)

end LaunchBench.App
