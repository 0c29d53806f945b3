import LaunchBench.Proofs.Paths
import LaunchBench.Scenario.Workspace
/-!
Where a scenario works.

A scenario of an application in a mode works in `<workspace>/<app>-<mode>`, joined as
text. When the application's name has no slash and is not `..`, that directory is one
name below the place the workspace names, the logs and the sources lie below it, and the
scenarios of two different applications or modes never share their directory or nest:
removing a scenario's workspace, as preparing and cleaning up do, erases one name below
where the workspace resolves to. The registry puts no such condition on names, and a name
such as `../outside` takes the scenario out of the workspace: its root resolves beside the
workspace, and preparing the scenario removes whatever is there.

* **`scenarioDirs_confined`**: the directories of a scenario whose application name has
  no slash and is not `..` stay in the workspace, apart from every other scenario's.
* **`scenarioDirs_escape`**: the registry accepts the name `../outside`, whose scenario
  directory lies beside the workspace; removing it erases what is kept there.
-/

namespace LaunchBench

open Host

/-- An application name that keeps its scenario inside the workspace: no slash, and
not `..`. -/
def ConfinedName (name : String) : Prop :=
  '/' ∉ name.toList ∧ name ≠ ".."

instance : DecidablePred ConfinedName := fun _ => inferInstanceAs (Decidable (_ ∧ _))

/-- The name of a scenario's directory: the application's name, a dash and the mode's. -/
def scenarioDirName (name : String) (mode : Mode) : String :=
  name ++ "-" ++ mode.name

theorem scenarioDirs_root (ws : HostPath) (name : String) (mode : Mode) :
    (scenarioDirs ws name mode).root = ws.join (scenarioDirName name mode) := rfl

theorem Mode.name_ne_nil (m : Mode) : m.name.toList ≠ [] := by
  cases m <;> decide

theorem Mode.eq_of_getLast {m m' : Mode} (h : m.name.toList.getLast? = m'.name.toList.getLast?) :
    m = m' := by
  cases m <;> cases m' <;> revert h <;> decide

/-- A scenario's directory name tells the application's name and the mode: every mode's
name ends in a letter of its own. -/
theorem scenarioDirName_inj {n n' : String} {m m' : Mode}
    (h : scenarioDirName n m = scenarioDirName n' m') : n = n' ∧ m = m' := by
  have hl : n.toList ++ '-' :: m.name.toList = n'.toList ++ '-' :: m'.name.toList := by
    simpa [scenarioDirName] using congrArg String.toList h
  have hlast : ∀ (k : Mode) (l : List Char),
      (l ++ '-' :: k.name.toList).getLast? = k.name.toList.getLast? := by
    intro k l
    rw [List.getLast?_append, List.getLast?_cons_of_ne_nil (Mode.name_ne_nil k)]
    cases hk : k.name.toList.getLast? with
    | none => exact absurd (List.getLast?_eq_none_iff.1 hk) (Mode.name_ne_nil k)
    | some x => rfl
  have hm : m = m' := by
    apply Mode.eq_of_getLast
    rw [← hlast m n.toList, ← hlast m' n'.toList, hl]
  subst hm
  exact ⟨String.toList_inj.1 (List.append_cancel_right hl), rfl⟩

/-- The directory name of a confined application is a plain name: the mode's name makes it
longer than `..`. -/
theorem ConfinedName.plain {name : String} (h : ConfinedName name) (m : Mode) :
    PlainName (scenarioDirName name m) := by
  have hlen : 4 ≤ (scenarioDirName name m).length := by
    have hm : 3 ≤ m.name.length := by cases m <;> decide
    have hdash : "-".length = 1 := by decide
    simp only [scenarioDirName, String.length_append, hdash]
    omega
  have hslash : '/' ∉ m.name.toList := by cases m <;> decide
  refine ⟨?_, ?_, ?_, ?_⟩
  · intro he
    simp [he] at hlen
  · simp [scenarioDirName, h.1, hslash]
  · intro he
    rw [he] at hlen
    exact absurd hlen (by decide)
  · intro he
    rw [he] at hlen
    exact absurd hlen (by decide)

/-- Removing a workspace erases the place its path resolves to, the last name itself and
not what a link there points to, with everything below it. -/
theorem removeTree_eq_erase {fs fs' : FileTree} {loc : Location}
    (h : removeTree fs loc = .ok fs') : ∃ r, fs.resolve false loc = .ok r ∧ fs' = fs.erase r := by
  unfold removeTree FileTree.lstat at h
  cases hr : fs.resolve false loc with
  | error e => simp [hr, bind, Except.bind] at h
  | ok r =>
    refine ⟨r, rfl, ?_⟩
    simp only [hr, bind, Except.bind] at h
    cases hg : fs.get? r with
    | none => simp [hg] at h
    | some e =>
      cases e with
      | dir =>
        simp only [hg, FileTree.removeAll, hr, bind, Except.bind] at h
        split at h
        · cases h
        · exact (Except.ok.inj h).symm
      | link target =>
        simp only [hg, FileTree.unlink, hr, bind, Except.bind] at h
        exact (Except.ok.inj h).symm
      | _ => simp [hg] at h

/-- The scenario made for an application: its directories, an empty report started at the
host's time, and no process yet. -/
theorem newScenario_shape {o : Orchestrator} {w : World} {app : App.Descriptor} {mode : Mode}
    {s : Scenario} (h : o.newScenario w app mode = .ok s) :
    ∃ wl th cb, s = {
      app := app, mode := mode,
      root := (scenarioDirs o.settings.workspaceDir app.name mode).root,
      appDir := (scenarioDirs o.settings.workspaceDir app.name mode).appDir,
      logsDir := (scenarioDirs o.settings.workspaceDir app.name mode).logsDir,
      whitelist := wl, thresholds := th, commands := cb,
      report := Report.new app.name mode o.os w.now, process := none } := by
  unfold Orchestrator.newScenario at h
  -- the whitelist is left unevaluated: only whether it was built matters here
  generalize Whitelist.build app.whitelist o.os = wb at h
  cases wb with
  | error e => simp [bind, Except.bind] at h
  | ok wl =>
    cases ht : app.loadThresholds w.files o.cwd o.settings.repoDir o.lookup with
    | error e => simp [ht, bind, Except.bind] at h
    | ok th =>
      simp only [ht, mapError_ok, bind, Except.bind, pure, Except.pure,
        Except.ok.injEq] at h
      exact ⟨wl, th, _, h.symm⟩

/-- The scenario made for an application works in the directories `scenarioDirs` gives. -/
theorem newScenario_dirs {o : Orchestrator} {w : World} {app : App.Descriptor} {mode : Mode}
    {s : Scenario} (h : o.newScenario w app mode = .ok s) :
    (⟨s.root, s.appDir, s.logsDir⟩ : ScenarioDirs) =
      scenarioDirs o.settings.workspaceDir app.name mode := by
  obtain ⟨wl, th, cb, rfl⟩ := newScenario_shape h
  rfl

/-- The place a workspace path names, read from `cwd`; the empty path names `cwd`
itself. -/
def workspacePlace (cwd : Location) (ws : HostPath) : Except Errno Location :=
  locate cwd (if ws.isEmpty then "." else ws)

/-- The directories of the scenario of application `name` in `mode`, with the workspace at
`ws` read from `cwd`, stay in the workspace and apart from every other scenario's. -/
structure ConfinedDirs (cwd : Location) (ws : HostPath) (name : String) (mode : Mode) : Prop where
  /-- The root is the directory name one level below the workspace's place, when that name
  is short enough to be one. -/
  root : locate cwd (scenarioDirs ws name mode).root =
    (workspacePlace cwd ws).bind fun w =>
      if 255 < (scenarioDirName name mode).utf8ByteSize then .error .nameTooLong
      else .ok (w ++ [scenarioDirName name mode])
  /-- The logs go to `logs` below the root; the sources to `app`, or, when generated, to the
  directory named after the application, which is the root itself for the names `""` and
  `.`. -/
  below : ∀ r, locate cwd (scenarioDirs ws name mode).root = .ok r →
    locate cwd (scenarioDirs ws name mode).logsDir = .ok (r ++ ["logs"]) ∧
    locate cwd (scenarioDirs ws name mode).appDir =
      .ok (r ++ if mode = .generator then (if name = "" ∨ name = "." then [] else [name])
        else ["app"])
  /-- The root of another application or mode is neither this root nor nested with it. -/
  apart : ∀ (name' : String) (mode' : Mode), ConfinedName name' → (name', mode') ≠ (name, mode) →
    ∀ r r', locate cwd (scenarioDirs ws name mode).root = .ok r →
      locate cwd (scenarioDirs ws name' mode').root = .ok r' → ¬ r <+: r' ∧ ¬ r' <+: r
  /-- Removing the root erases the directory name below the place the workspace resolves
  to, and nothing else. -/
  removal : ∀ (fs fs' : FileTree) (r : Location),
    locate cwd (scenarioDirs ws name mode).root = .ok r →
    removeTree fs r = .ok fs' →
    ∃ w wr, workspacePlace cwd ws = .ok w ∧ fs.resolve true w = .ok wr ∧
      fs' = fs.erase (wr ++ [scenarioDirName name mode])

section Confined

variable {cwd : Location} {ws : HostPath} {name : String} {mode : Mode} {r : Location}

theorem locate_scenarioRoot (h : ConfinedName name) :
    locate cwd (scenarioDirs ws name mode).root =
      (workspacePlace cwd ws).bind fun w =>
        if 255 < (scenarioDirName name mode).utf8ByteSize then .error .nameTooLong
        else .ok (w ++ [scenarioDirName name mode]) := by
  rw [scenarioDirs_root]
  exact locate_join_plain cwd ws (h.plain mode)

/-- A root that names a place is the directory name below the workspace's place. -/
theorem eq_of_locate_scenarioRoot (h : ConfinedName name)
    (hr : locate cwd (scenarioDirs ws name mode).root = .ok r) :
    ∃ w, workspacePlace cwd ws = .ok w ∧ r = w ++ [scenarioDirName name mode] ∧
      (scenarioDirName name mode).utf8ByteSize ≤ 255 := by
  rw [locate_scenarioRoot h] at hr
  cases hw : workspacePlace cwd ws with
  | error e => simp [hw, Except.bind] at hr
  | ok w =>
    simp only [hw, Except.bind] at hr
    split at hr
    · cases hr
    · exact ⟨w, rfl, (Except.ok.inj hr).symm, by omega⟩

theorem locate_logsDir (hr : locate cwd (scenarioDirs ws name mode).root = .ok r) :
    locate cwd (scenarioDirs ws name mode).logsDir = .ok (r ++ ["logs"]) :=
  locate_join_of_ok hr (by decide) (by decide)

theorem locate_appDir (h : ConfinedName name)
    (hr : locate cwd (scenarioDirs ws name mode).root = .ok r) :
    locate cwd (scenarioDirs ws name mode).appDir =
      .ok (r ++ if mode = .generator then (if name = "" ∨ name = "." then [] else [name])
        else ["app"]) := by
  by_cases hg : mode = .generator
  · subst hg
    have hj : (scenarioDirs ws name .generator).appDir =
        (scenarioDirs ws name .generator).root.join name := rfl
    rw [hj, if_pos rfl]
    by_cases hdot : name = "" ∨ name = "."
    · rw [if_pos hdot, List.append_nil, locate_join_here cwd (ne_empty_of_locate hr) hdot, hr]
    · -- any other confined name is plain, and shorter than the root's name
      rw [if_neg hdot]
      have hplain : PlainName name := ⟨fun he => hdot (.inl he), h.1, fun he => hdot (.inr he), h.2⟩
      obtain ⟨-, -, -, hshort⟩ := eq_of_locate_scenarioRoot h hr
      have hle : name.utf8ByteSize ≤ (scenarioDirName name .generator).utf8ByteSize := by
        simp only [scenarioDirName, String.utf8ByteSize_append]
        omega
      exact locate_join_of_ok hr hplain (Nat.le_trans hle hshort)
  · have hj : (scenarioDirs ws name mode).appDir = (scenarioDirs ws name mode).root.join "app" := by
      simp [scenarioDirs, hg]
    rw [hj, if_neg hg]
    exact locate_join_of_ok hr (by decide) (by decide)

/-- Two scenarios of one workspace whose directory names differ have roots that do not
nest: both roots are one name below the same place. -/
theorem scenarioRoot_apart {name' : String} {mode' : Mode} {r' : Location}
    (h : ConfinedName name) (h' : ConfinedName name') (hne : (name', mode') ≠ (name, mode))
    (hr : locate cwd (scenarioDirs ws name mode).root = .ok r)
    (hr' : locate cwd (scenarioDirs ws name' mode').root = .ok r') : ¬ r <+: r' ∧ ¬ r' <+: r := by
  obtain ⟨w, hw, rfl, -⟩ := eq_of_locate_scenarioRoot h hr
  obtain ⟨w', hw', rfl, -⟩ := eq_of_locate_scenarioRoot h' hr'
  obtain rfl : w = w' := Except.ok.inj (hw.symm.trans hw')
  have hc : scenarioDirName name mode ≠ scenarioDirName name' mode' := fun he => by
    obtain ⟨rfl, rfl⟩ := scenarioDirName_inj he
    exact hne rfl
  -- places of one length nest only when they are equal
  have hnest : ∀ c c' : String, c ≠ c' → ¬ (w ++ [c]) <+: (w ++ [c']) := by
    intro c c' hcc hpre
    exact hcc (by simpa using hpre.eq_of_length (by simp))
  exact ⟨hnest _ _ hc, hnest _ _ (Ne.symm hc)⟩

/-- Removing a root erases its directory name below where the workspace resolves to. -/
theorem removeTree_scenarioRoot {fs fs' : FileTree} (h : ConfinedName name)
    (hr : locate cwd (scenarioDirs ws name mode).root = .ok r) (hrm : removeTree fs r = .ok fs') :
    ∃ w wr, workspacePlace cwd ws = .ok w ∧ fs.resolve true w = .ok wr ∧
      fs' = fs.erase (wr ++ [scenarioDirName name mode]) := by
  obtain ⟨w, hw, rfl, -⟩ := eq_of_locate_scenarioRoot h hr
  obtain ⟨r₀, hres, rfl⟩ := removeTree_eq_erase hrm
  obtain ⟨wr, hwr, rfl⟩ := FileTree.resolve_snoc_nofollow (h.plain mode).not_dotName hres
  exact ⟨w, wr, hw, hwr, rfl⟩

end Confined

/-- The scenario made for an application whose name has no slash and is not `..` works in
directories that stay in the workspace, apart from every other scenario's. -/
theorem scenarioDirs_confined (o : Orchestrator) (app : App.Descriptor) (mode : Mode)
    (h : ConfinedName app.name) :
    (∀ w s, o.newScenario w app mode = .ok s →
      (⟨s.root, s.appDir, s.logsDir⟩ : ScenarioDirs) =
        scenarioDirs o.settings.workspaceDir app.name mode) ∧
    ConfinedDirs o.cwd o.settings.workspaceDir app.name mode := by
  refine ⟨fun _ _ hs => newScenario_dirs hs, ?_⟩
  exact {
    root := locate_scenarioRoot h
    below := fun _ hr => ⟨locate_logsDir hr, locate_appDir h hr⟩
    apart := fun _ _ h' hne _ _ hr hr' => scenarioRoot_apart h h' hne hr hr'
    removal := fun _ _ _ hr hrm => removeTree_scenarioRoot h hr hrm }

/-- Run from `/work` with the default settings, the JVM scenario of `quarkus-rest` works in
the workspace. -/
theorem scenarioDirs_confined_rest :
    ConfinedName "quarkus-rest" ∧
      ((∀ w s, (⟨Settings.atHome none, .linux, .down, [], ["work"], World.waitChild⟩ : Orchestrator).newScenario w
          ⟨"quarkus-rest", "apps/rest", [⟨"/", "Hello"⟩], [], none, [], false⟩ .jvm = .ok s →
          (⟨s.root, s.appDir, s.logsDir⟩ : ScenarioDirs) =
            scenarioDirs (Settings.atHome none).workspaceDir "quarkus-rest" .jvm) ∧
        ConfinedDirs ["work"] (Settings.atHome none).workspaceDir "quarkus-rest" .jvm) :=
  ⟨by decide, scenarioDirs_confined ⟨Settings.atHome none, .linux, .down, [], ["work"], World.waitChild⟩
    ⟨"quarkus-rest", "apps/rest", [⟨"/", "Hello"⟩], [], none, [], false⟩ .jvm (by decide)⟩

/-- The registry accepts an application named `../outside`. With the workspace at `/w`, a
directory, its scenario's root `/w/../outside-jvm` resolves to `/outside-jvm`, beside the
workspace and not below it, and removing the root erases that directory with the file kept
in it, leaving only the workspace. -/
theorem scenarioDirs_escape :
    let fs : FileTree := ⟨[(["w"], .dir), (["outside-jvm"], .dir),
      (["outside-jvm", "precious.txt"], .file [107] false)]⟩
    ((App.Registry.parse
        "[[app]]\nname = \"../outside\"\ndir = \"fake\"\n\n[[app.url]]\npath = \"/\"\nexpected = \"Hello\"\n"
        "apps.toml").toOption.map fun reg => reg.apps.map (·.name)) = some ["../outside"] ∧
      (locate [] (scenarioDirs "/w" "../outside" .jvm).root).toOption =
        some ["w", "..", "outside-jvm"] ∧
      (fs.resolve false ["w", "..", "outside-jvm"]).toOption = some ["outside-jvm"] ∧
      ¬ ["w"] <+: ["outside-jvm"] ∧
      ((removeTree fs ["w", "..", "outside-jvm"]).toOption.map fun fs' => fs'.entries.map (·.1)) =
        some [["w"]] :=
  ⟨by decide +kernel, by decide +kernel, by decide +kernel, by decide, by decide +kernel⟩

end LaunchBench
