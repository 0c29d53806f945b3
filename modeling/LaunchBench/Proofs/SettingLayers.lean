import LaunchBench.Cli.Run
import LaunchBench.Proofs.Paths
/-!
Layered settings.

The harness settings are built in layers: the defaults (the artifact cache below the home
directory, `HOME` or else the account's), a settings file, the environment's `STARTSTOP_*` variables, and the options of
the command line; relative locations are then read from the settings file's directory, or
from the working directory when no file is read. Each setting is read through `Settings.get`
as one `SettingValue`, so every layer can be described key by key.

* **`Settings.applyKey_eq_takeKey`**: assigning a key over any settings is assigning it over
  the defaults and taking that one key; so a key's value and whether its text is refused do
  not depend on the other settings (`applyKey_get_self`, `applyKey_get_ne`, `applyKey_error`).
* **`Settings.applyLines_get`**: a settings file gives each key its last assignment, and
  leaves the keys it does not assign.
* **`Settings.applyEnvKeys_get`**: each variable present gives its key the value of its
  trimmed text.
* **`Cli.loadSettings_layers`**: the settings load exactly when every layer is accepted, and
  each setting then comes from the first layer that gives it, command line first, with every
  location made absolute.

Design notes: the layers are described through `SettingKey.read?`, the value that assigning
a text to a key over the defaults gives it, so no second reading of values is written here;
`Settings.takeKey` copies one key and is the one place where the keys are told apart.
-/

namespace LaunchBench

/-- The value of one setting, whatever its kind. -/
inductive SettingValue where
  | path (p : HostPath)
  | text (s : String)
  | optionalText (s : Option String)
  | flag (b : Bool)
  | count (n : Nat)
  | tokens (ws : Option (List String))
  deriving DecidableEq, Repr

namespace SettingValue

/-- Reads a relative location from `base`; every other value stays as it is. -/
def resolve (base : HostPath) : SettingValue → SettingValue
  | path p => path (if HostPath.isRelative p then HostPath.join base p else p)
  | v => v

end SettingValue

namespace Settings

/-- The value of a setting. -/
def get (c : Settings) : SettingKey → SettingValue
  | .repoDir => .path c.repoDir
  | .appsFile => .path c.appsFile
  | .workspaceDir => .path c.workspaceDir
  | .archiveDir => .path c.archiveDir
  | .localRepo => .path c.localRepo
  | .version => .text c.version
  | .iterations => .count c.iterations
  | .coldStart => .flag c.coldStart
  | .cleanup => .flag c.cleanup
  | .host => .text c.host
  | .port => .count c.port
  | .expectedListenHost => .optionalText c.expectedListenHost
  | .acceptInvalidCerts => .flag c.acceptInvalidCerts
  | .buildTimeoutSec => .count c.buildTimeoutSec
  | .startTimeoutSec => .count c.startTimeoutSec
  | .coldStartTimeoutSec => .count c.coldStartTimeoutSec
  | .stopWaitSec => .count c.stopWaitSec
  | .portCloseTimeoutSec => .count c.portCloseTimeoutSec
  | .probePollMs => .count c.probePollMs
  | .portPollMs => .count c.portPollMs
  | .connectTimeoutMs => .count c.connectTimeoutMs
  | .requestTimeoutMs => .count c.requestTimeoutMs
  | .buildCmd => .tokens c.templates.build
  | .runCmd => .tokens c.templates.run
  | .nativeBuildCmd => .tokens c.templates.nativeBuild
  | .nativeRunCmd => .tokens c.templates.nativeRun
  | .devCmd => .tokens c.templates.dev
  | .generateCmd => .tokens c.templates.generate

/-- Resolving the settings' paths resolves each value. -/
theorem get_resolvePaths (c : Settings) (base : HostPath) (k : SettingKey) :
    (c.resolvePaths base).get k = (c.get k).resolve base := by
  cases k <;> rfl

/-- The settings `c` with the value of the key `k` taken from `d`. -/
def takeKey (c d : Settings) : SettingKey → Settings
  | .repoDir => { c with repoDir := d.repoDir }
  | .appsFile => { c with appsFile := d.appsFile }
  | .workspaceDir => { c with workspaceDir := d.workspaceDir }
  | .archiveDir => { c with archiveDir := d.archiveDir }
  | .localRepo => { c with localRepo := d.localRepo }
  | .version => { c with version := d.version }
  | .iterations => { c with iterations := d.iterations }
  | .coldStart => { c with coldStart := d.coldStart }
  | .cleanup => { c with cleanup := d.cleanup }
  | .host => { c with host := d.host }
  | .port => { c with port := d.port }
  | .expectedListenHost => { c with expectedListenHost := d.expectedListenHost }
  | .acceptInvalidCerts => { c with acceptInvalidCerts := d.acceptInvalidCerts }
  | .buildTimeoutSec => { c with buildTimeoutSec := d.buildTimeoutSec }
  | .startTimeoutSec => { c with startTimeoutSec := d.startTimeoutSec }
  | .coldStartTimeoutSec => { c with coldStartTimeoutSec := d.coldStartTimeoutSec }
  | .stopWaitSec => { c with stopWaitSec := d.stopWaitSec }
  | .portCloseTimeoutSec => { c with portCloseTimeoutSec := d.portCloseTimeoutSec }
  | .probePollMs => { c with probePollMs := d.probePollMs }
  | .portPollMs => { c with portPollMs := d.portPollMs }
  | .connectTimeoutMs => { c with connectTimeoutMs := d.connectTimeoutMs }
  | .requestTimeoutMs => { c with requestTimeoutMs := d.requestTimeoutMs }
  | .buildCmd => { c with templates := c.templates.set .build d.templates.build }
  | .runCmd => { c with templates := c.templates.set .run d.templates.run }
  | .nativeBuildCmd => { c with templates := c.templates.set .nativeBuild d.templates.nativeBuild }
  | .nativeRunCmd => { c with templates := c.templates.set .nativeRun d.templates.nativeRun }
  | .devCmd => { c with templates := c.templates.set .dev d.templates.dev }
  | .generateCmd => { c with templates := c.templates.set .generate d.templates.generate }

theorem get_takeKey_self (c d : Settings) (k : SettingKey) : (c.takeKey d k).get k = d.get k := by
  cases k <;> rfl

theorem get_takeKey_ne (c d : Settings) {k k' : SettingKey} (hk : k' ≠ k) :
    (c.takeKey d k).get k' = c.get k' := by
  -- every pair of keys; the equal ones contradict `hk`
  cases k <;> cases k' <;> simp only [takeKey, get, TemplateOverrides.set] <;> exact absurd rfl hk

/-- Assigning a key over any settings assigns it over the defaults and takes that key's value:
what a text gives a key does not depend on the other settings, and nothing else changes. -/
theorem applyKey_eq_takeKey (c : Settings) (k : SettingKey) (v : String) :
    c.applyKey k v = (({} : Settings).applyKey k v).map fun d => c.takeKey d k := by
  have hmap : ∀ {α : Type} (g : α → Settings) (x : Except SettingsError α),
      (x.map g).map (fun d => c.takeKey d k) = x.map fun a => c.takeKey (g a) k :=
    fun g x => Functor.map_map g _ x
  cases k
  case repoDir | appsFile | workspaceDir | archiveDir | localRepo | version | host
    | expectedListenHost | buildCmd | runCmd | nativeBuildCmd | nativeRunCmd | devCmd
    | generateCmd => rfl
  -- a number or a yes-or-no word is read the same way on both sides
  all_goals
    simp only [applyKey]
    rw [hmap]
    rfl

end Settings

/-- The value a text gives a setting, when the setting accepts the text. -/
def SettingKey.read? (k : SettingKey) (v : String) : Option SettingValue :=
  ((({} : Settings).applyKey k v).toOption).map (·.get k)

namespace Settings

variable {c c' : Settings} {k k' : SettingKey} {v : String}

theorem applyKey_ok (h : c.applyKey k v = .ok c') :
    ∃ d, ({} : Settings).applyKey k v = .ok d ∧ c' = c.takeKey d k := by
  rw [applyKey_eq_takeKey] at h
  cases hd : ({} : Settings).applyKey k v with
  | error e => rw [hd] at h; cases h
  | ok d => rw [hd] at h; exact ⟨d, rfl, (Except.ok.inj h).symm⟩

/-- Assigning a key leaves every other key as it was. -/
theorem applyKey_get_ne (h : c.applyKey k v = .ok c') (hk : k' ≠ k) : c'.get k' = c.get k' := by
  obtain ⟨d, -, rfl⟩ := applyKey_ok h
  exact get_takeKey_ne c d hk

/-- Assigning a key gives it the value its text gives it. -/
theorem applyKey_get_self (h : c.applyKey k v = .ok c') : k.read? v = some (c'.get k) := by
  obtain ⟨d, hd, rfl⟩ := applyKey_ok h
  simp [SettingKey.read?, hd, Except.toOption, get_takeKey_self]

/-- A text a key refuses is refused over any settings, with the same error. -/
theorem applyKey_error {e : SettingsError} (h : c.applyKey k v = .error e) (d : Settings) :
    d.applyKey k v = .error e := by
  rw [applyKey_eq_takeKey] at h ⊢
  cases hd : ({} : Settings).applyKey k v with
  | error e' => rw [hd] at h; exact h
  | ok d' => rw [hd] at h; cases h

/-- A key accepts a text exactly when the text gives it a value. -/
theorem applyKey_ok_iff : (∃ c', c.applyKey k v = .ok c') ↔ (k.read? v).isSome := by
  rw [applyKey_eq_takeKey]
  cases hd : ({} : Settings).applyKey k v <;> simp [SettingKey.read?, hd, Except.toOption, Except.map]

end Settings

namespace SettingKey

theorem name_injective : Function.Injective SettingKey.name := by
  intro a b h
  have hb := ofName?_name b
  rw [← h, ofName?_name] at hb
  exact Option.some.inj hb

theorem name_of_ofName? {s : String} {k : SettingKey} (h : ofName? s = some k) : k.name = s := by
  simpa using List.find?_some h

theorem mem_all (k : SettingKey) : k ∈ all := by
  cases k <;> decide

end SettingKey

/-! ### The settings file -/

namespace Settings

/-- The key and the value a settings line assigns, both trimmed and the value unquoted;
`none` for a blank line, a comment, or a line without `=`. -/
def assignment? (line : String) : Option (String × String) :=
  let trimmed := Text.trimChars line.toList
  if trimmed.isEmpty || trimmed.head? = some '#' then none
  else (cutAt '=' trimmed).map fun kv =>
    (String.ofList (Text.trimChars kv.1), unquote (String.ofList (Text.trimChars kv.2)))

/-- The value text a line assigns to a key. -/
def lineValue? (k : SettingKey) (line : String) : Option String :=
  (assignment? line).bind fun kv => if kv.1 = k.name then some kv.2 else none

/-- The value text of the last line that assigns a key. -/
def lastValue? (k : SettingKey) (lines : List String) : Option String :=
  (lines.filterMap (lineValue? k)).getLast?

theorem lastValue?_cons (k : SettingKey) (l : String) (ls : List String) :
    lastValue? k (l :: ls) = (lastValue? k ls).or (lineValue? k l) := by
  cases h : lineValue? k l <;> simp [lastValue?, h, List.getLast?_cons]

variable {c c' d : Settings} {k : SettingKey} {l key v : String} {e : SettingsError}

theorem apply_ok (h : c.apply key v = .ok c') : ∃ k, k.name = key ∧ c.applyKey k v = .ok c' := by
  simp only [apply] at h
  split at h
  · next k hk => exact ⟨k, SettingKey.name_of_ofName? hk, h⟩
  · cases h

theorem apply_error (h : c.apply key v = .error e) (d : Settings) : d.apply key v = .error e := by
  simp only [apply] at h ⊢
  split at h
  · exact applyKey_error h d
  · exact h

/-- A line that assigns nothing leaves the settings as they are. -/
theorem applyLine_skip (h : assignment? l = none) (hok : c.applyLine l = .ok c') : c' = c := by
  simp only [assignment?] at h
  simp only [applyLine] at hok
  split at hok
  · exact (Except.ok.inj hok).symm
  · next hs =>
    rw [if_neg hs] at h
    cases hcut : cutAt '=' (Text.trimChars l.toList) with
    | none => rw [hcut] at hok; cases hok
    | some kv => rw [hcut] at h; cases h

/-- A line that assigns a value sets its key from it. -/
theorem applyLine_eq_apply (h : assignment? l = some (key, v)) : c.applyLine l = c.apply key v := by
  simp only [assignment?] at h
  simp only [applyLine]
  split
  · next hs => rw [if_pos hs] at h; cases h
  · next hs =>
    rw [if_neg hs] at h
    obtain ⟨⟨a, b⟩, hcut, hkv⟩ := Option.map_eq_some_iff.1 h
    obtain ⟨rfl, rfl⟩ := Prod.mk.inj hkv
    rw [hcut]

/-- A line that the settings refuse is refused over any settings, with the same error. -/
theorem applyLine_error (h : c.applyLine l = .error e) (d : Settings) :
    d.applyLine l = .error e := by
  simp only [applyLine] at h ⊢
  split at h
  · cases h
  · next hs =>
    rw [if_neg hs]
    cases hcut : cutAt '=' (Text.trimChars l.toList) with
    | none => rw [hcut] at h; exact h
    | some kv => rw [hcut] at h; exact apply_error h d

/-- One line: the key it assigns takes the value of its text, and every other key stays. -/
theorem applyLine_get (h : c.applyLine l = .ok c') (k : SettingKey) :
    (lineValue? k l = none → c'.get k = c.get k) ∧
      ∀ v, lineValue? k l = some v → k.read? v = some (c'.get k) := by
  cases ha : assignment? l with
  | none =>
    obtain rfl := applyLine_skip ha h
    exact ⟨fun _ => rfl, fun v hv => by simp [lineValue?, ha] at hv⟩
  | some kv =>
    obtain ⟨key, val⟩ := kv
    rw [applyLine_eq_apply ha] at h
    obtain ⟨k₀, rfl, hk₀⟩ := apply_ok h
    by_cases hk : k = k₀
    · -- the line assigns `k` itself
      subst hk
      refine ⟨fun hv => by simp [lineValue?, ha] at hv, fun v hv => ?_⟩
      simp only [lineValue?, ha, Option.bind_some, if_true, Option.some.injEq] at hv
      subst hv
      exact applyKey_get_self hk₀
    · -- another key: its name differs from the one the line assigns
      have hname : k₀.name ≠ k.name := fun h => hk (SettingKey.name_injective h).symm
      have hnone : lineValue? k l = none := by simp [lineValue?, ha, hname]
      exact ⟨fun _ => applyKey_get_ne hk₀ hk, fun v hv => by rw [hnone] at hv; cases hv⟩

/-- A settings file read to its end gives each key the value of its last assignment, and
leaves every key it does not assign. The induction is on the lines, over any settings. -/
theorem applyLines_get {ls : List String} (h : c.applyLines ls = (c', none)) (k : SettingKey) :
    (lastValue? k ls = none → c'.get k = c.get k) ∧
      ∀ v, lastValue? k ls = some v → k.read? v = some (c'.get k) := by
  induction ls generalizing c with
  | nil =>
    obtain rfl : c = c' := congrArg Prod.fst h
    exact ⟨fun _ => rfl, fun v hv => by simp [lastValue?] at hv⟩
  | cons l ls ih =>
    cases hl : c.applyLine l with
    | error e => simp [applyLines, hl] at h
    | ok c₁ =>
      simp only [applyLines, hl] at h
      obtain ⟨hstay, hlast⟩ := ih h
      obtain ⟨hstay₁, hlast₁⟩ := applyLine_get hl k
      rw [lastValue?_cons]
      refine ⟨fun hv => ?_, fun v hv => ?_⟩
      · obtain ⟨hls, hl'⟩ := Option.or_eq_none_iff.1 hv
        rw [hstay hls, hstay₁ hl']
      · cases hls : lastValue? k ls with
        | some v' =>
          rw [hls, Option.some_or, Option.some.injEq] at hv
          exact hv ▸ hlast v' hls
        | none =>
          rw [hls, Option.none_or] at hv
          rw [hstay hls]
          exact hlast₁ v hv

/-- Whether a settings file is read to its end does not depend on the settings it is read
over, nor does the error that stops it. -/
theorem applyLines_snd (ls : List String) (c d : Settings) :
    (c.applyLines ls).2 = (d.applyLines ls).2 := by
  induction ls generalizing c d with
  | nil => rfl
  | cons l ls ih =>
    cases hc : c.applyLine l with
    | error e => simp [applyLines, hc, applyLine_error hc d]
    | ok c₁ =>
      cases hd : d.applyLine l with
      | error e => rw [applyLine_error hd c] at hc; cases hc
      | ok d₁ => simp only [applyLines, hc, hd]; exact ih c₁ d₁

/-- A settings file read to its end, as one equation: each key takes the value of its last
assignment, else keeps the one it had. -/
theorem applyLines_get_eq {ls : List String} (h : c.applyLines ls = (c', none)) (k : SettingKey) :
    c'.get k = ((lastValue? k ls).bind k.read?).getD (c.get k) := by
  obtain ⟨hstay, hset⟩ := applyLines_get h k
  cases hv : lastValue? k ls with
  | none => exact hstay hv
  | some v => simp [hset v hv]

/-! ### The environment -/

variable {lookup : String → Option String}

/-- The environment's variables for the given keys, read in turn: the key of each variable
present takes the value of its trimmed text, and every other key stays. The induction is on
the keys, over any settings. -/
theorem applyEnvKeys_get {ks : List SettingKey} (h : c.applyEnvKeys lookup ks = (c', none))
    (k : SettingKey) :
    ((k ∉ ks ∨ lookup k.envName = none) → c'.get k = c.get k) ∧
      ∀ v, k ∈ ks → lookup k.envName = some v → k.read? (Text.trimBlank v) = some (c'.get k) := by
  induction ks generalizing c with
  | nil =>
    obtain rfl : c = c' := congrArg Prod.fst h
    exact ⟨fun _ => rfl, fun v hk => absurd hk List.not_mem_nil⟩
  | cons k₀ ks ih =>
    cases hl : lookup k₀.envName with
    | none =>
      simp only [applyEnvKeys, hl] at h
      obtain ⟨hstay, hset⟩ := ih h
      refine ⟨fun hk => hstay (hk.imp (fun hk hm => hk (List.mem_cons_of_mem _ hm)) id),
        fun v hk hv => hset v ?_ hv⟩
      -- `k₀` has no variable, so the variable found is another key's
      rcases List.mem_cons.1 hk with rfl | hm
      · rw [hl] at hv; cases hv
      · exact hm
    | some v₀ =>
      cases ha : c.applyKey k₀ (Text.trimBlank v₀) with
      | error e => simp [applyEnvKeys, hl, ha] at h
      | ok c₁ =>
        simp only [applyEnvKeys, hl, ha] at h
        obtain ⟨hstay, hset⟩ := ih h
        refine ⟨fun hk => ?_, fun v hk hv => ?_⟩
        · have hne : k ≠ k₀ := by
            rintro rfl
            rcases hk with hk | hk
            · exact hk List.mem_cons_self
            · rw [hl] at hk; cases hk
          rw [hstay (hk.imp (fun hk hm => hk (List.mem_cons_of_mem _ hm)) id),
            applyKey_get_ne ha hne]
        · by_cases hm : k ∈ ks
          · exact hset v hm hv
          · -- the key is `k₀`, read from this variable and left by the later ones
            obtain rfl : k = k₀ := (List.mem_cons.1 hk).resolve_right hm
            rw [hl, Option.some.injEq] at hv
            subst hv
            rw [hstay (.inl hm)]
            exact applyKey_get_self ha

/-- The environment is read to its end exactly when every variable present is accepted by
its key once trimmed. -/
theorem applyEnvKeys_snd_eq_none (c : Settings) (lookup : String → Option String)
    (ks : List SettingKey) :
    (c.applyEnvKeys lookup ks).2 = none ↔
      ∀ k ∈ ks, ∀ v, lookup k.envName = some v → (k.read? (Text.trimBlank v)).isSome := by
  induction ks generalizing c with
  | nil => simp [applyEnvKeys]
  | cons k₀ ks ih =>
    rw [List.forall_mem_cons]
    cases hl : lookup k₀.envName with
    | none => simp only [applyEnvKeys, hl, ih, reduceCtorEq, false_implies, implies_true, true_and]
    | some v₀ =>
      cases ha : c.applyKey k₀ (Text.trimBlank v₀) with
      | error e =>
        -- the refused variable stops the reading
        have hrefused : (k₀.read? (Text.trimBlank v₀)).isSome = false := by
          rw [Bool.eq_false_iff]
          intro hs
          obtain ⟨c₁, hc₁⟩ := applyKey_ok_iff.2 hs
          rw [ha] at hc₁
          cases hc₁
        simp [applyEnvKeys, hl, ha, hrefused]
      | ok c₁ =>
        have haccepted : (k₀.read? (Text.trimBlank v₀)).isSome := applyKey_ok_iff.1 ⟨c₁, ha⟩
        simp [applyEnvKeys, hl, ha, ih, haccepted]

/-- The environment read to its end, as one equation: a key with a variable takes the value of
its trimmed text, else keeps the one it had. -/
theorem applyEnv_get_eq (h : c.applyEnv lookup = (c', none)) (k : SettingKey) :
    c'.get k = ((lookup k.envName).bind fun v => k.read? (Text.trimBlank v)).getD (c.get k) := by
  obtain ⟨hstay, hset⟩ := applyEnvKeys_get h k
  cases hv : lookup k.envName with
  | none => exact hstay (.inr hv)
  | some v => simp [hset v (SettingKey.mem_all k) hv]

end Settings

/-! ### Loading the settings -/

namespace Cli

open Host

/-- The value each option of the command line gives a key: the registry, read from the
working directory `base`, the iteration count and the port; the two switches can only turn a
cold start on and the cleanup off. -/
def Invocation.flagValue? (inv : Invocation) (base : HostPath) : SettingKey → Option SettingValue
  | .appsFile => inv.apps.map fun a => .path (HostPath.join base a)
  | .iterations => inv.iterations.map .count
  | .port => inv.port.map .count
  | .coldStart => if inv.coldStart then some (.flag true) else none
  | .cleanup => if inv.noCleanup then some (.flag false) else none
  | _ => none

/-- The command line sets the keys it has a value for and leaves the others. -/
theorem get_applyFlags (inv : Invocation) (base : HostPath) (c : Settings) (k : SettingKey) :
    (inv.applyFlags base c).get k = (inv.flagValue? base k).getD (c.get k) := by
  obtain ⟨config, apps, iterations, coldStart, noCleanup, port, command⟩ := inv
  cases k
  case appsFile => cases apps <;> rfl
  case iterations => cases iterations <;> rfl
  case port => cases port <;> rfl
  case coldStart => cases coldStart <;> rfl
  case cleanup => cases noCleanup <;> rfl
  -- no option sets the other keys
  all_goals rfl

/-- The settings over `c` after the settings file at `path`, with the error that stopped it;
`c` itself when no file is read. -/
def fileLayer (w : World) (cwd : Location) (path : Option HostPath) (c : Settings) :
    Settings × Option SettingsError :=
  match path with
  | some p => c.loadFile w.files cwd p
  | none => (c, none)

/-- The text of the settings file, when one is read and it can be read. -/
def fileText? (w : World) (cwd : Location) (inv : Invocation) : Option String :=
  (configPath w cwd inv).bind fun p => (w.files.readTextAt cwd p).toOption

variable {w : World} {lookup : String → Option String} {accountHome : Option HostPath}
  {cwd : Location} {inv : Invocation} {c c' : Settings}

/-- The settings are loaded exactly when the file is read to its end, then the environment,
and the iteration count given is not zero; they are then the command line's over those, with
their relative paths read from the file's directory. -/
theorem loadSettings_eq_ok_iff :
    loadSettings w lookup accountHome cwd inv = .ok c ↔
      ∃ cF cE, fileLayer w cwd (configPath w cwd inv)
          (Settings.atHome (homeDir lookup accountHome)) = (cF, none) ∧
        cF.applyEnv lookup = (cE, none) ∧ inv.iterations ≠ some 0 ∧
        c = (inv.applyFlags cwd.render cE).resolvePaths (configDir cwd.render (configPath w cwd inv)) := by
  unfold loadSettings
  generalize Settings.atHome (homeDir lookup accountHome) = c₀
  generalize configPath w cwd inv = path
  -- each layer either stops the loading with its error or hands its settings on
  cases path with
  | none =>
    rcases he : c₀.applyEnv lookup with ⟨cE, _ | e⟩
    · by_cases hi : inv.iterations = some 0
      · simp [fileLayer, he, hi, bind, Except.bind, pure, Except.pure, throw, throwThe]
      · simp [fileLayer, he, hi, bind, Except.bind, pure, Except.pure, eq_comm]
    · simp [fileLayer, he, bind, Except.bind, pure, Except.pure, throw, throwThe]
  | some p =>
    rcases hf : c₀.loadFile w.files cwd p with ⟨cF, _ | e⟩
    · rcases he : cF.applyEnv lookup with ⟨cE, _ | e'⟩
      · by_cases hi : inv.iterations = some 0
        · simp [fileLayer, hf, he, hi, bind, Except.bind, pure, Except.pure, throw, throwThe]
        · simp [fileLayer, hf, he, hi, bind, Except.bind, pure, Except.pure, eq_comm]
      · simp [fileLayer, hf, he, bind, Except.bind, pure, Except.pure, throw, throwThe]
    · simp [fileLayer, hf, bind, Except.bind, pure, Except.pure, throw, throwThe]

/-- The settings file is read to its end exactly when, if a file is read, its text can be read
and every line of it is accepted. -/
theorem fileLayer_snd_eq_none (path : Option HostPath) (c : Settings) :
    (fileLayer w cwd path c).2 = none ↔
      ∀ p, path = some p →
        ∃ text, w.files.readTextAt cwd p = .ok text ∧ (Settings.parseContent {} text).2 = none := by
  cases path with
  | none => simp [fileLayer]
  | some p =>
    simp only [fileLayer, Settings.loadFile, Option.some.injEq, forall_eq']
    cases hr : w.files.readTextAt cwd p with
    | error e => simp
    | ok text =>
      simp only [Except.ok.injEq, exists_eq_left', Settings.parseContent]
      rw [Settings.applyLines_snd _ c {}]

/-- After the settings file, each key has the value of its last assignment there, else the
one it had. -/
theorem fileLayer_get_eq {path : Option HostPath} (h : fileLayer w cwd path c = (c', none))
    (k : SettingKey) :
    c'.get k = ((path.bind fun p => (w.files.readTextAt cwd p).toOption).bind fun text =>
      (Settings.lastValue? k (Text.lines text)).bind k.read?).getD (c.get k) := by
  cases path with
  | none =>
    obtain rfl : c = c' := congrArg Prod.fst h
    rfl
  | some p =>
    simp only [fileLayer, Settings.loadFile] at h
    cases hr : w.files.readTextAt cwd p with
    | error e => rw [hr] at h; cases h
    | ok text =>
      rw [hr] at h
      rw [Option.bind_some, hr]
      exact Settings.applyLines_get_eq h k

/-- Every location resolved from an absolute directory is absolute. -/
theorem resolvePaths_absolute {base : HostPath} (hb : HostPath.isAbsolute base = true)
    (c : Settings) :
    ∀ p ∈ [(c.resolvePaths base).repoDir, (c.resolvePaths base).appsFile,
      (c.resolvePaths base).workspaceDir, (c.resolvePaths base).archiveDir,
      (c.resolvePaths base).localRepo], HostPath.isAbsolute p = true := by
  have hfix : ∀ p : HostPath,
      HostPath.isAbsolute (if HostPath.isRelative p then HostPath.join base p else p) = true := by
    intro p
    cases hp : HostPath.isAbsolute p
    · simp [HostPath.isRelative, hp, HostPath.isAbsolute_join hb]
    · simp [HostPath.isRelative, hp]
  simp [Settings.resolvePaths, hfix]

theorem configDir_absolute {base : HostPath} (hb : HostPath.isAbsolute base = true)
    (path : Option HostPath) : HostPath.isAbsolute (configDir base path) = true := by
  unfold configDir
  split
  · split
    · exact hb
    · exact HostPath.isAbsolute_join hb _
  · exact hb

/-- How the settings are loaded. They load exactly when the settings file, if one is read, can
be read and is accepted line by line, every `STARTSTOP_*` variable present is accepted by its
key once trimmed, and the iteration count given is not zero. Each setting then comes from the
first of these that gives it: its option on the command line, its variable, the file's last
assignment of it, and the default. A relative location is then read from the file's
directory, or from the working directory when no file is read; the registry named on the
command line is read from the working directory; and all five locations are absolute. -/
theorem loadSettings_layers (w : World) (lookup : String → Option String)
    (accountHome : Option HostPath) (cwd : Location) (inv : Invocation) :
    ((∃ c, loadSettings w lookup accountHome cwd inv = .ok c) ↔
      (∀ p, configPath w cwd inv = some p →
        ∃ text, w.files.readTextAt cwd p = .ok text ∧ (Settings.parseContent {} text).2 = none) ∧
      (∀ (k : SettingKey) v, lookup k.envName = some v → (k.read? (Text.trimBlank v)).isSome) ∧
      inv.iterations ≠ some 0) ∧
    ∀ c, loadSettings w lookup accountHome cwd inv = .ok c →
      (∀ k : SettingKey, c.get k = (((inv.flagValue? cwd.render k).or
          (((lookup k.envName).bind fun v => k.read? (Text.trimBlank v)).or
            ((fileText? w cwd inv).bind fun text =>
              (Settings.lastValue? k (Text.lines text)).bind k.read?))).getD
          ((Settings.atHome (homeDir lookup accountHome)).get k)).resolve
            (configDir cwd.render (configPath w cwd inv))) ∧
      (∀ a, inv.apps = some a → c.appsFile = HostPath.join cwd.render a) ∧
      ∀ p ∈ [c.repoDir, c.appsFile, c.workspaceDir, c.archiveDir, c.localRepo],
        HostPath.isAbsolute p = true := by
  refine ⟨⟨fun ⟨c, hc⟩ => ?_, fun ⟨hfile, henv, hiter⟩ => ?_⟩, fun c hc => ?_⟩
  · -- loaded: each layer was read to its end
    obtain ⟨cF, cE, hF, hE, hiter, -⟩ := loadSettings_eq_ok_iff.1 hc
    have henv := (Settings.applyEnvKeys_snd_eq_none cF lookup SettingKey.all).1
      (congrArg Prod.snd hE)
    exact ⟨(fileLayer_snd_eq_none _ _).1 (congrArg Prod.snd hF),
      fun k v hv => henv k (SettingKey.mem_all k) v hv, hiter⟩
  · -- each layer is read to its end and hands its settings on
    obtain ⟨cF, hF⟩ : ∃ cF, fileLayer w cwd (configPath w cwd inv)
        (Settings.atHome (homeDir lookup accountHome)) = (cF, none) :=
      ⟨_, Prod.ext rfl ((fileLayer_snd_eq_none _ _).2 hfile)⟩
    obtain ⟨cE, hE⟩ : ∃ cE, cF.applyEnv lookup = (cE, none) :=
      ⟨_, Prod.ext rfl ((Settings.applyEnvKeys_snd_eq_none cF lookup _).2
        fun k _ v hv => henv k v hv)⟩
    exact ⟨_, loadSettings_eq_ok_iff.2 ⟨cF, cE, hF, hE, hiter, rfl⟩⟩
  · obtain ⟨cF, cE, hF, hE, -, rfl⟩ := loadSettings_eq_ok_iff.1 hc
    have hbase := Location.isAbsolute_render cwd
    refine ⟨fun k => ?_, fun a ha => ?_, resolvePaths_absolute (configDir_absolute hbase _) _⟩
    · -- one key through the four layers, then through the reading of relative locations
      rw [Settings.get_resolvePaths, get_applyFlags, Settings.applyEnv_get_eq hE,
        fileLayer_get_eq hF, Option.getD_or, Option.getD_or]
      rfl
    · -- the registry named on the command line is already absolute
      have habs := HostPath.isAbsolute_join hbase a
      simp [Settings.resolvePaths, Invocation.applyFlags, ha, HostPath.isRelative, habs]

end Cli

end LaunchBench
