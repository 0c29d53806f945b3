import LaunchBench.Settings.Basic
import LaunchBench.Host.Errno
import LaunchBench.Settings.Key
import LaunchBench.Text.Blank
import LaunchBench.Text.Lines
import LaunchBench.Text.Numeral
/-!
Reading settings.

Settings come as `key = value` lines: blank lines and lines starting with `#`
are skipped, the key and the value are trimmed, and a value wrapped in a pair
of double or single quotes loses them. Environment variables named after the
keys override single settings; their values are trimmed but not unquoted.
Relative paths are finally read from a base directory.

Reading stops at the first bad line or variable. What was read before it
stays in effect, so each reader returns the settings together with the error,
if any.
-/

namespace LaunchBench

/-- Why a setting could not be read. -/
inductive SettingsError where
  /-- The settings file could not be read; the reason is the system's text. -/
  | unreadable (reason : Host.IoError)
  /-- A line that is neither blank, a comment, nor `key = value`. -/
  | invalidLine (line : String)
  /-- A key that names no setting. -/
  | unknownKey (key : String)
  | invalidBool (key value : String)
  | invalidInt (key value : String)
  /-- A zero where the setting must be positive. -/
  | notPositive (key : String)
  deriving DecidableEq, Repr

namespace SettingsError

/-- The error's text. -/
def message : SettingsError → String
  | unreadable r => "failed to read config file: " ++ r.message
  | invalidLine l => "invalid config line: " ++ l
  | unknownKey k => "invalid config line: unknown config key: " ++ k
  | invalidBool k v => "invalid boolean value for " ++ k ++ ": " ++ v
  | invalidInt k v => "invalid integer value for " ++ k ++ ": " ++ v
  | notPositive k => "invalid value for " ++ k ++ ": must be positive"

end SettingsError

namespace Settings

/-- Reads a yes-or-no word, ignoring the case of letters. Only ASCII letters occur in
the accepted words, and no other character has one of them as its lower case, so
lowering ASCII letters alone decides the same. -/
def readFlag? (v : String) : Option Bool :=
  let w := String.ofList (v.toList.map Char.toLower)
  if w ∈ ["true", "1", "yes", "y", "on"] then some true
  else if w ∈ ["false", "0", "no", "n", "off"] then some false
  else none

/-- Reads the value of a setting of the given kind as a number. -/
def readNumber (k : SettingKey) (bits : Nat) (positive : Bool) (v : String) :
    Except SettingsError Nat :=
  match Text.readWord? bits v with
  | none => .error (.invalidInt k.name v)
  | some n => if positive && n = 0 then .error (.notPositive k.name) else .ok n

/-- Reads a yes-or-no setting. -/
def readBool (k : SettingKey) (v : String) : Except SettingsError Bool :=
  match readFlag? v with
  | some b => .ok b
  | none => .error (.invalidBool k.name v)

/-- A command line's words; no words means the built-in template. -/
def readTokens (v : String) : Option (List String) :=
  match Text.words v with
  | [] => none
  | ws => some ws

/-- Sets one setting from its text. -/
def applyKey (c : Settings) (k : SettingKey) (v : String) : Except SettingsError Settings :=
  match k with
  | .repoDir => .ok { c with repoDir := v }
  | .appsFile => .ok { c with appsFile := v }
  | .workspaceDir => .ok { c with workspaceDir := v }
  | .archiveDir => .ok { c with archiveDir := v }
  | .localRepo => .ok { c with localRepo := v }
  | .version => .ok { c with version := v }
  | .host => .ok { c with host := v }
  | .expectedListenHost => .ok { c with expectedListenHost := if v.isEmpty then none else some v }
  | .port => (readNumber k 16 false v).map fun n => { c with port := n }
  | .iterations => (readNumber k 32 true v).map fun n => { c with iterations := n }
  | .coldStart => (readBool k v).map fun b => { c with coldStart := b }
  | .cleanup => (readBool k v).map fun b => { c with cleanup := b }
  | .acceptInvalidCerts => (readBool k v).map fun b => { c with acceptInvalidCerts := b }
  | .buildTimeoutSec => (readNumber k 64 false v).map fun n => { c with buildTimeoutSec := n }
  | .startTimeoutSec => (readNumber k 64 false v).map fun n => { c with startTimeoutSec := n }
  | .coldStartTimeoutSec =>
    (readNumber k 64 false v).map fun n => { c with coldStartTimeoutSec := n }
  | .stopWaitSec => (readNumber k 64 false v).map fun n => { c with stopWaitSec := n }
  | .portCloseTimeoutSec =>
    (readNumber k 64 false v).map fun n => { c with portCloseTimeoutSec := n }
  | .probePollMs => (readNumber k 64 true v).map fun n => { c with probePollMs := n }
  | .portPollMs => (readNumber k 64 true v).map fun n => { c with portPollMs := n }
  | .connectTimeoutMs => (readNumber k 64 true v).map fun n => { c with connectTimeoutMs := n }
  | .requestTimeoutMs => (readNumber k 64 true v).map fun n => { c with requestTimeoutMs := n }
  | .buildCmd => .ok { c with templates := c.templates.set .build (readTokens v) }
  | .runCmd => .ok { c with templates := c.templates.set .run (readTokens v) }
  | .nativeBuildCmd => .ok { c with templates := c.templates.set .nativeBuild (readTokens v) }
  | .nativeRunCmd => .ok { c with templates := c.templates.set .nativeRun (readTokens v) }
  | .devCmd => .ok { c with templates := c.templates.set .dev (readTokens v) }
  | .generateCmd => .ok { c with templates := c.templates.set .generate (readTokens v) }

/-- Sets the setting named `key` from its text. -/
def apply (c : Settings) (key : String) (v : String) : Except SettingsError Settings :=
  match SettingKey.ofName? key with
  | some k => c.applyKey k v
  | none => .error (.unknownKey key)

/-- Removes one pair of matching double or single quotes around a value. -/
def unquote (v : String) : String :=
  let cs := v.toList
  if 2 ≤ cs.length &&
      ((cs.head? = some '"' && cs.getLast? = some '"') ||
        (cs.head? = some '\'' && cs.getLast? = some '\'')) then
    String.ofList (cs.drop 1).dropLast
  else v

/-- Cuts a list of characters at its first `c`. -/
def cutAt (c : Char) (cs : List Char) : Option (List Char × List Char) :=
  match cs.idxOf? c with
  | some i => some (cs.take i, cs.drop (i + 1))
  | none => none

/-- Applies one line of a settings file. -/
def applyLine (c : Settings) (line : String) : Except SettingsError Settings :=
  let trimmed := Text.trimChars line.toList
  if trimmed.isEmpty || trimmed.head? = some '#' then .ok c
  else
    match cutAt '=' trimmed with
    | none => .error (.invalidLine line)
    | some (key, value) =>
      c.apply (String.ofList (Text.trimChars key)) (unquote (String.ofList (Text.trimChars value)))

/-- Applies lines in turn, stopping at the first bad one with what was set before it. -/
def applyLines (c : Settings) : List String → Settings × Option SettingsError
  | [] => (c, none)
  | l :: ls =>
    match c.applyLine l with
    | .ok c' => applyLines c' ls
    | .error e => (c, some e)

/-- Reads the text of a settings file over the current settings. -/
def parseContent (c : Settings) (content : String) : Settings × Option SettingsError :=
  c.applyLines (Text.lines content)

/-- Applies the environment's overrides for the given keys in turn. -/
def applyEnvKeys (c : Settings) (lookup : String → Option String) :
    List SettingKey → Settings × Option SettingsError
  | [] => (c, none)
  | k :: ks =>
    match lookup k.envName with
    | none => applyEnvKeys c lookup ks
    | some v =>
      match c.applyKey k (Text.trimBlank v) with
      | .ok c' => applyEnvKeys c' lookup ks
      | .error e => (c, some e)

/-- Applies the environment's overrides, consulting the settings in their listed order. -/
def applyEnv (c : Settings) (lookup : String → Option String) : Settings × Option SettingsError :=
  c.applyEnvKeys lookup SettingKey.all

/-- Reads every relative path of the settings from `base`. -/
def resolvePaths (c : Settings) (base : HostPath) : Settings :=
  let fix (p : HostPath) : HostPath := if HostPath.isRelative p then HostPath.join base p else p
  { c with
    repoDir := fix c.repoDir
    appsFile := fix c.appsFile
    workspaceDir := fix c.workspaceDir
    archiveDir := fix c.archiveDir
    localRepo := fix c.localRepo }

end Settings

end LaunchBench
