/-!
Setting keys.

The harness is configured by twenty-eight named settings. This module lists
them, in the order in which the environment is consulted, and says what kind
of value each one takes.
-/

namespace LaunchBench

/-- A named harness setting. -/
inductive SettingKey where
  | repoDir | appsFile | workspaceDir | archiveDir | localRepo | version
  | iterations | coldStart | cleanup | host | port | expectedListenHost
  | acceptInvalidCerts | buildTimeoutSec | startTimeoutSec | coldStartTimeoutSec
  | stopWaitSec | portCloseTimeoutSec | probePollMs | portPollMs | connectTimeoutMs
  | requestTimeoutMs | buildCmd | runCmd | nativeBuildCmd | nativeRunCmd | devCmd
  | generateCmd
  deriving DecidableEq, Repr, Inhabited

/-- The kind of value a setting takes, which fixes how its text is read. -/
inductive SettingKind where
  /-- A path, taken as written. -/
  | path
  /-- A text, taken as written. -/
  | text
  /-- A text, where the empty text means "not set". -/
  | optionalText
  /-- A yes-or-no word. -/
  | flag
  /-- An unsigned numeral of the given width. -/
  | count (bits : Nat)
  /-- An unsigned numeral of the given width that must not be zero. -/
  | positive (bits : Nat)
  /-- A command line, split into words; no words means "use the built-in one". -/
  | tokens
  deriving DecidableEq, Repr

namespace SettingKey

/-- The setting's name in files and in the environment. -/
def name : SettingKey → String
  | repoDir => "repo_dir"
  | appsFile => "apps_file"
  | workspaceDir => "workspace_dir"
  | archiveDir => "archive_dir"
  | localRepo => "local_repo"
  | version => "version"
  | iterations => "iterations"
  | coldStart => "cold_start"
  | cleanup => "cleanup"
  | host => "host"
  | port => "port"
  | expectedListenHost => "expected_listen_host"
  | acceptInvalidCerts => "accept_invalid_certs"
  | buildTimeoutSec => "build_timeout_sec"
  | startTimeoutSec => "start_timeout_sec"
  | coldStartTimeoutSec => "cold_start_timeout_sec"
  | stopWaitSec => "stop_wait_sec"
  | portCloseTimeoutSec => "port_close_timeout_sec"
  | probePollMs => "probe_poll_ms"
  | portPollMs => "port_poll_ms"
  | connectTimeoutMs => "connect_timeout_ms"
  | requestTimeoutMs => "request_timeout_ms"
  | buildCmd => "build_cmd"
  | runCmd => "run_cmd"
  | nativeBuildCmd => "native_build_cmd"
  | nativeRunCmd => "native_run_cmd"
  | devCmd => "dev_cmd"
  | generateCmd => "generate_cmd"

/-- All settings, in the order in which the environment is consulted. -/
def all : List SettingKey :=
  [repoDir, appsFile, workspaceDir, archiveDir, localRepo, version, iterations, coldStart,
    cleanup, host, port, expectedListenHost, acceptInvalidCerts, buildTimeoutSec,
    startTimeoutSec, coldStartTimeoutSec, stopWaitSec, portCloseTimeoutSec, probePollMs,
    portPollMs, connectTimeoutMs, requestTimeoutMs, buildCmd, runCmd, nativeBuildCmd,
    nativeRunCmd, devCmd, generateCmd]

/-- The setting with a given name. -/
def ofName? (s : String) : Option SettingKey :=
  all.find? fun k => k.name = s

/-- The kind of value a setting takes. -/
def kind : SettingKey → SettingKind
  | repoDir | appsFile | workspaceDir | archiveDir | localRepo => .path
  | version | host => .text
  | expectedListenHost => .optionalText
  | coldStart | cleanup | acceptInvalidCerts => .flag
  | port => .count 16
  | iterations => .positive 32
  | buildTimeoutSec | startTimeoutSec | coldStartTimeoutSec | stopWaitSec
  | portCloseTimeoutSec => .count 64
  | probePollMs | portPollMs | connectTimeoutMs | requestTimeoutMs => .positive 64
  | buildCmd | runCmd | nativeBuildCmd | nativeRunCmd | devCmd | generateCmd => .tokens

/-- The name of the environment variable that overrides a setting. -/
def envName (k : SettingKey) : String :=
  "STARTSTOP_" ++ String.ofList (k.name.toList.map Char.toUpper)

theorem ofName?_name (k : SettingKey) : ofName? k.name = some k := by
  cases k <;> decide

end SettingKey

end LaunchBench
