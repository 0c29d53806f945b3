import LaunchBench.Platform
import LaunchBench.HostPath
import LaunchBench.Command.Template
/-!
Harness settings.

The settings say where the applications and their registry live, where a
scenario works and where its results are archived, which host and port the
application listens on, how many start and stop cycles a scenario makes, and
how long each step may take. Every setting has a default; the values derived
from them (timeouts in whole seconds, the base address, the measurements file
of a mode) are computed here.
-/

namespace LaunchBench

/-- The harness settings. -/
structure Settings where
  repoDir : HostPath := "."
  appsFile : HostPath := "apps.toml"
  workspaceDir : HostPath := "target/startstop"
  archiveDir : HostPath := "target/startstop-archive"
  /-- The local artifact cache handed to the build tool; by default below
  the home directory (see `Settings.atHome`). -/
  localRepo : HostPath := ".m2/repository"
  version : String := "999-SNAPSHOT"
  host : String := "localhost"
  port : Nat := 8080
  /-- When set, a run's log must say that it listens on this host. -/
  expectedListenHost : Option String := none
  /-- Whether self-signed certificates are accepted when probing. -/
  acceptInvalidCerts : Bool := true
  iterations : Nat := 10
  coldStart : Bool := false
  /-- Whether the scenario's directory is deleted once everything is archived. -/
  cleanup : Bool := true
  buildTimeoutSec : Nat := 1200
  startTimeoutSec : Nat := 60
  coldStartTimeoutSec : Nat := 600
  stopWaitSec : Nat := 180
  portCloseTimeoutSec : Nat := 60
  probePollMs : Nat := 100
  portPollMs : Nat := 1000
  connectTimeoutMs : Nat := 500
  requestTimeoutMs : Nat := 5000
  templates : TemplateOverrides := {}
  deriving DecidableEq, Repr, Inhabited

namespace Settings

/-- The default settings for a user whose home directory is `home`, if known:
the artifact cache is the one below that directory. -/
def atHome (home : Option HostPath) : Settings :=
  match home with
  | some h => { localRepo := HostPath.join h ".m2/repository" }
  | none => {}

/-- How long, in seconds, a started application may take to answer; longer for a cold start. -/
def startTimeoutS (c : Settings) : Nat :=
  if c.coldStart then c.coldStartTimeoutSec else c.startTimeoutSec

/-- The address the readiness probes are sent to. -/
def baseUrl (c : Settings) : String :=
  "http://" ++ c.host ++ ":" ++ toString c.port

/-- The file that collects the measurements of every scenario run in a mode. -/
def measurementsLog (c : Settings) (m : Mode) : HostPath :=
  HostPath.join c.archiveDir ("measurements-" ++ m.name ++ ".csv")

end Settings

end LaunchBench
