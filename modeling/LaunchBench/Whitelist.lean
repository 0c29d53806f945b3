import LaunchBench.Platform
import LaunchBench.Pattern.Compile
import LaunchBench.Pattern.ErrorText
import LaunchBench.Text.Quoted
/-!
Whitelists of known log noise.

A whitelist holds patterns for log lines that may carry an error or warning
word without meaning trouble: a baseline that applies to every application,
the application's own patterns, and patterns for the host family. A pattern
must match a whole line, so each is compiled wrapped as `^(?:pattern)$`.
On Windows a shutdown race in development mode leaves a few more lines of
noise, which have patterns of their own.
-/

namespace LaunchBench

/-- Lines that every build and run may print. -/
def baselinePatterns : List String :=
  [".*maven-error-diagnostics.*", ".*errorprone.*", ".*error_prone_annotations.*",
    ".*ErrorProne.*",
    ".*SLF4J: Failed to load class .org\\.slf4j\\.impl\\.StaticLoggerBinder.*",
    ".*SLF4J: Defaulting to no-operation \\(NOP\\) logger implementation.*",
    ".*SLF4J: See http://www\\.slf4j\\.org/codes\\.html.*",
    ".*SLF4J: No SLF4J providers were found.*",
    ".*SLF4J: See https://www\\.slf4j\\.org/codes\\.html.*",
    ".*WARNING: An illegal reflective access operation has occurred.*",
    ".*\\[WARNING\\] .*sun\\.misc\\.Unsafe.*",
    ".*WARNING: .*sun\\.misc\\.Unsafe.*"]

/-- Lines that only a host family's runs print. -/
def osPatterns : OsFamily → List String
  | .linux => [".*io\\.netty\\.channel\\.epoll.*Native.*"]
  | .macOs =>
    [".*objc\\[\\d+\\]: Class .* is implemented in both.*",
      ".*Unable to load io\\.netty\\.resolver\\.dns\\.macos\\.MacOSDnsServerAddressStreamProvider.*"]
  | .windows =>
    [".*Unable to make the Vert\\.x cache directory .* world readable and writable.*",
      ".*Unable to make the Vert\\.x cache directory .* world readable.*",
      ".*Unable to make the Vert\\.x cache directory .* world writable.*"]

/-- The offending text that shows the shutdown race. -/
def shutdownRaceMarker : String := "Shutdown in progress"

/-- The lines dropped once the shutdown race is seen. -/
def shutdownRacePatterns : List String :=
  [".*Shutdown in progress.*", ".*ERROR.*Failed to stop.*", ".*WARN.*Interrupted while.*",
    ".*ERROR.*Failed to run.*"]

/-- A pattern wrapped so that it must match a whole line. -/
def anchored (p : String) : String := "^(?:" ++ p ++ ")$"

/-- A whitelist pattern that cannot be compiled. -/
structure WhitelistError where
  pattern : String
  cause : Pattern.Failure
  deriving DecidableEq, Repr

namespace WhitelistError

/-- The first part of the error's text, which names the pattern. -/
def headline (e : WhitelistError) : String :=
  "invalid whitelist pattern " ++ Text.quote e.pattern

/-- The error's text, with the pattern compiler's explanation. -/
def message (e : WhitelistError) : String :=
  e.headline ++ ": " ++ e.cause.render (anchored e.pattern)

end WhitelistError

/-- Compiles patterns in order, each wrapped to match whole lines, stopping at the first
that fails. -/
def compileAnchored : List String → Except WhitelistError (List Pattern.Compiled)
  | [] => .ok []
  | p :: ps =>
    match Pattern.compile (anchored p) with
    | .error e => .error ⟨p, e⟩
    | .ok c => (compileAnchored ps).map (c :: ·)

/-- The compiled whitelists of an application on a host. -/
structure Whitelist where
  os : OsFamily
  /-- The baseline, then the application's patterns. -/
  app : List Pattern.Compiled
  osSpecific : List Pattern.Compiled
  shutdownRace : List Pattern.Compiled

namespace Whitelist

/-- Compiles the baseline and the application's patterns, then the host's. -/
def build (appPatterns : List String) (os : OsFamily) : Except WhitelistError Whitelist := do
  let base ← compileAnchored baselinePatterns
  let own ← compileAnchored appPatterns
  let osSet ← compileAnchored (osPatterns os)
  let race ← compileAnchored shutdownRacePatterns
  return { os, app := base ++ own, osSpecific := osSet, shutdownRace := race }

/-- Whether a whole line is covered by an application or host pattern. -/
def isWhitelisted (w : Whitelist) (line : String) : Bool :=
  w.app.any (·.isMatch line) || w.osSpecific.any (·.isMatch line)

/-- Whether the host needs the shutdown race exemption: only Windows does. -/
def handlesShutdownRace (w : Whitelist) : Bool :=
  w.os.isWindows

/-- Whether a line is one of the known messages of the shutdown race. -/
def isShutdownRaceNoise (w : Whitelist) (line : String) : Bool :=
  w.shutdownRace.any (·.isMatch line)

end Whitelist

end LaunchBench
