import LaunchBench.Probe.Url
import LaunchBench.Host.Scheduler
import LaunchBench.Text.Quoted
import LaunchBench.Text.Lines
import LaunchBench.Text.Utf8
/-!
Readiness probes.

A probe asks for a page again and again until its body contains the expected
text or the time is up. Before each request it reads the clock: once no time
is left it fails, without asking again, with the address, the expected text,
the milliseconds spent and the last body it got, cut to 2048 bytes. A request
may take the request bound or the time left, whichever is less, and between
requests the probe sleeps for the poll interval or the time left, whichever
is less. A body that contains the text ends the probe, with the milliseconds
since its start, at least one, when they are asked for.

A port counts as closed only once a connection to it is refused or reset; a
port that accepts, or an attempt that fails otherwise or runs out of time,
says nothing. A port check tries first and reads the clock after: an attempt
may take the connection bound or the time left, whichever is less, but at
least a millisecond, and the check gives up once no time is left after an
attempt.

Probes are written against a `ProbeHost`: its clock, its requests and
connections, each given a bound, and its sleep. They run for a number of
rounds and give `none` when the rounds run out first. The host's world is one
such host (`Network.host`), where requests and connections take no time and
only sleeping lets time pass; what the network answers is a parameter, and
`Network.down` is a host whose loopback interface is down, where every
request and every connection fails.

* **`Prober.waitForContent_zero`**: with no time given, a probe fails at once.
-/

namespace LaunchBench.Probe

open Host

/-- What a connection attempt finds. -/
inductive Connection where
  /-- The connection was made: something listens. -/
  | accepted
  /-- The connection was refused. -/
  | refused
  /-- The connection was reset. -/
  | reset
  /-- The attempt failed another way, for example for a host name that does not resolve. -/
  | failed
  /-- No answer came within the attempt's bound. -/
  | timedOut
deriving Repr, DecidableEq

/-- Only a refusal or a reset shows that nothing listens any more. -/
def Connection.isClosed : Connection → Bool
  | .refused | .reset => true
  | _ => false

/-- What a prober asks of the host it runs on. -/
structure ProbeHost (σ : Type) where
  /-- The milliseconds on the host's clock. -/
  clock : σ → Nat
  /-- Asks for a page, giving up after the given milliseconds: its body, or `none` when the
  request failed or took too long. -/
  fetch : σ → String → Nat → σ × Option String
  /-- Tries to connect to a host and port, giving up after the given milliseconds. -/
  connect : σ → String → Nat → Nat → σ × Connection
  /-- Sleeps for the given milliseconds. -/
  sleep : σ → Nat → σ

/-- What the network of the host's world answers. -/
structure Network where
  /-- The body of a page asked for within the given milliseconds, or `none` when no answer
  came. -/
  fetch : World → String → Nat → Option String
  /-- A connection to a host and port attempted within the given milliseconds. -/
  connect : World → String → Nat → Nat → Connection

/-- A network where nothing can be reached. -/
def Network.down : Network := ⟨fun _ _ _ => none, fun _ _ _ _ => .failed⟩

/-- The host's world asked through the network `n`: requests and connections take no time,
and sleeping lets the world's processes run. -/
def Network.host (n : Network) : ProbeHost World where
  clock w := w.clock
  fetch w url ms := (w, n.fetch w url ms)
  connect w host port ms := (w, n.connect w host port ms)
  sleep w ms := w.wait ms fun _ => false

/-- A probe that ran out of time. -/
structure ProbeError where
  /-- The address asked for. -/
  url : String
  /-- The text looked for. -/
  expected : String
  /-- The milliseconds spent. -/
  elapsedMs : Nat
  /-- The last body seen, cut to an excerpt. -/
  lastBody : Option String
deriving Repr

/-- The longest body shown in an error, in bytes. -/
def maxExcerpt : Nat := 2048

/-- The character boundary of `s` at or before byte `i` that stepping back one byte at a time
from `i` meets first; the start of a text is one. -/
def boundaryAtOrBefore (s : String) : Nat → Nat
  | 0 => 0
  | i + 1 => if String.Pos.Raw.isValid s ⟨i + 1⟩ then i + 1 else boundaryAtOrBefore s i

/-- A body cut to `maxExcerpt` bytes at a character boundary, marked with `...`. -/
def excerpt (body : String) : String :=
  if body.utf8ByteSize ≤ maxExcerpt then body
  else String.Pos.Raw.extract body 0 ⟨boundaryAtOrBefore body maxExcerpt⟩ ++ "..."

/-- The error's text. -/
def ProbeError.message (e : ProbeError) : String :=
  e.url ++ " did not serve " ++ Text.quote e.expected ++ " within " ++ toString e.elapsedMs ++
    "ms; last response: " ++ e.lastBody.getD "<none>"

/-- How a prober polls, in milliseconds. -/
structure ProberConfig where
  /-- The longest a connection attempt may take. -/
  connectTimeoutMs : Nat
  /-- The longest a request may take. -/
  requestTimeoutMs : Nat
  /-- The pause between requests for a page. -/
  pollMs : Nat
  /-- The pause between connection attempts. -/
  portPollMs : Nat

namespace ProberConfig

variable {σ : Type}

/-- Asks for `url` until its body contains `expected`, for at most `timeoutMs` milliseconds
from `started`, with `last` the last body seen, in at most `rounds` requests: `none` when they
run out first. A body with the text gives the milliseconds since `started`, at least one, when
`measure` asks for them. -/
def contentLoop (c : ProberConfig) (h : ProbeHost σ) (url expected : String)
    (timeoutMs started : Nat) (measure : Bool) :
    Nat → σ → Option String → Option (σ × Except ProbeError (Option Nat))
  | 0, _, _ => none
  | rounds + 1, s, last =>
    let remaining := timeoutMs - (h.clock s - started)
    if remaining = 0 then some (s, .error ⟨url, expected, h.clock s - started, last.map excerpt⟩)
    else
      let (s, body) := h.fetch s url (min c.requestTimeoutMs remaining)
      if body.any (Text.containsText · expected) then
        some (s, .ok (if measure then some (max (h.clock s - started) 1) else none))
      else
        c.contentLoop h url expected timeoutMs started measure rounds
          (h.sleep s (min c.pollMs (timeoutMs - (h.clock s - started)))) (body.or last)

/-- Waits for `url` to serve `expected`, for at most `timeoutMs` milliseconds, in at most
`rounds` requests. -/
def waitForContent (c : ProberConfig) (h : ProbeHost σ) (url : String) (timeoutMs : Nat)
    (expected : String) (measure : Bool) (rounds : Nat) (s : σ) :
    Option (σ × Except ProbeError (Option Nat)) :=
  c.contentLoop h url expected timeoutMs (h.clock s) measure rounds s none

/-- Tries to connect to `host` and `port` until the port is closed, for at most `timeoutMs`
milliseconds from `started`, in at most `rounds` attempts: `none` when they run out first. -/
def portLoop (c : ProberConfig) (h : ProbeHost σ) (host : String) (port timeoutMs started : Nat) :
    Nat → σ → Option (σ × Bool)
  | 0, _ => none
  | rounds + 1, s =>
    let (s, conn) :=
      h.connect s host port (min c.connectTimeoutMs (max (timeoutMs - (h.clock s - started)) 1))
    if conn.isClosed then some (s, true)
    else
      let remaining := timeoutMs - (h.clock s - started)
      if remaining = 0 then some (s, false)
      else c.portLoop h host port timeoutMs started rounds (h.sleep s (min c.portPollMs remaining))

/-- Waits until `host` and `port` refuse connections, for at most `timeoutMs` milliseconds, in
at most `rounds` attempts. -/
def waitForPortClosed (c : ProberConfig) (h : ProbeHost σ) (host : String) (port timeoutMs : Nat)
    (rounds : Nat) (s : σ) : Option (σ × Bool) :=
  c.portLoop h host port timeoutMs (h.clock s) rounds s

end ProberConfig

/-- A prober: how it polls, and the network it asks. -/
structure Prober where
  /-- The network asked. -/
  network : Network
  /-- How it polls. -/
  config : ProberConfig

namespace Prober

/-- Rounds enough for a wait of `timeoutMs` milliseconds on a host whose sleeps last as long
as asked: every round but the last lets a millisecond pass. -/
def rounds (timeoutMs : Nat) : Nat := timeoutMs + 1

/-- Waits on the host's world for a page to contain a text; a wait that does not end within
its rounds has run out of time. -/
def awaitContent (p : Prober) (w : World) (url : String) (timeoutMs : Nat) (expected : String)
    (measure : Bool) : World × Except ProbeError (Option Nat) :=
  (p.config.waitForContent p.network.host url timeoutMs expected measure (rounds timeoutMs) w).getD
    (w, .error ⟨url, expected, timeoutMs, none⟩)

/-- Waits for a page to contain a text, and gives the milliseconds it took, at least one. -/
def waitForContent (p : Prober) (w : World) (url : String) (timeoutMs : Nat) (expected : String) :
    World × Except ProbeError Nat :=
  let (w, r) := p.awaitContent w url timeoutMs expected true
  (w, r.map (·.getD 1))

/-- Checks further pages, each with the whole time. -/
def probeAll (p : Prober) (w : World) (base : String) (pages : List (String × String))
    (timeoutMs : Nat) : World × Except ProbeError Unit :=
  pages.foldl (fun (w, r) (path, expected) =>
    match r with
    | .error e => (w, .error e)
    | .ok () =>
      match p.awaitContent w (joinUrl base path) timeoutMs expected false with
      | (w, .ok _) => (w, .ok ())
      | (w, .error e) => (w, .error e)) (w, .ok ())

/-- Waits until a port is closed; `false` when it never was within the time. -/
def waitForPortClosed (p : Prober) (w : World) (host : String) (port timeoutMs : Nat) :
    World × Bool :=
  (p.config.waitForPortClosed p.network.host host port timeoutMs (rounds timeoutMs) w).getD
    (w, false)

theorem waitForContent_zero (p : Prober) (w : World) (url expected : String) :
    (p.waitForContent w url 0 expected).2.isOk = false := by
  simp [waitForContent, awaitContent, ProberConfig.waitForContent, ProberConfig.contentLoop,
    rounds, Except.map, Except.isOk, Except.toBool]

end Prober

end LaunchBench.Probe
