import PluginKit.Client
import PluginKit.Handshake
import PluginKit.Host.Basic
import PluginKit.Instance
import PluginKit.Network

/-!
# Starting plugins

To start an instance a host compares the binary with its hash, takes away an old socket file, runs the
binary with the launch configuration, waits until the instance listens and asks whether it is alive.

## Main statements

- `start_unverified`: a binary that does not have its hash is not run.
-/

namespace PluginKit.Startup

/-- The arguments that hand over a configuration. -/
def arguments (l : LaunchConfig) : List String := ["--config", l.text]

/-- Takes away what an older instance has left. What cannot be taken away stays. -/
def clear (l : LaunchConfig) (fs : Files) : Files :=
  match l.connection with
  | .socket => (fs.remove l.socketPath).toOption.getD fs
  | .tcp => fs

/-! ## Waiting -/

/-- When an instance is ready and where it listens, nothing if the wait has no end. -/
def readiness (id : PluginId) (l : LaunchConfig) (c : HandshakeConfig) (fs : Files) (x : Execution) :
    Option (Handshake.Timed Place) :=
  match l.connection with
  | .socket =>
    some (Handshake.waitForSocket id l.socketPath c
      (fun time => (x.filesBefore fs time).pathExists l.socketPath) x)
  | .tcp => Handshake.waitForAddress id x

/-- Whether a wait ends within its limit. A wait without any look ends at once. -/
def inTime (l : LaunchConfig) (c : HandshakeConfig) (time : Nat) : Bool :=
  time < 1000 * c.timeoutSeconds || (l.connection == .socket && c.pollAttempts == 0)

/-- The end of a wait that took too long. -/
def expiry (id : PluginId) (c : HandshakeConfig) : Handshake.Timed Place where
  time := 1000 * c.timeoutSeconds
  outcome := .error (.handshakeTimeout id c.timeout)

/-- Waits for an instance as long as that may take. -/
def await (id : PluginId) (l : LaunchConfig) (c : HandshakeConfig) (fs : Files) (x : Execution) :
    Handshake.Timed Place :=
  match readiness id l c fs x with
  | some t => if inTime l c t.time then t else expiry id c
  | none => expiry id c

/-! ## Starting -/

/-- The fault of a binary that cannot be run. -/
def spawnFault (d : PluginDescriptor) (e : IoError) : Fault :=
  .start d.id ("failed to spawn " ++ d.path ++ ": " ++ e.message)

/-- An instance that listens has to be alive. -/
def greet (net : Network Site) (ids : Nat → Telemetry.RequestId) (documents : Schema.Documents)
    (id : PluginId) (place : Place) : Effect Site (Started Site) := .ofFunction fun site =>
  let client : Client Site := { plugin := id, send := net place, ids, documents }
  let (alive, link) := client.ping.run { world := site }
  (alive.map fun () =>
    { place, process := { plugin := id, exitAfter := some 0 }, send := net place, ids, documents,
      world := link.world }, link.world)

/-- Starts the instance of a plugin for a capability. How long that takes comes with the outcome. -/
def start (net : Network Site) (ids : Nat → Telemetry.RequestId) (documents : Schema.Documents)
    (c : ManagerConfig) (d : PluginDescriptor) (cap : Capability) (site : Site) :
    Start Site × Site :=
  match d.verify site.files with
  | .error e => ({ outcome := .error e }, site)
  | .ok () =>
    let l := c.launch d cap
    let site := { site with files := clear l site.files }
    match site.run d.path (arguments l) with
    | (.error e, site) => ({ outcome := .error (spawnFault d e) }, site)
    | (.ok x, site) =>
      let ready := await d.id l c.handshake site.files x
      let site := { site with files := x.filesBefore site.files (ready.time + 1) }
      match ready.outcome with
      | .error e => ({ delay := ready.time, outcome := .error e }, site)
      | .ok place =>
        let (outcome, site) := (greet net ids documents d.id place).run site
        ({ delay := ready.time, outcome }, site)

/-- A binary that does not have its hash is not run. -/
theorem start_unverified {d : PluginDescriptor} {site : Site} {e : Fault}
    (wrong : d.verify site.files = .error e) (net : Network Site)
    (ids : Nat → Telemetry.RequestId) (documents : Schema.Documents) (c : ManagerConfig)
    (cap : Capability) : start net ids documents c d cap site = ({ outcome := .error e }, site) := by
  simp [start, wrong]

end PluginKit.Startup
