import PluginKit.Connection
import PluginKit.Duration

/-!
# The configuration of a host

Where plugins are found, how they are started and how long things may take. What a document leaves
out has a default.
-/

namespace PluginKit

/-- How long and how often to look for a plugin that was started. -/
structure HandshakeConfig where
  timeoutSeconds : Nat := 10
  pollAttempts : Nat := 20
  initialBackoffMillis : Nat := 10
  maxBackoffMillis : Nat := 500
  deriving DecidableEq, Repr, Inhabited

namespace HandshakeConfig

/-- The configuration as an object. -/
def toJson (c : HandshakeConfig) : Json :=
  .obj [("timeout_secs", .nat c.timeoutSeconds), ("poll_attempts", .nat c.pollAttempts),
    ("initial_backoff_ms", .nat c.initialBackoffMillis), ("max_backoff_ms", .nat c.maxBackoffMillis)]

/-- The fields in a document. -/
def fields : Json.Fields HandshakeConfig :=
  HandshakeConfig.mk <$> .withDefault "timeout_secs" (.unsigned 64) 10 <*>
    .withDefault "poll_attempts" (.unsigned 32) 20 <*>
    .withDefault "initial_backoff_ms" (.unsigned 64) 10 <*>
    .withDefault "max_backoff_ms" (.unsigned 64) 500

/-- How many fields there are. -/
def fieldCount : Nat := fields.names.length

/-- A configuration in a document. -/
def decoder : Json.Decoder HandshakeConfig := .record "struct HandshakeConfig" fields

/-- How long a plugin may take to become ready. -/
def timeout (c : HandshakeConfig) : Duration := .ofSeconds c.timeoutSeconds

/-- The pause after the first look. -/
def initialBackoff (c : HandshakeConfig) : Duration := .ofMillis c.initialBackoffMillis

/-- The longest pause between two looks. -/
def maxBackoff (c : HandshakeConfig) : Duration := .ofMillis c.maxBackoffMillis

end HandshakeConfig

/-- A plugin given by its command. -/
structure PluginEntry where
  command : String
  connection : Option Connection := none
  binaryHash : Option String := none
  deriving DecidableEq, Repr

namespace PluginEntry

/-- The value of an option, `null` if there is none. -/
def orNull (v : Option Json) : Json := v.getD .null

/-- The entry as an object. -/
def toJson (e : PluginEntry) : Json :=
  .obj [("command", .str e.command),
    ("connection", orNull (e.connection.map fun c => .str c.name)),
    ("binary_hash", orNull (e.binaryHash.map Json.str))]

/-- An entry in a document. -/
def decoder : Json.Decoder PluginEntry :=
  .record "struct PluginEntry"
    (PluginEntry.mk <$> .required "command" .string <*>
      .withDefault "connection" (.optional Connection.decoder) none <*>
      .withDefault "binary_hash" (.optional .string) none)

end PluginEntry

/-- The configuration of a host. -/
structure ManagerConfig where
  pluginDirs : List String := []
  connection : Connection := .socket
  socketDir : String := "/tmp"
  idleSeconds : Option Nat := none
  discoverySeconds : Nat := 5
  shutdownSeconds : Nat := 10
  handshake : HandshakeConfig := {}
  plugins : Table String PluginEntry := []
  deriving DecidableEq, Repr, Inhabited

namespace ManagerConfig

/-- The configuration as an object. -/
def toJson (c : ManagerConfig) : Json :=
  .obj [("plugin_dirs", .arr (c.pluginDirs.map Json.str)), ("connection", .str c.connection.name),
    ("socket_dir", .str c.socketDir),
    ("idle_timeout_secs", PluginEntry.orNull (c.idleSeconds.map Json.nat)),
    ("discovery_timeout_secs", .nat c.discoverySeconds),
    ("shutdown_timeout_secs", .nat c.shutdownSeconds), ("handshake", c.handshake.toJson),
    ("plugins", .obj (c.plugins.mapValues PluginEntry.toJson))]

/-- A configuration in a document. -/
def decoder : Json.Decoder ManagerConfig :=
  .record "struct ManagerConfig"
    (ManagerConfig.mk <$> .withDefault "plugin_dirs" (.list .path) [] <*>
      .withDefault "connection" Connection.decoder .socket <*>
      .withDefault "socket_dir" .path "/tmp" <*>
      .withDefault "idle_timeout_secs" (.optional (.unsigned 64)) none <*>
      .withDefault "discovery_timeout_secs" (.unsigned 64) 5 <*>
      .withDefault "shutdown_timeout_secs" (.unsigned 64) 10 <*>
      .withDefault "handshake" HandshakeConfig.decoder {} <*>
      .withDefault "plugins" (.dict PluginEntry.decoder) [])

/-- How long a plugin may take to describe itself. -/
def discoveryTimeout (c : ManagerConfig) : Duration := .ofSeconds c.discoverySeconds

/-- How long plugins may take to stop. -/
def shutdownTimeout (c : ManagerConfig) : Duration := .ofSeconds c.shutdownSeconds

/-! ## Building -/

/-- With another directory of plugins after the ones there are. -/
def withPluginDir (c : ManagerConfig) (dir : String) : ManagerConfig :=
  { c with pluginDirs := c.pluginDirs ++ [dir] }

/-- With a plugin given by its command. One with the same identifier is replaced. -/
def withPlugin (c : ManagerConfig) (id : String) (e : PluginEntry) : ManagerConfig :=
  { c with plugins := c.plugins.insert id e }

end ManagerConfig

end PluginKit
