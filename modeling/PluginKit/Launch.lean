import PluginKit.Capability
import PluginKit.Connection
import PluginKit.Fault

/-!
# Launch configurations

What a plugin is told when it is started: its instance, the capability to serve and what to listen
on. It is handed over as JSON on the command line.
-/

namespace PluginKit

/-- How one instance of a plugin is started. -/
structure LaunchConfig where
  id : String
  connection : Connection
  capability : Capability
  socketDir : Option String := none
  idleSeconds : Option Nat := none
  deriving DecidableEq, Repr

namespace LaunchConfig

/-- The configuration as an object, without what is left open. -/
def toJson (c : LaunchConfig) : Json :=
  .obj ([("id", .str c.id), ("type", .str c.connection.name),
      ("pluginType", .str c.capability.name)] ++
    Json.ifSome "socketDir" (c.socketDir.map Json.str) ++
    Json.ifSome "idleTimeout" (c.idleSeconds.map Json.nat))

/-- A configuration in a document. -/
def decoder : Json.Decoder LaunchConfig :=
  .record "struct LaunchConfig"
    (LaunchConfig.mk <$> .required "id" .string <*> .required "type" Connection.decoder <*>
      .required "pluginType" Capability.decoder <*>
      .withDefault "socketDir" (.optional .path) none <*>
      .withDefault "idleTimeout" (.optional (.unsigned 64)) none)

/-- Reads the text that was handed over. -/
def ofText (s : String) : Outcome LaunchConfig :=
  (Json.decodeText decoder s).mapError fun e => .config ("invalid launch config: " ++ e.message)

/-- The directory for sockets where none is configured. -/
def defaultDir : String := "/tmp"

/-- The socket file of the instance. -/
def socketPath (c : LaunchConfig) : String :=
  PluginKit.socketPath (c.socketDir.getD defaultDir) c.id

/-- The text of a configuration. -/
def text (c : LaunchConfig) : String := c.toJson.render

end LaunchConfig

end PluginKit
