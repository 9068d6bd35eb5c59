import PluginKit.Config
import PluginKit.Fault
import PluginKit.System.Files
import PluginKit.Toml.Printer
import PluginKit.Toml.Reader

/-!
# Configuration files

A host keeps its configuration in a TOML file. What the file leaves out has its default, and so has
everything where there is no file.
-/

namespace PluginKit.ManagerConfig

/-- TOML knows no `null`: a connection may also be given as a table with its name and nothing in
it. -/
def plainConnection : Json → Json
  | .obj [(name, .obj [])] => .str name
  | .obj [(name, .arr [])] => .str name
  | v => v

/-- A member of a configuration with a connection in its usual form. -/
def plainMember (m : String × Json) : String × Json :=
  if m.1 = "connection" then (m.1, plainConnection m.2) else m

/-- The entry of a plugin in its usual form. Where a list gives its fields in their order, what follows
them does not count. -/
def plainEntry : Json → Json
  | .obj ms => .obj (ms.map plainMember)
  | .arr (command :: connection :: rest) =>
    .arr (command :: plainConnection connection :: rest.take 1)
  | v => v

/-- A member with the entries of plugins and the handshake in their usual form. -/
def plainPart (m : String × Json) : String × Json :=
  match m with
  | ("plugins", .obj ps) => ("plugins", .obj (ps.map fun p => (p.1, plainEntry p.2)))
  | ("handshake", .arr xs) => ("handshake", .arr (xs.take HandshakeConfig.fieldCount))
  | m => m

/-- A document with every connection in its usual form. -/
def plainDocument : Json → Json
  | .obj ms => .obj (ms.map fun m => plainPart (plainMember m))
  | v => v

/-- A configuration as the text of a file. -/
def render? (c : ManagerConfig) : Option String := Toml.render? c.toJson

/-- The configuration in the text of a file. -/
def ofText (text : String) : Outcome ManagerConfig :=
  match Toml.read? text with
  | none => .error (.config "Invalid config: not a TOML document")
  | some v =>
    (Json.decodeValue decoder (plainDocument v)).mapError fun e =>
      .config ("Invalid config: " ++ e.message)

/-- Reads a configuration file. -/
def load (fs : Files) (path : String) : Outcome ManagerConfig := do
  ofText (← (fs.readText path).mapError .io)

/-- Reads a configuration file if there is one. -/
def loadOrDefault (fs : Files) (path : String) : Outcome ManagerConfig :=
  if fs.pathExists path then load fs path else .ok {}

/-- Writes a configuration file and makes the directories on the way to it. -/
def save (c : ManagerConfig) (fs : Files) (path : String) : Outcome Unit × Files :=
  match c.render? with
  | none => (.error (.config "Cannot serialize config: a number is too large"), fs)
  | some text =>
    let (made, fs) := match Path.parent? path with
      | some outer => fs.makeDirectories outer
      | none => (.ok (), fs)
    match made with
    | .error e => (.error (.io e), fs)
    | .ok () =>
      match fs.write path (Text.encode text) with
      | .error e => (.error (.io e), fs)
      | .ok fs => (.ok (), fs)

end PluginKit.ManagerConfig
