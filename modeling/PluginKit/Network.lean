import PluginKit.Connection
import PluginKit.Effect
import PluginKit.Http.Message
import PluginKit.System.Files

/-!
# Networks

A request goes over a connection of its own to the place of a plugin. The connection does not come
about if nothing listens there.
-/

namespace PluginKit

/-- How requests reach what listens at a place. -/
abbrev Network (σ : Type) := Place → Http.Request → Effect σ Http.Response

/-- The fault of a connection that does not come about. -/
def Place.unreached (p : Place) (e : IoError) : Fault :=
  .transport p.text ("connect failed: " ++ e.message)

/-- The most octets that the path of a socket may have. -/
def socketPathLimit : Nat := 107

/-- A socket has to have a path that fits into its address. -/
def checkSocketPath (path : String) : Except IoError Unit :=
  if '\x00' ∈ path.toList then .error (.other "paths must not contain interior null bytes")
  else if socketPathLimit < path.utf8ByteSize then .error (.other "path must be shorter than SUN_LEN")
  else .ok ()

namespace Files

/-- Connects to a socket. What is no socket refuses. -/
def connect (fs : Files) (path : String) : Except IoError Unit := do
  checkSocketPath path
  match ← fs.entry path with
  | .socket => return ()
  | _ => throw .refused

/-- Makes a socket at a path that leads to no entry yet. -/
def listen (fs : Files) (path : String) : Except IoError Files := do
  checkSocketPath path
  let at_ ← fs.resolve path
  match fs.lookup at_ with
  | some _ => throw .addressInUse
  | none => return fs.insert at_ .socket

end Files

end PluginKit
