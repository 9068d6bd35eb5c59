import PluginKit.Json.Decode
import PluginKit.Net.Address
import PluginKit.Path

/-!
# Connections

A plugin listens on a socket file or on a TCP port of the machine. A plugin on TCP says where by
printing its address on a line of its own.
-/

namespace PluginKit

/-- The kind of connection that a plugin listens on. -/
inductive Connection where
  | socket
  | tcp
  deriving DecidableEq, Repr, Inhabited

namespace Connection

/-- The name in documents. -/
def name : Connection → String
  | .socket => "socket"
  | .tcp => "tcp"

/-- Connections by their names. -/
def named : List (String × Connection) := [("socket", .socket), ("tcp", .tcp)]

/-- The connection with a name. -/
def ofName? (s : String) : Option Connection := named.lookup s

/-- A connection in a document. -/
def decoder : Json.Decoder Connection := .variants (named.map fun e => (e.1, .plain e.2))

end Connection

/-- The address of a running plugin. -/
inductive Place where
  | socket (path : String)
  | tcp (address : Net.Address)
  deriving DecidableEq, Repr

namespace Place

/-- The text of a place. -/
def text : Place → String
  | .socket path => "unix:" ++ path
  | .tcp a => "tcp:" ++ a.text

/-- The text after a given start, if it starts so. -/
def stripStart? (start s : List Char) : Option (List Char) :=
  if start.isPrefixOf s then some (s.drop start.length) else none

/-- The text before a given character at the end, if it ends so. -/
def stripLast (c : Char) (s : List Char) : List Char :=
  if s.getLast? = some c then s.dropLast else s

/-- Reads the line on which a plugin prints its address, with or without the scheme of a URL. -/
def ofLine? (line : String) : Option Place :=
  let s := Text.trim line.toList
  let s := (stripStart? "http://".toList s).getD s
  (Net.Address.parse? (stripLast '/' s)).map .tcp

end Place

/-- The file name of the socket of an instance. -/
def socketName (instanceId : String) : String := instanceId ++ "-plugin.socket"

/-- The socket file of an instance. -/
def socketPath (dir instanceId : String) : String := Path.join dir (socketName instanceId)

end PluginKit
