import PluginKit.Capability
import PluginKit.Connection
import PluginKit.Fault
import PluginKit.Sha256
import PluginKit.System.Files

/-!
# Plugin descriptors

A plugin describes itself by a document: for every capability the types it serves and their schemas.
With the place of its binary this makes the descriptor that a host keeps. The binary may be pinned
to a hash; it is then read and compared before every start.
-/

namespace PluginKit

/-- A type that a plugin serves, with the schema of its payloads. The schema `null` is none. -/
structure TypeSchema where
  type : TypeId
  schema : Json := .null
  deriving BEq, Inhabited

namespace TypeSchema

/-- The type as an object. -/
def toJson (s : TypeSchema) : Json := .obj [("type", s.type.toJson), ("jsonSchema", s.schema)]

/-- A type in a document. -/
def decoder : Json.Decoder TypeSchema :=
  .record "struct TypeSchema"
    (TypeSchema.mk <$> .required "type" TypeId.decoder <*> .withDefault "jsonSchema" .any .null)

end TypeSchema

/-- The types that a plugin says it serves, by capability. -/
structure Capabilities where
  types : Table Capability (List TypeSchema) := []
  deriving BEq, Inhabited

namespace Capabilities

/-- The types that are served for a capability. -/
def typesFor (c : Capabilities) (cap : Capability) : List TypeSchema := (c.types.get? cap).getD []

/-- Whether nothing is served. -/
def isEmpty (c : Capabilities) : Bool := c.types.values.all List.isEmpty

/-- The document as an object. -/
def toJson (c : Capabilities) : Json :=
  .obj [("types", .obj (c.types.map fun e => (e.1.name, .arr (e.2.map TypeSchema.toJson))))]

/-- A document. -/
def decoder : Json.Decoder Capabilities :=
  .record "struct Capabilities"
    (Capabilities.mk <$>
      .withDefault "types" (.table (Json.variantKey Capability.named) (.list TypeSchema.decoder)) [])

end Capabilities

/-- A plugin that was found. -/
structure PluginDescriptor where
  id : PluginId
  path : String
  connection : Connection := .socket
  capabilities : Capabilities := {}
  binaryHash : Option String := none
  deriving BEq, Inhabited

namespace PluginDescriptor

/-- The schemas for a capability by type, without those that are none. Of equal types the last one
counts. -/
def schemasFor (d : PluginDescriptor) (cap : Capability) : Table TypeId Json :=
  Table.ofList <|
    (d.capabilities.typesFor cap).filterMap fun s =>
      if s.schema.isNull then none else some (s.type, s.schema)

/-- The hash of a file, with the name of the digest. -/
def hashFile (fs : Files) (path : String) : Outcome String :=
  match fs.read path with
  | .ok content => .ok ("sha256:" ++ Sha256.hexDigest content)
  | .error e => .error (.io e)

/-- Compares the binary with the hash that it is pinned to, if it is. -/
def verify (fs : Files) (d : PluginDescriptor) : Outcome Unit :=
  match d.binaryHash with
  | none => .ok ()
  | some expected =>
    match hashFile fs d.path with
    | .error e => .error (.start d.id ("cannot hash " ++ d.path ++ ": " ++ e.message))
    | .ok actual =>
      if expected = actual then .ok ()
      else
        .error (.start d.id ("Binary hash mismatch: expected " ++ expected ++ ", got " ++ actual))

/-- How an instance of a plugin is called. -/
def instanceId (d : PluginDescriptor) (cap : Capability) : String := d.id.text ++ "-" ++ cap.slug

end PluginDescriptor

end PluginKit
