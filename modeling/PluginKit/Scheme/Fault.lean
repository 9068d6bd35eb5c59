import PluginKit.Json.Decode
import PluginKit.TypeId

/-!
# Faults of identifiers, payloads and schemes
-/

namespace PluginKit

/-- Why an identifier, a payload or an operation on a scheme is refused. -/
inductive SchemeFault where
  | invalidType (input reason : String)
  | alreadyRegistered (type : TypeId) (existing requested : String)
  | notRegistered (kind : String)
  | unknownType (type : TypeId)
  | missingType
  | kindMismatch (type : TypeId) (registered requested : String)
  | invalidPayload (reason : String)
  | serialization (cause : Json.DecodeFault)
  deriving DecidableEq, Repr

namespace SchemeFault

/-- The wording of a fault. -/
def message : SchemeFault → String
  | .invalidType input reason =>
    "invalid type identifier " ++ Text.quoted input ++ ": " ++ reason
  | .alreadyRegistered t existing requested =>
    "type " ++ t.text ++ " is already registered for " ++ existing ++
      ", cannot register it for " ++ requested
  | .notRegistered kind => "prototype " ++ kind ++ " is not registered in the scheme"
  | .unknownType t => "type " ++ t.text ++ " is not known to the scheme"
  | .missingType => "payload has no type"
  | .kindMismatch t registered requested =>
    "type " ++ t.text ++ " decodes into " ++ registered ++ ", not " ++ requested
  | .invalidPayload reason => "invalid payload: " ++ reason
  | .serialization cause => "serialization error: " ++ cause.message

/-- The name of the kind of a fault. -/
def kind : SchemeFault → String
  | .invalidType .. => "InvalidType"
  | .alreadyRegistered .. => "AlreadyRegistered"
  | .notRegistered .. => "NotRegistered"
  | .unknownType .. => "UnknownType"
  | .missingType => "MissingType"
  | .kindMismatch .. => "KindMismatch"
  | .invalidPayload .. => "InvalidPayload"
  | .serialization .. => "Serialization"

end SchemeFault

/-- Reads an identifier, with the text in the fault. -/
def TypeId.read (s : String) : Except SchemeFault TypeId :=
  match TypeId.parse s with
  | .ok t => .ok t
  | .error flaw => .error (.invalidType s flaw.message)

/-- An identifier in a document. -/
def TypeId.decoder : Json.Decoder TypeId :=
  Json.Decoder.string.refine fun s => (TypeId.read s).mapError SchemeFault.message

/-- The written form of an identifier in a document. -/
def TypeId.toJson (t : TypeId) : Json := .str t.text

end PluginKit
