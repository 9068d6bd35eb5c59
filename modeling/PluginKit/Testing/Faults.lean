import PluginKit.Resource.Canonical
import PluginKit.Fault

/-!
# Descriptions of faults

A fault given by an object: its kind and the parts that the kind has, each with a default. What a
handler or a connection is to fail with is said so.
-/

namespace PluginKit.Testing

/-- The parts of a fault of any kind. -/
structure FaultParts where
  kind : String
  plugin : String
  capability : Capability
  type : TypeId
  message : String
  status : Nat
  operation : String
  body : String
  place : String
  existing : String
  path : String
  violations : List String
  nanos : Nat
  scheme : String
  input : String
  reason : String
  text : String
  os : Option Nat

/-- The strings in an array. -/
def stringsOnly : Json.Decoder (List String) :=
  (Json.Decoder.list Json.Decoder.any).map fun xs => xs.filterMap Json.asString?

/-- The parts in a description. -/
def FaultParts.decoder : Json.Decoder FaultParts :=
  .record "fault"
    (FaultParts.mk <$> .required "kind" .string <*> .lenient "plugin_id" .string "p" <*>
      .lenient "plugin_type" Capability.decoder .resourceRepository <*>
      .lenient "typ" TypeId.decoder TypeId.empty <*> .lenient "message" .string "" <*>
      .lenient "status" (.unsigned 16) 0 <*> .lenient "operation" .string "" <*>
      .lenient "body" .string "" <*> .lenient "location" .string "" <*>
      .lenient "existing" .string "" <*> .lenient "path" .string "" <*>
      .lenient "errors" stringsOnly [] <*> .lenient "timeout_ns" (.unsigned 64) 0 <*>
      .lenient "scheme" .string "" <*> .lenient "input" .string "" <*>
      .lenient "reason" .string "" <*> .lenient "text" .string "" <*>
      .perhaps "os" (.unsigned 31))

/-- The fault of reading a text, which has to have one. -/
def FaultParts.decoding (text : String) : Json.DecodeFault :=
  match Json.decodeText Json.Decoder.any text with
  | .error e => e
  | .ok _ => .refused ""

/-- The fault of a scheme. -/
def FaultParts.schemeFault (p : FaultParts) : SchemeFault :=
  match p.scheme with
  | "InvalidType" => .invalidType p.input p.reason
  | "UnknownType" => .unknownType p.type
  | "MissingType" => .missingType
  | _ => .invalidPayload p.message

/-- The fault with these parts. `causes` are those of a shutdown. -/
def FaultParts.fault? (p : FaultParts) (causes : List Fault) : Option Fault :=
  match p.kind with
  | "Registration" => some (.registration p.capability p.message)
  | "AlreadyRegistered" => some (.alreadyRegistered p.capability p.type p.existing)
  | "Resolution" => some (.resolution p.capability p.type p.message)
  | "Start" => some (.start ⟨p.plugin⟩ p.message)
  | "HandshakeTimeout" => some (.handshakeTimeout ⟨p.plugin⟩ ⟨p.nanos⟩)
  | "Validation" => some (.validation ⟨p.plugin⟩ p.type p.violations)
  | "Protocol" => some (.protocol ⟨p.plugin⟩ p.operation p.status p.body)
  | "Application" => some (.application ⟨p.plugin⟩ p.operation p.status p.message)
  | "Rejected" => some (.rejected p.status p.message)
  | "Transport" => some (.transport p.place p.message)
  | "Shutdown" => some (.shutdown causes)
  | "Process" => some (.process ⟨p.plugin⟩ p.message)
  | "Scheme" => some (.scheme p.schemeFault)
  | "Conversion" => some (.conversion p.message)
  | "ConfigError" => some (.config p.message)
  | "Discovery" => some (.discovery p.path p.message)
  | "NotFound" => some (.notFound p.message)
  | "InvalidId" => some (.invalidId p.message)
  | "Serialization" => some (.serialization (FaultParts.decoding p.text))
  | "Io" => some (.io (match p.os with
      | some n => .os n
      | none => .other p.message))
  | _ => none

mutual
/-- The fault that an object describes. -/
def faultOf? : Json → Option Fault
  | .obj ms =>
    match Json.decodeValue FaultParts.decoder (.obj ms) with
    | .ok parts => parts.fault? (causesOf ms)
    | .error _ => none
  | _ => none
/-- The faults described under `errors`. -/
def causesOf : List (String × Json) → List Fault
  | [] => []
  | (key, .arr xs) :: ms => if key = "errors" then faultsOf xs else causesOf ms
  | _ :: ms => causesOf ms
/-- The faults that objects describe. -/
def faultsOf : List Json → List Fault
  | [] => []
  | x :: xs => (faultOf? x).toList ++ faultsOf xs
end

end PluginKit.Testing
