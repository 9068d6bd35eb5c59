import PluginKit.Capability
import PluginKit.Duration
import PluginKit.Scheme.Fault
import PluginKit.System.IoError

/-!
# Faults of plugin operations

What can go wrong when a host registers, starts, calls and stops plugins and when a plugin answers
calls, each with its wording, and the status with which a plugin answers for it.
-/

namespace PluginKit

/-- Why an operation on plugins failed. -/
inductive Fault where
  /-- A registration was refused. -/
  | registration (cap : Capability) (reason : String)
  /-- The type is bound for the capability. -/
  | alreadyRegistered (cap : Capability) (type : TypeId) (existing : String)
  /-- No handler or plugin serves the type. -/
  | resolution (cap : Capability) (type : TypeId) (reason : String)
  /-- A plugin could not be started. -/
  | start (plugin : PluginId) (reason : String)
  /-- A plugin was not ready in time. -/
  | handshakeTimeout (plugin : PluginId) (limit : Duration)
  /-- A payload was refused by the advertised schema. -/
  | validation (plugin : PluginId) (type : TypeId) (violations : List String)
  /-- A plugin answered with something that is no answer of the protocol. -/
  | protocol (plugin : PluginId) (operation : String) (status : Nat) (body : String)
  /-- A plugin reported a failure. -/
  | application (plugin : PluginId) (operation : String) (status : Nat) (reason : String)
  /-- A handler refuses a request with a status of its choice. -/
  | rejected (status : Nat) (reason : String)
  /-- A connection failed. -/
  | transport (place reason : String)
  /-- Plugins did not stop cleanly. -/
  | shutdown (causes : List Fault)
  /-- A process could not be signalled or waited for. -/
  | process (plugin : PluginId) (reason : String)
  /-- An identifier, a payload or a scheme is at fault. -/
  | scheme (cause : SchemeFault)
  /-- A value has no form on the other side of the protocol. -/
  | conversion (reason : String)
  /-- A configuration is invalid. -/
  | config (reason : String)
  /-- A binary could not be described. -/
  | discovery (path reason : String)
  /-- The value that was asked for does not exist. -/
  | notFound (what : String)
  /-- A plugin identifier is invalid. -/
  | invalidId (reason : String)
  /-- A text does not decode. -/
  | serialization (cause : Json.DecodeFault)
  /-- The operating system refused an operation. -/
  | io (cause : IoError)
  deriving Repr

namespace Fault

mutual
/-- The wording of a fault. -/
def message : Fault → String
  | .registration cap reason => "registration failed for " ++ cap.name ++ ": " ++ reason
  | .alreadyRegistered cap t existing =>
    "type " ++ t.text ++ " is already registered for " ++ cap.name ++ " by " ++ existing
  | .resolution cap t reason =>
    "cannot resolve " ++ cap.name ++ " plugin for type " ++ t.text ++ ": " ++ reason
  | .start id reason => "failed to start plugin " ++ id.text ++ ": " ++ reason
  | .handshakeTimeout id limit =>
    "plugin " ++ id.text ++ " did not become ready within " ++ limit.text
  | .validation id t violations =>
    t.text ++ " payload rejected by schema of plugin " ++ id.text ++ ": " ++
      "; ".intercalate violations
  | .protocol id operation status body =>
    "plugin " ++ id.text ++ " returned " ++ toString status ++ " for " ++ operation ++ ": " ++ body
  | .application id operation status reason =>
    "plugin " ++ id.text ++ " failed " ++ operation ++ " (" ++ toString status ++ "): " ++ reason
  | .rejected _ reason => reason
  | .transport place reason => "transport error talking to " ++ place ++ ": " ++ reason
  | .shutdown causes => "plugin shutdown failed: " ++ "; ".intercalate (messages causes)
  | .process id reason => "process error for plugin " ++ id.text ++ ": " ++ reason
  | .scheme cause => cause.message
  | .conversion reason => "conversion error: " ++ reason
  | .config reason => "configuration error: " ++ reason
  | .discovery path reason => "discovery failed for " ++ path ++ ": " ++ reason
  | .notFound what => "not found: " ++ what
  | .invalidId reason => "invalid plugin id: " ++ reason
  | .serialization cause => "serialization error: " ++ cause.message
  | .io cause => "I/O error: " ++ cause.message
/-- The wordings of faults. -/
def messages : List Fault → List String
  | [] => []
  | e :: es => message e :: messages es
end

/-- The name of the kind of a fault. -/
def kind : Fault → String
  | .registration .. => "Registration"
  | .alreadyRegistered .. => "AlreadyRegistered"
  | .resolution .. => "Resolution"
  | .start .. => "Start"
  | .handshakeTimeout .. => "HandshakeTimeout"
  | .validation .. => "Validation"
  | .protocol .. => "Protocol"
  | .application .. => "Application"
  | .rejected .. => "Rejected"
  | .transport .. => "Transport"
  | .shutdown .. => "Shutdown"
  | .process .. => "Process"
  | .scheme cause => "Scheme/" ++ cause.kind
  | .conversion .. => "Conversion"
  | .config .. => "ConfigError"
  | .discovery .. => "Discovery"
  | .notFound .. => "NotFound"
  | .invalidId .. => "InvalidId"
  | .serialization .. => "Serialization"
  | .io .. => "Io"

/-- A status code that can be sent. -/
def sendable (status : Nat) : Nat := if 100 ≤ status ∧ status ≤ 999 then status else 500

/-- The status with which a plugin answers for a fault: a handler's own, 400 for a fault of the request,
404 for what is not there and 500 for everything else. -/
def status : Fault → Nat
  | .rejected s _ => sendable s
  | .application _ _ s _ => sendable s
  | .validation .. => 400
  | .scheme _ => 400
  | .serialization _ => 400
  | .conversion _ => 400
  | .notFound _ => 404
  | _ => 500

end Fault

/-- The outcome of an operation on plugins. -/
abbrev Outcome (α : Type) := Except Fault α

/-- A fault of a scheme as a fault of an operation. -/
def Outcome.ofScheme {α : Type} (r : Except SchemeFault α) : Outcome α := r.mapError Fault.scheme

end PluginKit
