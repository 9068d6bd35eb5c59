import PluginKit.Http.Message
import PluginKit.Serve.Endpoints

/-!
# Answering requests

A plugin instance serves one capability. Its router takes a request to the operation at its path,
which reads the body, judges the type and then the credentials, and asks the handler. Whatever fails
on the way is answered with the status of the fault and a body that tells it.
-/

namespace PluginKit

open Text (Octets)
open Http (Request Response)

/-- The operations of plugins. -/
inductive Operation where
  | health
  | identity
  | download
  | upload
  | digest
  | list
  deriving DecidableEq, Repr

namespace Operation

/-- The path of an operation. -/
def path : Operation → String
  | .health => Wire.healthPath
  | .identity => Wire.identityPath
  | .download => Wire.resourceGetPath
  | .upload => Wire.resourceAddPath
  | .digest => Wire.digestPath
  | .list => Wire.listPath

/-- The methods by which an operation is asked for. -/
def methods : Operation → List String
  | .health => ["GET", "HEAD"]
  | _ => ["POST"]

/-- The operations of a capability. -/
def ofCapability : Capability → List Operation
  | .resourceRepository => [.health, .identity, .download, .upload]
  | .digestProcessor => [.health, .identity, .digest]
  | .componentLister => [.health, .identity, .list]

end Operation

/-- An instance that answers requests. -/
structure Router (σ : Type) where
  capability : Capability
  types : List TypeId
  handler : Handler σ

namespace Router

variable {σ : Type}

/-- The router of a capability, which has to be served. -/
def ofEndpoints (e : Endpoints σ) (cap : Capability) : Outcome (Router σ) :=
  match e.handlerFor cap with
  | some handler => .ok { capability := cap, types := e.typesFor cap, handler }
  | none => .error (.notFound ("this plugin does not serve " ++ cap.name))

/-! ## Judging a request -/

/-- A refusal of the request. -/
def refuse {α : Type} (reason : String) : Outcome α := .error (.rejected 400 reason)

/-- The type has to be served. -/
def checkType (r : Router σ) (t : TypeId) : Outcome Unit :=
  if t ∈ r.types then .ok ()
  else
    refuse ("type " ++ (if t.isEmpty then "<none>" else t.text) ++ " is not served by this " ++
      r.capability.name ++ " plugin")

/-- A resource has to say where its bytes lie, in a type that is served. -/
def checkAccess (r : Router σ) (w : Wire.Resource) : Outcome Unit :=
  match w.access with
  | none => refuse ("resource " ++ w.name ++ " has no access specification")
  | some access => r.checkType access.tag

/-- Reads the body of a request. -/
def readBody {α : Type} (d : Json.Decoder α) (req : Request) : Outcome α :=
  (Json.decodeOctets d req.body).mapError .serialization

/-- The credentials of a request. An absent or empty header stands for none. -/
def readCredentials (req : Request) : Outcome Credentials :=
  match req.headers.get? "authorization" with
  | none => .ok {}
  | some value =>
    if value.isEmpty then .ok {}
    else
      match Json.decodeOctets Credentials.decoder value with
      | .ok c => .ok c
      | .error e => refuse ("invalid credentials header: " ++ e.message)

/-- An operation that the handler does not have. -/
def wrongCapability {α : Type} (r : Router σ) : Effect σ α :=
  .fail (.notFound ("operation not served by this " ++ r.capability.name ++ " plugin"))

/-! ## Operations -/

/-- The effect of an operation for a request. -/
def perform (r : Router σ) (req : Request) : Operation → Effect σ Json
  | .health => pure .null
  | .identity => do
    let m ← Effect.lift (readBody Wire.IdentityRequest.decoder req)
    Effect.lift (r.checkType m.object.tag)
    return (← r.handler.identity m).toJson
  | .download => do
    let m ← Effect.lift (readBody Wire.downloadRequest req)
    Effect.lift (r.checkAccess m.resource)
    let c ← Effect.lift (readCredentials req)
    match r.handler with
    | .resource h => return (← h.download m c).toJson
    | _ => r.wrongCapability
  | .upload => do
    let m ← Effect.lift (readBody Wire.UploadRequest.decoder req)
    Effect.lift (r.checkAccess m.resource)
    let c ← Effect.lift (readCredentials req)
    match r.handler with
    | .resource h => return (← h.upload m c).toJson
    | _ => r.wrongCapability
  | .digest => do
    let m ← Effect.lift (readBody Wire.digestRequest req)
    Effect.lift (r.checkAccess m.resource)
    let c ← Effect.lift (readCredentials req)
    match r.handler with
    | .digest h => return (← h.process m c).toJson
    | _ => r.wrongCapability
  | .list => do
    let m ← Effect.lift (readBody Wire.ListRequest.decoder req)
    Effect.lift (r.checkType m.repository.tag)
    let c ← Effect.lift (readCredentials req)
    match r.handler with
    | .lister h => return (← h.page m c).toJson
    | _ => r.wrongCapability

/-! ## Answers -/

/-- The answer that reports a fault. -/
def faultResponse (e : Fault) : Response :=
  .json e.status (Wire.ErrorResponse.mk e.message).toJson.render

/-- The answer for an outcome. -/
def answer : Outcome Json → Response
  | .ok body => .json 200 body.render
  | .error e => faultResponse e

/-- The largest body that is read. -/
def bodyLimit : Nat := 2 * 1024 * 1024

/-- The answer to a body that is too large. -/
def tooLarge : Response where
  status := 413
  headers := [("content-type", Text.encode "text/plain; charset=utf-8")]
  body := Text.encode "Failed to buffer the request body: length limit exceeded"

/-- The answer to a method that the path does not have. -/
def wrongMethod (op : Operation) : Response :=
  { status := 405, headers := [("allow", Text.encode (",".intercalate op.methods))] }

/-- The operation at the path of a request. -/
def operationAt (r : Router σ) (req : Request) : Option Operation :=
  (Operation.ofCapability r.capability).find? fun op => op.path == req.uri.routed

/-- Answers a request. -/
def respond (r : Router σ) (req : Request) (s : σ) : Response × σ :=
  match r.operationAt req with
  | none => (.empty 404, s)
  | some op =>
    if req.method ∈ op.methods then
      match op with
      | .health => (.empty 200, s)
      | op =>
        if bodyLimit < req.body.size then (tooLarge, s)
        else
          let (r, s) := (r.perform req op).run s
          (answer r, s)
    else (wrongMethod op, s)

end Router

end PluginKit
