import PluginKit.Http.Message
import PluginKit.Operations
import PluginKit.Schema.Validator
import PluginKit.Telemetry.RequestId

/-!
# Clients

A client calls one running plugin. Every call is a request of its own: the message as JSON in the body
and the credentials as JSON in a header. Payloads for which the plugin advertises a schema are judged
before anything is sent.

## Main statements

- `reply_error_of_failure`: an answer that is no success is never taken for one.
-/

namespace PluginKit

open Http (Request Response)

/-- The state of a client: the connection, the validator of its plugin and how many identifiers of
requests it has given out. -/
structure Link (σ : Type) where
  world : σ
  validator : Validator := {}
  issued : Nat := 0

/-- A client of a plugin: how a request is sent, the identifiers that requests get, and the documents
outside that references in advertised schemas lead to. -/
structure Client (σ : Type) where
  plugin : PluginId
  send : Request → Effect σ Response
  ids : Nat → Telemetry.RequestId
  documents : Schema.Documents

namespace Client

variable {σ α : Type}

/-! ## Requests -/

/-- The headers of a call. -/
def callHeaders (credentials : Text.Octets) (id : Telemetry.RequestId) : Http.Headers :=
  [("host", Text.encode "localhost"), ("content-type", Text.encode "application/json"),
    ("authorization", credentials), ("x-request-id", Text.encode id.text)]

/-- Credentials as the value of a header. -/
def credentialHeader (c : Credentials) : Outcome Text.Octets :=
  let value := Text.encode c.toJson.render
  if Http.isHeaderValue value then .ok value
  else .error (.conversion "credentials cannot be sent as a header: failed to parse header value")

/-- The target of a call. -/
def target (path : String) : Outcome Http.Uri :=
  (Http.Uri.parse path).mapError fun flaw => .conversion ("cannot build request: " ++ flaw.message)

/-- The request of a call. -/
def callRequest (path : String) (message : Json) (c : Credentials) (id : Telemetry.RequestId) :
    Outcome Request := do
  let credentials ← credentialHeader c
  let uri ← target path
  return { method := "POST", uri, headers := callHeaders credentials id,
           body := Text.encode message.render }

/-- The request that asks whether the plugin is alive. -/
def pingRequest : Outcome Request := do
  let uri ← target Wire.healthPath
  return { method := "GET", uri, headers := [("host", Text.encode "localhost")] }

/-! ## Answers -/

/-- The fault that an answer without success reports. -/
def failure (plugin : PluginId) (operation : String) (r : Response) : Fault :=
  match Json.decodeOctets Wire.ErrorResponse.decoder r.body with
  | .ok e => .application plugin operation r.status e.error
  | .error _ => .protocol plugin operation r.status (Text.decodeLossy r.body)

/-- The meaning of an answer. -/
def reply (plugin : PluginId) (operation : String) (d : Json.Decoder α) (r : Response) : Outcome α :=
  if r.isSuccess then
    (Json.decodeOctets d r.body).mapError fun e =>
      .protocol plugin operation r.status ("invalid response body: " ++ e.message)
  else .error (failure plugin operation r)

/-- An answer that is no success is never taken for one. -/
theorem reply_error_of_failure {r : Response} (h : r.isSuccess = false) (plugin : PluginId)
    (operation : String) (d : Json.Decoder α) :
    reply plugin operation d r = .error (failure plugin operation r) := by
  simp [reply, h]

/-! ## Calls -/

/-- A request over the connection. -/
def exchange (c : Client σ) (r : Request) : Effect (Link σ) Response :=
  .within Link.world (fun l w => { l with world := w }) (c.send r)

/-- An identifier for the next request. -/
def nextId (c : Client σ) : Effect (Link σ) Telemetry.RequestId :=
  .ofFunction fun l => (.ok (c.ids l.issued), { l with issued := l.issued + 1 })

/-- Judges a payload by the schema that the plugin advertises for its type. -/
def validate (c : Client σ) (payload : Payload) : Effect (Link σ) Unit :=
  .ofFunction fun l =>
    let (r, v) := l.validator.validate c.documents c.plugin payload
    (r, { l with validator := v })

/-- Asks whether the plugin is alive. -/
def ping (c : Client σ) : Effect (Link σ) Unit := do
  let request ← Effect.lift pingRequest
  let response ← c.exchange request
  if response.isSuccess then return ()
  Effect.fail (failure c.plugin Wire.healthPath response)

/-- Calls an operation. -/
def call (c : Client σ) (path : String) (message : Json) (credentials : Credentials)
    (d : Json.Decoder α) : Effect (Link σ) α := do
  let id ← c.nextId
  let request ← Effect.lift (callRequest path message credentials id)
  let response ← c.exchange request
  Effect.lift (reply c.plugin path d response)

/-! ## Contracts -/

/-- Judges the access specification of a resource, if it has one. -/
def validateAccess (c : Client σ) (r : Wire.Resource) : Effect (Link σ) Unit :=
  match r.access with
  | some access => c.validate access
  | none => pure ()

/-- The identity of a typed object. -/
def identity (c : Client σ) (m : Wire.IdentityRequest) : Effect (Link σ) Wire.IdentityResponse := do
  c.validate m.object
  c.call Wire.identityPath m.toJson {} Wire.IdentityResponse.decoder

/-- The plugin as a repository of resources. -/
def repository (c : Client σ) : ResourceContract (Link σ) where
  ping := c.ping
  identity := c.identity
  download m credentials := do
    c.validateAccess m.resource
    c.call Wire.resourceGetPath m.toJson credentials Wire.LocationResponse.decoder
  upload m credentials := do
    c.validateAccess m.resource
    c.call Wire.resourceAddPath m.toJson credentials Wire.uploadResponse

/-- The plugin as a processor of digests. -/
def processor (c : Client σ) : DigestContract (Link σ) where
  ping := c.ping
  identity := c.identity
  process m credentials := do
    c.validateAccess m.resource
    c.call Wire.digestPath m.toJson credentials Wire.digestResponse

/-- The plugin as a lister of components. -/
def lister (c : Client σ) : ListerContract (Link σ) where
  ping := c.ping
  identity := c.identity
  page m credentials := do
    c.validate m.repository
    c.call Wire.listPath m.toJson credentials Wire.ListResponse.decoder

/-- The plugin as a handler of a capability. -/
def handler (c : Client σ) : Capability → Handler (Link σ)
  | .resourceRepository => .resource c.repository
  | .digestProcessor => .digest c.processor
  | .componentLister => .lister c.lister

end Client

end PluginKit
