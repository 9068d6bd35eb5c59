import PluginKit.Proofs.Rpc.Mirror

/-!
# The operations of a router carry out calls

For every operation: the request of a call is read as what was sent, it passes the checks of the router,
the handler is called with it, and its answer is read as what the handler gave.

## Main statements

- `carries_identity`, `carries_download`, `carries_upload`, `carries_digest`, `carries_page`: the calls
  of every operation are carried out by the handler.
- `refusesReports_identity` and its like: no answer can be mistaken for a report of a failure.
-/

namespace PluginKit

variable {σ α β : Type}

/-! ## What handlers answer -/

/-- A resource that can be sent as an answer. -/
structure Wire.ResourceMessage.Sendable (m : Wire.ResourceMessage) : Prop where
  proper : m.resource.Proper
  shallow : m.toJson.depth ≤ Json.Reader.maxDepth

/-- A handler whose answers can all be written and read: identities ascend by key, and resources have
what resources on the wire have and nest no deeper than a reader goes. -/
structure Handler.Proper (k : Handler σ) : Prop where
  identity : ∀ m, (k.identity m).Gives fun a => a.identity.entries.Ascending
  upload : ∀ h, k = .resource h → ∀ m c, (h.upload m c).Gives Wire.ResourceMessage.Sendable
  process : ∀ h, k = .digest h → ∀ m c, (h.process m c).Gives Wire.ResourceMessage.Sendable

/-! ## Reports are no answers -/

theorem refusesReports_identity : RefusesReports Wire.IdentityResponse.decoder :=
  fun _ => ⟨_, rfl⟩

theorem refusesReports_location : RefusesReports Wire.LocationResponse.decoder :=
  fun _ => ⟨_, rfl⟩

theorem refusesReports_resource (what : String) :
    RefusesReports (Wire.ResourceMessage.decoder what) :=
  fun _ => ⟨_, rfl⟩

theorem refusesReports_list : RefusesReports Wire.ListResponse.decoder :=
  fun _ => ⟨_, rfl⟩

/-! ## Operations -/

/-- The router for a recorded handler. -/
def Handler.router (k : Handler σ) (types : List TypeId) : Router (σ × List Call) where
  capability := k.capability
  types := types
  handler := k.recorded

namespace Router

theorem checkType_of_mem {r : Router σ} {t : TypeId} (served : t ∈ r.types) :
    r.checkType t = .ok () := if_pos served

theorem checkAccess_of_mem {r : Router σ} {w : Wire.Resource} {p : Payload}
    (access : w.access = some p) (served : p.tag ∈ r.types) : r.checkAccess w = .ok () := by
  rw [checkAccess, access]
  exact checkType_of_mem served

end Router

/-! ## Calls and the handlers that carry them out -/

section Operations

variable {k : Handler σ} {types : List TypeId} {p : Payload}

theorem lift_ok (a : α) : (Effect.lift (.ok a) : Effect σ α) = pure a := rfl

/-- A request whose message is read, whose type is served and whose credentials are read is handed on. -/
theorem gate_passed {message : Outcome β} {check : β → Outcome Unit} {credentials : Outcome Credentials}
    {m : β} {c : Credentials} (read : message = .ok m) (checked : check m = .ok ())
    (shown : credentials = .ok c) (f : β → Credentials → Effect σ α) :
    (do
      let m ← Effect.lift message
      Effect.lift (check m)
      let c ← Effect.lift credentials
      f m c) = f m c := by
  rw [read, shown, lift_ok, pure_bind, checked, lift_ok, pure_bind, lift_ok, pure_bind]

theorem header_empty : Client.credentialHeader {} = .ok (Text.encode "{}") := by
  have fits : Http.isHeaderValue (Text.encode "{}") = true := by decide +kernel
  exact if_pos fits

/-- Asking for an identity is carried out by the identity of the handler. -/
theorem carries_identity (answers : k.Proper) (proper : p.Proper) (served : p.tag ∈ types)
    (sendable : (Call.identity { object := p }).Sendable) :
    Carries (k.router types) .identity (Call.identity { object := p }).document {}
      ((k.identity { object := p }).noting (.identity { object := p }))
      Wire.IdentityResponse.toJson Wire.IdentityResponse.decoder where
  served := by
    show Operation.identity ∈ Operation.ofCapability k.capability
    cases k <;> simp [Handler.capability, Operation.ofCapability]
  asked := by decide
  fits := sendable.fits
  header := by
    -- an identity is asked for with empty credentials, and they are not read
    refine ⟨_, header_empty, fun id => ?_⟩
    have read := readBody_request .identity (Wire.IdentityRequest.reads_toJson (m := ⟨p⟩) proper)
      (Wire.IdentityRequest.isIntegral_toJson proper) sendable.shallow (Text.encode "{}") id
    have checked : (k.router types).checkType p.tag = .ok () := Router.checkType_of_mem served
    rw [Router.perform, Call.document, read, lift_ok, pure_bind, checked, lift_ok, pure_bind,
      bind_pure_comp, ← Handler.identity_recorded]
    rfl
  answers := by
    intro w a gave
    refine ⟨Wire.IdentityResponse.reads_toJson (answers.identity _ w.1 a gave),
      Wire.IdentityResponse.isIntegral_toJson a, ?_⟩
    have depth : a.toJson.depth = 2 := by
      rw [Wire.IdentityResponse.toJson, Json.depth, Json.depthMembers, Json.depthMembers,
        Identity.toJson, Table.depth_toJson]
      rfl
    rw [depth]
    decide
  refuses := refusesReports_identity

variable {credentials : Credentials}

theorem depth_location (l : Location) : l.toJson.depth = 1 := by
  obtain ⟨kind, value, mediaType⟩ := l
  cases mediaType <;> rfl

/-- A request to locate a resource is carried out by the handler for resources. -/
theorem carries_download (h : ResourceContract σ) {m : Wire.ResourceMessage}
    (proper : m.resource.Proper) (access : m.resource.access = some p) (served : p.tag ∈ types)
    (ascending : credentials.entries.Ascending)
    (header : ∃ value, Client.credentialHeader credentials = .ok value)
    (sendable : (Call.download m credentials).Sendable) :
    Carries ((Handler.resource h).router types) .download (Call.download m credentials).document
      credentials ((h.download m credentials).noting (.download m credentials))
      Wire.LocationResponse.toJson Wire.LocationResponse.decoder where
  served := by
    show Operation.download ∈ Operation.ofCapability .resourceRepository
    decide
  asked := by decide
  fits := sendable.fits
  header := by
    obtain ⟨value, header⟩ := header
    refine ⟨value, header, fun id => ?_⟩
    have read := readBody_request .download (d := Wire.downloadRequest)
      (Wire.ResourceMessage.reads_toJson proper _) (Wire.ResourceMessage.isIntegral_toJson proper)
      sendable.shallow value id
    have checked : ((Handler.resource h).router types).checkAccess m.resource = .ok () :=
      Router.checkAccess_of_mem access served
    have shown := credentials_read .download m.toJson ascending header id
    rw [Router.perform, Call.document]
    exact (gate_passed read checked shown _).trans (bind_pure_comp _ _)
  answers := by
    intro w a gave
    refine ⟨Wire.LocationResponse.reads_toJson a, Wire.LocationResponse.isIntegral_toJson a, ?_⟩
    have depth : a.toJson.depth = 2 := by
      rw [Wire.LocationResponse.toJson, Json.depth, Json.depthMembers, Json.depthMembers,
        depth_location]
      rfl
    rw [depth]
    decide
  refuses := refusesReports_location

/-- A request to store a resource is carried out by the handler for resources. -/
theorem carries_upload {h : ResourceContract σ} (answers : (Handler.resource h).Proper)
    {m : Wire.UploadRequest} (proper : m.resource.Proper) (access : m.resource.access = some p)
    (served : p.tag ∈ types) (ascending : credentials.entries.Ascending)
    (header : ∃ value, Client.credentialHeader credentials = .ok value)
    (sendable : (Call.upload m credentials).Sendable) :
    Carries ((Handler.resource h).router types) .upload (Call.upload m credentials).document
      credentials ((h.upload m credentials).noting (.upload m credentials))
      Wire.ResourceMessage.toJson Wire.uploadResponse where
  served := by
    show Operation.upload ∈ Operation.ofCapability .resourceRepository
    decide
  asked := by decide
  fits := sendable.fits
  header := by
    obtain ⟨value, header⟩ := header
    refine ⟨value, header, fun id => ?_⟩
    have read := readBody_request .upload (Wire.UploadRequest.reads_toJson proper)
      (Wire.UploadRequest.isIntegral_toJson proper) sendable.shallow value id
    have checked : ((Handler.resource h).router types).checkAccess m.resource = .ok () :=
      Router.checkAccess_of_mem access served
    have shown := credentials_read .upload m.toJson ascending header id
    rw [Router.perform, Call.document]
    exact (gate_passed read checked shown _).trans (bind_pure_comp _ _)
  answers := by
    intro w a gave
    have sent := answers.upload h rfl m credentials w.1 a gave
    exact ⟨Wire.ResourceMessage.reads_toJson sent.proper _,
      Wire.ResourceMessage.isIntegral_toJson sent.proper, sent.shallow⟩
  refuses := refusesReports_resource _

/-- A request for a digest is carried out by the handler for digests. -/
theorem carries_digest {h : DigestContract σ} (answers : (Handler.digest h).Proper)
    {m : Wire.ResourceMessage} (proper : m.resource.Proper) (access : m.resource.access = some p)
    (served : p.tag ∈ types) (ascending : credentials.entries.Ascending)
    (header : ∃ value, Client.credentialHeader credentials = .ok value)
    (sendable : (Call.digest m credentials).Sendable) :
    Carries ((Handler.digest h).router types) .digest (Call.digest m credentials).document
      credentials ((h.process m credentials).noting (.digest m credentials))
      Wire.ResourceMessage.toJson Wire.digestResponse where
  served := by
    show Operation.digest ∈ Operation.ofCapability .digestProcessor
    decide
  asked := by decide
  fits := sendable.fits
  header := by
    obtain ⟨value, header⟩ := header
    refine ⟨value, header, fun id => ?_⟩
    have read := readBody_request .digest (d := Wire.digestRequest)
      (Wire.ResourceMessage.reads_toJson proper _) (Wire.ResourceMessage.isIntegral_toJson proper)
      sendable.shallow value id
    have checked : ((Handler.digest h).router types).checkAccess m.resource = .ok () :=
      Router.checkAccess_of_mem access served
    have shown := credentials_read .digest m.toJson ascending header id
    rw [Router.perform, Call.document]
    exact (gate_passed read checked shown _).trans (bind_pure_comp _ _)
  answers := by
    intro w a gave
    have sent := answers.process h rfl m credentials w.1 a gave
    exact ⟨Wire.ResourceMessage.reads_toJson sent.proper _,
      Wire.ResourceMessage.isIntegral_toJson sent.proper, sent.shallow⟩
  refuses := refusesReports_resource _

theorem depth_names (names : List String) : Json.depthItems (names.map Json.str) = 0 := by
  induction names with
  | nil => rfl
  | cons name names ih =>
    show max 0 (Json.depthItems (names.map Json.str)) = 0
    rw [ih]
    rfl

theorem depth_listResponse (m : Wire.ListResponse) : m.toJson.depth = 2 := by
  obtain ⟨names, last⟩ := m
  cases last <;>
    simp [Wire.ListResponse.toJson, Json.ifSome, Json.depth, Json.depthMembers, depth_names]

/-- A request for a page is carried out by the handler for listings. -/
theorem carries_page (h : ListerContract σ) {m : Wire.ListRequest} (proper : m.repository.Proper)
    (served : m.repository.tag ∈ types) (ascending : credentials.entries.Ascending)
    (header : ∃ value, Client.credentialHeader credentials = .ok value)
    (sendable : (Call.page m credentials).Sendable) :
    Carries ((Handler.lister h).router types) .list (Call.page m credentials).document
      credentials ((h.page m credentials).noting (.page m credentials))
      Wire.ListResponse.toJson Wire.ListResponse.decoder where
  served := by
    show Operation.list ∈ Operation.ofCapability .componentLister
    decide
  asked := by decide
  fits := sendable.fits
  header := by
    obtain ⟨value, header⟩ := header
    refine ⟨value, header, fun id => ?_⟩
    have read := readBody_request .list (Wire.ListRequest.reads_toJson proper)
      (Wire.ListRequest.isIntegral_toJson proper) sendable.shallow value id
    have checked : ((Handler.lister h).router types).checkType m.repository.tag = .ok () :=
      Router.checkType_of_mem served
    have shown := credentials_read .list m.toJson ascending header id
    rw [Router.perform, Call.document]
    exact (gate_passed read checked shown _).trans (bind_pure_comp _ _)
  answers := by
    intro w a gave
    refine ⟨Wire.ListResponse.reads_toJson a, Wire.ListResponse.isIntegral_toJson a, ?_⟩
    rw [depth_listResponse]
    decide
  refuses := refusesReports_list

end Operations

end PluginKit
