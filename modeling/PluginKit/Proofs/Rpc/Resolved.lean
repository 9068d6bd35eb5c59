import PluginKit.Proofs.Registry.Introductions
import PluginKit.Proofs.Rpc.Transparency
import PluginKit.Proofs.Serve.Endpoints

/-!
# What becomes of a specification that was resolved

A host finds a plugin by the type of a specification, by its default type or by an alias of either. The
specification is then sent as it is, and the plugin compares its type with those that it advertises. So
the plugin takes what was found by its own type, and refuses what was found by another one.

## Main statements

- `run_identity_of_served`, `run_identity_of_unserved`: what a plugin makes of a specification.
- `identity_of_resolved`: it takes a specification that a host has resolved to it if and only if it is
  bound to the very type of the specification.
-/

namespace PluginKit

variable {σ τ ρ : Type}

/-! ## Types that are not served -/

namespace Router

/-- The refusal of a type that is not served. -/
def unserved (c : Capability) (t : TypeId) : Fault :=
  .rejected 400 ("type " ++ (if t.isEmpty then "<none>" else t.text) ++ " is not served by this " ++
    c.name ++ " plugin")

theorem checkType_of_not_mem {r : Router σ} {t : TypeId} (absent : t ∉ r.types) :
    r.checkType t = .error (unserved r.capability t) := if_neg absent

theorem checkType_iff {r : Router σ} {t : TypeId} : r.checkType t = .ok () ↔ t ∈ r.types := by
  refine ⟨fun passed => ?_, checkType_of_mem⟩
  unfold checkType at passed
  split at passed
  · assumption
  · cases passed

end Router

/-- A plugin without an entry for a type has no schema for it. -/
theorem PluginDescriptor.schemasFor_of_unadvertised {d : PluginDescriptor} {c : Capability}
    {t : TypeId} (absent : (c, t) ∉ Host.advertised d) : (d.schemasFor c).get? t = none := by
  cases found : (d.schemasFor c).get? t with
  | none => rfl
  | some schema =>
    have entry := Table.mem_of_mem_ofList
      ((Table.get?_eq_some_iff (Table.ascending_ofList _)).1 found)
    obtain ⟨s, mem, kept⟩ := List.mem_filterMap.1 entry
    split at kept
    · cases kept
    · cases kept
      exact absurd (Host.mem_advertised_iff.2 (List.mem_map_of_mem mem)) absent

/-! ## Asking for an identity -/

section Identity

variable {k : Handler σ} {types : List TypeId} {p : Payload} {schemas : Table TypeId Json}
  {client : Client (σ × List Call)} {l : Link (σ × List Call)}

/-- A client that is connected to a router and judges payloads by some schemas. -/
structure Client.Connected (client : Client σ) (r : Router σ) (schemas : Table TypeId Json)
    (l : Link σ) : Prop where
  send : client.send = r.connection
  consistent : l.validator.Consistent client.documents
  schemas : l.validator.schemas = schemas

/-- Asked for the identity of an object, the client gives what the handler gives, and the handler was
asked for it once. -/
structure Client.Reaches (client : Client (σ × List Call)) (l : Link (σ × List Call)) (c : Capability)
    (k : Handler σ) (p : Payload) : Prop where
  outcome : (((client.handler c).identity { object := p }).run l).1.toOption =
    ((k.identity { object := p }).run l.world.1).1.toOption
  world : (((client.handler c).identity { object := p }).run l).2.world =
    (((k.identity { object := p }).run l.world.1).2, l.world.2 ++ [.identity { object := p }])

/-- Asked for the identity of an object, the client fails with the plugin's refusal of its type, and no
handler was asked. -/
structure Client.Refused (client : Client σ) (l : Link σ) (c : Capability) (p : Payload) : Prop where
  outcome : (((client.handler c).identity { object := p }).run l).1 =
    .error (.application client.plugin Wire.identityPath 400 (Router.unserved c p.tag).message)
  world : (((client.handler c).identity { object := p }).run l).2.world = l.world

/-- The identity of an object that passes is asked of the plugin. -/
theorem run_identity_of_passes (connected : client.Connected (k.router types) schemas l)
    (passes : Passes client.documents schemas p) (c : Capability) :
    ∃ v, ((client.handler c).identity { object := p }).run l =
      (client.call Operation.identity.path (Call.identity { object := p }).document {}
        Wire.IdentityResponse.decoder).run { l with validator := v } := by
  have identity : (client.handler c).identity { object := p } = client.identity { object := p } := by
    cases c <;> rfl
  have passed := validate_of_passes connected.consistent client.plugin
    (connected.schemas.symm ▸ passes : Passes _ _ p)
  have judged : (client.validate p).run l =
      (.ok (), { l with validator := (l.validator.validate client.documents client.plugin p).2 }) := by
    rw [← passed]
    rfl
  rw [identity, Client.identity, Effect.run_bind_ok judged]
  exact ⟨_, rfl⟩

/-- The identity of an object of a type that is served is asked of the handler. -/
theorem run_identity_of_served (connected : client.Connected (k.router types) schemas l)
    (answers : k.Proper) (proper : p.Proper) (sendable : (Call.identity { object := p }).Sendable)
    (passes : Passes client.documents schemas p) (served : p.tag ∈ types) (c : Capability) :
    client.Reaches l c k p := by
  obtain ⟨v, asks⟩ := run_identity_of_passes connected passes c
  obtain ⟨outcome, gives, called⟩ := run_call connected.send
    (carries_identity answers proper served sendable) { l with validator := v }
  constructor
  · rw [asks, called]
    exact gives
  · rw [asks, called]
    rfl

/-- The identity of an object of another type is refused, and no handler is asked. -/
theorem run_identity_of_unserved (connected : client.Connected (k.router types) schemas l)
    (proper : p.Proper) (sendable : (Call.identity { object := p }).Sendable)
    (passes : Passes client.documents schemas p) (absent : p.tag ∉ types) :
    client.Refused l k.capability p := by
  -- the operation does nothing but fail with the refusal
  have carries : Carries (k.router types) .identity (Call.identity { object := p }).document {}
      (Effect.fail (Router.unserved k.capability p.tag)) Wire.IdentityResponse.toJson
      Wire.IdentityResponse.decoder := by
    constructor
    · show Operation.identity ∈ Operation.ofCapability k.capability
      cases k <;> simp [Handler.capability, Operation.ofCapability]
    · decide
    · exact sendable.fits
    · refine ⟨_, header_empty, fun id => ?_⟩
      have read := readBody_request .identity (Wire.IdentityRequest.reads_toJson (m := ⟨p⟩) proper)
        (Wire.IdentityRequest.isIntegral_toJson proper) sendable.shallow (Text.encode "{}") id
      have refused : (k.router types).checkType p.tag =
          .error (Router.unserved k.capability p.tag) := Router.checkType_of_not_mem absent
      rw [Router.perform, Call.document, read, lift_ok, pure_bind, refused]
      rfl
    · intro w a gave
      cases gave
    · exact refusesReports_identity
  obtain ⟨v, asks⟩ := run_identity_of_passes connected passes k.capability
  obtain ⟨fault, called, reported⟩ := run_call_of_failed connected.send carries
    (l := { l with validator := v }) (e := Router.unserved k.capability p.tag) rfl
  constructor
  · have failure : ¬ (200 ≤ 400 ∧ 400 ≤ 299) := by decide
    rw [asks, called]
    exact congrArg Except.error (reported.failure failure)
  · rw [asks, called]
    rfl

end Identity

/-! ## Resolving and asking -/

/-- Endpoints serve what their descriptor advertises. -/
theorem advertised_iff_served {e : Endpoints σ} {d : PluginDescriptor} {c : Capability} {t : TypeId}
    (made : e.capabilities = .ok d.capabilities) : (c, t) ∈ Host.advertised d ↔ t ∈ e.typesFor c := by
  rw [Host.mem_advertised_iff, Endpoints.types_of_capabilities made]

/-- Let endpoints describe themselves in a descriptor, and let a host register plugins by their
descriptors, this one among them, whatever else it does before and after. Suppose that the host finds the
plugin for a specification. Then the plugin serves the capability. It takes the type of the specification
if and only if it is bound to this type itself and was not found by a default type or an alias; so it
takes no specification without a type. Asked for the identity over a connection, it does what its handler
does in the one case, provided that the specification passes, and in the other it refuses and leaves its
handler alone. -/
theorem identity_of_resolved {s : Scheme} {config : ManagerConfig} {l : Launcher τ} {unchecked : Bool}
    {h₀ h : Host ρ τ} {e : Endpoints σ} {d : PluginDescriptor} {c : Capability} {kind : String}
    {p : Payload} (built : e.Built) (made : e.capabilities = .ok d.capabilities)
    (before : Host.Introductions l unchecked (Host.ofScheme s config) h₀)
    (after : Host.Introductions l unchecked (h₀.registerDescriptor d).2 h)
    (found : (h.registries c).lookup kind p.tag = .ok (.plugin d)) :
    ∃ k r, e.handlerFor c = some k ∧ Router.ofEndpoints e.recorded c = .ok r ∧
      (r.checkType p.tag = .ok () ↔ (h.registries c).external.get? p.tag = some d) ∧
      (p.tag.isEmpty = true → (h.registries c).external.get? p.tag ≠ some d) ∧
      ∀ (client : Client (σ × List Call)) (link : Link (σ × List Call)),
        client.Connected r (d.schemasFor c) link → p.Proper →
        (Call.identity { object := p }).Sendable →
        ((h.registries c).external.get? p.tag = some d → k.Proper →
          Passes client.documents (d.schemasFor c) p → client.Reaches link c k p) ∧
        ((h.registries c).external.get? p.tag ≠ some d → client.Refused link c p) := by
  have introduced : Host.Introductions l unchecked (Host.ofScheme s config) h :=
    (before.trans Host.introductions_registerDescriptor).trans after
  have served : ∀ t, (c, t) ∈ Host.advertised d ↔ t ∈ e.typesFor c :=
    fun t => advertised_iff_served made
  have named : ∀ t, (c, t) ∈ Host.advertised d → t.isEmpty = false :=
    fun t listed => built.named ((served t).1 listed)
  have bound_iff : (c, p.tag) ∈ Host.advertised d ↔
      (h.registries c).external.get? p.tag = some d := by
    refine Registry.advertised_iff_of_lookup (fun t bound => introduced.advertised bound) ?_ named found
    -- what the plugin advertises was taken once it was registered, by it or by others, and still is
    intro t listed
    exact (after.changes.keeps c).taken (Host.taken_registerDescriptor listed)
  -- some type is served, the one by which the plugin was found
  obtain ⟨t, -, -, first⟩ := Registry.lookup_eq_plugin found
  obtain ⟨u, -, bound⟩ := List.exists_of_findSome?_eq_some first
  obtain ⟨k, handles⟩ := Endpoints.handlerFor_of_mem ((served u).1 (introduced.advertised bound))
  have cap_eq : k.capability = c := Endpoints.capability_of_handlerFor handles
  refine ⟨k, k.router (e.typesFor c), handles, Endpoints.ofEndpoints_recorded handles, ?_, ?_, ?_⟩
  · rw [← bound_iff, served]
    exact Router.checkType_iff
  · intro untagged bound
    cases (named p.tag (bound_iff.2 bound)).symm.trans untagged
  · intro client link connected proper sendable
    constructor
    · intro bound answers passes
      have mem : p.tag ∈ e.typesFor c := (served p.tag).1 (bound_iff.2 bound)
      exact run_identity_of_served connected answers proper sendable passes mem c
    · intro unbound
      have unlisted : (c, p.tag) ∉ Host.advertised d := fun listed => unbound (bound_iff.1 listed)
      -- the client has no schema for the type, so that the request is sent
      have passes : Passes client.documents (d.schemasFor c) p := by
        intro source advertised
        cases (PluginDescriptor.schemasFor_of_unadvertised unlisted).symm.trans advertised
      have absent : p.tag ∉ e.typesFor c := fun mem => unlisted ((served p.tag).2 mem)
      have refused := run_identity_of_unserved connected proper sendable passes absent
      rw [cap_eq] at refused
      exact refused

/-! ## An alias that only the host knows -/

/-- Images, which are any objects. -/
def image : Prototype Payload :=
  { Payload.prototype with name := "image", schema := .obj [("type", .str "object")] }

/-- The scheme of a plugin that knows images by one type. -/
def imageScheme : Scheme := ((Scheme.registering image [.versioned "OCIImage" "v1"]).run {}).2

/-- Endpoints that serve images. -/
def imageEndpoints : Endpoints Unit where
  scheme := imageScheme
  resource := some { handler := namingRepository, types := [.versioned "OCIImage" "v1"] }

/-- The plugin with these endpoints. -/
def imagePlugin : PluginDescriptor where
  id := ⟨"p"⟩
  path := "/plugins/p"
  capabilities :=
    { types := [(.resourceRepository,
        [{ type := .versioned "OCIImage" "v1", schema := image.schema }])] }

/-- The scheme of a host that knows images by another type as well. -/
def aliasScheme : Scheme :=
  ((Scheme.registering image [.versioned "OCIImage" "v1", .ofName "OCIImage"]).run {}).2

/-- A host with this scheme. -/
def aliasHost : Host Unit Unit := .ofScheme aliasScheme {}

/-- The host when it has registered the plugin. -/
def imageHost : Host Unit Unit := (aliasHost.registerDescriptor imagePlugin).2

/-- A client that is connected to the plugin. -/
def imageClient : Client (Unit × List Call) where
  plugin := ⟨"p"⟩
  send := ((Handler.resource namingRepository).router [.versioned "OCIImage" "v1"]).connection
  ids _ := .zero
  documents := .none

/-- The link to the plugin before the first call. -/
def imageLink : Link (Unit × List Call) where
  world := ((), [])
  validator := .ofSchemas (imagePlugin.schemasFor .resourceRepository)

/-- An image of a type. -/
def imageOf (t : TypeId) : Payload where
  tag := t
  fields := [("imageReference", .str "ghcr.io/a/b:1")]

theorem built_images : imageEndpoints.Built := by
  have reachable : imageScheme.Reachable := ⟨false, .registered .same _ _⟩
  have done : (Endpoints.ofScheme imageScheme).serve image.name
      (.resource namingRepository) = .ok imageEndpoints := by rfl
  exact .served (.empty reachable) done

theorem imageEndpoints_capabilities : imageEndpoints.capabilities = .ok imagePlugin.capabilities := by
  rfl

theorem found_alias : (imageHost.registries .resourceRepository).lookup Payload.prototype.name
    (.ofName "OCIImage") = .ok (.plugin imagePlugin) := by
  rfl

theorem proper_imageOf {t : TypeId} (parsed : t.Parsed) : (imageOf t).Proper where
  tag := parsed
  ascending := by
    show Table.Ascending [("imageReference", Json.str "ghcr.io/a/b:1")]
    decide
  untagged := by
    intro e mem
    cases List.mem_singleton.1 mem
    decide
  ordered := by
    intro e mem
    cases List.mem_singleton.1 mem
    rfl
  integral := by
    intro e mem
    cases List.mem_singleton.1 mem
    rfl

theorem connected_images : imageClient.Connected
    ((Handler.resource namingRepository).router [.versioned "OCIImage" "v1"])
    (imagePlugin.schemasFor .resourceRepository) imageLink :=
  ⟨rfl, Validator.consistent_ofSchemas _ _, rfl⟩

/-- The host finds the plugin for images by the alias, and the plugin refuses an image that is sent to it
with this type. -/
theorem alias_resolved_refused :
    imageEndpoints.Built ∧ imageEndpoints.capabilities = .ok imagePlugin.capabilities ∧
      (imageHost.registries .resourceRepository).lookup Payload.prototype.name (.ofName "OCIImage") =
        .ok (.plugin imagePlugin) ∧
      ∃ r, Router.ofEndpoints imageEndpoints.recorded .resourceRepository = .ok r ∧
        imageClient.send = r.connection ∧
        ((imageClient.repository.identity { object := imageOf (.ofName "OCIImage") }).run
          imageLink).1 = .error (.application ⟨"p"⟩ "/identity" 400
            "type OCIImage is not served by this resourceRepository plugin") := by
  refine ⟨built_images, imageEndpoints_capabilities, found_alias, _, rfl, rfl, ?_⟩
  have unlisted : (imagePlugin.schemasFor .resourceRepository).get? (.ofName "OCIImage") = none := by
    rfl
  have passes : Passes .none (imagePlugin.schemasFor .resourceRepository)
      (imageOf (.ofName "OCIImage")) := by
    intro source advertised
    cases unlisted.symm.trans advertised
  exact (run_identity_of_unserved connected_images (proper_imageOf ⟨"OCIImage", by rfl⟩)
    ⟨by decide, by decide +kernel⟩ passes (by decide)).outcome

/-- The plugin takes the type of an image under which it was registered, and it refuses an image that was
found by the alias. -/
theorem identity_of_resolved_images :
    (∃ r, Router.ofEndpoints imageEndpoints.recorded .resourceRepository = .ok r ∧
        r.checkType (.versioned "OCIImage" "v1") = .ok ()) ∧
      imageClient.Refused imageLink .resourceRepository (imageOf (.ofName "OCIImage")) := by
  have before : Host.Introductions (History.sampleLauncher 0) false aliasHost aliasHost := .refl
  have after : Host.Introductions (History.sampleLauncher 0) false imageHost imageHost := .refl
  constructor
  · have found : (imageHost.registries .resourceRepository).lookup Payload.prototype.name
        (imageOf (.versioned "OCIImage" "v1")).tag = .ok (.plugin imagePlugin) := by rfl
    obtain ⟨k, r, -, routed, takes, -, -⟩ := identity_of_resolved built_images
      imageEndpoints_capabilities before after found
    exact ⟨r, routed, takes.2 rfl⟩
  · have found : (imageHost.registries .resourceRepository).lookup Payload.prototype.name
        (imageOf (.ofName "OCIImage")).tag = .ok (.plugin imagePlugin) := found_alias
    obtain ⟨k, r, -, routed, -, -, asks⟩ := identity_of_resolved built_images
      imageEndpoints_capabilities before after found
    cases routed
    have sendable : (Call.identity { object := imageOf (.ofName "OCIImage") }).Sendable :=
      ⟨by decide, by decide +kernel⟩
    refine (asks imageClient imageLink connected_images (proper_imageOf ⟨"OCIImage", by rfl⟩)
      sendable).2 fun bound => ?_
    cases bound

end PluginKit
