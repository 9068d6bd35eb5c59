import PluginKit.Proofs.Descriptor
import PluginKit.Proofs.Rpc.Resolved
import PluginKit.Testing.Prototypes

/-!
# What is advertised is served

A plugin tells by its document which types it serves, its routers judge the types of requests, and a host
binds the plugin to the types that it reads in the document. All three go back to the prototypes that
were served when the plugin was put together, and they agree on every type.

## Main statements

- `advertised_as_served`: the document, the routers and a host that reads the document agree.
-/

namespace PluginKit

variable {σ : Type}

namespace Endpoints

variable {e : Endpoints σ} {c : Capability} {t : TypeId}

theorem exists_router_iff (built : e.Built) :
    (∃ r, Router.ofEndpoints e c = .ok r) ↔ e.typesFor c ≠ [] := by
  rw [← built.handlerFor_iff, Router.ofEndpoints]
  cases e.handlerFor c <;> simp

theorem types_of_router {r : Router σ} (routed : Router.ofEndpoints e c = .ok r) :
    r.types = e.typesFor c := by
  unfold Router.ofEndpoints at routed
  split at routed
  · cases routed
    rfl
  · cases routed

/-- A type is served if and only if the router of the capability takes it. -/
theorem mem_typesFor_iff (built : e.Built) :
    t ∈ e.typesFor c ↔ ∃ r, Router.ofEndpoints e c = .ok r ∧ r.checkType t = .ok () := by
  constructor
  · intro served
    obtain ⟨r, routed⟩ := (exists_router_iff built).2 (List.ne_nil_of_mem served)
    refine ⟨r, routed, Router.checkType_iff.2 ?_⟩
    rwa [types_of_router routed]
  · rintro ⟨r, routed, passed⟩
    rw [← types_of_router routed]
    exact Router.checkType_iff.1 passed

/-- Every type in the document is listed by a prototype that was offered, and has its schema. -/
theorem offered_of_capabilities {s : Scheme} {offers : List (String × Handler σ)}
    {doc : Capabilities} (reachable : s.Reachable) (made : (ofScheme s).serveAll offers = .ok e)
    (described : e.capabilities = .ok doc) {x : TypeSchema} (listed : x ∈ doc.typesFor c) :
    ∃ o ∈ offers, ∃ b, s.kinds.get? o.1 = some b ∧ s.kindOf? x.type = some o.1 ∧
      x.schema = b.schema := by
  have consistent := reachable.consistent
  obtain ⟨scheme, served⟩ := typesFor_serveAll consistent made
  have mem : x.type ∈ e.typesFor c := by
    rw [← types_of_capabilities described]
    exact List.mem_map_of_mem listed
  rw [served, List.mem_eraseDups] at mem
  obtain ⟨o, offered, b, known, mem⟩ := lists_of_mem_offeredTypes mem
  refine ⟨o, offered, b, known, (consistent.bound_iff x.type o.1).2 ⟨b, known, mem⟩, ?_⟩
  have schema := schemaOf_of_capabilities described listed
  rw [schemaOf_of_lists (scheme ▸ consistent) (scheme ▸ known) mem] at schema
  exact congrArg TypeSchema.schema (Except.ok.inj schema).symm

/-- Every type in the document was read from some text if those in the scheme were. -/
theorem parsed_of_capabilities {s : Scheme} {offers : List (String × Handler σ)}
    {doc : Capabilities} (reachable : s.Reachable)
    (parsed : ∀ t, s.isRegistered t = true → t.Parsed)
    (made : (ofScheme s).serveAll offers = .ok e) (described : e.capabilities = .ok doc) :
    ∀ entry ∈ doc.types, ∀ x ∈ entry.2, x.type.Parsed := by
  intro entry mem x there
  have listed := Capabilities.mem_typesFor (ascending_of_capabilities described) mem there
  obtain ⟨o, -, -, -, bound, -⟩ := offered_of_capabilities reachable made described listed
  exact parsed x.type (Scheme.isRegistered_iff.2 ⟨o.1, bound⟩)

/-- The text of the document reads back, provided that the schemas of the prototypes are within the
range of numbers and leave room for the levels above them. -/
theorem proper_of_capabilities {s : Scheme} {offers : List (String × Handler σ)}
    {doc : Capabilities} (reachable : s.Reachable)
    (parsed : ∀ t, s.isRegistered t = true → t.Parsed)
    (made : (ofScheme s).serveAll offers = .ok e) (described : e.capabilities = .ok doc)
    (readable : ∀ o ∈ offers, ∀ b, s.kinds.get? o.1 = some b →
      b.schema.isRanged = true ∧ b.schema.depth + 4 ≤ Json.Reader.maxDepth) : doc.Proper := by
  have ascending := ascending_of_capabilities described
  refine ⟨ascending, fun entry mem x there => ?_⟩
  have listed := Capabilities.mem_typesFor ascending mem there
  obtain ⟨o, offered, b, known, -, schema⟩ :=
    offered_of_capabilities reachable made described listed
  obtain ⟨ranged, shallow⟩ := readable o offered b known
  exact ⟨parsed_of_capabilities reachable parsed made described entry mem x there,
    schema ▸ ranged, schema ▸ shallow⟩

end Endpoints

/-- A new host that registers a plugin with this document binds it to the types that are given for every
capability and to no others, without a conflict. -/
def Capabilities.BindsExactly (doc : Capabilities) (types : Capability → List TypeId) : Prop :=
  ∀ (σ τ : Type) (s : Scheme) (config : ManagerConfig) (d : PluginDescriptor),
    d.capabilities = doc →
    ∃ h, (Host.ofScheme s config : Host σ τ).registerDescriptor d = (.ok (), h) ∧
      ∀ c t, (h.registries c).external.get? t = if t ∈ types c then some d else none

/-- A host binds a plugin to the types in its document, whatever became of their schemas. -/
theorem Capabilities.bindsExactly_mapSchemas (doc : Capabilities) (f : Json → Json) :
    (doc.mapSchemas f).BindsExactly fun c => (doc.typesFor c).map TypeSchema.type := by
  intro σ τ s config d same
  obtain ⟨h, done, binds⟩ := Host.registerDescriptor_of_clear
    (Host.clear_ofScheme s config d : (Host.ofScheme s config : Host σ τ).Clear d)
  refine ⟨h, done, fun c t => ?_⟩
  rw [(binds c t).2]
  simp only [Host.mem_advertised_iff, same, types_mapSchemas]
  rfl

namespace Endpoints

/-- Let prototypes be served one after another, over a scheme that calls have brought about and whose
identifiers were read. Then the endpoints can describe themselves. For every capability the document
lists the types of the prototypes that were served for it, each once and where it first comes, with the
schema of the prototype that it is bound to. These are the types that the router of the capability takes,
and there is a router if and only if the document has an entry. The document reads back, and a new host
that registers the plugin with what was read binds it to these types and to no others. The text of the
document reads back just as well, provided that every number in a schema is an integer of 64 bits or
finite, and that a reader goes as deep as the schema and the levels above it. -/
theorem advertised_as_served {s : Scheme} {offers : List (String × Handler σ)}
    (reachable : s.Reachable) (parsed : ∀ t, s.isRegistered t = true → t.Parsed)
    (made : (ofScheme s).serveAll offers = .ok e) :
    ∃ doc, e.capabilities = .ok doc ∧
      (∀ c, (doc.typesFor c).map TypeSchema.type = (offeredTypes s c offers).eraseDups) ∧
      (∀ c, ∀ x ∈ doc.typesFor c, ∃ kind b, s.kindOf? x.type = some kind ∧
        s.kinds.get? kind = some b ∧ x.schema = b.schema) ∧
      (∀ c t, t ∈ (doc.typesFor c).map TypeSchema.type ↔
        ∃ r, Router.ofEndpoints e c = .ok r ∧ r.checkType t = .ok ()) ∧
      (∀ c, (∃ r, Router.ofEndpoints e c = .ok r) ↔ ∃ entry, doc.types.get? c = some entry) ∧
      (∃ read, Capabilities.decoder.Reads doc.toJson read ∧
        read.BindsExactly fun c => (doc.typesFor c).map TypeSchema.type) ∧
      ((∀ o ∈ offers, ∀ b, s.kinds.get? o.1 = some b →
          b.schema.isRanged = true ∧ b.schema.depth + 4 ≤ Json.Reader.maxDepth) →
        ∃ read, Json.decodeOctets Capabilities.decoder (Text.encode doc.toJson.render) = .ok read ∧
          read.BindsExactly fun c => (doc.typesFor c).map TypeSchema.type) := by
  have built : e.Built := (Built.empty reachable).serveAll made
  have served := (typesFor_serveAll reachable.consistent made).2
  obtain ⟨doc, described⟩ := built.exists_capabilities
  have types (c : Capability) : (doc.typesFor c).map TypeSchema.type = e.typesFor c :=
    types_of_capabilities described c
  refine ⟨doc, described, fun c => (types c).trans (served c), ?_, ?_, ?_, ?_, ?_⟩
  · intro c x listed
    obtain ⟨o, -, b, known, bound, schema⟩ := offered_of_capabilities reachable made described listed
    exact ⟨o.1, b, bound, known, schema⟩
  · intro c t
    rw [types]
    exact mem_typesFor_iff built
  · intro c
    rw [exists_router_iff built, get?_of_capabilities described]
  · have reads := Capabilities.reads_toJson (ascending_of_capabilities described)
      (parsed_of_capabilities reachable parsed made described)
    exact ⟨_, reads, doc.bindsExactly_mapSchemas _⟩
  · intro readable
    have proper := proper_of_capabilities reachable parsed made described readable
    exact ⟨_, Capabilities.decodeOctets_toJson proper, doc.bindsExactly_mapSchemas _⟩

/-! ## Charts and blobs -/

/-- The scheme of a plugin that knows charts by two types and blobs by one. -/
def storeScheme : Scheme :=
  ((Scheme.registering Testing.localBlob [.versioned "localBlob" "v1"]).run
    ((Scheme.registering Testing.helmChart [.versioned "helmChart" "v1", .ofName "helmChart"]).run
      {}).2).2

/-- Gives every resource back as it is. -/
def untouchedDigests : DigestContract Unit where
  identity m := namingRepository.identity m
  process m _ := pure m

/-- Blobs are digested, and charts and blobs are stored. Charts are served once more at the end. -/
def storeOffers : List (String × Handler Unit) :=
  [(Testing.localBlob.name, .digest untouchedDigests),
    (Testing.helmChart.name, .resource namingRepository),
    (Testing.localBlob.name, .resource namingRepository),
    (Testing.helmChart.name, .resource namingRepository)]

theorem parsed_storeScheme (t : TypeId) (bound : storeScheme.isRegistered t = true) : t.Parsed := by
  obtain ⟨kind, bound⟩ := Scheme.isRegistered_iff.1 bound
  have ascending : storeScheme.types.Ascending := by decide
  have mem := (Table.get?_eq_some_iff ascending).1 bound
  have types : storeScheme.types =
      [(.ofName "helmChart", Testing.helmChart.name),
        (.versioned "helmChart" "v1", Testing.helmChart.name),
        (.versioned "localBlob" "v1", Testing.localBlob.name)] := rfl
  rw [types] at mem
  simp only [List.mem_cons, Prod.mk.injEq, List.not_mem_nil, or_false] at mem
  rcases mem with ⟨rfl, -⟩ | ⟨rfl, -⟩ | ⟨rfl, -⟩
  · exact ⟨"helmChart", by rfl⟩
  · exact ⟨"helmChart/v1", by rfl⟩
  · exact ⟨"localBlob/v1", by rfl⟩

theorem readable_storeOffers : ∀ o ∈ storeOffers, ∀ b, storeScheme.kinds.get? o.1 = some b →
    b.schema.isRanged = true ∧ b.schema.depth + 4 ≤ Json.Reader.maxDepth := by
  have chart (b : Binding) (known : storeScheme.kinds.get? Testing.helmChart.name = some b) :
      b.schema.isRanged = true ∧ b.schema.depth + 4 ≤ Json.Reader.maxDepth := by
    cases known
    decide +kernel
  have blob (b : Binding) (known : storeScheme.kinds.get? Testing.localBlob.name = some b) :
      b.schema.isRanged = true ∧ b.schema.depth + 4 ≤ Json.Reader.maxDepth := by
    cases known
    decide +kernel
  intro o mem b known
  simp only [storeOffers, List.mem_cons, List.not_mem_nil, or_false] at mem
  rcases mem with rfl | rfl | rfl | rfl
  · exact blob b known
  · exact chart b known
  · exact blob b known
  · exact chart b known

/-- Charts and blobs are stored, and only blobs are digested: so says the document, so judges the router,
and so does a host find it. -/
theorem charts_and_blobs_advertised : ∃ e doc read d h,
    (ofScheme storeScheme).serveAll storeOffers = .ok e ∧ e.capabilities = .ok doc ∧
      (doc.typesFor .resourceRepository).map TypeSchema.type =
        [.versioned "helmChart" "v1", .ofName "helmChart", .versioned "localBlob" "v1"] ∧
      (∃ r, Router.ofEndpoints e .digestProcessor = .ok r ∧
        r.checkType (.versioned "localBlob" "v1") = .ok ()) ∧
      (∃ entry, doc.types.get? .digestProcessor = some entry) ∧
      Json.decodeOctets Capabilities.decoder (Text.encode doc.toJson.render) = .ok read ∧
      d = { id := ⟨"store"⟩, path := "/plugins/store", capabilities := read } ∧
      (Host.ofScheme {} {} : Host Unit Unit).registerDescriptor d = (.ok (), h) ∧
      (h.registries .digestProcessor).external.get? (.versioned "localBlob" "v1") = some d ∧
      (h.registries .digestProcessor).external.get? (.ofName "helmChart") = none := by
  have reachable : storeScheme.Reachable :=
    ⟨false, .registered (.registered .same Testing.helmChart _) Testing.localBlob _⟩
  have made : ∃ e, (ofScheme storeScheme).serveAll storeOffers = .ok e := ⟨_, by rfl⟩
  obtain ⟨e, made⟩ := made
  obtain ⟨doc, described, listed, -, taken, routed, -, reads⟩ :=
    advertised_as_served reachable parsed_storeScheme made
  obtain ⟨read, back, exactly⟩ := reads readable_storeOffers
  obtain ⟨h, done, binds⟩ := exactly Unit Unit {} {}
    { id := ⟨"store"⟩, path := "/plugins/store", capabilities := read } rfl
  have digested : (doc.typesFor .digestProcessor).map TypeSchema.type =
      [.versioned "localBlob" "v1"] := (listed .digestProcessor).trans (by decide)
  obtain ⟨r, router, passed⟩ := (taken .digestProcessor (.versioned "localBlob" "v1")).1 (by
    rw [digested]
    exact List.mem_singleton_self _)
  have bound (t : TypeId) : (h.registries .digestProcessor).external.get? t =
      if t ∈ [.versioned "localBlob" "v1"] then
        some { id := ⟨"store"⟩, path := "/plugins/store", capabilities := read } else none := by
    rw [← digested]
    exact binds .digestProcessor t
  exact ⟨e, doc, read, _, h, made, described, (listed .resourceRepository).trans (by decide),
    ⟨r, router, passed⟩, (routed .digestProcessor).1 ⟨r, router⟩, back, rfl, done,
    (bound _).trans (if_pos (List.mem_singleton_self _)), (bound _).trans (if_neg (by decide))⟩

end Endpoints

end PluginKit
