import PluginKit.Proofs.Rpc.Carried

/-!
# A plugin behaves over a connection as in place

What a host asks of a handler it can ask of the handler itself or of a client whose connection leads
to a router for the handler. Both give the same answer, leave the same world and call the handler in
the same way, as long as no message is larger than a body may be.

## Main statements

- `mirrors_fulfil`: a demand on a client mirrors the demand on the handler behind it.
- `answer_over_connection`: the answer, the world and the calls of a demand over a connection are
  those of the demand in place.
- `many_labels_refused`: a demand whose message is too large is answered in place alone.
-/

namespace PluginKit

variable {σ τ α : Type}

/-! ## Demands -/

/-- A demand of a host on a handler, in its own terms. A listing hands every page to `receive` and stops
after a number of pages. -/
inductive Demand (σ : Type) where
  | identity (object : Payload)
  | download (r : Resource) (credentials : Credentials)
  | upload (r : Resource) (source : Location) (credentials : Credentials)
  | digest (r : Resource) (credentials : Credentials)
  | list (repository : Payload) (credentials : Credentials) (receive : List String → Effect σ Unit)
    (pages : Nat) (last : String)

/-- The answer of a handler to a demand. -/
inductive Answer where
  | identity (i : Identity)
  | location (l : Location)
  | resource (r : Resource)
  | cursor (next : Option String)

namespace Demand

/-- The demand on another world, where pages are received as `f` says. -/
def along (f : Effect σ Unit → Effect τ Unit) : Demand σ → Demand τ
  | .identity p => .identity p
  | .download r c => .download r c
  | .upload r source c => .upload r source c
  | .digest r c => .digest r c
  | .list p c receive pages last => .list p c (fun names => f (receive names)) pages last

/-- The demand in place, beside the notes. -/
def inPlace : Demand σ → Demand (σ × List Call) := along Effect.beside

/-- The demand over a connection. -/
def overConnection (d : Demand σ) : Demand (Link (σ × List Call)) :=
  d.inPlace.along (.within Link.world fun l w => { l with world := w })

/-- The payload by whose type a demand is judged. -/
def payload? : Demand σ → Option Payload
  | .identity p => some p
  | .download r _ => r.access
  | .upload r _ _ => r.access
  | .digest r _ => r.access
  | .list p _ _ _ _ => some p

/-- The resource that a demand is about. -/
def resource? : Demand σ → Option Resource
  | .identity _ => none
  | .download r _ => some r
  | .upload r _ _ => some r
  | .digest r _ => some r
  | .list _ _ _ _ _ => none

/-- The credentials of a demand. -/
def credentials : Demand σ → Credentials
  | .identity _ => {}
  | .download _ c => c
  | .upload _ _ c => c
  | .digest _ c => c
  | .list _ c _ _ _ => c

/-- A demand that a plugin for `types` takes: it is about a payload of one of them, which passes the
advertised schemas, everything in it can be written, and its credentials fit in a header. -/
structure Admitted (d : Demand σ) (types : List TypeId) (docs : Schema.Documents)
    (schemas : Table TypeId Json) : Prop where
  payload : ∃ p, d.payload? = some p ∧ p.Proper ∧ p.tag ∈ types ∧ Passes docs schemas p
  resource : ∀ r ∈ d.resource?, r.toWire.Proper
  ascending : d.credentials.entries.Ascending
  header : ∃ value, Client.credentialHeader d.credentials = .ok value

end Demand

/-- The answer of a handler to a demand. Nothing answers a demand for another capability. -/
def Handler.fulfil : Handler σ → Demand σ → Effect σ Answer
  | h, .identity p => .identity <$> h.identityOf p
  | .resource k, .download r c => .location <$> k.locate r c
  | .resource k, .upload r source c => .resource <$> k.store r source c
  | .digest k, .digest r c => .resource <$> k.digested r c
  | .lister k, .list p c receive pages last => .cursor <$> k.list p c receive pages last
  | h, _ => .fail (.notFound ("operation not served by this " ++ h.capability.name ++ " plugin"))

/-! ## Demands over a connection -/

section Mirroring

variable {docs : Schema.Documents} {schemas : Table TypeId Json} {k : Handler σ} {types : List TypeId}
variable {c : Client (σ × List Call)} {credentials : Credentials}

/-- Listings mirror each other when fetching and receiving do. -/
theorem mirrors_pages {fetch : String → Effect (Link (σ × List Call)) (Page String)}
    {fetch' : String → Effect (σ × List Call) (Page String)}
    {receive : List String → Effect (Link (σ × List Call)) Unit}
    {receive' : List String → Effect (σ × List Call) Unit}
    (fetches : ∀ last, Mirrors docs schemas (fetch last) (fetch' last))
    (receives : ∀ names, Mirrors docs schemas (receive names) (receive' names)) (n : Nat)
    (last : String) :
    Mirrors docs schemas (Page.pages fetch receive n last) (Page.pages fetch' receive' n last) := by
  induction n generalizing last with
  | zero => exact mirrors_pure (some last)
  | succ n ih =>
    refine mirrors_bind (fetches last) fun page => mirrors_bind (receives page.items) fun _ => ?_
    -- both sides have the same page, so they stop or go on together
    cases page.follow last with
    | none => exact mirrors_pure none
    | some next => exact ih next

/-- The access of a resource that passes is judged without effect. -/
theorem mirrors_of_validatedAccess {w : Wire.Resource} {p : Payload} (access : w.access = some p)
    (passes : Passes c.documents schemas p) {remote : Effect (Link (σ × List Call)) α}
    {direct : Effect (σ × List Call) α} (h : Mirrors c.documents schemas remote direct) :
    Mirrors c.documents schemas (c.validateAccess w >>= fun _ => remote) direct := by
  rw [Client.validateAccess, access]
  exact mirrors_of_validated passes h

theorem mirrors_identityOf (answers : k.Proper)
    (connected : c.send = (k.router types).connection) {p : Payload} (proper : p.Proper)
    (served : p.tag ∈ types) (passes : Passes c.documents schemas p) :
    Mirrors c.documents schemas ((c.handler k.capability).identityOf p) (k.recorded.identityOf p) := by
  have remote : (c.handler k.capability).identity { object := p } = c.identity { object := p } := by
    cases k <;> rfl
  rw [Handler.identityOf, Handler.identityOf, remote, Handler.identity_recorded]
  refine mirrors_bind (mirrors_of_validated passes ?_) fun a => mirrors_pure a.identity
  exact mirrors_call connected .identity (.identity { object := p })
    (carries_identity answers proper served)

theorem mirrors_locate (h : ResourceContract σ)
    (connected : c.send = ((Handler.resource h).router types).connection) {r : Resource} {p : Payload}
    (proper : r.toWire.Proper) (access : r.access = some p) (served : p.tag ∈ types)
    (passes : Passes c.documents schemas p) (ascending : credentials.entries.Ascending)
    (header : ∃ value, Client.credentialHeader credentials = .ok value) :
    Mirrors c.documents schemas (c.repository.locate r credentials) (h.recorded.locate r credentials) := by
  refine mirrors_bind (mirrors_of_validatedAccess access passes ?_) fun a => mirrors_pure a.location
  exact mirrors_call connected .download (.download { resource := r.toWire } credentials)
    (carries_download h proper access served ascending header)

theorem mirrors_store {h : ResourceContract σ} (answers : (Handler.resource h).Proper)
    (connected : c.send = ((Handler.resource h).router types).connection) {r : Resource} {p : Payload}
    (proper : r.toWire.Proper) (access : r.access = some p) (served : p.tag ∈ types)
    (passes : Passes c.documents schemas p) (ascending : credentials.entries.Ascending)
    (header : ∃ value, Client.credentialHeader credentials = .ok value) (source : Location) :
    Mirrors c.documents schemas (c.repository.store r source credentials)
      (h.recorded.store r source credentials) := by
  refine mirrors_bind (mirrors_of_validatedAccess access passes ?_) fun a =>
    mirrors_lift (Resource.ofWire a.resource)
  exact mirrors_call connected .upload (.upload { resource := r.toWire, source } credentials)
    (carries_upload answers proper access served ascending header)

theorem mirrors_digested {h : DigestContract σ} (answers : (Handler.digest h).Proper)
    (connected : c.send = ((Handler.digest h).router types).connection) {r : Resource} {p : Payload}
    (proper : r.toWire.Proper) (access : r.access = some p) (served : p.tag ∈ types)
    (passes : Passes c.documents schemas p) (ascending : credentials.entries.Ascending)
    (header : ∃ value, Client.credentialHeader credentials = .ok value) :
    Mirrors c.documents schemas (c.processor.digested r credentials)
      (h.recorded.digested r credentials) := by
  refine mirrors_bind (mirrors_of_validatedAccess access passes ?_) fun a =>
    mirrors_lift (Resource.ofWire a.resource)
  exact mirrors_call connected .digest (.digest { resource := r.toWire } credentials)
    (carries_digest answers proper access served ascending header)

theorem mirrors_list (h : ListerContract σ)
    (connected : c.send = ((Handler.lister h).router types).connection) {p : Payload}
    (proper : p.Proper) (served : p.tag ∈ types) (passes : Passes c.documents schemas p)
    (ascending : credentials.entries.Ascending)
    (header : ∃ value, Client.credentialHeader credentials = .ok value)
    (receive : List String → Effect σ Unit) (n : Nat) (last : String) :
    Mirrors c.documents schemas
      (c.lister.list p credentials
        (fun names => .within Link.world (fun l w => { l with world := w }) (receive names).beside)
        n last)
      (h.recorded.list p credentials (fun names => (receive names).beside) n last) := by
  refine mirrors_pages (fun last => ?_) (fun names => mirrors_beside (receive names)) n last
  refine mirrors_bind (mirrors_of_validated passes ?_) fun a => mirrors_pure _
  exact mirrors_call connected .list (.page { repository := p, last } credentials)
    (carries_page h proper served ascending header)

/-- A demand on a client mirrors the demand on the handler behind it. -/
theorem mirrors_fulfil (answers : k.Proper) (connected : c.send = (k.router types).connection)
    {d : Demand σ} (admitted : d.Admitted types c.documents schemas) :
    Mirrors c.documents schemas ((c.handler k.capability).fulfil d.overConnection)
      (k.recorded.fulfil d.inPlace) := by
  obtain ⟨⟨p, subject, proper, served, passes⟩, resource, ascending, header⟩ := admitted
  cases d with
  | identity object =>
    cases subject
    have same := mirrors_map (mirrors_identityOf answers connected proper served passes)
      Answer.identity
    cases k <;> exact same
  | download r credentials =>
    cases k with
    | resource h =>
      exact mirrors_map (mirrors_locate h connected (resource r rfl) subject served passes ascending
        header) Answer.location
    | digest h => exact mirrors_lift _
    | lister h => exact mirrors_lift _
  | upload r source credentials =>
    cases k with
    | resource h =>
      exact mirrors_map (mirrors_store answers connected (resource r rfl) subject served passes
        ascending header source) Answer.resource
    | digest h => exact mirrors_lift _
    | lister h => exact mirrors_lift _
  | digest r credentials =>
    cases k with
    | resource h => exact mirrors_lift _
    | digest h =>
      exact mirrors_map (mirrors_digested answers connected (resource r rfl) subject served passes
        ascending header) Answer.resource
    | lister h => exact mirrors_lift _
  | list repository credentials receive n last =>
    cases subject
    cases k with
    | resource h => exact mirrors_lift _
    | digest h => exact mirrors_lift _
    | lister h =>
      exact mirrors_map (mirrors_list h connected proper served passes ascending header receive n
        last) Answer.cursor

end Mirroring

/-! ## Resources with many labels

A resource with many labels is an ordinary resource, and its handler takes it. Over a connection it is
taken while its message fits in a body.
-/

/-- A label with nothing in it. -/
def blankLabel : Label where
  name := ""
  value := .null

/-- A resource with `n` labels. -/
def labelled (n : Nat) : Resource where
  name := "r"
  version := "1"
  type := "blob"
  labels := List.replicate n blankLabel
  access := some { tag := .ofName "t", fields := [] }

/-- A repository that names the place of a resource after it and stores nothing. -/
def namingRepository : ResourceContract Unit where
  identity _ := pure { identity := {} }
  download m _ := pure { location := .remoteUrl ("https://h/" ++ m.resource.name) }
  upload _ _ := .fail (.notFound "nothing is stored")

/-- Endpoints that serve one type with the repository. -/
def namingEndpoints : Endpoints Unit where
  scheme := {}
  resource := some { handler := namingRepository, types := [.ofName "t"] }

/-- A client that is connected to the repository. -/
def namingClient : Client (Unit × List Call) where
  plugin := ⟨"h"⟩
  send := ((Handler.resource namingRepository).router [.ofName "t"]).connection
  ids _ := .zero
  documents := .none

/-- The demand to locate a resource with `n` labels. -/
def locateLabelled (n : Nat) : Demand Unit := .download (labelled n) {}

/-- The link before the first call. -/
def freshLink : Link (Unit × List Call) where
  world := ((), [])

theorem proper_naming : (Handler.resource namingRepository).Proper where
  identity := by
    intro m s a gave
    cases gave
    exact Table.ascending_nil
  upload := by
    intro h same m c s a gave
    cases same
    cases gave
  process := by
    intro h same
    cases same

theorem admitted_labelled (n : Nat) :
    (locateLabelled n).Admitted (namingEndpoints.typesFor .resourceRepository) namingClient.documents
      freshLink.validator.schemas where
  payload := by
    refine ⟨_, rfl, ⟨⟨"t", rfl⟩, Table.ascending_nil, ?_, ?_, ?_⟩, List.mem_singleton.2 rfl, ?_⟩
    · intro e he
      cases he
    · intro e he
      cases he
    · intro e he
      cases he
    · intro source advertised
      cases advertised
  resource := by
    intro r hr
    cases hr
    refine ⟨Table.ascending_nil, ?_, ?_, ?_, ?_⟩
    · intro l hl
      rw [(List.mem_replicate.1 hl).2]
      exact ⟨rfl, rfl⟩
    · intro s hs
      cases hs
    · intro p hp
      cases hp
      refine ⟨⟨"t", rfl⟩, Table.ascending_nil, ?_, ?_, ?_⟩ <;> (intro e he; cases he)
    · intro n hn
      cases hn
  ascending := Table.ascending_nil
  header := ⟨_, header_empty⟩

theorem shallow_labelled (n : Nat) :
    (Call.download { resource := (labelled n).toWire } {}).document.depth ≤ Json.Reader.maxDepth := by
  -- labels stand beside each other, so their number adds no level
  have labels (n : Nat) : Json.depthItems (List.replicate n blankLabel.toJson) ≤ 1 := by
    induction n with
    | zero => exact Nat.zero_le 1
    | succ n ih =>
      rw [List.replicate_succ, Json.depthItems]
      exact Nat.max_le.2 ⟨Nat.le_refl 1, ih⟩
  have access : ({ tag := .ofName "t", fields := [] } : Payload).toJson.depth = 1 := rfl
  have bound := labels n
  rw [Json.Reader.maxDepth]
  cases n with
  | zero => decide +kernel
  | succ n =>
    simp [Call.document, Wire.ResourceMessage.toJson, Wire.Resource.toJson, Resource.toWire, labelled,
      Json.memberIf, Json.ifSome, Json.depth, Json.depthMembers, access]
    omega

theorem length_blankLabel (rest : List Char) :
    (Json.renderOnto rest blankLabel.toJson).length = 24 + rest.length := by
  rw [Nat.add_comm]
  rfl

theorem length_blankLabels (rest : List Char) (n : Nat) :
    (Json.renderItems rest (List.replicate n blankLabel.toJson)).length = 25 * n + rest.length := by
  induction n with
  | zero => simp [Json.renderItems]
  | succ n ih =>
    rw [List.replicate_succ, Json.renderItems, List.length_cons, length_blankLabel, ih]
    omega

theorem size_labelled (n : Nat) : 25 * n ≤
    (Text.encode (Call.download { resource := (labelled n).toWire } {}).document.render).size := by
  refine Nat.le_trans ?_ (Text.length_le_size_encode _)
  cases n with
  | zero => exact Nat.zero_le _
  | succ n =>
    simp [Call.document, Wire.ResourceMessage.toJson, Wire.Resource.toJson, Resource.toWire, labelled,
      Json.memberIf, Json.ifSome, Json.renderOnto, Json.renderMembers, List.replicate_succ,
      length_blankLabel, length_blankLabels]
    omega

theorem inPlace_labelled (n : Nat) :
    ((Handler.resource namingRepository).recorded.fulfil (locateLabelled n).inPlace).run
        freshLink.world =
      (.ok (.location (.remoteUrl "https://h/r")),
        ((), [.download { resource := (labelled n).toWire } {}])) := rfl

theorem overConnection_labelled {n : Nat} (large : Router.bodyLimit < 25 * n) :
    (((namingClient.handler .resourceRepository).fulfil (locateLabelled n).overConnection).run
      freshLink).1.toOption = none := by
  -- the payload passes, the call is refused, and nothing is made of the refusal
  have refused := run_call_of_tooLarge (c := namingClient) rfl .download (by decide) (by decide)
    (Nat.lt_of_lt_of_le large (size_labelled n)) header_empty Wire.LocationResponse.decoder freshLink
  have judged : (namingClient.validateAccess (labelled n).toWire).run freshLink =
      (.ok (), freshLink) := rfl
  have located : (namingClient.repository.locate (labelled n) {}).run freshLink =
      (.error (Client.failure ⟨"h"⟩ Wire.resourceGetPath Router.tooLarge),
        { freshLink with issued := 1 }) :=
    Effect.run_bind_error ((Effect.run_bind_ok judged).trans refused)
  show ((Answer.location <$> namingClient.repository.locate (labelled n) {}).run
    freshLink).1.toOption = none
  rw [Effect.run_map, located]
  rfl

/-! ## Transparency -/

/-- A plugin is transparent. Let a handler be served, and let a client be connected to its router. For
every demand that the plugin takes, the client answers exactly when the handler itself does, and the
same. The world it leaves is the same too, the calls that the handler has noted are the same, messages
and credentials included, and there was one request for each of them. The calls have to be such as can
be sent. -/
theorem answer_over_connection {e : Endpoints σ} {cap : Capability} {k : Handler σ}
    (served : e.handlerFor cap = some k) (answers : k.Proper) {r : Router (σ × List Call)}
    (routed : Router.ofEndpoints e.recorded cap = .ok r) {c : Client (σ × List Call)}
    (connected : c.send = r.connection)
    {l : Link (σ × List Call)} (consistent : l.validator.Consistent c.documents)
    (fresh : l.world.2 = [])
    {d : Demand σ} (admitted : d.Admitted (e.typesFor cap) c.documents l.validator.schemas)
    (sendable : ∀ call ∈ ((k.recorded.fulfil d.inPlace).run l.world).2.2, call.Sendable) :
    (((c.handler cap).fulfil d.overConnection).run l).1.toOption =
        ((k.recorded.fulfil d.inPlace).run l.world).1.toOption ∧
      (((c.handler cap).fulfil d.overConnection).run l).2.world =
        ((k.recorded.fulfil d.inPlace).run l.world).2 ∧
      (((c.handler cap).fulfil d.overConnection).run l).2.issued =
        l.issued + ((k.recorded.fulfil d.inPlace).run l.world).2.2.length := by
  rw [Endpoints.ofEndpoints_recorded served] at routed
  cases routed
  have cap_eq := Endpoints.capability_of_handlerFor served
  have mirrors := mirrors_fulfil answers connected admitted
  rw [cap_eq] at mirrors
  have agrees := (mirrors l consistent rfl).2 sendable
  refine ⟨agrees.outcome, agrees.world, ?_⟩
  have issued := agrees.issued
  rw [fresh] at issued
  exact issued

/-- One label is no hindrance. -/
theorem few_labels_answered :
    (((namingClient.handler .resourceRepository).fulfil (locateLabelled 1).overConnection).run
      freshLink).1.toOption = some (.location (.remoteUrl "https://h/r")) := by
  have served : namingEndpoints.handlerFor .resourceRepository = some (.resource namingRepository) := rfl
  have transparent := answer_over_connection served proper_naming rfl (c := namingClient) rfl
    (l := freshLink) (Validator.consistent_ofSchemas [] _) rfl (admitted_labelled 1) (by
      intro call noted
      rw [inPlace_labelled] at noted
      cases List.mem_singleton.1 noted
      exact ⟨shallow_labelled 1, by decide +kernel⟩)
  rw [transparent.1, inPlace_labelled]
  rfl

/-- Ninety thousand labels do not fit in a body. -/
theorem many_labels_refused :
    namingEndpoints.handlerFor .resourceRepository = some (.resource namingRepository) ∧
      (Handler.resource namingRepository).Proper ∧
      (∃ r, Router.ofEndpoints namingEndpoints.recorded .resourceRepository = .ok r ∧
        namingClient.send = r.connection) ∧
      (locateLabelled 90000).Admitted (namingEndpoints.typesFor .resourceRepository)
        namingClient.documents freshLink.validator.schemas ∧
      (∀ call ∈ (((Handler.resource namingRepository).recorded.fulfil
          (locateLabelled 90000).inPlace).run freshLink.world).2.2,
        call.document.depth ≤ Json.Reader.maxDepth) ∧
      (((Handler.resource namingRepository).recorded.fulfil
          (locateLabelled 90000).inPlace).run freshLink.world).1.toOption =
        some (.location (.remoteUrl "https://h/r")) ∧
      (((namingClient.handler .resourceRepository).fulfil
          (locateLabelled 90000).overConnection).run freshLink).1.toOption = none := by
  refine ⟨rfl, proper_naming, ⟨_, rfl, rfl⟩, admitted_labelled 90000, ?_, ?_,
    overConnection_labelled (by decide)⟩
  · intro call noted
    rw [inPlace_labelled] at noted
    cases List.mem_singleton.1 noted
    exact shallow_labelled 90000
  · rw [inPlace_labelled]
    rfl

end PluginKit
