import PluginKit.Proofs.Pagination
import PluginKit.Proofs.Rpc.Carried

/-!
# What a client sends

A client judges the payload of a call before it sends anything. All that it hands to the connection is
recorded here, whatever the connection then does with it. A payload that is rejected is never sent, and
any other is sent once, as it was judged.

## Main statements

- `run_ask`: what a client does for a call.
- `sends_what_passes_once`: what is sent for a call and for a listing, whatever came before.
-/

namespace PluginKit

open Http (Request Response)

variable {σ α : Type}

/-- The value that an object holds at a place, member by member. -/
def Json.follow (v : Json) (place : List String) : Option Json := place.foldlM Json.get? v

namespace Call

/-! ## Calls -/

/-- The operation that a call asks for. -/
def operation : Call → Operation
  | .identity _ => .identity
  | .download _ _ => .download
  | .upload _ _ => .upload
  | .digest _ _ => .digest
  | .page _ _ => .list

/-- The type of the answers to a call. -/
def Answer : Call → Type
  | .identity _ => Wire.IdentityResponse
  | .download _ _ => Wire.LocationResponse
  | .upload _ _ => Wire.ResourceMessage
  | .digest _ _ => Wire.ResourceMessage
  | .page _ _ => Wire.ListResponse

/-- How the answer to a call is read. -/
def decoder : (call : Call) → Json.Decoder call.Answer
  | .identity _ => Wire.IdentityResponse.decoder
  | .download _ _ => Wire.LocationResponse.decoder
  | .upload _ _ => Wire.uploadResponse
  | .digest _ _ => Wire.digestResponse
  | .page _ _ => Wire.ListResponse.decoder

/-- The payload of a call that a plugin may advertise a schema for. A resource need not have one. -/
def payload? : Call → Option Payload
  | .identity m => some m.object
  | .download m _ => m.resource.access
  | .upload m _ => m.resource.access
  | .digest m _ => m.resource.access
  | .page m _ => some m.repository

/-- The place of the payload in the message of a call. -/
def place : Call → List String
  | .identity _ => ["typ"]
  | .page _ _ => ["repository"]
  | _ => ["resource", "access"]

/-- The access of a resource as it is sent is the payload. -/
theorem get?_access (r : Wire.Resource) :
    r.toJson.get? "access" = r.access.map Payload.toJson := by
  simp [Wire.Resource.toJson, Json.get?, List.lookup_append, List.lookup_cons]

/-- The payload stands in the message as the value that is judged. -/
theorem follow_place (call : Call) :
    call.document.follow call.place = call.payload?.map Payload.toJson := by
  have inResource (r : Wire.Resource) (rest : List (String × Json)) :
      (Json.obj (("resource", r.toJson) :: rest)).follow ["resource", "access"] =
        r.access.map Payload.toJson := by
    rw [← get?_access]
    show (r.toJson.get? "access" >>= fun v => some v) = _
    exact Option.bind_fun_some _
  cases call with
  | identity m => rfl
  | download m c => exact inResource m.resource _
  | upload m c => exact inResource m.resource _
  | digest m c => exact inResource m.resource _
  | page m c => rfl

end Call

namespace Client

/-! ## What a client does for a call -/

/-- The stub of a client for a call. -/
def ask (c : Client σ) : (call : Call) → Effect (Link σ) call.Answer
  | .identity m => c.identity m
  | .download m credentials => c.repository.download m credentials
  | .upload m credentials => c.repository.upload m credentials
  | .digest m credentials => c.processor.process m credentials
  | .page m credentials => c.lister.page m credentials

/-- Judges the payload of a call, if it has one. -/
def judge (c : Client σ) (call : Call) : Effect (Link σ) Unit :=
  match call.payload? with
  | some p => c.validate p
  | none => pure ()

/-- The judgement on the payload of a call, and the validator after it. -/
def verdict (c : Client σ) (call : Call) (v : Validator) : Outcome Unit × Validator :=
  match call.payload? with
  | some p => v.validate c.documents c.plugin p
  | none => (.ok (), v)

/-- The request for a call, with the value of its header and the number of its identifier. -/
def requestFor (c : Client σ) (call : Call) (value : Text.Octets) (number : Nat) : Request :=
  call.operation.request call.document value (c.ids number)

/-- A client judges the payload of a call, and if that passes and the credentials fit in a header, it
sends one request and reads the answer. -/
theorem run_ask (c : Client σ) (call : Call) (l : Link σ) : (c.ask call).run l =
    match c.verdict call l.validator with
    | (.error fault, v) => (.error fault, { l with validator := v })
    | (.ok (), v) =>
      match credentialHeader call.credentials with
      | .error fault => (.error fault, { l with validator := v, issued := l.issued + 1 })
      | .ok value =>
        let sent := (c.send (c.requestFor call value l.issued)).run l.world
        (sent.1 >>= reply c.plugin call.operation.path call.decoder,
          { world := sent.2, validator := v, issued := l.issued + 1 }) := by
  have parts : c.ask call = (c.judge call >>= fun _ =>
      c.call call.operation.path call.document call.credentials call.decoder) := by
    cases call <;> rfl
  have judged : (c.judge call).run l = ((c.verdict call l.validator).1,
      { l with validator := (c.verdict call l.validator).2 }) := by
    unfold judge verdict
    cases call.payload? <;> rfl
  rw [parts, Effect.run_bind, judged]
  rcases c.verdict call l.validator with ⟨fault | ⟨⟨⟩⟩, v⟩
  · rfl
  · simp only
    rw [run_call_eq]
    cases header : credentialHeader call.credentials with
    | error fault =>
      rw [callRequest, header]
      rfl
    | ok value =>
      rw [callRequest_path call.operation call.document header]
      rfl

end Client

/-! ## What was judged before -/

namespace Link

/-- The validator of a client judges by certain schemas, whatever it has compiled of them and whichever
documents outside it has read. -/
structure Advertises (l : Link σ) (docs : Schema.Documents) (schemas : Table TypeId Json) : Prop where
  consistent : l.validator.Consistent docs
  schemas : l.validator.schemas = schemas

theorem advertises_ofSchemas (w : σ) (docs : Schema.Documents) (schemas : Table TypeId Json) :
    Advertises { world := w, validator := .ofSchemas schemas } docs schemas :=
  ⟨Validator.consistent_ofSchemas schemas docs, rfl⟩

end Link

/-- The payload of a call, if it has one, has no violation under the schema advertised for it. -/
def Call.Accepted (call : Call) (docs : Schema.Documents) (schemas : Table TypeId Json) : Prop :=
  ∀ p ∈ call.payload?, Passes docs schemas p

/-- A payload that does not pass is rejected for what is wrong with it. -/
theorem Validator.validate_of_not_passes {v : Validator} {docs : Schema.Documents}
    (consistent : v.Consistent docs) (plugin : PluginId) {p : Payload}
    (rejected : ¬ Passes docs v.schemas p) : ∃ violations ≠ [],
      (v.validate docs plugin p).1 = .error (.validation plugin p.tag violations) := by
  simp only [Passes, Classical.not_forall] at rejected
  obtain ⟨source, advertised, violated⟩ := rejected
  refine ⟨_, violated, ?_⟩
  rw [judge_eq_of_consistent consistent advertised]
  cases found : judge docs source p with
  | nil => exact absurd found violated
  | cons violation others => rfl

namespace Client

variable {c : Client σ} {call : Call} {schemas : Table TypeId Json} {l : Link σ}

theorem advertises_verdict (advertises : l.Advertises c.documents schemas) :
    (c.verdict call l.validator).2.Consistent c.documents ∧
      (c.verdict call l.validator).2.schemas = schemas := by
  unfold verdict
  cases call.payload? with
  | none => exact ⟨advertises.consistent, advertises.schemas⟩
  | some p =>
    exact ⟨Validator.consistent_validate advertises.consistent c.plugin p,
      (Validator.schemas_validate l.validator c.documents c.plugin p).trans advertises.schemas⟩

/-- A client judges by the same schemas after a call, whatever the connection has answered. -/
theorem advertises_ask (advertises : l.Advertises c.documents schemas) :
    ((c.ask call).run l).2.Advertises c.documents schemas := by
  have kept : (c.verdict call l.validator).2.Consistent c.documents ∧
      (c.verdict call l.validator).2.schemas = schemas := advertises_verdict advertises
  rw [run_ask]
  generalize c.verdict call l.validator = verdict at kept
  obtain ⟨fault | ⟨⟨⟩⟩, v⟩ := verdict
  · exact ⟨kept.1, kept.2⟩
  · simp only
    cases credentialHeader call.credentials <;> exact ⟨kept.1, kept.2⟩

/-- A call whose payload is rejected fails with the violations, and nothing is sent. -/
theorem run_ask_of_rejected (advertises : l.Advertises c.documents schemas) {p : Payload}
    (payload : call.payload? = some p) (rejected : ¬ Passes c.documents schemas p) :
    (∃ violations ≠ [], ((c.ask call).run l).1 = .error (.validation c.plugin p.tag violations)) ∧
      ((c.ask call).run l).2.world = l.world := by
  obtain ⟨violations, some_, judged⟩ := Validator.validate_of_not_passes advertises.consistent
    c.plugin (advertises.schemas ▸ rejected : ¬ Passes c.documents l.validator.schemas p)
  have failed : (c.verdict call l.validator).1 =
      .error (.validation c.plugin p.tag violations) := by
    rw [verdict, payload]
    exact judged
  rw [run_ask]
  generalize c.verdict call l.validator = verdict at failed
  obtain ⟨outcome, v⟩ := verdict
  cases failed
  exact ⟨⟨violations, some_, rfl⟩, rfl⟩

/-- A call whose payload is accepted and whose credentials fit in a header is sent once, and gives what
its answer says. -/
theorem run_ask_of_accepted (advertises : l.Advertises c.documents schemas)
    (accepted : call.Accepted c.documents schemas) {value : Text.Octets}
    (header : credentialHeader call.credentials = .ok value) :
    ((c.ask call).run l).1 = ((c.send (c.requestFor call value l.issued)).run l.world).1 >>=
        reply c.plugin call.operation.path call.decoder ∧
      ((c.ask call).run l).2.world = ((c.send (c.requestFor call value l.issued)).run l.world).2 ∧
      ((c.ask call).run l).2.issued = l.issued + 1 := by
  have passed : (c.verdict call l.validator).1 = .ok () := by
    unfold verdict
    cases payload : call.payload? with
    | none => rfl
    | some p =>
      exact validate_of_passes advertises.consistent c.plugin
        (advertises.schemas.symm ▸ accepted p payload)
  rw [run_ask]
  generalize c.verdict call l.validator = verdict at passed
  obtain ⟨outcome, v⟩ := verdict
  cases passed
  simp only [header, and_self]

/-- When the credentials do not fit in a header nothing is sent. -/
theorem run_ask_of_unfit {fault : Fault}
    (header : credentialHeader call.credentials = .error fault) :
    (∃ e, ((c.ask call).run l).1 = .error e) ∧ ((c.ask call).run l).2.world = l.world := by
  rw [run_ask]
  rcases c.verdict call l.validator with ⟨e | ⟨⟨⟩⟩, v⟩
  · exact ⟨⟨e, rfl⟩, rfl⟩
  · simp only [header, and_true]
    exact ⟨fault, rfl⟩

/-- The link of a client after some calls, one after another. -/
def after (c : Client σ) (l : Link σ) (calls : List Call) : Link σ :=
  calls.foldl (fun l call => ((c.ask call).run l).2) l

theorem advertises_after (advertises : l.Advertises c.documents schemas) (calls : List Call) :
    (c.after l calls).Advertises c.documents schemas := by
  induction calls generalizing l with
  | nil => exact advertises
  | cons call calls ih => exact ih (advertises_ask advertises)

/-! ## Recording what is sent -/

/-- The client with a record of every request that it hands to the connection. -/
def recording (c : Client σ) : Client (σ × List Request) where
  plugin := c.plugin
  send r := (c.send r).jotting r
  ids := c.ids
  documents := c.documents

end Client

/-- A link without its record of requests. -/
def Link.unrecorded (l : Link (σ × List Request)) : Link σ where
  world := l.world.1
  validator := l.validator
  issued := l.issued

/-- An operation is the same whether what it sends is recorded or not. -/
def Unrecorded (recorded : Effect (Link (σ × List Request)) α) (plain : Effect (Link σ) α) : Prop :=
  ∀ l, plain.run l.unrecorded = ((recorded.run l).1, (recorded.run l).2.unrecorded)

theorem unrecorded_bind {β : Type} {recorded : Effect (Link (σ × List Request)) α}
    {plain : Effect (Link σ) α} {f : α → Effect (Link (σ × List Request)) β}
    {g : α → Effect (Link σ) β} (first : Unrecorded recorded plain)
    (next : ∀ a, Unrecorded (f a) (g a)) : Unrecorded (recorded >>= f) (plain >>= g) := by
  intro l
  rw [Effect.run_bind, Effect.run_bind, first l]
  rcases recorded.run l with ⟨fault | a, l'⟩
  · rfl
  · exact next a l'

theorem unrecorded_pages {fetch : String → Effect (Link (σ × List Request)) (Page α)}
    {fetch' : String → Effect (Link σ) (Page α)}
    {receive : List α → Effect (Link (σ × List Request)) Unit}
    {receive' : List α → Effect (Link σ) Unit}
    (fetched : ∀ cursor, Unrecorded (fetch cursor) (fetch' cursor))
    (received : ∀ items, Unrecorded (receive items) (receive' items)) (n : Nat) (cursor : String) :
    Unrecorded (Page.pages fetch receive n cursor) (Page.pages fetch' receive' n cursor) := by
  induction n generalizing cursor with
  | zero => exact fun l => rfl
  | succ n ih =>
    refine unrecorded_bind (fetched cursor) fun page =>
      unrecorded_bind (received page.items) fun _ => ?_
    cases page.follow cursor with
    | none => exact fun l => rfl
    | some next => exact ih next

namespace Client

variable {c : Client σ} {schemas : Table TypeId Json}

/-- Recording what is sent for a call changes nothing. -/
theorem unrecorded_ask (c : Client σ) (call : Call) :
    Unrecorded (c.recording.ask call) (c.ask call) := by
  intro l
  rw [run_ask, run_ask]
  have same : c.verdict call l.unrecorded.validator = c.recording.verdict call l.validator := rfl
  rw [same]
  rcases c.recording.verdict call l.validator with ⟨fault | ⟨⟨⟩⟩, v⟩
  · rfl
  · cases credentialHeader call.credentials <;> rfl

/-- An operation on a link that leaves the record of requests alone. -/
def aside (e : Effect σ α) : Effect (Link (σ × List Request)) α :=
  .within (fun l => l.world.1) (fun l w => { l with world := (w, l.world.2) }) e

/-- A listing over the connection, with a record of every request. -/
def recordedList (c : Client σ) (repository : Payload) (credentials : Credentials)
    (receive : List String → Effect σ Unit) (n : Nat) (cursor : String) :
    Effect (Link (σ × List Request)) (Option String) :=
  c.recording.lister.list repository credentials (fun names => aside (receive names)) n cursor

/-- The cursors with which the listing asks for pages. -/
def askedCursors (c : Client σ) (repository : Payload) (credentials : Credentials)
    (receive : List String → Effect σ Unit) (n : Nat) (cursor : String)
    (l : Link (σ × List Request)) : List String :=
  Page.cursors (Page.trace (c.recording.lister.pageAfter repository credentials)
    (fun names => aside (receive names)) n cursor l)

theorem unrecorded_list (c : Client σ) (repository : Payload) (credentials : Credentials)
    (receive : List String → Effect σ Unit) (n : Nat) (cursor : String) :
    Unrecorded (c.recordedList repository credentials receive n cursor)
      (c.lister.list repository credentials
        (fun names => .within Link.world (fun l w => { l with world := w }) (receive names))
        n cursor) := by
  refine unrecorded_pages (fun cursor => ?_) (fun items l => rfl) n cursor
  exact unrecorded_bind (unrecorded_ask c (.page { repository, last := cursor } credentials))
    fun _ l => rfl

/-- Asking for a page leaves behind what the call for it does, and fails if that fails. -/
theorem run_pageAfter (c : Client σ) (repository : Payload) (credentials : Credentials)
    (cursor : String) (l : Link σ) :
    ((c.lister.pageAfter repository credentials cursor).run l).2 =
        ((c.ask (.page { repository, last := cursor } credentials)).run l).2 ∧
      ∀ fault, ((c.ask (.page { repository, last := cursor } credentials)).run l).1 = .error fault →
        ((c.lister.pageAfter repository credentials cursor).run l).1 = .error fault := by
  have same : (c.ask (.page { repository, last := cursor } credentials)).run l =
    (c.lister.page { repository, last := cursor } credentials).run l := rfl
  rw [ListerContract.pageAfter, Effect.run_bind, same]
  rcases (c.lister.page { repository, last := cursor } credentials).run l with ⟨e | answer, l'⟩
  · exact ⟨rfl, fun fault failed => by cases failed; rfl⟩
  · exact ⟨rfl, fun fault failed => by cases failed⟩

/-- For every page that a listing asks for one request is sent. -/
theorem sent_by_list {l : Link (σ × List Request)} (advertises : l.Advertises c.documents schemas)
    {repository : Payload} (accepted : Passes c.documents schemas repository) {credentials : Credentials}
    {value : Text.Octets} (header : credentialHeader credentials = .ok value)
    (receive : List String → Effect σ Unit) (n : Nat) (cursor : String) :
    ((c.recordedList repository credentials receive n cursor).run l).2.world.2 = l.world.2 ++
      ((c.askedCursors repository credentials receive n cursor l).zipIdx l.issued).map fun e =>
        c.requestFor (.page { repository, last := e.1 } credentials) value e.2 := by
  refine Page.kept_pages (fun l => l.world.2) Link.issued (Link.Advertises · c.documents schemas)
    (fun cursor => c.requestFor (.page { repository, last := cursor } credentials) value) ?_ ?_
    n cursor l advertises
  · intro cursor l advertises
    have accepted :
        (Call.page { repository, last := cursor } credentials).Accepted c.documents schemas := by
      intro p payload
      cases payload
      exact accepted
    obtain ⟨-, world, issued⟩ := run_ask_of_accepted (c := c.recording) advertises accepted header
    rw [(run_pageAfter c.recording repository credentials cursor l).1]
    exact ⟨advertises_ask advertises, congrArg Prod.snd world, issued⟩
  · intro names l advertises
    exact ⟨⟨advertises.consistent, advertises.schemas⟩, rfl, rfl⟩

/-- A listing whose first page cannot be asked for fails as that does, and nothing is sent. -/
theorem run_list_of_refused {l : Link (σ × List Request)} {repository : Payload}
    {credentials : Credentials} {cursor : String} {fault : Fault}
    (failed : ((c.recording.ask (.page { repository, last := cursor } credentials)).run l).1 =
      .error fault)
    (unsent : ((c.recording.ask (.page { repository, last := cursor } credentials)).run l).2.world =
      l.world) (receive : List String → Effect σ Unit) (n : Nat) :
    ((c.recordedList repository credentials receive (n + 1) cursor).run l).1 = .error fault ∧
      ((c.recordedList repository credentials receive (n + 1) cursor).run l).2.world = l.world := by
  obtain ⟨left, refused⟩ := run_pageAfter c.recording repository credentials cursor l
  have refused := refused fault failed
  rw [recordedList, ListerContract.list, Page.pages, Effect.run_bind]
  rw [← left] at unsent
  generalize (c.recording.lister.pageAfter repository credentials cursor).run l = first
    at refused unsent
  obtain ⟨outcome, l'⟩ := first
  cases refused
  exact ⟨rfl, unsent⟩

/-- A client sends what passes, and sends it once, whatever calls came before and whatever the
connection does with them.

The stubs for identities are the same for all capabilities, and recording what is sent changes nothing.
A call whose payload has a violation under the schema advertised for its tag, or for whose tag no
proper schema is advertised, fails with the violations, and nothing is sent. Any other call whose
credentials fit in a header is sent once, with the payload in its message as it was judged; whatever the
connection does, this is all, and the call gives what the answer says. A listing sends one request for
each page that it asks for, in this order, and none if the repository is rejected. -/
theorem sends_what_passes_once (c : Client σ) (schemas : Table TypeId Json) (w : σ)
    (before : List Call) :
    let l := c.recording.after { world := (w, []), validator := .ofSchemas schemas } before
    (∀ cap m, (c.handler cap).identity m = c.ask (.identity m)) ∧
    (∀ call : Call, let result := (c.recording.ask call).run l
      (c.ask call).run l.unrecorded = (result.1, result.2.unrecorded) ∧
      (∀ p, call.payload? = some p → ¬ Passes c.documents schemas p →
        (∃ violations ≠ [], result.1 = .error (.validation c.plugin p.tag violations)) ∧
          result.2.world = l.world) ∧
      (call.Accepted c.documents schemas → ∀ value, credentialHeader call.credentials = .ok value →
        let request := c.requestFor call value l.issued
        result.2.world = (((c.send request).run l.world.1).2, l.world.2 ++ [request]) ∧
          result.1 = ((c.send request).run l.world.1).1 >>=
            reply c.plugin call.operation.path call.decoder ∧
          request.body = Text.encode call.document.render ∧
          call.document.follow call.place = call.payload?.map Payload.toJson)) ∧
    ∀ repository credentials receive n cursor,
      let result := (c.recordedList repository credentials receive n cursor).run l
      let asked := c.askedCursors repository credentials receive n cursor l
      (c.lister.list repository credentials
          (fun names => .within Link.world (fun l w => { l with world := w }) (receive names))
          n cursor).run l.unrecorded = (result.1, result.2.unrecorded) ∧
      (¬ Passes c.documents schemas repository → result.2.world = l.world ∧ (n ≠ 0 → ∃ violations ≠ [],
        result.1 = .error (.validation c.plugin repository.tag violations))) ∧
      (Passes c.documents schemas repository → ∀ value, credentialHeader credentials = .ok value →
        ∃ requests, result.2.world.2 = l.world.2 ++ requests ∧ requests.length = asked.length ∧
          requests = (asked.zipIdx l.issued).map fun e =>
            c.requestFor (.page { repository, last := e.1 } credentials) value e.2) := by
  intro l
  have advertises : l.Advertises c.documents schemas :=
    advertises_after (Link.advertises_ofSchemas (w, []) c.documents schemas) before
  refine ⟨fun cap m => by cases cap <;> rfl, fun call => ⟨unrecorded_ask c call l, ?_, ?_⟩, ?_⟩
  · intro p payload rejected
    exact run_ask_of_rejected advertises payload rejected
  · intro accepted value header
    obtain ⟨gives, left, -⟩ := run_ask_of_accepted (c := c.recording) advertises accepted header
    exact ⟨left, gives, rfl, call.follow_place⟩
  · intro repository credentials receive n cursor
    refine ⟨unrecorded_list c repository credentials receive n cursor l, fun rejected => ?_, ?_⟩
    · cases n with
      | zero => exact ⟨rfl, fun some_ => absurd rfl some_⟩
      | succ n =>
        have payload : (Call.page { repository, last := cursor } credentials).payload? =
            some repository := rfl
        obtain ⟨⟨violations, some_, failed⟩, unsent⟩ :=
          run_ask_of_rejected (c := c.recording) advertises payload rejected
        obtain ⟨fails, left⟩ := run_list_of_refused failed unsent receive n
        exact ⟨left, fun _ => ⟨violations, some_, fails⟩⟩
    · intro accepted value header
      refine ⟨_, sent_by_list advertises accepted header receive n cursor, ?_, rfl⟩
      rw [List.length_map, List.length_zipIdx]

/-- A client of a plugin that is never reached. -/
def unreached : Client Unit where
  plugin := ⟨"p"⟩
  send := fun _ => .fail (.notFound "plugin")
  ids := fun _ => .zero
  documents := .none

/-- A schema for one type, which asks for a member. -/
def strictSchemas : Table TypeId Json :=
  [(.ofName "t", .obj [("required", .arr [.str "url"])])]

/-- A payload of the type that has the member or not. -/
def strictPayload (fields : Table String Json) : Payload := { tag := .ofName "t", fields }

theorem judge_strict : (Validator.judge .none (.obj [("required", .arr [.str "url"])])
      (strictPayload [])).isEmpty = false ∧
    (Validator.judge .none (.obj [("required", .arr [.str "url"])])
      (strictPayload [("url", .str "a")])).isEmpty = true := by
  decide +kernel

/-- A payload that lacks a required member is not sent. One that has it is sent once, although the plugin
is not reached. -/
theorem unreached_sends_once :
    let l : Link (Unit × List Request) := { world := ((), []), validator := .ofSchemas strictSchemas }
    let good : Call := .identity ⟨strictPayload [("url", .str "a")]⟩
    ¬ Passes .none strictSchemas (strictPayload []) ∧
      ((unreached.recording.ask (.identity ⟨strictPayload []⟩)).run l).2.world = ((), []) ∧
      good.Accepted .none strictSchemas ∧
      ((unreached.recording.ask good).run l).2.world =
        ((), [unreached.requestFor good (Text.encode "{}") 0]) := by
  have rejected : ¬ Passes .none strictSchemas (strictPayload []) := fun passes => by
    have none_ := passes (.obj [("required", .arr [.str "url"])]) rfl
    have some_ := judge_strict.1
    rw [none_] at some_
    cases some_
  have accepted : Call.Accepted (.identity ⟨strictPayload [("url", .str "a")]⟩) .none strictSchemas := by
    intro p payload source advertised
    cases payload
    cases advertised
    exact List.isEmpty_iff.1 judge_strict.2
  obtain ⟨-, calls, -⟩ := sends_what_passes_once unreached strictSchemas () []
  have bad := (calls (.identity ⟨strictPayload []⟩)).2.1 _ rfl rejected
  have good := (calls (.identity ⟨strictPayload [("url", .str "a")]⟩)).2.2 accepted _ header_empty
  exact ⟨rejected, bad.2, accepted, good.1⟩

end Client

end PluginKit
