import PluginKit.Client
import PluginKit.Proofs.Effect
import PluginKit.Proofs.Wire
import PluginKit.Serve.Router

/-!
# One call over a connection

A client whose connection leads to a router within the same program. The request of a call is answered
by the operation at its path, and the answer is read as what the operation gave.

## Main statements

- `credentials_read`: credentials that fit in a header are read from it as they were sent.
- `reply_report`: a report is never read as an answer, whatever the fault that it tells.
- `run_call`: a call runs the operation once and gives what it gives, or fails when it fails.
-/

namespace PluginKit

open Http (Request Response)
open Json (Decoder)

variable {σ α : Type}

/-- A connection that hands every request to a router. -/
def Router.connection (r : Router σ) (req : Request) : Effect σ Response :=
  .ofFunction fun s =>
    let (response, s) := r.respond req s
    (.ok response, s)

/-! ## Requests -/

/-- The request for an operation. -/
def Operation.request (op : Operation) (message : Json) (credentials : Text.Octets)
    (id : Telemetry.RequestId) : Request where
  method := "POST"
  uri := { path := op.path }
  headers := Client.callHeaders credentials id
  body := Text.encode message.render

theorem target_path (op : Operation) : Client.target op.path = .ok { path := op.path } := by
  cases op <;> rfl

theorem callRequest_path (op : Operation) (message : Json) {c : Credentials} {value : Text.Octets}
    (header : Client.credentialHeader c = .ok value) (id : Telemetry.RequestId) :
    Client.callRequest op.path message c id = .ok (op.request message value id) := by
  rw [Client.callRequest, header, target_path]
  rfl

/-- A path that a router has leads to its operation. -/
theorem operationAt_of_routed {r : Router σ} {op : Operation}
    (served : op ∈ Operation.ofCapability r.capability) {req : Request}
    (path : req.uri.routed = op.path) : r.operationAt req = some op := by
  rw [Router.operationAt, path]
  generalize r.capability = cap at served ⊢
  cases cap <;> cases op <;> first | rfl | (exact absurd served (by decide))

/-- The paths of operations have nothing in them that routing would change. -/
theorem routed_request (op : Operation) (message : Json) (value : Text.Octets)
    (id : Telemetry.RequestId) : (op.request message value id).uri.routed = op.path := by
  cases op <;> rfl

/-- The body of a request is read as its message. -/
theorem readBody_request (op : Operation) {d : Decoder α} {message : Json} {a : α}
    (reads : d.Reads message a) (integral : message.isIntegral = true)
    (shallow : message.depth ≤ Json.Reader.maxDepth) (value : Text.Octets)
    (id : Telemetry.RequestId) : Router.readBody d (op.request message value id) = .ok a := by
  rw [Router.readBody, Operation.request, Json.decodeOctets_render d integral shallow]
  rw [show d _ = .ok a from reads]
  rfl

/-! ## Credentials -/

theorem depthMembers_mapValues_str (t : Table String String) :
    Json.depthMembers (t.mapValues Json.str) = 0 := by
  induction t with
  | nil => rfl
  | cons e t ih =>
    show max 0 (Json.depthMembers (Table.mapValues Json.str t)) = 0
    rw [ih]
    rfl

theorem Table.depth_toJson (t : Table String String) : t.toJson.depth = 1 := by
  rw [Table.toJson, Json.depth, depthMembers_mapValues_str]

theorem encode_render_isEmpty {v : Json} (h : v.isIntegral = true) :
    (Text.encode v.render).isEmpty = false := by
  obtain ⟨ranged, -⟩ := Json.reread_of_isIntegral v h
  obtain ⟨c, r, hc, -⟩ := Json.Reader.renderOnto_eq_cons ranged []
  have ne : v.render ≠ "" := by
    intro blank
    have chars := congrArg String.toList blank
    rw [Json.render, String.toList_ofList, hc] at chars
    cases chars
  have size : (Text.encode v.render).size ≠ 0 := fun h => ne (String.utf8ByteSize_eq_zero_iff.1 h)
  exact beq_eq_false_iff_ne.2 size

/-- A header with credentials as they are written is read as those credentials. -/
theorem readCredentials_of_header {c : Credentials} (ascending : c.entries.Ascending)
    {req : Request}
    (there : req.headers.get? "authorization" = some (Text.encode c.toJson.render)) :
    Router.readCredentials req = .ok c := by
  have integral : c.toJson.isIntegral = true := Table.isIntegral_toJson c.entries
  have filled : (Text.encode c.toJson.render).isEmpty = false := encode_render_isEmpty integral
  have shallow : c.toJson.depth ≤ Json.Reader.maxDepth := by
    rw [Credentials.toJson, Table.depth_toJson]
    decide
  have read : Json.decodeOctets Credentials.decoder (Text.encode c.toJson.render) = .ok c := by
    rw [Json.decodeOctets_render _ integral shallow]
    exact Credentials.reads_toJson ascending
  simp only [Router.readCredentials, there, filled, read]
  rfl

/-- Credentials that fit in a header are read from it as they were sent. -/
theorem credentials_read (op : Operation) (message : Json) {c : Credentials} {value : Text.Octets}
    (ascending : c.entries.Ascending) (header : Client.credentialHeader c = .ok value)
    (id : Telemetry.RequestId) : Router.readCredentials (op.request message value id) = .ok c := by
  have sent : value = Text.encode c.toJson.render := by
    simp only [Client.credentialHeader] at header
    split at header
    · exact (Except.ok.inj header).symm
    · cases header
  have there : (op.request message value id).headers.get? "authorization" = some value := by
    simp [Operation.request, Client.callHeaders, Http.Headers.get?, List.lookup_cons]
  exact readCredentials_of_header ascending (sent ▸ there)

/-! ## Answers -/

/-- A decoder takes no report of a failure for an answer. -/
def RefusesReports (d : Decoder α) : Prop :=
  ∀ reason, ∃ fault, d (Json.Node.ofJson (Wire.ErrorResponse.mk reason).toJson) = .error fault

/-- An answer that was written is read as what it was written from. -/
theorem reply_answer_ok {d : Decoder α} {body : Json} {a : α} (reads : d.Reads body a)
    (integral : body.isIntegral = true) (shallow : body.depth ≤ Json.Reader.maxDepth)
    (plugin : PluginId) (operation : String) :
    Client.reply plugin operation d (Router.answer (.ok body)) = .ok a := by
  have success : (Router.answer (.ok body)).isSuccess = true := rfl
  have read : Json.decodeOctets d (Router.answer (.ok body)).body = .ok a := by
    rw [Router.answer, Response.json, Json.decodeOctets_render d integral shallow]
    exact reads
  rw [Client.reply, success, read]
  rfl

/-- The result of decoding the body of a report. -/
theorem decodeOctets_report (d : Decoder α) (e : Fault) :
    Json.decodeOctets d (Router.faultResponse e).body =
      d (Json.Node.ofJson (Wire.ErrorResponse.mk e.message).toJson) := by
  have integral : (Wire.ErrorResponse.mk e.message).toJson.isIntegral = true := rfl
  have shallow : (Wire.ErrorResponse.mk e.message).toJson.depth ≤ Json.Reader.maxDepth :=
    show 1 ≤ Json.Reader.maxDepth by decide
  rw [Router.faultResponse, Response.json, Json.decodeOctets_render d integral shallow]

/-- With a status of failure, a report is read as the status and the wording of the fault. -/
theorem reply_report_of_failure {e : Fault} (failure : ¬ (200 ≤ e.status ∧ e.status ≤ 299))
    (plugin : PluginId) (operation : String) (d : Decoder α) :
    Client.reply plugin operation d (Router.faultResponse e) =
      .error (.application plugin operation e.status e.message) := by
  have unsuccessful : (Router.faultResponse e).isSuccess = false :=
    Bool.eq_false_iff.2 fun success => failure ((Response.isSuccess_iff _).1 success)
  have read : Json.decodeOctets Wire.ErrorResponse.decoder (Router.faultResponse e).body =
      .ok ⟨e.message⟩ := by
    rw [decodeOctets_report]
    exact Wire.ErrorResponse.reads_toJson _
  rw [Client.reply_error_of_failure unsuccessful, Client.failure, read]
  rfl

/-- With a status of success, a report stands in the place of an answer and is not taken for one. -/
theorem reply_report_of_success {e : Fault} (success : 200 ≤ e.status ∧ e.status ≤ 299)
    {d : Decoder α} (refuses : RefusesReports d) (plugin : PluginId) (operation : String) :
    ∃ text, Client.reply plugin operation d (Router.faultResponse e) =
      .error (.protocol plugin operation e.status text) := by
  have successful : (Router.faultResponse e).isSuccess = true := (Response.isSuccess_iff _).2 success
  obtain ⟨flaw, refused⟩ := refuses e.message
  have read : Json.decodeOctets d (Router.faultResponse e).body = .error flaw := by
    rw [decodeOctets_report, refused]
  refine ⟨"invalid response body: " ++ flaw.message, ?_⟩
  rw [Client.reply, successful, read]
  rfl

/-- The fault that a host makes of one that a plugin reports: the plugin's failure with its status and its
wording, or, if the status says success, an answer that cannot be decoded. -/
structure Fault.ReportedAs (e : Fault) (plugin : PluginId) (operation : String) (fault : Fault) :
    Prop where
  failure : ¬ (200 ≤ e.status ∧ e.status ≤ 299) →
    fault = .application plugin operation e.status e.message
  success : 200 ≤ e.status ∧ e.status ≤ 299 →
    ∃ text, fault = .protocol plugin operation e.status text

/-- A failure is never read as an answer, not even one that is told with a status of success. -/
theorem reply_report {d : Decoder α} (refuses : RefusesReports d) (e : Fault) (plugin : PluginId)
    (operation : String) :
    ∃ fault, Client.reply plugin operation d (Router.faultResponse e) = .error fault ∧
      e.ReportedAs plugin operation fault := by
  by_cases success : 200 ≤ e.status ∧ e.status ≤ 299
  · obtain ⟨text, told⟩ := reply_report_of_success success refuses plugin operation
    exact ⟨_, told, fun failure => absurd success failure, fun _ => ⟨text, rfl⟩⟩
  · have told := reply_report_of_failure success plugin operation d
    exact ⟨_, told, fun _ => rfl, fun failure => absurd failure success⟩

/-! ## Calls -/

/-- A router answers a request that it serves with the result of the operation, unless the body is too
large to be read. -/
theorem respond_of_routed {r : Router σ} {op : Operation}
    (served : op ∈ Operation.ofCapability r.capability) (asked : op ≠ .health) {req : Request}
    (method : req.method = "POST") (path : req.uri.routed = op.path) (s : σ) :
    r.respond req s =
      if Router.bodyLimit < req.body.size then (Router.tooLarge, s)
      else (Router.answer ((r.perform req op).run s).1, ((r.perform req op).run s).2) := by
  have method : req.method ∈ op.methods := by
    rw [method]
    cases op <;> first | exact absurd rfl asked | exact List.mem_singleton.2 rfl
  rw [Router.respond, operationAt_of_routed served path]
  cases op with
  | health => exact absurd rfl asked
  | _ => simp only [if_pos method]

theorem respond_request {r : Router σ} {op : Operation}
    (served : op ∈ Operation.ofCapability r.capability) (asked : op ≠ .health) (message : Json)
    (value : Text.Octets) (id : Telemetry.RequestId) (s : σ) :
    r.respond (op.request message value id) s =
      if Router.bodyLimit < (Text.encode message.render).size then (Router.tooLarge, s)
      else (Router.answer ((r.perform (op.request message value id) op).run s).1,
        ((r.perform (op.request message value id) op).run s).2) :=
  respond_of_routed served asked rfl (routed_request op message value id) s

/-- A call sends its request if that can be built, and reads the answer. -/
theorem Client.run_call_eq (c : Client σ) (path : String) (message : Json) (credentials : Credentials)
    (d : Decoder α) (l : Link σ) : (c.call path message credentials d).run l =
      match Client.callRequest path message credentials (c.ids l.issued) with
      | .error fault => (.error fault, { l with issued := l.issued + 1 })
      | .ok request =>
        let sent := (c.send request).run l.world
        (sent.1 >>= Client.reply c.plugin path d,
          { l with world := sent.2, issued := l.issued + 1 }) := by
  have issued : c.nextId.run l = (.ok (c.ids l.issued), { l with issued := l.issued + 1 }) := rfl
  rw [Client.call, Effect.run_bind_ok issued, Effect.run_bind, Effect.run_lift]
  cases Client.callRequest path message credentials (c.ids l.issued) with
  | error fault => rfl
  | ok request =>
    simp only
    rw [Effect.run_bind, Client.exchange, Effect.run_within]
    rcases (c.send request).run l.world with ⟨fault | response, s⟩ <;> rfl

/-- A call gives what its response says, and leaves the world that the exchange leaves. -/
theorem run_call_of_sent {c : Client σ} {op : Operation} {message : Json}
    {credentials : Credentials} {value : Text.Octets}
    (header : Client.credentialHeader credentials = .ok value) {l : Link σ} {response : Response}
    {s : σ} (sent : (c.send (op.request message value (c.ids l.issued))).run l.world =
      (.ok response, s)) (d : Decoder α) :
    (c.call op.path message credentials d).run l =
      (Client.reply c.plugin op.path d response, { l with world := s, issued := l.issued + 1 }) := by
  rw [Client.run_call_eq, callRequest_path op message header]
  simp only [sent]
  rfl

/-- With a router at the other end the response is the router's. -/
theorem run_call_of_respond {r : Router σ} {c : Client σ} (connected : c.send = r.connection)
    {op : Operation} {message : Json} {credentials : Credentials} {value : Text.Octets}
    (header : Client.credentialHeader credentials = .ok value) {l : Link σ} {response : Response}
    {s : σ} (responds : r.respond (op.request message value (c.ids l.issued)) l.world = (response, s))
    (d : Decoder α) :
    (c.call op.path message credentials d).run l =
      (Client.reply c.plugin op.path d response, { l with world := s, issued := l.issued + 1 }) := by
  refine run_call_of_sent header ?_ d
  rw [connected, Router.connection, Effect.run_ofFunction, responds]

/-- A message that is larger than a body may be is refused, and nothing is called. -/
theorem run_call_of_tooLarge {r : Router σ} {c : Client σ} (connected : c.send = r.connection)
    (op : Operation) (served : op ∈ Operation.ofCapability r.capability) (asked : op ≠ .health)
    {message : Json} (large : Router.bodyLimit < (Text.encode message.render).size)
    {credentials : Credentials} {value : Text.Octets}
    (header : Client.credentialHeader credentials = .ok value) (d : Decoder α) (l : Link σ) :
    (c.call op.path message credentials d).run l =
      (.error (Client.failure c.plugin op.path Router.tooLarge),
        { l with issued := l.issued + 1 }) := by
  have responds := respond_request served asked message value (c.ids l.issued) l.world
  rw [if_pos large] at responds
  exact run_call_of_respond connected header responds d

/-- The conditions for a call to be carried out by an operation: the router has the operation, the message
fits in a body and the credentials in a header, and the operation does `f` when it is asked so. The result
of `f` is written by `write` and read by `d`. -/
structure Carries (r : Router σ) (op : Operation) (message : Json) (credentials : Credentials)
    (f : Effect σ α) (write : α → Json) (d : Decoder α) : Prop where
  served : op ∈ Operation.ofCapability r.capability
  asked : op ≠ .health
  fits : (Text.encode message.render).size ≤ Router.bodyLimit
  header : ∃ value, Client.credentialHeader credentials = .ok value ∧
    ∀ id, r.perform (op.request message value id) op = write <$> f
  answers : f.Gives fun a => d.Reads (write a) a ∧ (write a).isIntegral = true ∧
    (write a).depth ≤ Json.Reader.maxDepth
  refuses : RefusesReports d

/-- A call gives what its host reads from the answer of the operation. -/
theorem run_call_of_carries {r : Router σ} {c : Client σ} (connected : c.send = r.connection)
    {op : Operation} {message : Json} {credentials : Credentials} {f : Effect σ α}
    {write : α → Json} {d : Decoder α} (h : Carries r op message credentials f write d)
    (l : Link σ) : (c.call op.path message credentials d).run l =
      (Client.reply c.plugin op.path d (Router.answer ((f.run l.world).1.map write)),
        { l with world := (f.run l.world).2, issued := l.issued + 1 }) := by
  obtain ⟨value, header, performs⟩ := h.header
  have responds := respond_request h.served h.asked message value (c.ids l.issued) l.world
  rw [if_neg (Nat.not_lt.2 h.fits), performs, Effect.run_map] at responds
  exact run_call_of_respond connected header responds d

/-- When the operation fails, the call fails with what is made of the report. -/
theorem run_call_of_failed {r : Router σ} {c : Client σ} (connected : c.send = r.connection)
    {op : Operation} {message : Json} {credentials : Credentials} {f : Effect σ α}
    {write : α → Json} {d : Decoder α} (h : Carries r op message credentials f write d)
    {l : Link σ} {e : Fault} (failed : (f.run l.world).1 = .error e) :
    ∃ fault, (c.call op.path message credentials d).run l =
        (.error fault, { l with world := (f.run l.world).2, issued := l.issued + 1 }) ∧
      e.ReportedAs c.plugin op.path fault := by
  obtain ⟨fault, told, reported⟩ := reply_report h.refuses e c.plugin op.path
  have answer : Router.answer ((f.run l.world).1.map write) = Router.faultResponse e := by
    rw [failed]
    rfl
  refine ⟨fault, ?_, reported⟩
  rw [run_call_of_carries connected h, answer, told]

/-- A call runs the operation once and gives what it gives, or fails when it fails. -/
theorem run_call {r : Router σ} {c : Client σ} (connected : c.send = r.connection) {op : Operation}
    {message : Json} {credentials : Credentials} {f : Effect σ α} {write : α → Json}
    {d : Decoder α} (h : Carries r op message credentials f write d) (l : Link σ) :
    ∃ outcome, outcome.toOption = (f.run l.world).1.toOption ∧
      (c.call op.path message credentials d).run l =
        (outcome, { l with world := (f.run l.world).2, issued := l.issued + 1 }) := by
  cases gave : (f.run l.world).1 with
  | ok a =>
    obtain ⟨reads, integral, shallow⟩ := h.answers _ _ gave
    refine ⟨.ok a, rfl, ?_⟩
    rw [run_call_of_carries connected h, gave, Except.map, reply_answer_ok reads integral shallow]
  | error e =>
    obtain ⟨fault, called, -⟩ := run_call_of_failed connected h gave
    exact ⟨.error fault, rfl, called⟩

end PluginKit
