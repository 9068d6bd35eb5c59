import PluginKit.Proofs.Rpc.Resolved
import PluginKit.Proofs.Rpc.Sending

/-!
# What a plugin lets through to its handler

A router calls its handler only for a request whose body is the message of the operation, whose payload
has a type that is served and whose credentials can be read. The handler then gets what was sent.
Whatever else is asked of an operation is answered with the status 400 and the reason, and the handler
is left alone.

## Main statements

- `decode_credentials_iff`: credentials are read from a whole object of strings and from nothing else.
- `Router.perform_of_gate`: an operation is its gate, and behind it the handler.
- `Router.gate_eq_ok_iff`: what the gate of an operation lets through.
- `handler_called_iff_admitted`: a handler is called once for a request that is admitted, and not at all
  for any other.
-/

namespace PluginKit

open Text (Octets)
open Http (Request Response)

variable {σ α β : Type}

/-! ## Credentials in a header -/

/-- Credentials are read from a whole object of strings and from nothing else. -/
theorem decode_credentials_iff {value : Octets} {c : Credentials} :
    Json.decodeOctets Credentials.decoder value = .ok c ↔
      ∃ pairs : List (String × String), Json.Reading.ofOctets value =
          ⟨.obj (pairs.map fun e => (e.1, .str e.2)) none, false⟩ ∧ c = .ofPairs pairs := by
  have mapped (node : Json.Node) : Credentials.decoder node = .ok c ↔
      Table.decoder node = .ok c.entries := by
    unfold Credentials.decoder Json.Decoder.map
    obtain ⟨entries⟩ := c
    cases Table.decoder node with
    | error fault => exact ⟨nofun, nofun⟩
    | ok t => simp
  rw [Json.decodeOctets, Json.Reading.decode_eq_ok_iff, mapped, Table.decoder,
    Json.Decoder.dict_string_iff]
  constructor
  · rintro ⟨⟨pairs, root, entries⟩, whole⟩
    refine ⟨pairs, ?_, congrArg Credentials.mk entries⟩
    rw [← root, ← whole]
  · rintro ⟨pairs, reading, rfl⟩
    rw [reading]
    exact ⟨⟨pairs, rfl, rfl⟩, rfl⟩

/-- The credentials that come with a request: none if there is no header for them or an empty one, and
otherwise those of the object of strings that stands in the header. -/
inductive Shows (req : Request) : Credentials → Prop
  | absent (unset : req.headers.get? "authorization" = none) : Shows req {}
  | blank {value : Octets} (set : req.headers.get? "authorization" = some value)
      (blank : value.isEmpty = true) : Shows req {}
  | object {value : Octets} (pairs : List (String × String))
      (set : req.headers.get? "authorization" = some value) (filled : value.isEmpty = false)
      (whole : Json.Reading.ofOctets value =
        ⟨.obj (pairs.map fun e => (e.1, .str e.2)) none, false⟩) : Shows req (.ofPairs pairs)

/-! ## Judgements on a request -/

/-- A judgement all of whose refusals have the status 400. -/
def Outcome.Blames (x : Outcome α) : Prop := ∀ fault, x = .error fault → fault.status = 400

namespace Outcome

theorem blames_ok (a : α) : Blames (.ok a : Outcome α) := nofun

theorem blames_bind {x : Outcome α} {f : α → Outcome β} (first : Blames x)
    (next : ∀ a, Blames (f a)) : Blames (x >>= f) := by
  intro fault failed
  cases x with
  | error e =>
    cases failed
    exact first _ rfl
  | ok a => exact next a fault failed

end Outcome

namespace Router

theorem readBody_eq_ok_iff {d : Json.Decoder α} {req : Request} {a : α} :
    readBody d req = .ok a ↔ Json.decodeOctets d req.body = .ok a := by
  unfold readBody
  cases Json.decodeOctets d req.body with
  | error fault => exact ⟨nofun, nofun⟩
  | ok b => simp [Except.mapError]

theorem blames_readBody (d : Json.Decoder α) (req : Request) : (readBody d req).Blames := by
  intro fault failed
  unfold readBody at failed
  cases read : Json.decodeOctets d req.body with
  | error cause =>
    rw [read] at failed
    cases failed
    rfl
  | ok a =>
    rw [read] at failed
    cases failed

theorem readCredentials_eq_ok_iff {req : Request} {c : Credentials} :
    readCredentials req = .ok c ↔ Shows req c := by
  constructor
  · intro read
    unfold readCredentials at read
    split at read
    · next unset =>
      cases read
      exact .absent unset
    · next value set =>
      split at read
      · next blank =>
        cases read
        exact .blank set blank
      · next filled =>
        split at read
        · next decoded =>
          cases read
          obtain ⟨pairs, whole, rfl⟩ := decode_credentials_iff.1 decoded
          exact .object pairs set (Bool.eq_false_iff.2 filled) whole
        · cases read
  · intro shown
    cases shown with
    | absent unset => simp only [readCredentials, unset]
    | blank set blank => simp only [readCredentials, set, blank, if_true]
    | object pairs set filled whole =>
      have decoded := decode_credentials_iff.2 ⟨pairs, whole, rfl⟩
      simp only [readCredentials, set, filled, decoded]
      rfl

theorem blames_readCredentials (req : Request) : (readCredentials req).Blames := by
  intro fault failed
  unfold readCredentials at failed
  split at failed
  · cases failed
  · split at failed
    · cases failed
    · split at failed
      · cases failed
      · cases failed
        rfl

theorem blames_checkType (r : Router σ) (t : TypeId) : (r.checkType t).Blames := by
  intro fault failed
  unfold checkType at failed
  split at failed
  · cases failed
  · cases failed
    rfl

theorem checkAccess_iff {r : Router σ} {w : Wire.Resource} :
    r.checkAccess w = .ok () ↔ ∃ p, w.access = some p ∧ p.tag ∈ r.types := by
  unfold checkAccess
  cases w.access with
  | none => exact ⟨nofun, nofun⟩
  | some p => simp [checkType_iff]

theorem blames_checkAccess (r : Router σ) (w : Wire.Resource) : (r.checkAccess w).Blames := by
  intro fault failed
  unfold checkAccess at failed
  split at failed
  · cases failed
    rfl
  · exact blames_checkType r _ fault failed

end Router

/-! ## Gates -/

namespace Call

/-- The message of a call is what a body is read as. -/
def ReadFrom (body : Octets) : Call → Prop
  | .identity m => Json.decodeOctets Wire.IdentityRequest.decoder body = .ok m
  | .download m _ => Json.decodeOctets Wire.downloadRequest body = .ok m
  | .upload m _ => Json.decodeOctets Wire.UploadRequest.decoder body = .ok m
  | .digest m _ => Json.decodeOctets Wire.digestRequest body = .ok m
  | .page m _ => Json.decodeOctets Wire.ListRequest.decoder body = .ok m

end Call

/-- A request for an operation is admitted with a call: its body is the message of the call, the payload
is there and has a type that is served, and the credentials are those of the call. An identity is asked
for without any. -/
structure Admits (types : List TypeId) (req : Request) (op : Operation) (call : Call) : Prop where
  asked : call.operation = op
  read : call.ReadFrom req.body
  served : ∃ p, call.payload? = some p ∧ p.tag ∈ types
  shown : op ≠ .identity → Shows req call.credentials

namespace Router

/-- The call that a request makes, once its message is read and checked and its credentials are read. -/
def judge (message : Outcome β) (check : β → Outcome Unit) (credentials : Outcome Credentials)
    (call : β → Credentials → Call) : Outcome Call := do
  let m ← message
  check m
  let c ← credentials
  return call m c

section Judge

variable {message : Outcome β} {check : β → Outcome Unit} {credentials : Outcome Credentials}
  {make : β → Credentials → Call}

theorem judge_eq_ok_iff {call : Call} : judge message check credentials make = .ok call ↔
    ∃ m c, message = .ok m ∧ check m = .ok () ∧ credentials = .ok c ∧ make m c = call := by
  constructor
  · intro judged
    obtain ⟨m, read, judged⟩ := ok_of_bind judged
    obtain ⟨⟨⟩, checked, judged⟩ := ok_of_bind judged
    obtain ⟨c, shown, judged⟩ := ok_of_bind judged
    cases judged
    exact ⟨m, c, read, checked, shown, rfl⟩
  · rintro ⟨m, c, rfl, checked, rfl, rfl⟩
    show (check m >>= fun _ => _) = _
    rw [checked]
    rfl

theorem blames_judge (read : message.Blames) (checked : ∀ m, (check m).Blames)
    (shown : credentials.Blames) : (judge message check credentials make).Blames :=
  Outcome.blames_bind read fun m => Outcome.blames_bind (checked m) fun _ =>
    Outcome.blames_bind shown fun _ => Outcome.blames_ok _

/-- Reading and judging step by step is the judgement, and then what is done with the call. -/
theorem lift_judge (f : Call → Effect σ α) :
    (do
      let m ← Effect.lift message
      Effect.lift (check m)
      let c ← Effect.lift credentials
      f (make m c)) = Effect.lift (judge message check credentials make) >>= f := by
  -- the first step that fails ends both sides with its fault
  cases message with
  | error fault => rfl
  | ok m =>
    show (Effect.lift (check m) >>= fun _ => _) = Effect.lift (check m >>= fun _ => _) >>= f
    cases check m with
    | error fault => rfl
    | ok _ =>
      show (Effect.lift credentials >>= fun _ => _) = Effect.lift (credentials >>= fun _ => _) >>= f
      cases credentials <;> rfl

end Judge

/-- The gate of an operation: the call that it makes of a request. Asking whether a plugin is alive
calls nothing. -/
def gate (r : Router σ) (req : Request) : Operation → Option (Outcome Call)
  | .health => none
  | .identity =>
    some (judge (readBody Wire.IdentityRequest.decoder req) (fun m => r.checkType m.object.tag)
      (.ok {}) fun m _ => .identity m)
  | .download =>
    some (judge (readBody Wire.downloadRequest req) (fun m => r.checkAccess m.resource)
      (readCredentials req) .download)
  | .upload =>
    some (judge (readBody Wire.UploadRequest.decoder req) (fun m => r.checkAccess m.resource)
      (readCredentials req) .upload)
  | .digest =>
    some (judge (readBody Wire.digestRequest req) (fun m => r.checkAccess m.resource)
      (readCredentials req) .digest)
  | .list =>
    some (judge (readBody Wire.ListRequest.decoder req) (fun m => r.checkType m.repository.tag)
      (readCredentials req) .page)

variable {r : Router σ} {req : Request} {op : Operation} {gate : Outcome Call}

/-- All refusals of the gate have the status 400. -/
theorem blames_gate (guarded : r.gate req op = some gate) : gate.Blames := by
  have read {α : Type} (d : Json.Decoder α) := blames_readBody d req
  cases op with
  | health => cases guarded
  | identity =>
    cases guarded
    exact blames_judge (read _) (fun m => r.blames_checkType _) (Outcome.blames_ok _)
  | list =>
    cases guarded
    exact blames_judge (read _) (fun m => r.blames_checkType _) (blames_readCredentials req)
  | download | upload | digest =>
    cases guarded
    exact blames_judge (read _) (fun m => r.blames_checkAccess _) (blames_readCredentials req)

theorem admits_of_gate (guarded : r.gate req op = some gate) {call : Call} (passed : gate = .ok call) :
    Admits r.types req op call := by
  cases op with
  | health => cases guarded
  | identity =>
    cases guarded
    -- whatever stands in the header is not looked at
    obtain ⟨m, c, read, checked, -, rfl⟩ := judge_eq_ok_iff.1 passed
    exact ⟨rfl, readBody_eq_ok_iff.1 read, ⟨_, rfl, checkType_iff.1 checked⟩,
      fun other => absurd rfl other⟩
  | list =>
    cases guarded
    obtain ⟨m, c, read, checked, shown, rfl⟩ := judge_eq_ok_iff.1 passed
    exact ⟨rfl, readBody_eq_ok_iff.1 read, ⟨_, rfl, checkType_iff.1 checked⟩,
      fun _ => readCredentials_eq_ok_iff.1 shown⟩
  | download | upload | digest =>
    cases guarded
    obtain ⟨m, c, read, checked, shown, rfl⟩ := judge_eq_ok_iff.1 passed
    exact ⟨rfl, readBody_eq_ok_iff.1 read, checkAccess_iff.1 checked,
      fun _ => readCredentials_eq_ok_iff.1 shown⟩

theorem gate_of_admits (guarded : r.gate req op = some gate) {call : Call}
    (admitted : Admits r.types req op call) : gate = .ok call := by
  obtain ⟨rfl, read, served, shown⟩ := admitted
  cases call with
  | identity m =>
    cases guarded
    obtain ⟨p, ⟨⟩, mem⟩ := served
    exact judge_eq_ok_iff.2 ⟨_, _, readBody_eq_ok_iff.2 read, checkType_iff.2 mem, rfl, rfl⟩
  | page m c =>
    cases guarded
    obtain ⟨p, ⟨⟩, mem⟩ := served
    exact judge_eq_ok_iff.2 ⟨_, _, readBody_eq_ok_iff.2 read, checkType_iff.2 mem,
      readCredentials_eq_ok_iff.2 (shown nofun), rfl⟩
  | download m c | upload m c | digest m c =>
    cases guarded
    exact judge_eq_ok_iff.2 ⟨_, _, readBody_eq_ok_iff.2 read, checkAccess_iff.2 served,
      readCredentials_eq_ok_iff.2 (shown nofun), rfl⟩

/-- The gate of an operation lets a call through if and only if the request is admitted with it. -/
theorem gate_eq_ok_iff (guarded : r.gate req op = some gate) {call : Call} :
    gate = .ok call ↔ Admits r.types req op call :=
  ⟨admits_of_gate guarded, gate_of_admits guarded⟩

end Router

/-! ## Behind the gate -/

/-- The effect of a call on a handler, with its answer as it is written. There is none for a call of an
operation that the handler does not have. -/
def Handler.carryOut : Handler σ → Call → Option (Effect σ Json)
  | k, .identity m => some do return (← k.identity m).toJson
  | .resource h, .download m c => some do return (← h.download m c).toJson
  | .resource h, .upload m c => some do return (← h.upload m c).toJson
  | .digest h, .digest m c => some do return (← h.process m c).toJson
  | .lister h, .page m c => some do return (← h.page m c).toJson
  | _, _ => none

/-- A handler has the operations of its capability. -/
theorem Handler.exists_carryOut {k : Handler σ} {call : Call}
    (offered : call.operation ∈ Operation.ofCapability k.capability) :
    ∃ act, k.carryOut call = some act := by
  cases k <;> cases call <;>
    first
    | exact ⟨_, rfl⟩
    | simp [capability, Operation.ofCapability, Call.operation] at offered

theorem Effect.noting_bind_pure (call : Call) (e : Effect σ α) (f : α → β) :
    (e.noting call >>= fun a => pure (f a)) = (e >>= fun a => pure (f a)).noting call := by
  funext w
  show ((e.noting call >>= fun a => pure (f a) : Effect (σ × List Call) β)).run w =
    ((e >>= fun a => pure (f a)).noting call).run w
  rw [run_noting, run_bind, run_bind, run_noting]
  rcases e.run w.1 with ⟨_ | a, s⟩ <;> rfl

/-- A recorded handler does the same for a call, and notes it. -/
theorem Handler.carryOut_recorded (k : Handler σ) (call : Call) :
    k.recorded.carryOut call = (k.carryOut call).map (Effect.noting call) := by
  cases k <;> cases call <;> first | exact congrArg some (Effect.noting_bind_pure _ _ _) | rfl

namespace Router

variable {r : Router σ} {req : Request} {op : Operation} {gate : Outcome Call}

/-- An operation is its gate, and behind it the handler. -/
theorem perform_of_gate (guarded : r.gate req op = some gate) : r.perform req op =
    Effect.lift gate >>= fun call => (r.handler.carryOut call).getD r.wrongCapability := by
  obtain ⟨cap, types, k⟩ := r
  cases op with
  | health => cases guarded
  | identity | download | upload | digest | list =>
    cases guarded
    rw [← lift_judge]
    cases k <;> rfl

end Router

/-! ## Answers -/

/-- A request for an operation that calls the handler, with a body that is read. -/
structure Operation.AskedBy (op : Operation) (req : Request) : Prop where
  calls : op.methods = ["POST"]
  method : req.method = "POST"
  path : req.uri.routed = op.path
  fits : req.body.size ≤ Router.bodyLimit

namespace Router

variable {r : Router σ} {req : Request} {op : Operation}

/-- A router answers such a request with what the operation gives. -/
theorem respond_of_asked (offered : op ∈ Operation.ofCapability r.capability) (asked : op.AskedBy req)
    (s : σ) : r.respond req s =
      (answer ((r.perform req op).run s).1, ((r.perform req op).run s).2) := by
  have calling : op ≠ .health := by
    rintro rfl
    exact absurd asked.calls (by decide)
  rw [respond_of_routed offered calling asked.method asked.path, if_neg (Nat.not_lt.2 asked.fits)]

theorem exists_gate (r : Router σ) (asked : op.AskedBy req) : ∃ gate, r.gate req op = some gate := by
  cases op with
  | health => exact absurd asked.calls (by decide)
  | _ => exact ⟨_, rfl⟩

/-- The answer to a call that is let through is what the handler makes of it. -/
theorem respond_of_passed (offered : op ∈ Operation.ofCapability r.capability)
    (asked : op.AskedBy req) {call : Call} (guarded : r.gate req op = some (.ok call))
    {act : Effect σ Json} (carried : r.handler.carryOut call = some act) (s : σ) :
    r.respond req s = (answer (act.run s).1, (act.run s).2) := by
  have performed : r.perform req op = act := by
    rw [perform_of_gate guarded, lift_ok, pure_bind, carried]
    rfl
  rw [respond_of_asked offered asked, performed]

/-- A request that the gate stops is answered with the reason, and the handler is not called. -/
theorem respond_of_stopped (offered : op ∈ Operation.ofCapability r.capability)
    (asked : op.AskedBy req) {fault : Fault} (guarded : r.gate req op = some (.error fault)) (s : σ) :
    r.respond req s = (.json 400 (Wire.ErrorResponse.mk fault.message).toJson.render, s) := by
  have status : fault.status = 400 := blames_gate guarded fault rfl
  have told : answer (.error fault) =
      .json 400 (Wire.ErrorResponse.mk fault.message).toJson.render := by
    rw [answer, faultResponse, status]
  rw [respond_of_asked offered asked, perform_of_gate guarded, ← told]
  rfl

/-- The report of an operation that the handler does not have. -/
def foreignReport (r : Router σ) (s : σ) : Response :=
  answer ((r.wrongCapability : Effect σ Json).run s).1

/-- A request that is answered with the report of an operation that the handler does not have asks for an
operation that calls the handler. -/
theorem asked_of_foreign {s : σ} (told : (r.respond req s).1 = r.foreignReport s) :
    ∃ op ∈ Operation.ofCapability r.capability, op.AskedBy req := by
  have status : (r.respond req s).1.status = 404 := congrArg Response.status told
  have headed : (r.respond req s).1.headers ≠ [] := by
    rw [told]
    exact nofun
  unfold respond at status headed
  split at status
  -- a path that is not known is answered with the same status, but without a report
  · next unrouted => exact absurd rfl (unrouted ▸ headed)
  · next op routed =>
    have path : op.path = req.uri.routed := by simpa using List.find?_some routed
    split at status
    · next method =>
      split at status
      · cases status
      · next alive =>
        have calls : op.methods = ["POST"] := by cases op <;> first | rfl | exact absurd rfl alive
        split at status
        · cases status
        · next fits =>
          exact ⟨op, List.mem_of_find?_eq_some routed, calls,
            List.mem_singleton.1 (calls ▸ method), path.symm, Nat.not_lt.1 fits⟩
    · cases status

end Router

/-! ## Calls of the handler -/

/-- The router for a handler. -/
def Handler.serving (k : Handler σ) (types : List TypeId) : Router σ where
  capability := k.capability
  types := types
  handler := k

/-- A request makes a router call its handler: whatever the world, the handler is called with `call` and
not a second time, and what it gives is the answer. The calls are noted by the second router. -/
def Handler.CalledBy (k : Handler σ) (r : Router σ) (noting : Router (σ × List Call)) (req : Request)
    (call : Call) : Prop :=
  ∃ act, k.carryOut call = some act ∧ ∀ s notes,
    r.respond req s = (Router.answer (act.run s).1, (act.run s).2) ∧
      noting.respond req (s, notes) =
        (Router.answer (act.run s).1, (act.run s).2, notes ++ [call])

/-- A request is turned away: whatever the world, it is answered with the status 400 and a reason, the
handler is not called and the world stays as it is. -/
def Router.TurnsAway (r : Router σ) (noting : Router (σ × List Call)) (req : Request) : Prop :=
  ∃ reason, ∀ s notes,
    r.respond req s = (.json 400 (Wire.ErrorResponse.mk reason).toJson.render, s) ∧
      noting.respond req (s, notes) =
        (.json 400 (Wire.ErrorResponse.mk reason).toJson.render, s, notes)

section Called

variable {k : Handler σ} {types : List TypeId} {req : Request} {op : Operation}

/-- The gate does not look at the handler. -/
theorem Router.gate_recorded : (k.router types).gate req op = (k.serving types).gate req op := by
  cases op <;> rfl

/-- No request is admitted with two calls. -/
theorem Admits.eq_of_asked (k : Handler σ) (asked : op.AskedBy req) {call other : Call}
    (h : Admits types req op call) (h' : Admits types req op other) : other = call := by
  obtain ⟨gate, guarded⟩ := (k.serving types).exists_gate asked
  cases (Router.gate_eq_ok_iff guarded).2 h
  cases (Router.gate_eq_ok_iff guarded).2 h'
  rfl

theorem calledBy_of_admits (offered : op ∈ Operation.ofCapability k.capability)
    (asked : op.AskedBy req) {call : Call} (admitted : Admits types req op call) :
    k.CalledBy (k.serving types) (k.router types) req call := by
  obtain ⟨act, carried⟩ := Handler.exists_carryOut (admitted.asked ▸ offered)
  have noted : k.recorded.carryOut call = some (act.noting call) := by
    rw [Handler.carryOut_recorded, carried]
    rfl
  obtain ⟨gate, guarded⟩ := (k.serving types).exists_gate asked
  cases (Router.gate_eq_ok_iff guarded).2 admitted
  refine ⟨act, carried, fun s notes => ⟨Router.respond_of_passed offered asked guarded carried s, ?_⟩⟩
  have same := Router.gate_recorded.trans guarded
  exact Router.respond_of_passed (r := k.router types) offered asked same noted (s, notes)

theorem turnsAway_of_not_admits (offered : op ∈ Operation.ofCapability k.capability)
    (asked : op.AskedBy req) (refused : ∀ call, ¬ Admits types req op call) :
    (k.serving types).TurnsAway (k.router types) req := by
  obtain ⟨gate, guarded⟩ := (k.serving types).exists_gate asked
  cases gate with
  | ok call => exact absurd ((Router.gate_eq_ok_iff guarded).1 rfl) (refused call)
  | error fault =>
    refine ⟨fault.message, fun s notes => ⟨Router.respond_of_stopped offered asked guarded s, ?_⟩⟩
    have same := Router.gate_recorded.trans guarded
    exact Router.respond_of_stopped (r := k.router types) offered asked same (s, notes)

/-- Only a handler itself reports an operation as one that it does not have. -/
theorem called_of_foreign {s : σ}
    (told : ((k.serving types).respond req s).1 = (k.serving types).foreignReport s) :
    ∃ op call act, Admits types req op call ∧ k.carryOut call = some act ∧
      Router.answer (act.run s).1 = (k.serving types).foreignReport s := by
  obtain ⟨op, offered, asked⟩ := Router.asked_of_foreign told
  by_cases admitted : ∃ call, Admits types req op call
  · obtain ⟨call, admitted⟩ := admitted
    obtain ⟨act, carried, answers⟩ := calledBy_of_admits offered asked admitted
    refine ⟨op, call, act, admitted, carried, ?_⟩
    rw [← told, (answers s []).1]
  · obtain ⟨reason, answers⟩ :=
      turnsAway_of_not_admits offered asked fun call h => admitted ⟨call, h⟩
    rw [(answers s []).1] at told
    cases congrArg Response.status told

end Called

theorem Endpoints.exists_handler_of_router {e : Endpoints σ} {cap : Capability} {r : Router σ}
    (routed : Router.ofEndpoints e cap = .ok r) :
    ∃ k, e.handlerFor cap = some k ∧ r = k.serving (e.typesFor cap) := by
  unfold Router.ofEndpoints at routed
  split at routed
  · next k handles =>
    cases routed
    refine ⟨k, handles, ?_⟩
    rw [Handler.serving, capability_of_handlerFor handles]
  · cases routed

/-- Let endpoints have a router for a capability, and let the calls of the handler be noted. Asked for one
of the operations that call the handler, with a body that is read, the router calls the handler once
and answers with what it gives, if the request is admitted: the body is the message of the operation,
the payload is there and has a type that is served, and credentials are read, which an identity does
without. The handler is called with this message and these credentials. Any other request is turned
away with the status 400, and no handler is called. So nobody is told that the plugin does not have an
operation, unless the handler says so itself. -/
theorem handler_called_iff_admitted {e : Endpoints σ} {cap : Capability} {r : Router σ}
    (routed : Router.ofEndpoints e cap = .ok r) :
    ∃ k noting, e.handlerFor cap = some k ∧ Router.ofEndpoints e.recorded cap = .ok noting ∧
      (∀ op ∈ Operation.ofCapability cap, ∀ req, op.AskedBy req →
        (∃ call, Admits (e.typesFor cap) req op call ∧
          (∀ other, Admits (e.typesFor cap) req op other → other = call) ∧
          k.CalledBy r noting req call) ∨
        ((∀ call, ¬ Admits (e.typesFor cap) req op call) ∧ r.TurnsAway noting req)) ∧
      ∀ req s, (r.respond req s).1 = r.foreignReport s →
        ∃ op call act, Admits (e.typesFor cap) req op call ∧ k.carryOut call = some act ∧
          Router.answer (act.run s).1 = r.foreignReport s := by
  obtain ⟨k, handles, rfl⟩ := Endpoints.exists_handler_of_router routed
  have noted : Router.ofEndpoints e.recorded cap = .ok (k.router (e.typesFor cap)) :=
    Endpoints.ofEndpoints_recorded handles
  cases Endpoints.capability_of_handlerFor handles
  refine ⟨k, _, handles, noted, fun op offered req asked => ?_, fun req s => called_of_foreign⟩
  by_cases admitted : ∃ call, Admits (e.typesFor k.capability) req op call
  · obtain ⟨call, admitted⟩ := admitted
    exact .inl ⟨call, admitted, fun other => admitted.eq_of_asked k asked,
      calledBy_of_admits offered asked admitted⟩
  · have refused : ∀ call, ¬ Admits (e.typesFor k.capability) req op call :=
      fun call h => admitted ⟨call, h⟩
    exact .inr ⟨refused, turnsAway_of_not_admits offered asked refused⟩

/-- A request to locate a resource without labels, with a value in the header for credentials. -/
def locateWith (credentials : Json) : Request :=
  Operation.download.request (Call.download { resource := (labelled 0).toWire } {}).document
    (Text.encode credentials.render) .zero

theorem asked_locateWith (credentials : Json) :
    Operation.download.AskedBy (locateWith credentials) where
  calls := rfl
  method := rfl
  path := rfl
  fits := by
    show (Text.encode
      (Call.download { resource := (labelled 0).toWire } {}).document.render).size ≤ Router.bodyLimit
    decide +kernel

theorem read_locateWith (credentials : Json) (c : Credentials) :
    (Call.download { resource := (labelled 0).toWire } c).ReadFrom (locateWith credentials).body := by
  have proper : (labelled 0).toWire.Proper := (admitted_labelled 0).resource _ rfl
  exact Router.readBody_eq_ok_iff.1 (readBody_request .download (d := Wire.downloadRequest)
    (Wire.ResourceMessage.reads_toJson proper _) (Wire.ResourceMessage.isIntegral_toJson proper)
    (shallow_labelled 0) _ .zero)

theorem header_locateWith (credentials : Json) :
    (locateWith credentials).headers.get? "authorization" =
      some (Text.encode credentials.render) := by
  simp [locateWith, Operation.request, Client.callHeaders, Http.Headers.get?, List.lookup_cons]

/-- A list in the header is no credentials. -/
theorem not_shows_list {c : Credentials} : ¬ Shows (locateWith (.arr [])) c := by
  have list : Json.Reading.ofOctets (Text.encode (Json.arr []).render) = ⟨.arr [] none, false⟩ :=
    Json.ofOctets_render_reread (by rfl) (by decide)
  intro shown
  cases shown with
  | absent unset => cases (header_locateWith _).symm.trans unset
  | blank set blank =>
    cases (header_locateWith _).symm.trans set
    exact absurd blank (by decide +kernel)
  | object pairs set filled whole =>
    cases (header_locateWith _).symm.trans set
    cases list.symm.trans whole

/-- Asked to locate a resource, the repository is called with the credentials in the header; with a
header that holds a list it is not. -/
theorem located_with_credentials : ∃ noting,
    Router.ofEndpoints namingEndpoints.recorded .resourceRepository = .ok noting ∧
      (noting.respond (locateWith (.obj [("user", .str "me")])) ((), [])).2.2 =
        [.download { resource := (labelled 0).toWire } ⟨[("user", "me")]⟩] ∧
      (noting.respond (locateWith (.arr [])) ((), [])).1.status = 400 ∧
      (noting.respond (locateWith (.arr [])) ((), [])).2.2 = [] := by
  have routed : Router.ofEndpoints namingEndpoints .resourceRepository =
      .ok ((Handler.resource namingRepository).serving [.ofName "t"]) := rfl
  obtain ⟨k, noting, -, noted, deals, -⟩ := handler_called_iff_admitted routed
  have offered : Operation.download ∈ Operation.ofCapability .resourceRepository := by decide
  refine ⟨noting, noted, ?_, ?_⟩
  · have shown : Shows (locateWith (.obj [("user", .str "me")])) ⟨[("user", "me")]⟩ :=
      Router.readCredentials_eq_ok_iff.1 (readCredentials_of_header
        (List.pairwise_singleton _ _) (header_locateWith _))
    have admitted : Admits (namingEndpoints.typesFor .resourceRepository)
        (locateWith (.obj [("user", .str "me")])) .download
        (.download { resource := (labelled 0).toWire } ⟨[("user", "me")]⟩) :=
      ⟨rfl, read_locateWith _ _, ⟨_, rfl, List.mem_singleton.2 rfl⟩, fun _ => shown⟩
    rcases deals .download offered _ (asked_locateWith _) with called | ⟨refused, -⟩
    · obtain ⟨call, -, only, act, -, answers⟩ := called
      rw [(answers () []).2, ← only _ admitted]
      rfl
    · exact absurd admitted (refused _)
  · rcases deals .download offered _ (asked_locateWith _) with called | ⟨-, reason, answers⟩
    · obtain ⟨call, admitted, -⟩ := called
      exact absurd (admitted.shown (by decide)) not_shows_list
    · rw [(answers () []).2]
      exact ⟨rfl, rfl⟩

end PluginKit
