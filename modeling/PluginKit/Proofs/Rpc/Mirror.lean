import PluginKit.Proofs.Rpc.Call
import PluginKit.Proofs.Schema.Cache

/-!
# The same work in place and over a connection

A recorded handler notes every call it gets. An operation over a connection mirrors an operation in
place when both give the same, leave the same world and have the same calls noted. Operations that
mirror each other do so when they are put together.

## Main statements

- `mirrors_bind`: mirroring goes through from operation to operation.
- `mirrors_call`: a call over the connection mirrors the operation that carries it out.
- `mirrors_validate`: judging a payload that passes does nothing.
-/

namespace PluginKit

variable {σ τ α β : Type}

/-! ## Calls and their records -/

/-- One call of a handler: the message, and the credentials that come with it. -/
inductive Call where
  | identity (m : Wire.IdentityRequest)
  | download (m : Wire.ResourceMessage) (credentials : Credentials)
  | upload (m : Wire.UploadRequest) (credentials : Credentials)
  | digest (m : Wire.ResourceMessage) (credentials : Credentials)
  | page (m : Wire.ListRequest) (credentials : Credentials)

namespace Call

/-- The message of a call as it is sent. -/
def document : Call → Json
  | .identity m => m.toJson
  | .download m _ => m.toJson
  | .upload m _ => m.toJson
  | .digest m _ => m.toJson
  | .page m _ => m.toJson

/-- The credentials that a call sends. An identity is asked for without any. -/
def credentials : Call → Credentials
  | .identity _ => {}
  | .download _ c => c
  | .upload _ c => c
  | .digest _ c => c
  | .page _ c => c

/-- A call whose message nests no deeper than a reader goes and is no larger than a body may be. -/
structure Sendable (c : Call) : Prop where
  shallow : c.document.depth ≤ Json.Reader.maxDepth
  fits : (Text.encode c.document.render).size ≤ Router.bodyLimit

end Call

/-- An operation of which a note is made. -/
def Effect.noting (call : Call) (e : Effect σ α) : Effect (σ × List Call) α :=
  .ofFunction fun w => ((e.run w.1).1, (e.run w.1).2, w.2 ++ [call])

/-- An operation beside the notes. -/
def Effect.beside (e : Effect σ α) : Effect (σ × List Call) α :=
  .within Prod.fst (fun w s => (s, w.2)) e

theorem Effect.run_noting (call : Call) (e : Effect σ α) (w : σ × List Call) :
    (e.noting call).run w = ((e.run w.1).1, (e.run w.1).2, w.2 ++ [call]) := rfl

/-- The contract with a note of every call. -/
def ResourceContract.recorded (k : ResourceContract σ) : ResourceContract (σ × List Call) where
  ping := k.ping.beside
  identity m := (k.identity m).noting (.identity m)
  download m c := (k.download m c).noting (.download m c)
  upload m c := (k.upload m c).noting (.upload m c)

/-- The contract with a note of every call. -/
def DigestContract.recorded (k : DigestContract σ) : DigestContract (σ × List Call) where
  ping := k.ping.beside
  identity m := (k.identity m).noting (.identity m)
  process m c := (k.process m c).noting (.digest m c)

/-- The contract with a note of every call. -/
def ListerContract.recorded (k : ListerContract σ) : ListerContract (σ × List Call) where
  ping := k.ping.beside
  identity m := (k.identity m).noting (.identity m)
  page m c := (k.page m c).noting (.page m c)

/-- The handler with a note of every call. -/
def Handler.recorded : Handler σ → Handler (σ × List Call)
  | .resource k => .resource k.recorded
  | .digest k => .digest k.recorded
  | .lister k => .lister k.recorded

theorem Handler.identity_recorded (k : Handler σ) (m : Wire.IdentityRequest) :
    k.recorded.identity m = (k.identity m).noting (.identity m) := by
  cases k <;> rfl

/-- The endpoints with a note of every call to any of their handlers. -/
def Endpoints.recorded (e : Endpoints σ) : Endpoints (σ × List Call) where
  scheme := e.scheme
  resource := e.resource.map fun s => { handler := s.handler.recorded, types := s.types }
  digest := e.digest.map fun s => { handler := s.handler.recorded, types := s.types }
  lister := e.lister.map fun s => { handler := s.handler.recorded, types := s.types }

namespace Endpoints

theorem typesFor_recorded (e : Endpoints σ) (cap : Capability) :
    e.recorded.typesFor cap = e.typesFor cap := by
  cases cap <;> simp [recorded, typesFor, Function.comp_def]

theorem handlerFor_recorded (e : Endpoints σ) (cap : Capability) :
    e.recorded.handlerFor cap = (e.handlerFor cap).map Handler.recorded := by
  cases cap <;> simp [recorded, handlerFor, Handler.recorded, Function.comp_def]

theorem capability_of_handlerFor {e : Endpoints σ} {cap : Capability} {k : Handler σ}
    (h : e.handlerFor cap = some k) : k.capability = cap := by
  cases cap <;> (simp only [handlerFor, Option.map_eq_some_iff] at h; obtain ⟨s, -, rfl⟩ := h; rfl)

/-- The router of recorded endpoints. -/
theorem ofEndpoints_recorded {e : Endpoints σ} {cap : Capability} {k : Handler σ}
    (h : e.handlerFor cap = some k) : Router.ofEndpoints e.recorded cap =
      .ok { capability := k.capability, types := e.typesFor cap, handler := k.recorded } := by
  rw [Router.ofEndpoints, handlerFor_recorded, h, typesFor_recorded, capability_of_handlerFor h]
  rfl

end Endpoints

/-! ## Mirroring -/

/-- A run over a connection from the link `l` on agrees with a run in place: in its result, in the world
with its notes, and in one request for every call that was noted meanwhile. -/
structure Agrees (docs : Schema.Documents) (schemas : Table TypeId Json) (l : Link (σ × List Call))
    (remote : Outcome α × Link (σ × List Call)) (direct : Outcome α × (σ × List Call)) : Prop where
  outcome : remote.1.toOption = direct.1.toOption
  world : remote.2.world = direct.2
  issued : remote.2.issued + l.world.2.length = l.issued + direct.2.2.length
  consistent : remote.2.validator.Consistent docs
  schemas : remote.2.validator.schemas = schemas

/-- An operation over a connection mirrors an operation in place as long as all calls that the latter
makes can be sent. Notes are only ever added. -/
def Mirrors (docs : Schema.Documents) (schemas : Table TypeId Json)
    (remote : Effect (Link (σ × List Call)) α) (direct : Effect (σ × List Call) α) : Prop :=
  ∀ l : Link (σ × List Call), l.validator.Consistent docs → l.validator.schemas = schemas →
    l.world.2 <+: (direct.run l.world).2.2 ∧
      ((∀ call ∈ (direct.run l.world).2.2, call.Sendable) →
        Agrees docs schemas l (remote.run l) (direct.run l.world))

variable {docs : Schema.Documents} {schemas : Table TypeId Json}

theorem mirrors_lift (r : Outcome α) :
    Mirrors docs schemas (Effect.lift r : Effect (Link (σ × List Call)) α) (Effect.lift r) := by
  intro l consistent same
  exact ⟨List.prefix_refl _, fun _ => ⟨rfl, rfl, rfl, consistent, same⟩⟩

theorem mirrors_pure (a : α) :
    Mirrors docs schemas (pure a : Effect (Link (σ × List Call)) α) (pure a) :=
  mirrors_lift (.ok a)

/-- An operation on the world beside the notes does the same over a connection. -/
theorem mirrors_beside (e : Effect σ α) :
    Mirrors docs schemas (Effect.within Link.world (fun l w => { l with world := w }) e.beside)
      e.beside := by
  intro l consistent same
  exact ⟨List.prefix_refl _, fun _ => ⟨rfl, rfl, rfl, consistent, same⟩⟩

/-- Mirroring goes through from operation to operation. -/
theorem mirrors_bind {remote : Effect (Link (σ × List Call)) α} {direct : Effect (σ × List Call) α}
    {f : α → Effect (Link (σ × List Call)) β} {g : α → Effect (σ × List Call) β}
    (first : Mirrors docs schemas remote direct) (next : ∀ a, Mirrors docs schemas (f a) (g a)) :
    Mirrors docs schemas (remote >>= f) (direct >>= g) := by
  intro l consistent same
  obtain ⟨noted, agrees⟩ := first l consistent same
  rw [Effect.run_bind, Effect.run_bind]
  cases ran : direct.run l.world with
  | mk out w =>
    rw [ran] at noted agrees
    cases out with
    -- the first operation fails on both sides, and the second one runs on neither
    | error e =>
      refine ⟨noted, fun sendable => ?_⟩
      have h := agrees sendable
      obtain ⟨fault, failed⟩ : ∃ fault, (remote.run l).1 = .error fault := by
        cases hr : (remote.run l).1 with
        | error fault => exact ⟨fault, rfl⟩
        | ok a => exact absurd (hr ▸ h.outcome) (by simp [Except.toOption])
      rw [← Prod.eta (remote.run l), failed]
      exact ⟨rfl, h.world, h.issued, h.consistent, h.schemas⟩
    | ok a =>
      -- The calls of the first operation are among those of both.
      have more : w.2 <+: ((g a).run w).2.2 := (next a { l with world := w } consistent same).1
      refine ⟨noted.trans more, fun sendable => ?_⟩
      have h := agrees fun call hc => sendable call (more.subset hc)
      have gave : (remote.run l).1 = .ok a := by
        cases hr : (remote.run l).1 with
        | error fault => exact absurd (hr ▸ h.outcome) (by simp [Except.toOption])
        | ok b =>
          have eq := h.outcome
          rw [hr] at eq
          cases eq
          rfl
      rw [← Prod.eta (remote.run l), gave]
      have world : (remote.run l).2.world = w := h.world
      have rest := (next a (remote.run l).2 h.consistent h.schemas).2
      rw [world] at rest
      have h' := rest sendable
      refine ⟨h'.outcome, h'.world, ?_, h'.consistent, h'.schemas⟩
      have before : (remote.run l).2.issued + l.world.2.length = l.issued + w.2.length := h.issued
      have after : ((f a).run (remote.run l).2).2.issued + (remote.run l).2.world.2.length =
        (remote.run l).2.issued + ((g a).run w).2.2.length := h'.issued
      rw [world] at after
      show ((f a).run (remote.run l).2).2.issued + _ = _ + ((g a).run w).2.2.length
      omega

theorem mirrors_map {remote : Effect (Link (σ × List Call)) α} {direct : Effect (σ × List Call) α}
    (h : Mirrors docs schemas remote direct) (f : α → β) :
    Mirrors docs schemas (f <$> remote) (f <$> direct) := by
  rw [map_eq_pure_bind, map_eq_pure_bind]
  exact mirrors_bind h fun a => mirrors_pure (f a)

/-- A call over the connection mirrors the operation that carries it out. -/
theorem mirrors_call {r : Router (σ × List Call)} {c : Client (σ × List Call)}
    (connected : c.send = r.connection) (op : Operation) (call : Call) {f : Effect σ α}
    {write : α → Json} {d : Json.Decoder α} (carries : call.Sendable →
      Carries r op call.document call.credentials (f.noting call) write d) :
    Mirrors docs schemas (c.call op.path call.document call.credentials d) (f.noting call) := by
  intro l consistent same
  refine ⟨List.prefix_append _ _, fun sendable => ?_⟩
  have sent : call.Sendable := sendable call (by simp [Effect.run_noting])
  obtain ⟨outcome, gives, ran⟩ := run_call connected (carries sent) l
  rw [ran]
  refine ⟨gives, rfl, ?_, consistent, same⟩
  simp only [Effect.run_noting, List.length_append, List.length_cons, List.length_nil]
  omega

/-! ## Judging payloads -/

/-- A payload passes when it has no violation under the schema advertised for its type, with the
documents outside as they are. -/
def Passes (docs : Schema.Documents) (schemas : Table TypeId Json) (p : Payload) : Prop :=
  ∀ source, schemas.get? p.tag = some source → Validator.judge docs source p = []

theorem validate_of_passes {v : Validator} (consistent : v.Consistent docs) (plugin : PluginId)
    {p : Payload} (passes : Passes docs v.schemas p) : (v.validate docs plugin p).1 = .ok () := by
  cases advertised : v.schemas.get? p.tag with
  | none => rw [Validator.validate_of_unadvertised advertised]
  | some source =>
    rw [Validator.judge_eq_of_consistent consistent advertised, passes source advertised]
    rfl

/-- Judging a payload that passes does nothing. -/
theorem mirrors_validate (c : Client (σ × List Call)) {p : Payload}
    (passes : Passes c.documents schemas p) :
    Mirrors c.documents schemas (c.validate p) (pure ()) := by
  intro l consistent same
  refine ⟨List.prefix_refl _, fun _ => ?_⟩
  have passed := validate_of_passes consistent c.plugin (same.symm ▸ passes : Passes _ _ p)
  have run : (c.validate p).run l =
      (.ok (), { l with validator := (l.validator.validate c.documents c.plugin p).2 }) := by
    rw [← passed]
    rfl
  rw [run]
  exact ⟨rfl, rfl, rfl, Validator.consistent_validate consistent c.plugin p,
    (Validator.schemas_validate l.validator c.documents c.plugin p).trans same⟩

theorem mirrors_of_validated {c : Client (σ × List Call)} {p : Payload}
    (passes : Passes c.documents schemas p) {remote : Effect (Link (σ × List Call)) α}
    {direct : Effect (σ × List Call) α} (h : Mirrors c.documents schemas remote direct) :
    Mirrors c.documents schemas (c.validate p >>= fun _ => remote) direct := by
  rw [← pure_bind () fun _ => direct]
  exact mirrors_bind (mirrors_validate c passes) fun _ => h

end PluginKit
