import PluginKit.Client
import PluginKit.Testing.Reading

/-!
# Steps on handlers

What is asked of a handler or of a client, described by an object, and what came of it.
-/

namespace PluginKit.Testing

/-- The answer of a step: a value, or the pages of a listing and how it ended. -/
inductive Answer where
  | value (v : Json)
  | listed (ending : Outcome Unit) (pages : List (List String))

/-- A step on a world. -/
abbrev Action (σ : Type) := σ → Attempt Answer × σ

/-- The step of an operation. -/
def act {σ α : Type} (e : Effect σ α) (f : α → Json) : Action σ := fun s =>
  let (r, s) := e.run s
  (ofOutcome (r.map fun a => .value (f a)), s)

/-- No listing is followed further than this. -/
def pageLimit : Nat := 1000000

/-- Lists to the end and keeps every page. The listing stops once there are enough of them. -/
def listing {σ : Type} (h : ListerContract σ) (repository : Payload) (c : Credentials)
    (last : String) (stop : Option Nat) : Action σ := fun s =>
  let within {α : Type} (e : Effect σ α) : Effect (List (List String) × σ) α :=
    .within Prod.snd (fun p s => (p.1, s)) e
  let kept : ListerContract (List (List String) × σ) :=
    { identity := fun m => within (h.identity m)
      page := fun m c => within (h.page m c) }
  let receive (page : List String) : Effect (List (List String) × σ) Unit := .ofFunction fun p =>
    let pages := p.1 ++ [page]
    (if stop.any (· ≤ pages.length) then .error (.conversion "stop") else .ok (), (pages, p.2))
  let (r, pages, s) := (kept.list repository c receive pageLimit last).run ([], s)
  match r with
  | .ok none => (.ok (.listed (.ok ()) pages), s)
  | .ok (some _) => (.error .endless, s)
  | .error e => (.ok (.listed (.error e) pages), s)

/-- A step on a handler for every capability. -/
def handlerStep {σ : Type} (handler : Capability → Handler σ) (j : Json) : Attempt (Action σ) := do
  let credentials ← getD Credentials.decoder j "credentials" {}
  let any := handler (← getD Capability.decoder j "cap" .resourceRepository)
  let what ← str j "do"
  match what, handler .resourceRepository, handler .digestProcessor, handler .componentLister with
  | "ping", _, _, _ => return act any.ping fun _ => .null
  | "identity", _, _, _ => return act (any.identityOf (← payloadAt j "spec")) Identity.toJson
  | "download", .resource h, _, _ =>
    return act (h.locate (← resourceAt j "resource") credentials) Location.toJson
  | "upload", .resource h, _, _ =>
    let source ← get Location.decoder j "source"
    return act (h.store (← resourceAt j "resource") source credentials) Resource.inspect
  | "process_digest", _, .digest h, _ =>
    return act (h.digested (← resourceAt j "resource") credentials) Resource.inspect
  | "list", _, _, .lister h =>
    return listing h (← payloadAt j "repository") credentials (← getD .string j "last" "")
      (← nat? j "stop_after")
  | _, _, _, _ => bad what

/-- A step on a client. -/
def clientStep {σ : Type} (c : Client σ) (j : Json) : Attempt (Action (Link σ)) := do
  match ← str j "do" with
  | "validate" => return act (c.validate (← payloadAt j "payload")) fun _ => .null
  | "call" =>
    let credentials ← getD Credentials.decoder j "credentials" {}
    return act (c.call (← str j "path") (part j "request") credentials Json.Decoder.any) id
  | _ => handlerStep c.handler j

end PluginKit.Testing
