import PluginKit.Discovery
import PluginKit.Host.Run
import PluginKit.Testing.Setting
import PluginKit.Testing.Steps

/-!
# Rehearsals

A host is tried out by steps. A step registers plugins, gets a handler and uses it or stops plugins,
and several may be asked for at once, each with a delay of its own. Time is that of the host, so that
waiting takes none.
-/

namespace PluginKit.Testing

/-! ## What is asked for at once -/

/-- One thing, or several at once. -/
inductive Together (α : Type) where
  | one (a : α)
  | all (parts : List (Together α))

namespace Together

variable {α β : Type}

mutual

/-- Makes one value of all there is. -/
def fold (single : α → β) (several : List β → β) : Together α → β
  | .one a => single a
  | .all parts => several (foldAll single several parts)

/-- Makes one value of each part. -/
def foldAll (single : α → β) (several : List β → β) : List (Together α) → List β
  | [] => []
  | p :: ps => fold single several p :: foldAll single several ps

end

end Together

/-! ## Errands -/

variable {τ : Type}

/-- An errand of a caller: the stage at which the task begins, and what is done right at its end. -/
structure Errand (τ : Type) where
  stage : Stage Unit τ
  finish : Stage Unit τ → Site → Host Unit τ → Attempt Answer × Site × Host Unit τ

namespace Errand

/-- Something that is done without a wait. -/
def now (f : Site → Host Unit τ → Attempt Answer × Site × Host Unit τ) : Errand τ where
  stage := .asked [] none
  finish _ := f

/-- An operation that changes the host. -/
def change (f : Host Unit τ → Outcome Unit × Host Unit τ) : Errand τ := now fun site h =>
  let (r, h) := f h
  (ofOutcome (r.map fun () => .value .null), site, h)

/-- Gets what serves a type and uses it. -/
def use (c : Capability) (kind : String) (tag : TypeId)
    (f : {ω : Type} → Handler ω → Effect ω (Attempt Answer)) : Errand τ where
  stage := .looking c kind tag
  finish stage site h :=
    match stage with
    | .found c provider =>
      let (r, _, h) := h.perform c provider () f
      ((ofOutcome r).bind id, site, h)
    | .failed e _ => (.error (.fault e), site, h)
    | _ => (.error .endless, site, h)

/-- Stops the plugins for some capabilities. -/
def stop (capabilities : List Capability) (patience : Option Nat) : Errand τ where
  stage := .asked capabilities patience
  finish stage site h :=
    match stage with
    | .stopped _ r => (ofOutcome (r.map fun () => .value .null), site, h)
    | _ => (.error .endless, site, h)

end Errand

/-- Asks whether a handler is alive, if that is wanted, and for the identity of an object. -/
def identify (ping : Bool) (object : Payload) {ω : Type} (handler : Handler ω) :
    Effect ω (Attempt Answer) := do
  if ping then handler.ping
  return .ok (.value (← handler.identityOf object).toJson)

/-- Does a step on a handler. -/
def doStep (step : Json) {ω : Type} (handler : Handler ω) : Effect ω (Attempt Answer) :=
  .ofFunction fun w =>
    match handlerStep (fun _ => handler) step with
    | .error e => (.ok (.error e), w)
    | .ok action =>
      let (r, w) := action w
      (.ok r, w)

/-- The object that a step is about. -/
def subject (step : Json) : Json :=
  match step.get? "spec", step.get? "repository" with
  | some spec, _ => spec
  | none, some repository => repository
  | none, none => part (part step "resource") "access"

/-- A handler inside the host that names itself. -/
def inner (name : String) : Capability → Handler Unit
  | .resourceRepository => .resource {
      identity := answer
      download := fun _ _ => Effect.fail absent
      upload := fun _ _ => Effect.fail absent }
  | .digestProcessor => .digest { identity := answer, process := fun _ _ => Effect.fail absent }
  | .componentLister => .lister { identity := answer, page := fun _ _ => Effect.fail absent }
where
  answer (_ : Wire.IdentityRequest) : Effect Unit Wire.IdentityResponse :=
    pure ⟨.ofPairs [("internal", name)]⟩
  absent : Fault := .notFound "operation"

/-- The errand of getting a handler: for an object as it is, or read as a value of a kind. -/
def gettingOf (c : Capability) (j : Json) : Attempt (Errand τ) := do
  let spec := part j "spec"
  let ping ← flag j "ping"
  let object ← if spec.asObject?.isSome then ofScheme (Payload.ofJson spec.sorted)
    else pure (Payload.make .empty [])
  if (part j "kind").isNull then
    let p ← ofScheme (Payload.ofJson spec.sorted)
    return .use c Payload.prototype.name p.tag (identify ping object)
  else
    withKind j fun p => do
      let v ← get p.decoder j "spec"
      return .use c p.name (p.tag v) (identify ping object)

/-- The errand of a step. -/
def errandOf (config : ManagerConfig) (j : Json) : Attempt (Errand τ) := do
  let cap? ← get? Capability.decoder j "cap"
  let cap ← capAt j "cap" |>.toOption.elim (pure Capability.resourceRepository) pure
  match ← str j "do", cap? with
  | "descriptor", _ =>
    let d ← descriptorOf (part j "descriptor")
    return .change fun h => h.registerDescriptor d
  | "register_plugins", _ =>
    return .now fun site h =>
      match (Discovery.discover config).run site with
      | (.ok ds, site) =>
        let (n, h) := h.registerAll ds
        (.ok (.value (.nat n)), site, h)
      | (.error e, site) => (.error (.fault e), site, h)
  | "add", _ =>
    let d ← descriptorOf (part j "descriptor")
    let t ← typeAt j "type"
    return .change fun h => h.register cap fun r => r.add d t
  | "internal", _ =>
    let known ← schemeOf (part j "scheme")
    let checked := !(← flag j "unchecked")
    let handler := inner (← getD .string j "name" "internal") cap
    withKind j fun p =>
      return .change fun h => h.register cap fun r => r.serveInside p known handler checked
  | "get", _ => gettingOf cap j
  | "call", _ =>
    let step := part j "step"
    let p ← ofScheme (Payload.ofJson (subject step).sorted)
    return .use cap Payload.prototype.name p.tag (doStep step)
  | "shutdown", some c =>
    match ← nat? j "timeout_ms" with
    | some t => return .stop [c] (some t)
    | none => return .stop [c] (← nat? j "cancel_ms")
  | "shutdown", none =>
    if ← flag j "token" then return .stop Capability.all (← nat? j "cancel_ms")
    else
      let usual := 1000 * config.shutdownSeconds
      return .stop Capability.all (some ((← nat? j "timeout_ms").getD usual))
  | what, _ => bad what

/-! ## Steps -/

/-- A host that is tried out, and the site on which it finds plugins. -/
structure Rehearsal (τ : Type) where
  config : ManagerConfig
  host : Host Unit τ
  site : Site

/-- No step is waited for longer than this, in milliseconds. -/
def patienceLimit : Nat := 3600000

/-- The report of a step. -/
structure Report where
  result : Attempt (Together (Attempt Answer))
  elapsed : Nat
  log : List String

/-- Asks for everything in a step. A part of it that cannot be read is answered at once. -/
def enlist (config : ManagerConfig) : Nat → Nat → Json →
    StateM (Host Unit τ × List (Errand τ)) (Together Nat)
  | 0, _, _ => return .all []
  | depth + 1, before, j => do
    let delay := before + ((nat? j "after_ms").toOption.join).getD 0
    match part j "do" with
    | .str "parallel" => return .all (← (items j "steps").mapM (enlist config depth delay))
    | .str "repeat" =>
      let times := (get .count j "times").toOption.getD 1
      return .all (← (List.replicate times (part j "step")).mapM (enlist config depth delay))
    | _ =>
      let errand := match errandOf config j with
        | .ok e => e
        | .error e => .now fun site h => (.error e, site, h)
      modifyGet fun (h, errands) =>
        let (n, h) := h.ask delay errand.stage
        (.one n, h, errands ++ [errand])

/-- The words for something that happened. -/
def eventText {σ : Type} (h : Host σ τ) : Event → String
  | .start id count c => "start " ++ id.text ++ "#" ++ toString count ++ " " ++ c.name
  | .interrupt p => "interrupt " ++ processText p
  | .kill p => "kill " ++ processText p
where
  /-- A plugin and the number of its process. -/
  processText (p : Nat) : String :=
    match h.processes[p]? with
    | some x => x.plugin.text ++ "#" ++ toString x.count
    | none => ""

/-- Texts in their order. -/
def inOrder (xs : List String) : List String := xs.mergeSort fun a b => !decide (b < a)

/-- Does a step and waits for everything in it. -/
def rehearse (l : Site → Launcher τ) (r : Rehearsal τ) (step : Json) : Report × Rehearsal τ :=
  let first := r.host.tasks.length
  let start := r.host.now
  let (shape, asked, errands) := enlist r.config 128 0 step (r.host, [])
  let after (n : Nat) (a : Site × List (Nat × Attempt Answer)) (h : Host Unit τ) :
      (Site × List (Nat × Attempt Answer)) × Host Unit τ :=
    match errands[n - first]?, h.stage? n with
    | some e, some stage =>
      if stage.rank = 0 then
        let (answer, site, h) := e.finish stage a.1 h
        ((site, (n, answer) :: a.2), h)
      else (a, h)
    | _, _ => (a, h)
  let ((site, answers), h) :=
    asked.runUntil (l r.site) after (start + patienceLimit) (r.site, [])
  let log := inOrder ((h.events.drop r.host.events.length).map (eventText h))
  if answers.length < errands.length then
    ({ result := .error .endless, elapsed := patienceLimit, log },
      { r with host := { h.abandon with now := start + patienceLimit }, site })
  else
    let answer (n : Nat) : Together (Attempt Answer) :=
      .one ((answers.lookup n).getD (.error .endless))
    ({ result := .ok (shape.fold answer .all), elapsed := h.now - start, log },
      { r with host := h, site })

/-! ## Launchers -/

/-- The reply of a plugin that tells which start it was. -/
def introduction (id : PluginId) (count : Nat) : Reply :=
  let identity : Wire.IdentityResponse :=
    ⟨.ofPairs [("served-by", id.text), ("instance", toString count)]⟩
  .answer (.json 200 identity.toJson.render)

/-- How often a plugin tells which start it was, where no other replies are laid out. -/
def introductions : Nat := 64

/-- The process of a plugin. -/
def processOf (id : PluginId) (count : Nat) (j : Json) : Attempt Process := do
  return {
    plugin := id
    count
    exitAfter := ← nat? j "exit_ms"
    interruptFault := ← str? j "interrupt_error"
    waitFault := ← str? j "wait_error"
    exitsAt := if ← flag j "exited" then some 0 else none }

/-- The address of a start where none is given. -/
def usualPlace (count : Nat) : Place := (Place.ofLine? ("127.0.0.1:" ++ toString count)).getD (.socket "")

/-- How a start goes that is laid out. -/
def startOf (d : PluginDescriptor) (count : Nat) (j : Json) : Attempt (Start Bench) := do
  let delay := (← nat? j "delay_ms").getD 0
  match ← str? j "fail" with
  | some reason => return { delay, outcome := .error (.start d.id reason) }
  | none =>
    let place := match ← str? j "location" with
      | some text => (Place.ofLine? text).getD (.socket text)
      | none => usualPlace count
    let process := if (part j "process").isNull then .obj [("exit_ms", .nat 0)] else part j "process"
    let replies ←
      if (part j "responses").isNull then
        pure (List.replicate introductions (introduction d.id count))
      else repliesOf j "responses"
    return { delay, outcome := .ok {
      place
      process := ← processOf d.id count process
      send := scripted
      ids := countedIds
      documents := outside {}
      world := { files := {}, replies } } }

/-- Starts as they are laid out for every plugin. -/
def laidOut (j : Json) : Launcher Bench := fun d _ count =>
  match startOf d count (((items j d.id.text)[count - 1]?).getD (.obj [])) with
  | .ok s => s
  | .error _ => { outcome := .error (.start d.id "not laid out") }

end PluginKit.Testing
