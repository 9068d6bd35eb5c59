import PluginKit.Contract
import PluginKit.Descriptor
import PluginKit.Scheme.Basic

/-!
# Registries

For every capability a host keeps a registry: which handler inside the host and which plugin serves a
type, and which instances of plugins have been started. A handler inside the host wins over a plugin,
and the first plugin keeps a type.

## Main statements

- `add_twice`: a plugin may be registered for a type again.
-/

namespace PluginKit

/-- The registry of a host for one capability. `generation` counts how often all instances were stopped;
`cells` and `tracked` are numbers of instances and processes. -/
structure Registry (σ : Type) where
  capability : Capability
  scheme : Scheme := {}
  internal : Table TypeId (Handler σ) := []
  external : Table TypeId PluginDescriptor := []
  cells : Table PluginId Nat := []
  generation : UInt64 := 0
  tracked : List Nat := []

namespace Registry

variable {σ α : Type}

/-- How handlers inside the host are called in messages. -/
def insideName : String := "internal"

/-! ## Binding types -/

/-- The conflict over a type that is bound already. -/
def conflict {β : Type} (r : Registry σ) (t : TypeId) (existing : String) : Outcome β :=
  .error (.alreadyRegistered r.capability t existing)

/-- Binds a type to a plugin. -/
def add (r : Registry σ) (d : PluginDescriptor) (t : TypeId) : Outcome (Registry σ) :=
  if r.internal.contains t then r.conflict t insideName
  else
    match r.external.get? t with
    | some e => if e.id = d.id then .ok r else r.conflict t e.id.text
    | none => .ok { r with external := r.external.insert t d }

/-- A plugin may be registered for a type again. -/
theorem add_twice {r : Registry σ} {d e : PluginDescriptor} {t : TypeId}
    (inside : r.internal.contains t = false) (bound : r.external.get? t = some e)
    (same : e.id = d.id) : r.add d t = .ok r := by
  simp [add, inside, bound, same]

/-- A type can be bound to a handler inside the host unless it is bound already. A binding to a
plugin only counts if it is asked for. -/
def checkFree (r : Registry σ) (checked : Bool) (t : TypeId) : Outcome Unit :=
  if r.internal.contains t then r.conflict t insideName
  else
    match r.external.get? t with
    | some e => if checked then r.conflict t e.id.text else .ok ()
    | none => .ok ()

/-- A fault of the scheme at a registration. -/
def refusal {β : Type} (r : Registry σ) (e : SchemeFault) : Outcome β :=
  .error (.registration r.capability e.message)

/-- Binds every type of a prototype to a handler inside the host, or none if that is refused. -/
def serveInside (r : Registry σ) (p : Prototype α) (known : Scheme) (handler : Handler σ)
    (checked : Bool) : Outcome (Registry σ) :=
  match known.typesOf p.name with
  | .error e => r.refusal e
  | .ok types => do
    types.forM (r.checkFree checked)
    match r.scheme.registerAll p types with
    | .error e => r.refusal e
    | .ok scheme =>
      return { r with scheme, internal := types.foldl (fun t i => t.insert i handler) r.internal }

/-- The types that are bound to plugins. -/
def registeredTypes (r : Registry σ) : List TypeId := r.external.keys

/-! ## Finding what serves a type -/

/-- The handler or the plugin that serves a type. -/
inductive Served (σ : Type) where
  | inside (handler : Handler σ)
  | plugin (descriptor : PluginDescriptor)

/-- The handler or the plugin that serves a specification of a kind with a tag: the type itself counts
before its aliases, and any handler inside the host before any plugin. -/
def lookup (r : Registry σ) (kind : String) (tag : TypeId) : Outcome (Served σ) :=
  match r.scheme.resolveTag kind tag with
  | .error e => .error (.resolution r.capability tag e.message)
  | .ok t =>
    let candidates := t :: r.scheme.aliases t
    match candidates.findSome? r.internal.get? with
    | some handler => .ok (.inside handler)
    | none =>
      match candidates.findSome? r.external.get? with
      | some d => .ok (.plugin d)
      | none =>
        .error (.resolution r.capability t "no internal handler or external plugin is registered")

end Registry

end PluginKit
