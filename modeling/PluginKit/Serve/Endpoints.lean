import PluginKit.Contract
import PluginKit.Descriptor
import PluginKit.Scheme.Basic

/-!
# Endpoints

What a plugin binary serves: for every capability at most one handler and the types it accepts.
Registering a prototype adds its types, and the handler registered last serves them all. The
document in which a plugin describes itself is made from the types, so that it advertises what is
served.

## Main statements

- `typesFor_ofScheme`: new endpoints serve nothing.
-/

namespace PluginKit

/-- A handler and the types it accepts. -/
structure Served (α : Type) where
  handler : α
  types : List TypeId

/-- With a handler that takes over and more types after those there are. -/
def Served.add {α : Type} (slot : Option (Served α)) (handler : α) (types : List TypeId) :
    Option (Served α) :=
  match slot with
  | none => some { handler, types }
  | some s => some { handler, types := types.foldl Scheme.addType s.types }

/-- The handlers and the types that a plugin binary serves. -/
structure Endpoints (σ : Type) where
  scheme : Scheme
  resource : Option (Served (ResourceContract σ)) := none
  digest : Option (Served (DigestContract σ)) := none
  lister : Option (Served (ListerContract σ)) := none

namespace Endpoints

variable {σ : Type}

/-- Endpoints that serve nothing. -/
def ofScheme (s : Scheme) : Endpoints σ := { scheme := s }

/-- The types of a prototype, which has to be registered. -/
def typesOf (e : Endpoints σ) (cap : Capability) (kind : String) : Outcome (List TypeId) :=
  (e.scheme.typesOf kind).mapError fun fault => .registration cap fault.message

/-- Serves a prototype, given by its name, with a handler. -/
def serve (e : Endpoints σ) (kind : String) (h : Handler σ) : Outcome (Endpoints σ) := do
  let types ← e.typesOf h.capability kind
  match h with
  | .resource c => return { e with resource := Served.add e.resource c types }
  | .digest c => return { e with digest := Served.add e.digest c types }
  | .lister c => return { e with lister := Served.add e.lister c types }

/-- The types served for a capability. -/
def typesFor (e : Endpoints σ) : Capability → List TypeId
  | .resourceRepository => (e.resource.map Served.types).getD []
  | .digestProcessor => (e.digest.map Served.types).getD []
  | .componentLister => (e.lister.map Served.types).getD []

/-- The handler for a capability. -/
def handlerFor (e : Endpoints σ) : Capability → Option (Handler σ)
  | .resourceRepository => e.resource.map fun s => .resource s.handler
  | .digestProcessor => e.digest.map fun s => .digest s.handler
  | .componentLister => e.lister.map fun s => .lister s.handler

/-- A type with the schema of its prototype. -/
def schemaOf (e : Endpoints σ) (t : TypeId) : Outcome TypeSchema :=
  (Outcome.ofScheme (e.scheme.jsonSchema t)).map fun schema => { type := t, schema }

/-- The document in which the plugin describes itself. -/
def capabilities (e : Endpoints σ) : Outcome Capabilities := do
  let served := Capability.all.filter fun cap => !(e.typesFor cap).isEmpty
  let types ← served.mapM fun cap => do
    return (cap, ← (e.typesFor cap).mapM e.schemaOf)
  return { types }

/-- New endpoints serve nothing. -/
theorem typesFor_ofScheme (s : Scheme) (cap : Capability) :
    (ofScheme s : Endpoints σ).typesFor cap = [] := by
  cases cap <;> rfl

end Endpoints

end PluginKit
