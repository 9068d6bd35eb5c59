import PluginKit.Contract
import PluginKit.Pagination
import PluginKit.Wire.Resource

/-!
# Operations of hosts

What a host does with plugins, said in resources and not in messages. Any handler of a capability can
be used so, one inside the host as well as a client that calls a plugin.
-/

namespace PluginKit

variable {σ : Type}

/-- The identity by which credentials for a typed object are looked up. -/
def Handler.identityOf (h : Handler σ) (object : Payload) : Effect σ Identity := do
  return (← h.identity { object }).identity

namespace ResourceContract

/-- Makes the bytes of a resource available and says where. -/
def locate (h : ResourceContract σ) (r : Resource) (c : Credentials) : Effect σ Location := do
  return (← h.download { resource := r.toWire } c).location

/-- Stores the bytes at a location. The result is the resource with its new access. -/
def store (h : ResourceContract σ) (r : Resource) (source : Location) (c : Credentials) :
    Effect σ Resource := do
  let answer ← h.upload { resource := r.toWire, source } c
  Effect.lift (Resource.ofWire answer.resource)

end ResourceContract

namespace DigestContract

/-- The resource with its digest. -/
def digested (h : DigestContract σ) (r : Resource) (c : Credentials) : Effect σ Resource := do
  let answer ← h.process { resource := r.toWire } c
  Effect.lift (Resource.ofWire answer.resource)

end DigestContract

namespace ListerContract

/-- The page of components after a cursor. -/
def pageAfter (h : ListerContract σ) (repository : Payload) (c : Credentials) (last : String) :
    Effect σ (Page String) := do
  let answer ← h.page { repository, last } c
  return { items := answer.names, next := answer.last }

/-- At most `n` pages of components from a cursor on, each handed to `receive`. The result is the
cursor where the listing stands, or nothing once it has ended. -/
def list (h : ListerContract σ) (repository : Payload) (c : Credentials)
    (receive : List String → Effect σ Unit) (n : Nat) (last : String) : Effect σ (Option String) :=
  Page.pages (h.pageAfter repository c) receive n last

end ListerContract

end PluginKit
