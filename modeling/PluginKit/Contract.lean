import PluginKit.Effect
import PluginKit.Wire.Message

/-!
# Contracts

What a handler of a capability can do, said in the messages of the wire. The same contract is kept by
the handlers inside a plugin and by the client that calls a plugin from outside.
-/

namespace PluginKit

/-- Locates and stores the bytes of resources. -/
structure ResourceContract (σ : Type) where
  ping : Effect σ Unit := pure ()
  identity : Wire.IdentityRequest → Effect σ Wire.IdentityResponse
  download : Wire.ResourceMessage → Credentials → Effect σ Wire.LocationResponse
  upload : Wire.UploadRequest → Credentials → Effect σ Wire.ResourceMessage

/-- Computes the digests of resources. -/
structure DigestContract (σ : Type) where
  ping : Effect σ Unit := pure ()
  identity : Wire.IdentityRequest → Effect σ Wire.IdentityResponse
  process : Wire.ResourceMessage → Credentials → Effect σ Wire.ResourceMessage

/-- Lists the components of repositories page by page. -/
structure ListerContract (σ : Type) where
  ping : Effect σ Unit := pure ()
  identity : Wire.IdentityRequest → Effect σ Wire.IdentityResponse
  page : Wire.ListRequest → Credentials → Effect σ Wire.ListResponse

/-- A handler of some capability. -/
inductive Handler (σ : Type) where
  | resource (contract : ResourceContract σ)
  | digest (contract : DigestContract σ)
  | lister (contract : ListerContract σ)

namespace Handler

variable {σ : Type}

/-- The capability that a handler serves. -/
def capability : Handler σ → Capability
  | .resource _ => .resourceRepository
  | .digest _ => .digestProcessor
  | .lister _ => .componentLister

/-- The identity of a typed object, which every handler can tell. -/
def identity : Handler σ → Wire.IdentityRequest → Effect σ Wire.IdentityResponse
  | .resource c => c.identity
  | .digest c => c.identity
  | .lister c => c.identity

/-- Asks a handler whether it is alive. -/
def ping : Handler σ → Effect σ Unit
  | .resource c => c.ping
  | .digest c => c.ping
  | .lister c => c.ping

end Handler

end PluginKit
