import PluginKit.Contract
import PluginKit.System.Files

/-!
# Handlers that tell how they were called

An echo answers every operation with what it was asked, so that the way of a request can be followed.
It may be told to fail instead.
-/

namespace PluginKit.Testing

/-- An answer, unless the echo is to fail. -/
def answerOr {α : Type} (fault : Option Fault) (a : α) : Effect Files α :=
  match fault with
  | some e => .fail e
  | none => pure a

/-- The identity names the echo and the type asked for. -/
def echoIdentity (name : String) (fault : Option Fault) (r : Wire.IdentityRequest) :
    Effect Files Wire.IdentityResponse :=
  answerOr fault ⟨.ofPairs [("handler", name), ("type", r.object.tag.text)]⟩

/-- The components that an echo lists. -/
def components : List String := ["a", "b", "c", "d", "e"]

/-- Two components after a cursor, or from the start if the cursor is none of them. The last one is
the next cursor. -/
def componentPage (last : String) : Wire.ListResponse :=
  let rest := if last ∈ components then (components.dropWhile (· != last)).drop 1 else components
  { names := rest.take 2, last := (rest.take 2).getLast? }

/-- The resource as an echo stores it. -/
def stored (m : Wire.UploadRequest) : Wire.Resource :=
  { m.resource with
    size := some 42
    extraIdentity := m.resource.extraIdentity.insert "from" m.source.value }

/-- The location that an echo gives for a resource. -/
def located (name : String) (m : Wire.ResourceMessage) (c : Credentials) : Location :=
  { Location.remoteUrl ("https://" ++ name ++ "/" ++ m.resource.name) with
    mediaType := c.get? "token" }

/-- The echo of a name for a capability. -/
def echo (name : String) (fault : Option Fault) : Capability → Handler Files
  | .resourceRepository => .resource {
      identity := echoIdentity name fault
      download := fun m c => answerOr fault ⟨located name m c⟩
      upload := fun m _ => answerOr fault ⟨stored m⟩ }
  | .digestProcessor => .digest {
      identity := echoIdentity name fault
      process := fun m _ => answerOr fault m }
  | .componentLister => .lister {
      identity := echoIdentity name fault
      page := fun m _ => answerOr fault (componentPage m.last) }

end PluginKit.Testing
