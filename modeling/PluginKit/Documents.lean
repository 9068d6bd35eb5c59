import PluginKit.Instance
import PluginKit.Telemetry.LogConfig
import PluginKit.Wire.Message

/-!
# Documents

Every document that hosts and plugins exchange or keep, by its name. Reading one and writing it again
gives its normal form: fields in their order, defaults filled in, what is unknown left out.
-/

namespace PluginKit.Documents

/-- Reads a text and writes what was read. -/
def again {α : Type} (d : Json.Decoder α) (f : α → Json) (text : String) :
    Except Json.DecodeFault Json :=
  (Json.decodeText d text).map f

/-- Parts of documents. -/
def parts : List (String × (String → Except Json.DecodeFault Json)) :=
  [("Type", again TypeId.decoder TypeId.toJson), ("Raw", again Payload.decoder Payload.toJson),
    ("Identity", again Identity.decoder Identity.toJson),
    ("Credentials", again Credentials.decoder Credentials.toJson),
    ("Location", again Location.decoder Location.toJson),
    ("PluginId", again PluginId.decoder fun i => .str i.text),
    ("PluginType", again Capability.decoder fun c => .str c.name),
    ("ConnectionType", again Connection.decoder fun c => .str c.name),
    ("TypeSchema", again TypeSchema.decoder TypeSchema.toJson),
    ("Capabilities", again Capabilities.decoder Capabilities.toJson)]

/-- Configurations. -/
def configurations : List (String × (String → Except Json.DecodeFault Json)) :=
  [("LaunchConfig", again LaunchConfig.decoder LaunchConfig.toJson),
    ("HandshakeConfig", again HandshakeConfig.decoder HandshakeConfig.toJson),
    ("PluginEntry", again PluginEntry.decoder PluginEntry.toJson),
    ("ManagerConfig", again ManagerConfig.decoder ManagerConfig.toJson),
    ("LogConfig", again Telemetry.LogConfig.decoder Telemetry.LogConfig.toJson),
    ("LogFormat", again Telemetry.LogFormat.decoder fun f => .str f.name),
    ("LogTarget", again Telemetry.LogTarget.decoder Telemetry.LogTarget.toJson)]

/-- Messages and what they are made of. -/
def messages : List (String × (String → Except Json.DecodeFault Json)) :=
  [("ResourceDto", again Wire.Resource.decoder Wire.Resource.toJson),
    ("LabelDto", again Label.decoder Label.toJson),
    ("SourceRefDto", again SourceRef.decoder SourceRef.toJson),
    ("DigestDto", again Digest.decoder Digest.toJson),
    ("GetIdentityRequest", again Wire.IdentityRequest.decoder Wire.IdentityRequest.toJson),
    ("GetIdentityResponse", again Wire.IdentityResponse.decoder Wire.IdentityResponse.toJson),
    ("GetGlobalResourceRequest", again Wire.downloadRequest Wire.ResourceMessage.toJson),
    ("GetGlobalResourceResponse", again Wire.LocationResponse.decoder Wire.LocationResponse.toJson),
    ("AddGlobalResourceRequest", again Wire.UploadRequest.decoder Wire.UploadRequest.toJson),
    ("AddGlobalResourceResponse", again Wire.uploadResponse Wire.ResourceMessage.toJson),
    ("ProcessResourceDigestRequest", again Wire.digestRequest Wire.ResourceMessage.toJson),
    ("ProcessResourceDigestResponse", again Wire.digestResponse Wire.ResourceMessage.toJson),
    ("ListComponentsRequest", again Wire.ListRequest.decoder Wire.ListRequest.toJson),
    ("ListComponentsResponse", again Wire.ListResponse.decoder Wire.ListResponse.toJson),
    ("ListComponentsResponseHeader", again Wire.listHeader fun l => .obj [("last", .str l)]),
    ("ErrorResponse", again Wire.ErrorResponse.decoder Wire.ErrorResponse.toJson)]

/-- The normal form of a document of a name, if there are documents of that name. -/
def normalize? (name text : String) : Option (Except Json.DecodeFault Json) :=
  ((parts ++ configurations ++ messages).lookup name).map fun f => f text

end PluginKit.Documents
