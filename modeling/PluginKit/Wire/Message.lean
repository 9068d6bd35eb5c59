import PluginKit.Wire.Resource

/-!
# Messages between hosts and plugins

The requests and responses of every operation, with the path of each operation. A message is an
object with the fields named here; fields it does not know are passed over.
-/

namespace PluginKit.Wire

/-! ## Paths -/

/-- The path that tells whether a plugin is alive. -/
def healthPath : String := "/healthz"
/-- The path of the credential identity of a typed object. -/
def identityPath : String := "/identity"
/-- The path that locates a resource. -/
def resourceGetPath : String := "/resource/get"
/-- The path that uploads a resource. -/
def resourceAddPath : String := "/resource/add"
/-- The path that computes the digest of a resource. -/
def digestPath : String := "/resource/digest/process"
/-- The path that lists one page of component names. -/
def listPath : String := "/component/list"

/-! ## Identities -/

/-- Asks for the credential identity of a typed object. -/
structure IdentityRequest where
  object : Payload
  deriving BEq, Inhabited

/-- The request as an object. -/
def IdentityRequest.toJson (r : IdentityRequest) : Json := .obj [("typ", r.object.toJson)]

/-- A request in a document. -/
def IdentityRequest.decoder : Json.Decoder IdentityRequest :=
  .record "struct GetIdentityRequest" (IdentityRequest.mk <$> .required "typ" Payload.decoder)

/-- Answers with an identity. -/
structure IdentityResponse where
  identity : Identity
  deriving DecidableEq, Inhabited

/-- The response as an object. -/
def IdentityResponse.toJson (r : IdentityResponse) : Json := .obj [("identity", r.identity.toJson)]

/-- A response in a document. -/
def IdentityResponse.decoder : Json.Decoder IdentityResponse :=
  .record "struct GetIdentityResponse" (IdentityResponse.mk <$> .required "identity" Identity.decoder)

/-! ## Resources -/

/-- Hands over a resource. -/
structure ResourceMessage where
  resource : Resource
  deriving BEq, Inhabited

/-- The message as an object. -/
def ResourceMessage.toJson (m : ResourceMessage) : Json := .obj [("resource", m.resource.toJson)]

/-- A message in a document that names it by `what`. -/
def ResourceMessage.decoder (what : String) : Json.Decoder ResourceMessage :=
  .record ("struct " ++ what) (ResourceMessage.mk <$> .required "resource" Resource.decoder)

/-- Answers with the place of a resource. -/
structure LocationResponse where
  location : Location
  deriving DecidableEq

/-- The response as an object. -/
def LocationResponse.toJson (r : LocationResponse) : Json := .obj [("location", r.location.toJson)]

/-- A response in a document. -/
def LocationResponse.decoder : Json.Decoder LocationResponse :=
  .record "struct GetGlobalResourceResponse"
    (LocationResponse.mk <$> .required "location" Location.decoder)

/-- Hands over a resource to upload and the place of its bytes. -/
structure UploadRequest where
  resource : Resource
  source : Location
  deriving BEq

/-- The request as an object. -/
def UploadRequest.toJson (r : UploadRequest) : Json :=
  .obj [("resource", r.resource.toJson), ("resourceLocation", r.source.toJson)]

/-- A request in a document. -/
def UploadRequest.decoder : Json.Decoder UploadRequest :=
  .record "struct AddGlobalResourceRequest"
    (UploadRequest.mk <$> .required "resource" Resource.decoder <*>
      .required "resourceLocation" Location.decoder)

/-- A request to locate a resource in a document. -/
def downloadRequest : Json.Decoder ResourceMessage :=
  ResourceMessage.decoder "GetGlobalResourceRequest"

/-- The answer to an upload in a document. -/
def uploadResponse : Json.Decoder ResourceMessage :=
  ResourceMessage.decoder "AddGlobalResourceResponse"

/-- A request for a digest in a document. -/
def digestRequest : Json.Decoder ResourceMessage :=
  ResourceMessage.decoder "ProcessResourceDigestRequest"

/-- The answer to a request for a digest in a document. -/
def digestResponse : Json.Decoder ResourceMessage :=
  ResourceMessage.decoder "ProcessResourceDigestResponse"

/-! ## Listings -/

/-- Asks for the page of a repository after the component `last`, or for the first page. -/
structure ListRequest where
  repository : Payload
  last : String := ""
  deriving BEq, Inhabited

/-- The request as an object. -/
def ListRequest.toJson (r : ListRequest) : Json :=
  .obj [("repository", r.repository.toJson), ("last", .str r.last)]

/-- A request in a document. -/
def ListRequest.decoder : Json.Decoder ListRequest :=
  .record "struct ListComponentsRequest"
    (ListRequest.mk <$> .required "repository" Payload.decoder <*> .withDefault "last" .string "")

/-- The name that ends a page, in a document. -/
def listHeader : Json.Decoder String :=
  .record "struct ListComponentsResponseHeader" (id <$> .required "last" .string)

/-- A page of component names. `last` is where the next page starts, if the plugin says so. -/
structure ListResponse where
  names : List String
  last : Option String := none
  deriving DecidableEq, Repr, Inhabited

/-- The page as an object. -/
def ListResponse.toJson (r : ListResponse) : Json :=
  .obj ([("list", .arr (r.names.map Json.str))] ++
    Json.ifSome "header" (r.last.map fun l => .obj [("last", .str l)]))

/-- A page in a document. -/
def ListResponse.decoder : Json.Decoder ListResponse :=
  .record "struct ListComponentsResponse"
    (ListResponse.mk <$> .required "list" (.list .string) <*>
      .withDefault "header" (.optional listHeader) none)

/-! ## Failures -/

/-- The body of every answer that reports a failure. -/
structure ErrorResponse where
  error : String
  deriving DecidableEq, Repr, Inhabited

/-- The response as an object. -/
def ErrorResponse.toJson (r : ErrorResponse) : Json := .obj [("error", .str r.error)]

/-- A response in a document. -/
def ErrorResponse.decoder : Json.Decoder ErrorResponse :=
  .record "struct ErrorResponse" (ErrorResponse.mk <$> .required "error" .string)

end PluginKit.Wire
