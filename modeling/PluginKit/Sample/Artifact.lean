import PluginKit.Contract
import PluginKit.Scheme.Basic
import PluginKit.Sha256
import PluginKit.System.Files

/-!
# Artifacts in local files

The handlers of a plugin whose artifacts are files: it locates them, stores them by copying and
computes their digests.
-/

namespace PluginKit.Sample

/-- The place of an artifact: the path of its file, and its media type. -/
structure Artifact where
  tag : TypeId := TypeId.empty
  path : String := ""
  mediaType : Option String := none
  deriving DecidableEq, Repr, Inhabited

namespace Artifact

/-- The schema of access specifications. -/
def schema : Json :=
  .obj [("$schema", .str "http://json-schema.org/draft-07/schema#"),
    ("definitions", .obj [("Type", .obj [("type", .str "string")])]),
    ("description", .str "Access specification of an artifact file."),
    ("properties", .obj [
      ("mediaType", .obj [("description", .str "Media type of the content."),
        ("type", .arr [.str "string", .str "null"])]),
      ("path", .obj [("description", .str "Absolute path of the artifact file."),
        ("type", .str "string")]),
      ("type", .obj [("$ref", .str "#/definitions/Type")])]),
    ("required", .arr [.str "path", .str "type"]), ("title", .str "SampleArtifact"),
    ("type", .str "object")]

/-- An access specification as an object. -/
def toJson (a : Artifact) : Json :=
  .obj ([("type", a.tag.toJson), ("path", .str a.path)] ++
    Json.ifSome "mediaType" (a.mediaType.map Json.str))

/-- An access specification in a document. -/
def decoder : Json.Decoder Artifact :=
  .record "struct SampleArtifact"
    (Artifact.mk <$> .required "type" TypeId.decoder <*> .required "path" .string <*>
      .withDefault "mediaType" (.optional .string) none)

/-- Access specifications of artifacts as a prototype. -/
def prototype : Prototype Artifact where
  name := "ocm_oracle::artifact::SampleArtifact"
  schema := schema
  blank := {}
  tag := Artifact.tag
  withTag a t := { a with tag := t }
  decoder := decoder
  toJson := toJson

end Artifact

namespace ArtifactStore

/-- The name of the digest. -/
def hashAlgorithm : String := "SHA-256"
/-- The digest is that of the bytes as they are. -/
def normalisation : String := "genericBlobDigest/v1"

/-- Reads an access specification. -/
def decode (s : Scheme) (access : Payload) : Outcome Artifact :=
  Outcome.ofScheme (s.decode Artifact.prototype access)

/-- The access specification of a resource. -/
def artifactOf (s : Scheme) (r : Wire.Resource) : Outcome Artifact :=
  match r.access with
  | some access => decode s access
  | none => .error (.rejected 400 ("resource " ++ r.name ++ " has no access"))

/-- A missing file is refused, and any other error is reported. -/
def refusal (path : String) (e : IoError) : Fault :=
  if e = .notFound then .rejected 404 ("artifact " ++ path ++ " does not exist") else .io e

/-- The identity of an artifact is its path. -/
def identity (s : Scheme) (r : Wire.IdentityRequest) : Outcome Wire.IdentityResponse :=
  (decode s r.object).map fun a => ⟨.ofPairs [("path", a.path)]⟩

/-- An artifact is located by its path if something is there. -/
def download (s : Scheme) (m : Wire.ResourceMessage) : Effect Files Wire.LocationResponse :=
  .ofFunction fun fs =>
    (do
      let a ← artifactOf s m.resource
      discard ((fs.entry a.path).mapError (refusal a.path))
      return ⟨{ Location.localFile a.path with mediaType := a.mediaType }⟩, fs)

/-- An artifact is stored by copying a local file to its path. -/
def upload (s : Scheme) (r : Wire.UploadRequest) : Effect Files Wire.ResourceMessage :=
  .ofFunction fun fs =>
    match artifactOf s r.resource with
    | .error e => (.error e, fs)
    | .ok a =>
      if r.source.kind = .localFile then
        let (made, fs) := match Path.parent? a.path with
          | some dir => fs.makeDirectories dir
          | none => (.ok (), fs)
        match made with
        | .error e => (.error (.io e), fs)
        | .ok () =>
          match fs.copy r.source.value a.path with
          | .error e => (.error (refusal r.source.value e), fs)
          | .ok (size, fs) => (.ok ⟨{ r.resource with size := some size }⟩, fs)
      else
        (.error (.rejected 400 ("cannot upload from " ++ r.source.kind.label ++ " locations")), fs)

/-- The digest and the size of a file. -/
def hashFile (fs : Files) (path : String) : Outcome (String × Nat) := do
  discard ((fs.entry path).mapError (refusal path))
  let content ← (fs.read path).mapError .io
  return (Sha256.hexDigest content, content.size)

/-- A resource with the digest and the size of its artifact. -/
def process (s : Scheme) (m : Wire.ResourceMessage) : Effect Files Wire.ResourceMessage :=
  .ofFunction fun fs =>
    (do
      let a ← artifactOf s m.resource
      let (value, size) ← hashFile fs a.path
      let digest := { hashAlgorithm, normalisationAlgorithm := normalisation, value }
      return ⟨{ m.resource with digest := some digest, size := some size }⟩, fs)

/-- The store as a repository of resources. -/
def repository (s : Scheme) : ResourceContract Files where
  identity r := .lift (identity s r)
  download m _ := download s m
  upload r _ := upload s r

/-- The store as a processor of digests. -/
def processor (s : Scheme) : DigestContract Files where
  identity r := .lift (identity s r)
  process m _ := process s m

end ArtifactStore

end PluginKit.Sample
