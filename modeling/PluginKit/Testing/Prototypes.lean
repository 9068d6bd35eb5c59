import PluginKit.Sample.Artifact
import PluginKit.Sample.Catalog

/-!
# Prototypes to try schemes with

Four small prototypes that differ in how they deal with their identifier: it may be left out, has to
be given, is not part of the written form, or cannot be, since the written form is no object.
-/

namespace PluginKit.Testing

/-- The document of a schema for objects. -/
def objectSchema (title : String) (properties : List (String × Json)) (required : List String)
    (definesType : Bool) : Json :=
  .obj ([("$schema", .str "http://json-schema.org/draft-07/schema#")] ++
    Json.memberIf definesType "definitions" (.obj [("Type", .obj [("type", .str "string")])]) ++
    [("properties", .obj properties), ("required", .arr (required.map .str)),
      ("title", .str title), ("type", .str "object")])

/-- The schema of strings. -/
def stringSchema : Json := .obj [("type", .str "string")]

/-- The schema of identifiers. -/
def typeSchema : Json := .obj [("$ref", .str "#/definitions/Type")]

/-- An image in a registry. The identifier may be left out. -/
structure OciImage where
  tag : TypeId := TypeId.empty
  imageReference : String := ""

/-- Images as a prototype. -/
def ociImage : Prototype OciImage where
  name := "ocm_oracle::protos::OciImage"
  schema := objectSchema "OciImage"
    [("imageReference", stringSchema),
      ("type", .obj [("allOf", .arr [typeSchema]), ("default", .str "")])] ["imageReference"] true
  blank := {}
  tag := OciImage.tag
  withTag v t := { v with tag := t }
  decoder := .record "struct OciImage"
    (OciImage.mk <$> .withDefault "type" TypeId.decoder TypeId.empty <*>
      .required "imageReference" .string)
  toJson v := .obj [("type", v.tag.toJson), ("imageReference", .str v.imageReference)]

/-- A blob stored with a component. The identifier has to be given. -/
structure LocalBlob where
  tag : TypeId := TypeId.empty
  localReference : String := ""
  mediaType : Option String := none

/-- Blobs as a prototype. -/
def localBlob : Prototype LocalBlob where
  name := "ocm_oracle::protos::LocalBlob"
  schema := objectSchema "LocalBlob"
    [("localReference", stringSchema),
      ("mediaType", .obj [("type", .arr [.str "string", .str "null"])]), ("type", typeSchema)]
    ["localReference", "type"] true
  blank := {}
  tag := LocalBlob.tag
  withTag v t := { v with tag := t }
  decoder := .record "struct LocalBlob"
    (LocalBlob.mk <$> .required "type" TypeId.decoder <*> .required "localReference" .string <*>
      .withDefault "mediaType" (.optional .string) none)
  toJson v := .obj ([("type", v.tag.toJson), ("localReference", .str v.localReference)] ++
    Json.ifSome "mediaType" (v.mediaType.map .str))

/-- A chart. The identifier is not part of the written form. -/
structure HelmChart where
  tag : TypeId := TypeId.empty
  chart : String := ""
  replicas : Nat := 0
  tags : List String := []

/-- Charts as a prototype. -/
def helmChart : Prototype HelmChart where
  name := "ocm_oracle::protos::HelmChart"
  schema := objectSchema "HelmChart"
    [("chart", stringSchema),
      ("replicas", .obj [("default", .nat 0), ("format", .str "uint8"),
        ("minimum", .num (.float .zero)), ("type", .str "integer")]),
      ("tags", .obj [("default", .arr []), ("items", stringSchema), ("type", .str "array")])]
    ["chart"] false
  blank := {}
  tag := HelmChart.tag
  withTag v t := { v with tag := t }
  decoder := .record "struct HelmChart"
    (HelmChart.mk TypeId.empty <$> .required "chart" .string <*>
      .withDefault "replicas" (.unsigned 8) 0 <*> .withDefault "tags" (.list .string) [])
  toJson v := .obj [("chart", .str v.chart), ("replicas", .nat v.replicas),
    ("tags", .arr (v.tags.map .str))]

/-- A value whose written form is a string and has no place for an identifier. -/
structure Scalar where
  tag : TypeId := TypeId.empty
  content : String := ""

/-- Strings as a prototype. -/
def scalar : Prototype Scalar where
  name := "ocm_oracle::protos::Scalar"
  schema := objectSchema "Scalar" [("text", stringSchema), ("typ", typeSchema)] ["text", "typ"] true
  blank := {}
  tag := Scalar.tag
  withTag v t := { v with tag := t }
  decoder := Json.Decoder.string.map (Scalar.mk TypeId.empty)
  toJson v := .str v.content

/-- Uses the prototype with a short name. -/
def withPrototype? {β : Type} (name : String) (use : {α : Type} → Prototype α → β) : Option β :=
  match name with
  | "OciImage" => some (use ociImage)
  | "LocalBlob" => some (use localBlob)
  | "HelmChart" => some (use helmChart)
  | "Scalar" => some (use scalar)
  | "Raw" => some (use Payload.prototype)
  | "SampleArtifact" => some (use Sample.Artifact.prototype)
  | "SampleRepository" => some (use Sample.Repository.prototype)
  | _ => none

end PluginKit.Testing
