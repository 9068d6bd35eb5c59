import PluginKit.Resource

/-!
# Resources for inspection

The whole of a resource as an object, with nothing left out and a point in time as its numbers. A
description that is read may leave out whatever has a default.
-/

namespace PluginKit

/-- A field that may be left out or `null`. -/
def Json.Fields.lenient {α : Type} (name : String) (d : Json.Decoder α) (value : α) :
    Json.Fields α :=
  .withDefault name ((Json.Decoder.optional d).map fun o => o.getD value) value

/-- A value, or `null` in its place. -/
def Json.orNull {α : Type} (f : α → Json) (o : Option α) : Json := (o.map f).getD .null

/-- A field without a value is `null` or left out. -/
def Json.Fields.perhaps {α : Type} (name : String) (d : Json.Decoder α) : Json.Fields (Option α) :=
  .withDefault name (.optional d) none

/-- An integer from `-2^63` up to below `2^63`. -/
def Json.Decoder.integer : Json.Decoder Int
  | .num (.int n) =>
    if -0x8000000000000000 ≤ n ∧ n < 0x8000000000000000 then .ok n else .error (.outOfRange (.num (.int n)) "i64")
  | node => Json.mismatched "i64" node

open Json (orNull)

namespace Label

/-- The label with nothing left out. -/
def inspect (l : Label) : Json :=
  .obj [("name", .str l.name), ("value", l.value), ("version", orNull .str l.version),
    ("signing", .bool l.signing)]

/-- The description of a label. -/
def description : Json.Decoder Label :=
  .record "label"
    (Label.mk <$> .lenient "name" .string "" <*> .withDefault "value" .any .null <*>
      .perhaps "version" .string <*> .lenient "signing" .bool false)

end Label

namespace SourceRef

/-- The reference with nothing left out. -/
def inspect (r : SourceRef) : Json :=
  .obj [("identitySelector", r.identitySelector.toJson),
    ("labels", .arr (r.labels.map Label.inspect))]

/-- The description of a reference. -/
def description : Json.Decoder SourceRef :=
  .record "source reference"
    (SourceRef.mk <$> .lenient "identitySelector" Table.decoder [] <*>
      .lenient "labels" (.list Label.description) [])

end SourceRef

/-- The description of a digest. -/
def Digest.description : Json.Decoder Digest :=
  .record "digest"
    (Digest.mk <$> .lenient "hashAlgorithm" .string "" <*>
      .lenient "normalisationAlgorithm" .string "" <*> .lenient "value" .string "")

namespace Timestamp

/-- A point in time as its numbers. -/
def inspect (t : Timestamp) : Json := .obj [("secs", .int t.seconds), ("nanos", .nat t.nanos)]

/-- The description of a point in time. -/
def description : Json.Decoder Timestamp :=
  .record "time"
    (Timestamp.mk <$> .lenient "secs" .integer 0 <*> .lenient "nanos" (.unsigned 32) 0)

end Timestamp

/-- The description of a relation is its name. -/
def Relation.description : Json.Decoder Relation :=
  .variants [("local", .plain .inside), ("external", .plain .external)]

namespace Resource

/-- The resource with nothing left out. -/
def inspect (r : Resource) : Json :=
  .obj [("name", .str r.name), ("version", .str r.version),
    ("labels", .arr (r.labels.map Label.inspect)), ("extraIdentity", r.extraIdentity.toJson),
    ("type", .str r.type), ("relation", .str r.relation.name),
    ("sourceRefs", .arr (r.sourceRefs.map SourceRef.inspect)),
    ("access", orNull Payload.toJson r.access), ("digest", orNull Digest.toJson r.digest),
    ("size", orNull .nat r.size), ("creationTime", orNull Timestamp.inspect r.creationTime)]

/-- The description of a resource. -/
def description : Json.Decoder Resource :=
  .record "resource"
    (Resource.mk <$> .required "name" .string <*> .required "version" .string <*>
      .lenient "labels" (.list Label.description) [] <*>
      .lenient "extraIdentity" Table.decoder [] <*> .required "type" .string <*>
      .lenient "relation" Relation.description .inside <*>
      .lenient "sourceRefs" (.list SourceRef.description) [] <*>
      .perhaps "access" Payload.decoder <*> .perhaps "digest" Digest.description <*>
      .perhaps "size" (.unsigned 64) <*> .perhaps "creationTime" Timestamp.description)

end Resource

end PluginKit
