import PluginKit.Attributes
import PluginKit.Payload
import PluginKit.Timestamp

/-!
# Resources

A resource of a component version as hosts and plugins hold it: its identity, how it relates to the
component, where its bytes lie and what is known of them.
-/

namespace PluginKit

/-- A value attached to an element. A signing label is covered by signatures. -/
structure Label where
  name : String
  value : Json
  version : Option String := none
  signing : Bool := false
  deriving BEq, Inhabited

/-- A digest of content. -/
structure Digest where
  hashAlgorithm : String
  normalisationAlgorithm : String
  value : String
  deriving DecidableEq, Repr, Inhabited

/-- The sources that a resource was built from, selected by attributes. -/
structure SourceRef where
  identitySelector : Table String String := []
  labels : List Label := []
  deriving BEq, Inhabited

/-- Whether a resource is delivered with its component or only referenced by it. -/
inductive Relation where
  | inside
  | external
  deriving DecidableEq, Repr, Inhabited

namespace Relation

/-- The name in documents. -/
def name : Relation → String
  | .inside => "local"
  | .external => "external"

/-- The relation with a name. -/
def ofName? (s : String) : Option Relation :=
  if s = "local" then some .inside else if s = "external" then some .external else none

/-- A relation is found by its name. -/
theorem ofName?_name (r : Relation) : ofName? r.name = some r := by cases r <;> rfl

/-- Only a relation's own name finds it. -/
theorem name_of_ofName? {s : String} {r : Relation} (h : ofName? s = some r) : r.name = s := by
  unfold ofName? at h
  split at h
  · next hs => cases h; exact hs.symm
  · split at h
    · next hs => cases h; exact hs.symm
    · cases h

end Relation

/-- A resource. -/
structure Resource where
  name : String
  version : String
  labels : List Label := []
  extraIdentity : Table String String := []
  type : String
  relation : Relation := .inside
  sourceRefs : List SourceRef := []
  access : Option Payload := none
  digest : Option Digest := none
  size : Option Nat := none
  creationTime : Option Timestamp := none
  deriving BEq, Inhabited

/-! ## Written forms of the parts -/

namespace Label

/-- The label as an object. -/
def toJson (l : Label) : Json :=
  .obj ([("name", .str l.name), ("value", l.value)] ++
    Json.ifSome "version" (l.version.map Json.str) ++ Json.memberIf l.signing "signing" (.bool true))

/-- A label in a document. -/
def decoder : Json.Decoder Label :=
  .record "struct LabelDto"
    (Label.mk <$> .required "name" .string <*> .required "value" .any <*>
      .withDefault "version" (.optional .string) none <*> .withDefault "signing" .bool false)

end Label

namespace Digest

/-- The digest as an object. -/
def toJson (d : Digest) : Json :=
  .obj [("hashAlgorithm", .str d.hashAlgorithm),
    ("normalisationAlgorithm", .str d.normalisationAlgorithm), ("value", .str d.value)]

/-- A digest in a document. -/
def decoder : Json.Decoder Digest :=
  .record "struct DigestDto"
    (Digest.mk <$> .required "hashAlgorithm" .string <*>
      .required "normalisationAlgorithm" .string <*> .required "value" .string)

end Digest

namespace SourceRef

/-- The reference as an object, without what is empty. -/
def toJson (r : SourceRef) : Json :=
  .obj (Json.memberIf (!r.identitySelector.isEmpty) "identitySelector" r.identitySelector.toJson ++
    Json.memberIf (!r.labels.isEmpty) "labels" (.arr (r.labels.map Label.toJson)))

/-- A reference in a document. -/
def decoder : Json.Decoder SourceRef :=
  .record "struct SourceRefDto"
    (SourceRef.mk <$> .withDefault "identitySelector" Table.decoder [] <*>
      .withDefault "labels" (.list Label.decoder) [])

end SourceRef

end PluginKit
