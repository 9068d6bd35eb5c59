import PluginKit.Fault
import PluginKit.Resource

/-!
# Resources on the wire

The form in which hosts and plugins send each other resources. Relation and creation time are texts
there, which may be none that a resource can have; reading them judges the relation first.

## Main statements

- `Resource.readRelation_name`: the relation written for a resource is read back.
-/

namespace PluginKit.Wire

/-- A resource as it is sent. -/
structure Resource where
  name : String
  version : String
  extraIdentity : Table String String := []
  labels : List Label := []
  sourceRefs : List SourceRef := []
  type : String
  relation : String
  access : Option Payload := none
  digest : Option Digest := none
  size : Option Nat := none
  creationTime : Option String := none
  deriving BEq, Inhabited

namespace Resource

/-- The resource as an object, without what is empty or unknown. -/
def toJson (r : Resource) : Json :=
  .obj ([("name", .str r.name), ("version", .str r.version)] ++
    Json.memberIf (!r.extraIdentity.isEmpty) "extraIdentity" r.extraIdentity.toJson ++
    Json.memberIf (!r.labels.isEmpty) "labels" (.arr (r.labels.map Label.toJson)) ++
    Json.memberIf (!r.sourceRefs.isEmpty) "srcRefs" (.arr (r.sourceRefs.map SourceRef.toJson)) ++
    [("type", .str r.type), ("relation", .str r.relation)] ++
    Json.ifSome "access" (r.access.map Payload.toJson) ++
    Json.ifSome "digest" (r.digest.map Digest.toJson) ++
    Json.ifSome "size" (r.size.map Json.nat) ++
    Json.ifSome "creationTime" (r.creationTime.map Json.str))

/-- A resource in a document. -/
def decoder : Json.Decoder Resource :=
  .record "struct ResourceDto"
    (Resource.mk <$> .required "name" .string <*> .required "version" .string <*>
      .withDefault "extraIdentity" Table.decoder [] <*>
      .withDefault "labels" (.list Label.decoder) [] <*>
      .withDefault "srcRefs" (.list SourceRef.decoder) [] <*>
      .required "type" .string <*> .required "relation" .string <*>
      .withDefault "access" (.optional Payload.decoder) none <*>
      .withDefault "digest" (.optional Digest.decoder) none <*>
      .withDefault "size" (.optional (.unsigned 64)) none <*>
      .withDefault "creationTime" (.optional .string) none)

end Resource

end Wire

namespace Resource

/-- The form of a resource on the wire. -/
def toWire (r : Resource) : Wire.Resource where
  name := r.name
  version := r.version
  extraIdentity := r.extraIdentity
  labels := r.labels
  sourceRefs := r.sourceRefs
  type := r.type
  relation := r.relation.name
  access := r.access
  digest := r.digest
  size := r.size
  creationTime := r.creationTime.map Timestamp.text

/-- The relation with a name, for the resource `who`. -/
def readRelation (who s : String) : Outcome Relation :=
  match Relation.ofName? s with
  | some r => .ok r
  | none =>
    .error (.conversion ("resource " ++ who ++ ": unknown relation " ++ Text.quoted s))

/-- The point in time that a text stands for, for the resource `who`. -/
def readCreationTime (who s : String) : Outcome Timestamp :=
  (Timestamp.parse s).mapError fun flaw =>
    .conversion ("resource " ++ who ++ ": invalid creation time " ++ Text.quoted s ++ ": " ++
      flaw.message)

/-- Reads a resource from its form on the wire. -/
def ofWire (w : Wire.Resource) : Outcome Resource := do
  let relation ← readRelation w.name w.relation
  let creationTime ← w.creationTime.mapM (readCreationTime w.name)
  return {
    name := w.name
    version := w.version
    labels := w.labels
    extraIdentity := w.extraIdentity
    type := w.type
    relation
    sourceRefs := w.sourceRefs
    access := w.access
    digest := w.digest
    size := w.size
    creationTime }

/-- The relation written for a resource is read back. -/
theorem readRelation_name (who : String) (r : Relation) : readRelation who r.name = .ok r := by
  rw [readRelation, Relation.ofName?_name]

end Resource

end PluginKit
