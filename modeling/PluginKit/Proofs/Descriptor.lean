import PluginKit.Descriptor
import PluginKit.Proofs.Payload

/-!
# Documents in which plugins describe themselves

A document lists capabilities, for each the types that are served, and with every type the schema of
its payloads. It reads back with the same types in the same order. The schemas may be any values: they
come back with their numbers reread and their members sorted.

## Main statements

- `Capabilities.decodeOctets_toJson`: a document reads back from the text it is written as.
-/

namespace PluginKit

open Json

/-! ## Depth -/

theorem Json.depthItems_le {xs : List Json} {n : Nat} (h : ∀ x ∈ xs, x.depth ≤ n) :
    depthItems xs ≤ n := by
  induction xs with
  | nil => exact Nat.zero_le n
  | cons x xs ih =>
    exact Nat.max_le.2 ⟨h x List.mem_cons_self, ih fun y mem => h y (List.mem_cons_of_mem x mem)⟩

theorem Json.depthMembers_le {ms : List (String × Json)} {n : Nat} (h : ∀ e ∈ ms, e.2.depth ≤ n) :
    depthMembers ms ≤ n := by
  induction ms with
  | nil => exact Nat.zero_le n
  | cons e ms ih =>
    exact Nat.max_le.2 ⟨h e List.mem_cons_self, ih fun d mem => h d (List.mem_cons_of_mem e mem)⟩

/-! ## Capabilities and types -/

instance : Std.TransOrd Capability := inferInstanceAs (Std.TransCmp (compareOn Capability.index))

theorem Capability.variantKey_name (c : Capability) : variantKey named c.name = .ok c := by
  cases c <;> rfl

namespace TypeSchema

variable {s : TypeSchema}

/-- The conditions on a type with its schema to be read back: the type was read, and the schema holds
numbers within their range and leaves room for the four levels above it in a document. -/
structure Proper (s : TypeSchema) : Prop where
  parsed : s.type.Parsed
  ranged : s.schema.isRanged = true
  shallow : s.schema.depth + 4 ≤ Reader.maxDepth

/-- A type with its schema changed. -/
def mapSchema (f : Json → Json) (s : TypeSchema) : TypeSchema := { s with schema := f s.schema }

theorem reads_toJson (parsed : s.type.Parsed) : decoder.Reads s.toJson (s.mapSchema sorted) := by
  have once : (["type", "jsonSchema"] : List String).Nodup := by decide
  exact Decoder.reads_record
    (Fields.readsFrom_seq
      (Fields.readsFrom_map _ (Fields.readsFrom_required rfl (TypeId.reads_text parsed)))
      (Fields.readsFrom_field_some rfl (Decoder.reads_any_sorted s.schema)))
    once

theorem isRanged_toJson (h : s.Proper) : s.toJson.isRanged = true := by
  simp [toJson, TypeId.toJson, isRanged, rangedMembers, h.ranged]

theorem depth_toJson (h : s.Proper) : s.toJson.depth + 3 ≤ Reader.maxDepth := by
  have shallow := h.shallow
  simp only [toJson, TypeId.toJson, depth, depthMembers]
  omega

end TypeSchema

/-! ## Documents -/

namespace Capabilities

variable {doc : Capabilities} {f : Json → Json} {c : Capability}

theorem mem_typesFor (ascending : doc.types.Ascending) {entry : Capability × List TypeSchema}
    (mem : entry ∈ doc.types) {s : TypeSchema} (listed : s ∈ entry.2) : s ∈ doc.typesFor entry.1 := by
  have found : doc.types.get? entry.1 = some entry.2 := (Table.get?_eq_some_iff ascending).2 mem
  rwa [typesFor, found, Option.getD_some]

/-- A document with all its schemas changed. -/
def mapSchemas (f : Json → Json) (doc : Capabilities) : Capabilities where
  types := doc.types.mapValues (List.map (TypeSchema.mapSchema f))

theorem mapSchemas_mapSchemas (f g : Json → Json) (doc : Capabilities) :
    (doc.mapSchemas f).mapSchemas g = doc.mapSchemas fun schema => g (f schema) := by
  have lists (ss : List TypeSchema) :
      (ss.map (TypeSchema.mapSchema f)).map (TypeSchema.mapSchema g) =
        ss.map (TypeSchema.mapSchema fun schema => g (f schema)) := List.map_map
  simp only [mapSchemas, Table.mapValues, List.map_map, Function.comp_def, ← lists]

theorem typesFor_mapSchemas :
    (doc.mapSchemas f).typesFor c = (doc.typesFor c).map (TypeSchema.mapSchema f) := by
  rw [typesFor, typesFor, mapSchemas, Table.get?_mapValues]
  cases doc.types.get? c <;> rfl

/-- The types stay the same when the schemas are changed. -/
theorem types_mapSchemas :
    ((doc.mapSchemas f).typesFor c).map TypeSchema.type = (doc.typesFor c).map TypeSchema.type := by
  rw [typesFor_mapSchemas, List.map_map]
  rfl

/-- The conditions on a document to be read back: its capabilities stand in their order. -/
structure Proper (doc : Capabilities) : Prop where
  ascending : doc.types.Ascending
  types : ∀ e ∈ doc.types, ∀ s ∈ e.2, s.Proper

theorem reread_toJson (doc : Capabilities) : doc.toJson.reread = (doc.mapSchemas reread).toJson := by
  have listed (ss : List TypeSchema) : (arr (ss.map TypeSchema.toJson)).reread =
      arr ((ss.map (TypeSchema.mapSchema reread)).map TypeSchema.toJson) := by
    rw [reread, rereadItems_eq_map, List.map_map, List.map_map]
    rfl
  have entries : rereadMembers (doc.types.map fun e => (e.1.name, arr (e.2.map TypeSchema.toJson))) =
      (doc.mapSchemas reread).types.map fun e => (e.1.name, arr (e.2.map TypeSchema.toJson)) := by
    rw [rereadMembers_eq_map, mapSchemas, Table.mapValues, List.map_map, List.map_map]
    exact List.map_congr_left fun e _ => congrArg (e.1.name, ·) (listed e.2)
  rw [toJson, toJson, reread, rereadMembers, reread, entries]
  rfl

theorem reads_toJson (ascending : doc.types.Ascending)
    (parsed : ∀ e ∈ doc.types, ∀ s ∈ e.2, s.type.Parsed) :
    decoder.Reads doc.toJson (doc.mapSchemas sorted) := by
  have table := Decoder.reads_table (f := fun ss => arr (ss.map TypeSchema.toJson)) ascending
    (fun e _ => Capability.variantKey_name e.1)
    fun e mem => Decoder.reads_map_list fun s listed => TypeSchema.reads_toJson (parsed e mem s listed)
  have once : (["types"] : List String).Nodup := by decide
  exact Decoder.reads_record (Fields.readsFrom_map _ (Fields.readsFrom_field_some rfl table)) once

theorem isRanged_toJson (h : doc.Proper) : doc.toJson.isRanged = true := by
  have members : rangedMembers
      (doc.types.map fun e => (e.1.name, arr (e.2.map TypeSchema.toJson))) = true := by
    rw [rangedMembers_eq_all, List.all_map, List.all_eq_true]
    intro e mem
    show (arr (e.2.map TypeSchema.toJson)).isRanged = true
    rw [isRanged, rangedItems_eq_all, List.all_map, List.all_eq_true]
    exact fun s listed => TypeSchema.isRanged_toJson (h.types e mem s listed)
  simp [toJson, isRanged, rangedMembers, members]

theorem depth_toJson (h : doc.Proper) : doc.toJson.depth ≤ Reader.maxDepth := by
  have members : depthMembers
      (doc.types.map fun e => (e.1.name, arr (e.2.map TypeSchema.toJson))) + 2 ≤ Reader.maxDepth := by
    refine Nat.add_le_of_le_sub (by decide) (depthMembers_le ?_)
    rintro _ entry
    obtain ⟨e, mem, rfl⟩ := List.mem_map.1 entry
    show depthItems (e.2.map TypeSchema.toJson) + 1 ≤ Reader.maxDepth - 2
    refine Nat.add_le_of_le_sub (by decide) (depthItems_le ?_)
    rintro _ item
    obtain ⟨s, listed, rfl⟩ := List.mem_map.1 item
    have shallow := TypeSchema.depth_toJson (h.types e mem s listed)
    omega
  simp only [toJson, depth, depthMembers]
  omega

/-- A document reads back from the text it is written as, with its schemas reread and sorted. -/
theorem decodeOctets_toJson (h : doc.Proper) :
    decodeOctets decoder (Text.encode doc.toJson.render) =
      .ok (doc.mapSchemas fun schema => schema.reread.sorted) := by
  have parsed : ∀ e ∈ (doc.mapSchemas reread).types, ∀ s ∈ e.2, s.type.Parsed := by
    intro _ entry _ item
    obtain ⟨e, mem, rfl⟩ := List.mem_map.1 entry
    obtain ⟨s, listed, rfl⟩ := List.mem_map.1 item
    exact (h.types e mem s listed).parsed
  have ascending : (doc.mapSchemas reread).types.Ascending :=
    Table.ascending_mapValues_iff.2 h.ascending
  have read := reads_toJson ascending parsed
  rw [mapSchemas_mapSchemas] at read
  rw [decodeOctets_render_reread decoder (isRanged_toJson h) (depth_toJson h), reread_toJson]
  exact read

end Capabilities

end PluginKit
