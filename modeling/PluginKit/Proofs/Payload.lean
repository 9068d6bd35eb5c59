import PluginKit.Payload
import PluginKit.Proofs.Json.Decoding
import PluginKit.Proofs.Json.Reading
import PluginKit.Proofs.TypeId

/-!
# Payloads and their objects

A payload is written as one object and reads back from it: its identifier from the member `type`, or
from the lack of it, and its fields as they are.

## Main statements

- `ofJson_eq_ok`: what has been read from an object.
- `ofJson_toJson`: the object of a payload reads as the payload.
- `reads_toJson`: so does the object in a document.
-/

namespace PluginKit

open Json

theorem TypeId.reads_text {t : TypeId} (parsed : t.Parsed) : TypeId.decoder.Reads (.str t.text) t := by
  refine Decoder.reads_refine (Decoder.reads_string t.text) ?_
  rw [TypeId.read_text parsed]
  rfl

namespace Payload

/-- The properties of every payload that was read: its identifier was read, its fields ascend by key and
leave out the key `type`, and so do the objects inside them. Numbers are integers of 64 bits. -/
structure Proper (p : Payload) : Prop where
  tag : p.tag.Parsed
  ascending : p.fields.Ascending
  untagged : ∀ e ∈ p.fields, e.1 ≠ tagKey
  ordered : ∀ e ∈ p.fields, e.2.isOrdered = true
  integral : ∀ e ∈ p.fields, e.2.isIntegral = true

/-- A payload that was read from an object has its members but for `type`, and the identifier that this
member gives, if it gives one. -/
theorem ofJson_eq_ok {v : Json} {p : Payload} (h : ofJson v = .ok p) :
    ∃ ms, v = .obj ms ∧ p.fields = Table.erase ms tagKey ∧
      ((p.tag = TypeId.empty ∧ (Table.get? ms tagKey = none ∨ Table.get? ms tagKey = some .null)) ∨
        ∃ s, Table.get? ms tagKey = some (.str s) ∧ TypeId.parse s = .ok p.tag) := by
  unfold ofJson at h
  split at h
  · next ms =>
    refine ⟨ms, rfl, ?_⟩
    split at h
    · next absent =>
      cases h
      exact ⟨rfl, .inl ⟨rfl, .inl absent⟩⟩
    · next null =>
      cases h
      exact ⟨rfl, .inl ⟨rfl, .inr null⟩⟩
    · next s tagged =>
      cases parsed : TypeId.parse s with
      | ok t =>
        rw [TypeId.read, parsed] at h
        cases h
        exact ⟨rfl, .inr ⟨s, tagged, parsed⟩⟩
      | error flaw =>
        rw [TypeId.read, parsed] at h
        cases h
    · cases h
  · cases h

/-- The object of a payload reads as the payload, if its identifier was read and no field has the key
`type`. -/
theorem ofJson_toJson_of_untagged {p : Payload} (parsed : p.tag.Parsed)
    (untagged : ∀ e ∈ p.fields, e.1 ≠ tagKey) : ofJson p.toJson = .ok p := by
  unfold toJson
  split
  -- no tag is written and none is found
  · next noName =>
    rw [ofJson]
    simp only [Table.get?_eq_none_of_forall_ne untagged, Table.erase_of_forall_ne untagged]
    rw [← TypeId.eq_empty_of_isEmpty parsed noName]
  -- the tag is written, read and taken away again
  · rw [ofJson]
    simp only [Table.get?_insert_self, TypeId.read_text parsed, Table.erase_insert untagged]
    rfl

/-- The object of a payload reads as the payload. -/
theorem ofJson_toJson {p : Payload} (h : p.Proper) : ofJson p.toJson = .ok p :=
  ofJson_toJson_of_untagged h.tag h.untagged

/-- The members of the object of a payload: its fields, and perhaps its identifier. -/
theorem toJson_eq_obj {p : Payload} (h : p.Proper) : ∃ ms : Table String Json, p.toJson = .obj ms ∧
    ms.Ascending ∧ ∀ e ∈ ms, e = (tagKey, .str p.tag.text) ∨ e ∈ p.fields := by
  unfold toJson
  split
  · exact ⟨_, rfl, h.ascending, fun e he => Or.inr he⟩
  · exact ⟨_, rfl, Table.ascending_insert h.ascending _ _, fun e he => Table.mem_insert he⟩

theorem isOrdered_toJson {p : Payload} (h : p.Proper) : p.toJson.isOrdered = true := by
  obtain ⟨ms, eq, ascending, members⟩ := toJson_eq_obj h
  rw [eq, isOrdered, Bool.and_eq_true, decide_eq_true_eq, orderedMembers_iff]
  refine ⟨ascending, fun e he => ?_⟩
  rcases members e he with rfl | he
  · rfl
  · exact h.ordered e he

theorem isIntegral_toJson {p : Payload} (h : p.Proper) : p.toJson.isIntegral = true := by
  obtain ⟨ms, eq, -, members⟩ := toJson_eq_obj h
  rw [eq, isIntegral, integralMembers_eq_all, List.all_eq_true]
  intro e he
  rcases members e he with rfl | he
  · rfl
  · exact h.integral e he

/-- The object of a payload in a document reads as the payload. -/
theorem reads_toJson {p : Payload} (h : p.Proper) : decoder.Reads p.toJson p := by
  refine Decoder.reads_refine (Decoder.reads_any (isOrdered_toJson h)) ?_
  rw [ofJson_toJson h]
  rfl

theorem isNull_toJson (p : Payload) : p.toJson.isNull = false := rfl

end Payload

end PluginKit
