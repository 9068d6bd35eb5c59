import PluginKit.Proofs.Payload

/-!
# Payloads keep what they do not know

A payload holds its identifier apart from its fields, and writes it among them only in its object. No
operation on a payload can put a field `type` beside the identifier, whatever key and value it is given,
so the object never has two of them. What an object says comes back from its payload member by member,
but for the member `type`, which is written in one form only.

## Main statements

- `Formed.untagged`: no payload has a field `type`.
- `toJson_of_ofJson`: the object of a payload that was read, in terms of the object that it was read from.
- `kept_verbatim`: the above, and that the object of a payload reads as the payload.
-/

namespace PluginKit.Payload

/-! ## Payloads that operations bring about -/

/-- Payloads as they come about: made of an identifier and any fields, read from a value, or read from the
document of something that can be written, and then changed. -/
inductive Formed : Payload → Prop
  | made (tag : TypeId) (fields : Table String Json) : Formed (make tag fields)
  | read {v : Json} {p : Payload} : ofJson v = .ok p → Formed p
  | written {doc : Json} {p : Payload} : ofJson doc.sorted = .ok p → Formed p
  | withField {p : Payload} (key : String) (v : Json) : Formed p → Formed (p.withField key v)
  | withTag {p : Payload} (tag : TypeId) : Formed p → Formed (p.withTag tag)

/-- A payload that was read has no field `type`. -/
theorem untagged_of_ofJson {v : Json} {p : Payload} (h : ofJson v = .ok p) :
    ∀ e ∈ p.fields, e.1 ≠ tagKey := by
  obtain ⟨ms, -, fields, -⟩ := ofJson_eq_ok h
  intro e mem
  rw [fields] at mem
  exact Table.ne_of_mem_erase mem

/-- Writing a field adds no field `type`. -/
theorem untagged_withField {p : Payload} (untagged : ∀ e ∈ p.fields, e.1 ≠ tagKey) (key : String)
    (v : Json) : ∀ e ∈ (p.withField key v).fields, e.1 ≠ tagKey := by
  unfold withField
  split
  · exact untagged
  · next other =>
    intro e mem
    rcases Table.mem_insert mem with rfl | mem
    · exact other
    · exact untagged e mem

/-- No payload has a field `type`. -/
theorem Formed.untagged {p : Payload} (formed : p.Formed) : ∀ e ∈ p.fields, e.1 ≠ tagKey := by
  induction formed with
  | made tag fields =>
    intro e mem
    exact Table.ne_of_mem_erase mem
  | read h => exact untagged_of_ofJson h
  | written h => exact untagged_of_ofJson h
  | withField key v _ ih => exact untagged_withField ih key v
  | withTag tag _ ih => exact ih

/-! ## Objects -/

/-- The members of an object as payloads write them. A member `type` is left out if it is `null` or blank,
and any other text of it is trimmed. -/
def normalised (ms : Table String Json) : Table String Json :=
  match ms.get? tagKey with
  | some (.str s) =>
    if Text.trimmed s = "" then ms.erase tagKey else ms.insert tagKey (.str (Text.trimmed s))
  | _ => ms.erase tagKey

/-- Only a blank text is read as the empty identifier. -/
theorem isEmpty_iff_of_parse {s : String} {t : TypeId} (h : TypeId.parse s = .ok t) :
    t.isEmpty = true ↔ Text.trimmed s = "" := by
  rw [← TypeId.text_of_parse h]
  constructor
  · intro noName
    rw [TypeId.eq_empty_of_isEmpty ⟨s, h⟩ noName]
    rfl
  · intro blank
    have again := TypeId.parse_text ⟨s, h⟩
    rw [blank, TypeId.parse_nil] at again
    cases again
    rfl

/-- The object of a payload that was read is the object that it was read from, with the member `type` as
payloads write it. -/
theorem toJson_of_ofJson {ms : Table String Json} (ascending : ms.Ascending) {p : Payload}
    (h : ofJson (.obj ms) = .ok p) : p.toJson = .obj (normalised ms) := by
  obtain ⟨ms', object, fields, tagged⟩ := ofJson_eq_ok h
  cases object
  unfold toJson
  rw [fields]
  rcases tagged with ⟨untagged, absent | null⟩ | ⟨s, carried, parsed⟩
  · simp [normalised, untagged, absent, TypeId.isEmpty, TypeId.empty]
  · simp [normalised, untagged, null, TypeId.isEmpty, TypeId.empty]
  · have blank := isEmpty_iff_of_parse parsed
    have text := TypeId.text_of_parse parsed
    simp only [normalised, carried, blank, text, Table.insert_erase ascending]

/-- No payload has a field `type`, however it has come about. An object that could be read is written
again as it was, but for its member `type`: absent, `null` or blank it is left out, and any other text
of it is trimmed. And every payload without an identifier or with one that was read is read again from
its object. -/
theorem kept_verbatim :
    (∀ p : Payload, p.Formed → ∀ e ∈ p.fields, e.1 ≠ tagKey) ∧
    (∀ (ms : Table String Json) (p : Payload), ms.Ascending → ofJson (.obj ms) = .ok p →
      p.toJson = .obj (normalised ms)) ∧
    ∀ p : Payload, p.Formed → p.tag = TypeId.empty ∨ p.tag.Parsed → ofJson p.toJson = .ok p := by
  refine ⟨?_, ?_, ?_⟩
  · intro p formed
    exact formed.untagged
  · intro ms p ascending read
    exact toJson_of_ofJson ascending read
  · intro p formed tagged
    have parsed : p.tag.Parsed := by
      rcases tagged with empty | parsed
      · exact ⟨"", empty ▸ TypeId.parse_nil⟩
      · exact parsed
    exact ofJson_toJson_of_untagged parsed formed.untagged

/-- An object with blanks around its identifier is read and written, and read again after a field `type`
was passed over and another field was written. -/
theorem kept_verbatim_padded :
    ofJson (.obj [("chart", .str "c"), ("type", .str " helm/v1\n")]) =
        .ok ⟨.versioned "helm" "v1", [("chart", .str "c")]⟩ ∧
      toJson ⟨.versioned "helm" "v1", [("chart", .str "c")]⟩ =
        .obj [("chart", .str "c"), ("type", .str "helm/v1")] ∧
      ofJson (((Payload.mk (.versioned "helm" "v1") [("chart", .str "c")]).withField "type" .null).withField
        "a" .null).toJson = .ok ⟨.versioned "helm" "v1", [("a", .null), ("chart", .str "c")]⟩ := by
  have read : ofJson (.obj [("chart", .str "c"), ("type", .str " helm/v1\n")]) =
      .ok ⟨.versioned "helm" "v1", [("chart", .str "c")]⟩ := rfl
  obtain ⟨-, written, again⟩ := kept_verbatim
  refine ⟨read, ?_, ?_⟩
  · exact (written _ _ (by decide) read).trans rfl
  · exact again _ (.withField "a" .null (.withField "type" .null (.read read)))
      (.inr ⟨" helm/v1\n", rfl⟩)

end PluginKit.Payload
