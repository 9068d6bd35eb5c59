import PluginKit.Proofs.Payload
import PluginKit.Testing.Prototypes

/-!
# Written forms of prototypes

A value is written as an object that may carry its identifier as the member `type`. Some prototypes
always write it, some never do, and payloads write it unless it is empty. What is common to all of them
is said of a value of any prototype: its identifier is kept apart from everything else, and its object
with the identifier as a member is read as the value.

## Main statements

- `setsApart_repository`, `readsBack_repository`: repositories write their identifier.
- `setsApart_helmChart`, `readsBack_helmChart`: charts leave it out.
- `setsApart_payload`, `readsBack_payload`: payloads do as they are tagged.
-/

namespace PluginKit

open Json

variable {α : Type}

namespace Prototype

/-- The members of the object that a value is written as, by ascending key. -/
def members? (p : Prototype α) (a : α) : Option (Table String Json) :=
  (p.toJson a).sorted.asObject?

/-- The identifier of a value is kept apart from everything else. Whether the object of the value
carries it as the member `type` is left open. -/
structure SetsApart (p : Prototype α) (a : α) : Prop where
  tag_withTag : ∀ t, p.tag (p.withTag a t) = t
  withTag_tag : p.withTag a (p.tag a) = a
  withTag_withTag : ∀ t u, p.withTag (p.withTag a t) u = p.withTag a u
  /-- An identifier that the object carries as the member `type` is that of the value or empty. -/
  member : ∀ ms text t, p.members? a = some ms → ms.get? Payload.tagKey = some (.str text) →
    TypeId.parse text = .ok t → t = p.tag a ∨ t = TypeId.empty
  /-- Another identifier changes the object in this member alone. -/
  others : ∀ t, (p.members? (p.withTag a t)).map (Table.erase · Payload.tagKey) =
    (p.members? a).map (Table.erase · Payload.tagKey)

/-- The object of a value, with its identifier as the member `type`, is read as the value. Where the
prototype passes over the member the value may come back without its identifier. -/
def ReadsBack (p : Prototype α) (a : α) : Prop :=
  ∀ ms, p.members? a = some ms → ∃ t, (t = p.tag a ∨ t = TypeId.empty) ∧
    decodeValue p.decoder
        (.obj ((Table.erase ms Payload.tagKey).insert Payload.tagKey (.str (p.tag a).text))) =
      .ok (p.withTag a t)

end Prototype

/-- A value that is sorted already is decoded by its reading. -/
theorem Json.decodeValue_of_reads {d : Decoder α} {v : Json} {a : α} (reads : d.Reads v a)
    (sorted : v.sorted = v) : decodeValue d v = .ok a := by
  rw [decodeValue, sorted]
  exact reads

theorem Json.sortedItems_map_str (xs : List String) : sortedItems (xs.map .str) = xs.map .str :=
  sortedItems_of_ordered _ (orderedItems_map_str xs)

/-! ## A prototype that writes the identifier -/

namespace Sample.Repository

/-- The members of a repository but the identifier, by ascending key. -/
def otherMembers (r : Repository) : Table String Json :=
  [("components", .arr (r.components.map .str)), ("name", .str r.name), ("pageSize", .nat r.pageSize),
    ("requiresAuth", .bool r.requiresAuth)]

/-- The members of a repository by ascending key. -/
def members (r : Repository) : Table String Json := r.otherMembers ++ [("type", .str r.tag.text)]

theorem insert_otherMembers (r : Repository) :
    r.otherMembers.insert "type" (.str r.tag.text) = r.members := by
  simp (disch := decide) only [members, otherMembers, List.cons_append, List.nil_append,
    Table.insert_nil, Table.insert_cons_of_gt]

theorem sorted_members (r : Repository) : (Json.obj r.members).sorted = .obj r.members := by
  simp (disch := decide) only [members, otherMembers, List.cons_append, List.nil_append, sorted,
    sortedMembers, Json.nat, sortedItems_map_str, Table.ofList, List.foldl_cons, List.foldl_nil,
    Table.insert_nil, Table.insert_cons_of_gt]

theorem members?_eq (r : Repository) : prototype.members? r = some r.members := by
  refine congrArg asObject? (?_ : (toJson r).sorted = .obj r.members)
  simp (disch := decide) only [toJson, sorted, sortedMembers, TypeId.toJson, Json.nat, members,
    otherMembers, List.cons_append, List.nil_append, sortedItems_map_str, Table.ofList,
    List.foldl_cons, List.foldl_nil, Table.insert_nil, Table.insert_cons_of_lt,
    Table.insert_cons_of_gt]

/-- Repositories keep their identifier apart. -/
theorem setsApart_repository {r : Repository} (parsed : r.tag.Parsed) : prototype.SetsApart r where
  tag_withTag _ := rfl
  withTag_tag := rfl
  withTag_withTag _ _ := rfl
  member ms text t object carried read := by
    cases (members?_eq r).symm.trans object
    have whole : r.members.get? Payload.tagKey = some (.str r.tag.text) := rfl
    cases whole.symm.trans carried
    cases (TypeId.parse_text parsed).symm.trans read
    exact .inl rfl
  others t := by
    rw [members?_eq, members?_eq]
    rfl

/-- The object of a repository is read as the repository. -/
theorem readsBack_repository {r : Repository} (parsed : r.tag.Parsed)
    (fits : r.pageSize < Nat.pow 2 64) : prototype.ReadsBack r := by
  intro ms object
  cases (members?_eq r).symm.trans object
  refine ⟨r.tag, .inl rfl, ?_⟩
  -- the identifier is taken away and written again where it stood
  have whole : (Table.erase r.members Payload.tagKey).insert Payload.tagKey
      (.str (prototype.tag r).text) = r.members := insert_otherMembers r
  rw [whole]
  refine decodeValue_of_reads (Decoder.reads_record ?_ ?_) (sorted_members r)
  · exact Fields.readsFrom_seq (Fields.readsFrom_seq (Fields.readsFrom_seq (Fields.readsFrom_seq
      (Fields.readsFrom_map _ (Fields.readsFrom_required rfl (TypeId.reads_text parsed)))
      (Fields.readsFrom_field_some rfl (Decoder.reads_string r.name)))
      (Fields.readsFrom_field_some rfl
        (Decoder.reads_list fun name _ => Decoder.reads_string name)))
      (Fields.readsFrom_field_some rfl (Decoder.reads_natural "usize" fits)))
      (Fields.readsFrom_field_some rfl (Decoder.reads_bool r.requiresAuth))
  · show ["components", "name", "pageSize", "requiresAuth", "type"].Nodup
    decide

end Sample.Repository

/-! ## A prototype that leaves the identifier out -/

namespace Testing.HelmChart

/-- The members of a chart by ascending key. -/
def members (v : HelmChart) : Table String Json :=
  [("chart", .str v.chart), ("replicas", .nat v.replicas), ("tags", .arr (v.tags.map .str))]

/-- The members of a chart beside its identifier. -/
def taggedMembers (v : HelmChart) : Table String Json := v.members ++ [("type", .str v.tag.text)]

theorem insert_members (v : HelmChart) :
    v.members.insert "type" (.str v.tag.text) = v.taggedMembers := by
  simp (disch := decide) only [taggedMembers, members, List.cons_append, List.nil_append,
    Table.insert_nil, Table.insert_cons_of_gt]

theorem sorted_taggedMembers (v : HelmChart) :
    (Json.obj v.taggedMembers).sorted = .obj v.taggedMembers := by
  simp (disch := decide) only [taggedMembers, members, List.cons_append, List.nil_append, sorted,
    sortedMembers, Json.nat, sortedItems_map_str, Table.ofList, List.foldl_cons, List.foldl_nil,
    Table.insert_nil, Table.insert_cons_of_gt]

theorem members?_eq (v : HelmChart) : helmChart.members? v = some v.members := by
  refine congrArg asObject? (?_ : (helmChart.toJson v).sorted = .obj v.members)
  simp (disch := decide) only [helmChart, sorted, sortedMembers, Json.nat, members,
    sortedItems_map_str, Table.ofList, List.foldl_cons, List.foldl_nil, Table.insert_nil,
    Table.insert_cons_of_gt]

/-- Charts keep their identifier apart. -/
theorem setsApart_helmChart (v : HelmChart) : helmChart.SetsApart v where
  tag_withTag _ := rfl
  withTag_tag := rfl
  withTag_withTag _ _ := rfl
  member ms text t object carried _ := by
    cases (members?_eq v).symm.trans object
    have missing : v.members.get? Payload.tagKey = none := rfl
    cases missing.symm.trans carried
  others t := by
    rw [members?_eq, members?_eq]
    rfl

/-- The object of a chart is read as the chart without its identifier. -/
theorem readsBack_helmChart {v : HelmChart} (fits : v.replicas < Nat.pow 2 8) :
    helmChart.ReadsBack v := by
  intro ms object
  cases (members?_eq v).symm.trans object
  refine ⟨TypeId.empty, .inr rfl, ?_⟩
  -- there is no identifier to take away, and it is written beside the others
  have whole : (Table.erase v.members Payload.tagKey).insert Payload.tagKey
      (.str (helmChart.tag v).text) = v.taggedMembers := insert_members v
  rw [whole]
  refine decodeValue_of_reads (Decoder.reads_record ?_ ?_) (sorted_taggedMembers v)
  · exact Fields.readsFrom_seq (Fields.readsFrom_seq
      (Fields.readsFrom_map _ (Fields.readsFrom_string rfl))
      (Fields.readsFrom_field_some rfl (Decoder.reads_unsigned fits)))
      (Fields.readsFrom_field_some rfl (Decoder.reads_list fun tag _ => Decoder.reads_string tag))
  · show ["chart", "replicas", "tags", "type"].Nodup
    decide

end Testing.HelmChart

/-! ## Payloads -/

namespace Payload

/-- The members of the object of a payload. -/
def members (q : Payload) : Table String Json :=
  if q.tag.isEmpty then q.fields else q.fields.insert tagKey (.str q.tag.text)

/-- The fields of a payload ascend by key and leave out the key `type`, and the objects inside them ascend
as well. -/
structure Tidy (q : Payload) : Prop where
  ascending : q.fields.Ascending
  untagged : ∀ e ∈ q.fields, e.1 ≠ tagKey
  ordered : ∀ e ∈ q.fields, e.2.isOrdered = true

theorem Tidy.withTag {q : Payload} (tidy : q.Tidy) (t : TypeId) : (q.withTag t).Tidy :=
  ⟨tidy.ascending, tidy.untagged, tidy.ordered⟩

section Tidy

variable {q : Payload} (tidy : q.Tidy)

include tidy

theorem isOrdered_insert (text : String) :
    (Json.obj (q.fields.insert tagKey (.str text))).isOrdered = true := by
  rw [isOrdered, Bool.and_eq_true, decide_eq_true_eq, orderedMembers_iff]
  refine ⟨Table.ascending_insert tidy.ascending _ _, ?_⟩
  intro e mem
  rcases Table.mem_insert mem with rfl | mem
  · rfl
  · exact tidy.ordered e mem

theorem isOrdered_members : (Json.obj q.members).isOrdered = true := by
  unfold members
  split
  · rw [isOrdered, Bool.and_eq_true, decide_eq_true_eq, orderedMembers_iff]
    exact ⟨tidy.ascending, tidy.ordered⟩
  · exact isOrdered_insert tidy q.tag.text

theorem members?_eq : prototype.members? q = some q.members :=
  congrArg asObject? (sorted_of_isOrdered (.obj q.members) (isOrdered_members tidy))

theorem erase_members : Table.erase q.members tagKey = q.fields := by
  unfold members
  split
  · exact Table.erase_of_forall_ne tidy.untagged
  · exact Table.erase_insert tidy.untagged _

/-- Payloads keep their identifier apart. -/
theorem setsApart_payload (parsed : q.tag.Parsed) : prototype.SetsApart q where
  tag_withTag _ := rfl
  withTag_tag := rfl
  withTag_withTag _ _ := rfl
  member ms text t object carried read := by
    cases (members?_eq tidy).symm.trans object
    unfold members at carried
    split at carried
    · cases (Table.get?_eq_none_of_forall_ne tidy.untagged).symm.trans carried
    · cases (Table.get?_insert_self _ _ _).symm.trans carried
      cases (TypeId.parse_text parsed).symm.trans read
      exact .inl rfl
  others t := by
    show (prototype.members? (q.withTag t)).map _ = _
    rw [members?_eq tidy, members?_eq (tidy.withTag t), Option.map_some, Option.map_some,
      erase_members tidy, erase_members (tidy.withTag t)]
    rfl

/-- The object of a payload is read as the payload. -/
theorem readsBack_payload (parsed : q.tag.Parsed) : prototype.ReadsBack q := by
  intro ms object
  cases (members?_eq tidy).symm.trans object
  refine ⟨q.tag, .inl rfl, ?_⟩
  rw [erase_members tidy]
  have ordered := isOrdered_insert tidy q.tag.text
  refine decodeValue_of_reads (Decoder.reads_refine (Decoder.reads_any ordered) ?_)
    (sorted_of_isOrdered _ ordered)
  rw [ofJson]
  simp only [Table.get?_insert_self, TypeId.read_text parsed, Table.erase_insert tidy.untagged]
  rfl

end Tidy

end Payload

end PluginKit
