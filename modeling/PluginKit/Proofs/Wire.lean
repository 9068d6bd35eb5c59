import PluginKit.Proofs.Payload
import PluginKit.Wire.Message

/-!
# Messages and their documents

Every message that hosts and plugins exchange is read back from the document it is written as, with
fields that are left out and without.

## Main statements

- `Wire.Resource.reads_toJson`: a resource reads back from its document.
- `Wire.UploadRequest.reads_toJson`, `Wire.ListResponse.reads_toJson` and their like: so do the
  requests and the responses of all operations.
-/

namespace PluginKit

open Json

/-! ## Tables of strings -/

theorem Table.reads_toJson {t : Table String String} (h : t.Ascending) :
    Table.decoder.Reads t.toJson t :=
  Decoder.reads_dict h

theorem Table.isIntegral_toJson (t : Table String String) : t.toJson.isIntegral = true := by
  rw [Table.toJson, isIntegral, integralMembers_eq_all, List.all_eq_true]
  intro e he
  obtain ⟨d, -, rfl⟩ := List.mem_map.1 he
  rfl

/-! ## Parts of resources -/

/-- A label whose value is in order and has no numbers but integers of 64 bits. -/
structure Label.Proper (l : Label) : Prop where
  ordered : l.value.isOrdered = true
  integral : l.value.isIntegral = true

theorem Label.reads_toJson {l : Label} (h : l.Proper) : Label.decoder.Reads l.toJson l := by
  refine Decoder.reads_record (a := l) ?_ ?_
  · refine Fields.readsFrom_seq (Fields.readsFrom_seq (Fields.readsFrom_seq (Fields.readsFrom_map _
      (Fields.readsFrom_string ?_))
      (Fields.readsFrom_required ?_ (Decoder.reads_any h.ordered)))
      (Fields.readsFrom_optionalString ?_)) (Fields.readsFrom_flag ?_)
    all_goals simp [List.lookup_append, List.lookup_cons]
  · have keys := ((List.Sublist.refl ["name", "value"]).append
      (Fields.keys_ifSome "version" (l.version.map Json.str))).append
      (Fields.keys_memberIf l.signing "signing" (.bool true))
    simp only [List.map_append, List.map_cons, List.map_nil]
    exact keys.nodup (by decide)

theorem Label.isIntegral_toJson {l : Label} (h : l.Proper) : l.toJson.isIntegral = true := by
  cases hv : l.version <;> simp [toJson, isIntegral, integralMembers, hv, h.integral]

theorem Digest.reads_toJson (d : Digest) : Digest.decoder.Reads d.toJson d := by
  refine Decoder.reads_record (a := d) ?_ ?_
  · refine Fields.readsFrom_seq (Fields.readsFrom_seq (Fields.readsFrom_map _
      (Fields.readsFrom_string ?_)) (Fields.readsFrom_string ?_)) (Fields.readsFrom_string ?_)
    all_goals simp [List.lookup_cons]
  · simp

/-- A reference whose selector ascends and whose labels are proper. -/
structure SourceRef.Proper (r : SourceRef) : Prop where
  selector : r.identitySelector.Ascending
  labels : ∀ l ∈ r.labels, l.Proper

theorem SourceRef.reads_toJson {r : SourceRef} (h : r.Proper) :
    SourceRef.decoder.Reads r.toJson r := by
  refine Decoder.reads_record (a := r) ?_ ?_
  · refine Fields.readsFrom_seq (Fields.readsFrom_map _
      (Fields.readsFrom_nonempty ?_ (Table.reads_toJson h.selector)))
      (Fields.readsFrom_nonempty ?_ (Decoder.reads_list fun l hl => Label.reads_toJson (h.labels l hl)))
    · cases r.identitySelector <;> simp [List.lookup_append]
    · cases r.labels <;> simp [List.lookup_append]
  · have keys := (Fields.keys_memberIf (!r.identitySelector.isEmpty) "identitySelector"
      r.identitySelector.toJson).append
      (Fields.keys_memberIf (!r.labels.isEmpty) "labels" (.arr (r.labels.map Label.toJson)))
    rw [List.map_append]
    exact keys.nodup (by decide)

theorem SourceRef.isIntegral_toJson {r : SourceRef} (h : r.Proper) : r.toJson.isIntegral = true := by
  have labels : (r.labels.all fun l => l.toJson.isIntegral) = true :=
    List.all_eq_true.2 fun l hl => Label.isIntegral_toJson (h.labels l hl)
  simp [toJson, isIntegral, integralItems_map, Table.isIntegral_toJson, labels]

namespace Wire

/-! ## Resources -/

/-- A resource as it can be sent: its tables ascend, its payloads and values are proper, and its size
has 64 bits. -/
structure Resource.Proper (r : Resource) : Prop where
  extraIdentity : r.extraIdentity.Ascending
  labels : ∀ l ∈ r.labels, l.Proper
  sourceRefs : ∀ s ∈ r.sourceRefs, s.Proper
  access : ∀ p ∈ r.access, p.Proper
  size : ∀ n ∈ r.size, n < Nat.pow 2 64

/-- A resource reads back from its document. -/
theorem Resource.reads_toJson {r : Resource} (h : r.Proper) : Resource.decoder.Reads r.toJson r := by
  refine Decoder.reads_record (a := r) ?_ ?_
  -- field by field, in the order of the record
  · refine Fields.readsFrom_seq (Fields.readsFrom_seq (Fields.readsFrom_seq (Fields.readsFrom_seq
      (Fields.readsFrom_seq (Fields.readsFrom_seq (Fields.readsFrom_seq (Fields.readsFrom_seq
      (Fields.readsFrom_seq (Fields.readsFrom_seq (Fields.readsFrom_map _
      (Fields.readsFrom_string (s := r.name) ?_))
      (Fields.readsFrom_string (s := r.version) ?_))
      (Fields.readsFrom_nonempty ?_ (Table.reads_toJson h.extraIdentity)))
      (Fields.readsFrom_nonempty ?_ (Decoder.reads_list fun l hl => Label.reads_toJson (h.labels l hl))))
      (Fields.readsFrom_nonempty ?_
        (Decoder.reads_list fun s hs => SourceRef.reads_toJson (h.sourceRefs s hs))))
      (Fields.readsFrom_string (s := r.type) ?_))
      (Fields.readsFrom_string (s := r.relation) ?_))
      (Fields.readsFrom_optional (o := r.access) ?_ fun p hp =>
        ⟨Payload.reads_toJson (h.access p hp), Payload.isNull_toJson p⟩))
      (Fields.readsFrom_optional (o := r.digest) ?_ fun d _ => ⟨Digest.reads_toJson d, rfl⟩))
      (Fields.readsFrom_optional (o := r.size) ?_ fun n hn =>
        ⟨Decoder.reads_unsigned (h.size n hn), rfl⟩))
      (Fields.readsFrom_optionalString (o := r.creationTime) ?_)
    all_goals simp [List.lookup_append, List.lookup_cons]
  -- a field that is left out takes its key away, so no key comes twice
  · have keys := ((((((((List.Sublist.refl ["name", "version"]).append
      (Fields.keys_memberIf (!r.extraIdentity.isEmpty) "extraIdentity" r.extraIdentity.toJson)).append
      (Fields.keys_memberIf (!r.labels.isEmpty) "labels" (.arr (r.labels.map Label.toJson)))).append
      (Fields.keys_memberIf (!r.sourceRefs.isEmpty) "srcRefs"
        (.arr (r.sourceRefs.map SourceRef.toJson)))).append
      (List.Sublist.refl ["type", "relation"])).append
      (Fields.keys_ifSome "access" (r.access.map Payload.toJson))).append
      (Fields.keys_ifSome "digest" (r.digest.map Digest.toJson))).append
      (Fields.keys_ifSome "size" (r.size.map Json.nat))).append
      (Fields.keys_ifSome "creationTime" (r.creationTime.map Json.str))
    simp only [List.map_append, List.map_cons, List.map_nil]
    exact keys.nodup (by simp)

theorem Resource.isIntegral_toJson {r : Resource} (h : r.Proper) : r.toJson.isIntegral = true := by
  have labels : (r.labels.all fun l => l.toJson.isIntegral) = true :=
    List.all_eq_true.2 fun l hl => Label.isIntegral_toJson (h.labels l hl)
  have sourceRefs : (r.sourceRefs.all fun s => s.toJson.isIntegral) = true :=
    List.all_eq_true.2 fun s hs => SourceRef.isIntegral_toJson (h.sourceRefs s hs)
  have access : (r.access.map Payload.toJson).all Json.isIntegral = true := by
    cases ha : r.access with
    | none => rfl
    | some p => exact Payload.isIntegral_toJson (h.access p ha)
  have digest : (r.digest.map Digest.toJson).all Json.isIntegral = true := by
    cases r.digest <;> rfl
  have size : (r.size.map Json.nat).all Json.isIntegral = true := by
    cases hn : r.size with
    | none => rfl
    | some n =>
      rw [Option.map_some, Option.all_some]
      exact isIntegral_nat (h.size n hn)
  have creationTime : (r.creationTime.map Json.str).all Json.isIntegral = true := by
    cases r.creationTime <;> rfl
  simp [toJson, isIntegral, integralMembers, integralItems_map, Table.isIntegral_toJson, labels,
    sourceRefs, access, digest, size, creationTime]

/-! ## Identities -/

theorem IdentityRequest.reads_toJson {m : IdentityRequest} (h : m.object.Proper) :
    IdentityRequest.decoder.Reads m.toJson m :=
  Decoder.reads_record (a := m)
    (Fields.readsFrom_map _ (Fields.readsFrom_required rfl (Payload.reads_toJson h))) (by simp)

theorem IdentityRequest.isIntegral_toJson {m : IdentityRequest} (h : m.object.Proper) :
    m.toJson.isIntegral = true := by
  simp [toJson, isIntegral, integralMembers, Payload.isIntegral_toJson h]

theorem IdentityResponse.reads_toJson {m : IdentityResponse} (h : m.identity.entries.Ascending) :
    IdentityResponse.decoder.Reads m.toJson m :=
  Decoder.reads_record (a := m)
    (Fields.readsFrom_map _ (Fields.readsFrom_required rfl
      (Decoder.reads_map (Table.reads_toJson h) Identity.mk))) (by simp)

theorem IdentityResponse.isIntegral_toJson (m : IdentityResponse) : m.toJson.isIntegral = true := by
  simp [toJson, isIntegral, integralMembers, Identity.toJson, Table.isIntegral_toJson]

/-! ## Resources and locations -/

theorem ResourceMessage.reads_toJson {m : ResourceMessage} (h : m.resource.Proper) (what : String) :
    (ResourceMessage.decoder what).Reads m.toJson m :=
  Decoder.reads_record (a := m)
    (Fields.readsFrom_map _ (Fields.readsFrom_required rfl (Resource.reads_toJson h))) (by simp)

theorem ResourceMessage.isIntegral_toJson {m : ResourceMessage} (h : m.resource.Proper) :
    m.toJson.isIntegral = true := by
  simp [toJson, isIntegral, integralMembers, Resource.isIntegral_toJson h]

theorem reads_location (l : Location) : Location.decoder.Reads l.toJson l := by
  have kind : LocationKind.decoder.Reads (.str l.kind.name) l.kind := by
    cases l.kind <;> rfl
  refine Decoder.reads_record (a := l) ?_ ?_
  · refine Fields.readsFrom_seq (Fields.readsFrom_seq (Fields.readsFrom_map _
      (Fields.readsFrom_required ?_ kind)) (Fields.readsFrom_string ?_))
      (Fields.readsFrom_optionalString ?_)
    all_goals cases l.mediaType <;> simp [List.lookup_cons]
  · cases l.mediaType <;> simp

theorem isIntegral_location (l : Location) : l.toJson.isIntegral = true := by
  cases h : l.mediaType <;> simp [Location.toJson, isIntegral, integralMembers, h]

theorem LocationResponse.reads_toJson (m : LocationResponse) :
    LocationResponse.decoder.Reads m.toJson m :=
  Decoder.reads_record (a := m)
    (Fields.readsFrom_map _ (Fields.readsFrom_required rfl (reads_location m.location))) (by simp)

theorem LocationResponse.isIntegral_toJson (m : LocationResponse) : m.toJson.isIntegral = true := by
  simp [toJson, isIntegral, integralMembers, isIntegral_location]

theorem UploadRequest.reads_toJson {m : UploadRequest} (h : m.resource.Proper) :
    UploadRequest.decoder.Reads m.toJson m :=
  Decoder.reads_record (a := m)
    (Fields.readsFrom_seq
      (Fields.readsFrom_map _ (Fields.readsFrom_required rfl (Resource.reads_toJson h)))
      (Fields.readsFrom_required (by simp [List.lookup_cons]) (reads_location m.source)))
    (by simp)

theorem UploadRequest.isIntegral_toJson {m : UploadRequest} (h : m.resource.Proper) :
    m.toJson.isIntegral = true := by
  simp [toJson, isIntegral, integralMembers, Resource.isIntegral_toJson h, isIntegral_location]

/-! ## Listings -/

theorem ListRequest.reads_toJson {m : ListRequest} (h : m.repository.Proper) :
    ListRequest.decoder.Reads m.toJson m :=
  Decoder.reads_record (a := m)
    (Fields.readsFrom_seq
      (Fields.readsFrom_map _ (Fields.readsFrom_required rfl (Payload.reads_toJson h)))
      (Fields.readsFrom_withDefault (a := m.last)
        (by simp [List.lookup_cons, Decoder.reads_string]) (by simp [List.lookup_cons])))
    (by simp)

theorem ListRequest.isIntegral_toJson {m : ListRequest} (h : m.repository.Proper) :
    m.toJson.isIntegral = true := by
  simp [toJson, isIntegral, integralMembers, Payload.isIntegral_toJson h]

theorem reads_listHeader (last : String) : listHeader.Reads (.obj [("last", .str last)]) last :=
  Decoder.reads_record (a := last) (Fields.readsFrom_map id (Fields.readsFrom_string rfl)) (by simp)

theorem ListResponse.reads_toJson (m : ListResponse) : ListResponse.decoder.Reads m.toJson m := by
  refine Decoder.reads_record (a := m) ?_ ?_
  · refine Fields.readsFrom_seq (Fields.readsFrom_map _
      (Fields.readsFrom_required (v := .arr (m.names.map Json.str)) ?_
        (Decoder.reads_list fun s _ => Decoder.reads_string s)))
      (Fields.readsFrom_optional (o := m.last) ?_ fun l _ => ⟨reads_listHeader l, rfl⟩)
    all_goals simp [List.lookup_cons]
  · have keys := (List.Sublist.refl ["list"]).append
      (Fields.keys_ifSome "header" (m.last.map fun l => .obj [("last", .str l)]))
    simp only [List.map_append, List.map_cons, List.map_nil]
    exact keys.nodup (by simp)

theorem ListResponse.isIntegral_toJson (m : ListResponse) : m.toJson.isIntegral = true := by
  have names : (m.names.all fun s => (Json.str s).isIntegral) = true :=
    List.all_eq_true.2 fun _ _ => rfl
  cases h : m.last <;> simp [toJson, isIntegral, integralMembers, integralItems_map, h]

/-! ## Reports of failures -/

theorem ErrorResponse.reads_toJson (r : ErrorResponse) : ErrorResponse.decoder.Reads r.toJson r := by
  refine Decoder.reads_record (a := r) ?_ ?_
  · refine Fields.readsFrom_map _ (Fields.readsFrom_string ?_)
    simp
  · simp

end Wire

/-! ## Credentials -/

theorem Credentials.reads_toJson {c : Credentials} (h : c.entries.Ascending) :
    Credentials.decoder.Reads c.toJson c :=
  Decoder.reads_map (Table.reads_toJson h) Credentials.mk

end PluginKit
