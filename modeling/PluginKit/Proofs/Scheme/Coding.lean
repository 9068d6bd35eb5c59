import PluginKit.Proofs.Scheme.Bindings
import PluginKit.Proofs.Scheme.Forms

/-!
# Encoding and decoding

A value is encoded into a payload and decoded from it under the same scheme. On the way it gets the
canonical identifier if it has none: in the payload when it is encoded, and in the value when it is
decoded and its object does not carry the identifier. Whether the object of a value carries its
identifier as a member or leaves it out, the value comes back as it would be with its default
identifier.

## Main statements

- `encode_eq`: an encoded value is the rest of its object under the identifier that it stands for.
- `decode_of_readsBack`: a payload with the rest of a value's object decodes into the value.
- `encode_error_iff`: when encoding fails.
- `decode_undoes_encode`: all of it together.
-/

namespace PluginKit

open Json

variable {α : Type}

/-! ## Objects with an identifier -/

/-- A value is written as an object whose member `type` is missing, `null` or the text of an
identifier. -/
def Json.IsTagged (v : Json) : Prop :=
  ∃ ms, v.sorted = .obj ms ∧ ∀ m, ms.lookup Payload.tagKey = some m →
    m = .null ∨ ∃ text t, m = .str text ∧ TypeId.parse text = .ok t

namespace Payload

theorem exists_ofJson_iff {v : Json} : (∃ q, ofJson v.sorted = .ok q) ↔ v.IsTagged := by
  unfold Json.IsTagged
  constructor
  · rintro ⟨q, read⟩
    obtain ⟨ms, object, -, tagged⟩ := ofJson_eq_ok read
    refine ⟨ms, object, ?_⟩
    intro m found
    rcases tagged with ⟨-, absent | null⟩ | ⟨text, carried, parsed⟩
    · cases absent.symm.trans found
    · cases null.symm.trans found
      exact .inl rfl
    · cases carried.symm.trans found
      exact .inr ⟨text, q.tag, rfl, parsed⟩
  · rintro ⟨ms, object, tagged⟩
    rw [object, ofJson]
    simp only [Table.get?]
    cases found : ms.lookup tagKey with
    | none => exact ⟨_, rfl⟩
    | some m =>
      rcases tagged m found with rfl | ⟨text, t, rfl, parsed⟩
      · exact ⟨_, rfl⟩
      · simp only [TypeId.read, parsed]
        exact ⟨_, rfl⟩

end Payload

namespace Scheme

variable {s : Scheme} {p : Prototype α} {a : α} {ms : Table String Json}

/-! ## Encoding -/

/-- The payload in the object of a value has the identifier of the value or none. -/
theorem carried_of_ofJson (apart : p.SetsApart a) {q : Payload}
    (read : Payload.ofJson (p.toJson a).sorted = .ok q) :
    ∃ ms, p.members? a = some ms ∧ q.fields = ms.erase Payload.tagKey ∧
      (q.tag = p.tag a ∨ q.tag = TypeId.empty) := by
  obtain ⟨ms, written, fields, tagged⟩ := Payload.ofJson_eq_ok read
  refine ⟨ms, congrArg asObject? written, fields, ?_⟩
  rcases tagged with ⟨untagged, -⟩ | ⟨text, carried, parsed⟩
  · exact .inr untagged
  · exact apart.member ms text q.tag (congrArg asObject? written) carried parsed

/-- An encoded value is the rest of its object under the identifier that it stands for. -/
theorem encode_eq (apart : p.SetsApart a) {q : Payload}
    (read : Payload.ofJson (p.toJson a).sorted = .ok q) :
    s.encode p a = (s.resolve p a).map q.withTag := by
  obtain ⟨-, -, -, origin⟩ := carried_of_ofJson apart read
  rw [encode, read]
  show (if q.tag.isEmpty = true then _ else _) = _
  split
  -- the identifier that the object lacks is the one that the value stands for
  · cases s.resolve p a <;> rfl
  · next named =>
    have same : q.tag = p.tag a := by
      refine origin.resolve_right fun empty => ?_
      rw [empty] at named
      exact named rfl
    rw [same] at named
    rw [resolve, resolveTag, if_neg named]
    show Except.ok q = Except.ok (q.withTag (p.tag a))
    rw [← same]
    rfl

theorem encode_of_unread {fault : SchemeFault}
    (unread : Payload.ofJson (p.toJson a).sorted = .error fault) : s.encode p a = .error fault := by
  rw [encode, unread]
  rfl

/-! ## Decoding -/

/-- A value under its default identifier. -/
theorem defaultTag_of_resolve (apart : p.SetsApart a) {t : TypeId} (stands : s.resolve p a = .ok t) :
    ∃ changed, s.defaultTag p a = .ok (p.withTag a t, changed) := by
  unfold resolve resolveTag at stands
  unfold defaultTag
  split at stands
  · next untagged =>
    rw [if_pos untagged, stands]
    exact ⟨true, rfl⟩
  · next tagged =>
    cases stands
    rw [if_neg tagged, apart.withTag_tag]
    exact ⟨false, rfl⟩

/-- A payload with the rest of a value's object decodes into the value under the identifier of the
payload. -/
theorem decode_of_readsBack (apart : p.SetsApart a) {t : TypeId} (named : t.isEmpty = false)
    (bound : s.kindOf? t = some p.name) (object : p.members? a = some ms)
    (reads : p.ReadsBack (p.withTag a t)) :
    s.decode p { tag := t, fields := ms.erase Payload.tagKey } = .ok (p.withTag a t) := by
  -- the object under the other identifier has the same rest
  obtain ⟨ms', object', rest⟩ : ∃ ms', p.members? (p.withTag a t) = some ms' ∧
      ms'.erase Payload.tagKey = ms.erase Payload.tagKey := by
    have others := apart.others t
    rw [object] at others
    exact Option.map_eq_some_iff.1 others
  obtain ⟨u, origin, read⟩ := reads ms' object'
  rw [rest, apart.tag_withTag] at read
  rw [apart.tag_withTag] at origin
  rw [apart.withTag_withTag] at read
  have admitted : s.admits p t = .ok () := by
    rw [admits, if_neg (by simp [named])]
    simp only [bound, true_or, if_true]
  have written : Payload.toJson { tag := t, fields := ms.erase Payload.tagKey } =
      .obj ((Table.erase ms Payload.tagKey).insert Payload.tagKey (.str t.text)) := by
    rw [Payload.toJson, if_neg (by simp [named])]
  rw [decode, admitted, written, read]
  show Except.ok (if (p.tag (p.withTag a u)).isEmpty = true then
    p.withTag (p.withTag a u) t else p.withTag a u) = _
  rw [apart.tag_withTag, apart.withTag_withTag]
  -- either the object carried the identifier, or the value gets it from the payload
  rcases origin with rfl | rfl
  · rw [if_neg (by simp [named])]
  · exact congrArg Except.ok (if_pos rfl)

/-! ## Both -/

/-- A value never resolves to the empty identifier. -/
theorem named_of_resolve (consistent : s.Consistent) {t : TypeId} (stands : s.resolve p a = .ok t) :
    t.isEmpty = false := by
  unfold resolve resolveTag at stands
  split at stands
  · obtain ⟨b, known, first⟩ := typeOf_eq_ok_iff.1 stands
    refine consistent.named t (isRegistered_iff.2 ⟨p.name, ?_⟩)
    exact (consistent.bound_iff t p.name).2 ⟨b, known, List.mem_of_mem_head? first⟩
  · next tagged =>
    cases stands
    exact eq_false_of_ne_true tagged

/-- A value resolves to no identifier if and only if it has none itself and none is bound to its
prototype. -/
theorem resolve_error_iff (consistent : s.Consistent) :
    (∃ e, s.resolve p a = .error e) ↔
      (p.tag a).isEmpty = true ∧ ∀ t, s.kindOf? t ≠ some p.name := by
  unfold resolve resolveTag
  split
  · next untagged =>
    have bound : (∃ u, s.typeOf p.name = .ok u) ↔ ∃ t, s.kindOf? t = some p.name :=
      consistent.exists_typeOf_iff
    constructor
    · rintro ⟨e, unknown⟩
      refine ⟨untagged, fun t known => ?_⟩
      obtain ⟨u, canonical⟩ := bound.2 ⟨t, known⟩
      cases unknown.symm.trans canonical
    · rintro ⟨-, unbound⟩
      cases canonical : s.typeOf p.name with
      | error e => exact ⟨e, rfl⟩
      | ok u =>
        obtain ⟨t, known⟩ := bound.1 ⟨u, canonical⟩
        exact absurd known (unbound t)
  · next tagged =>
    constructor
    · rintro ⟨e, none_⟩
      cases none_
    · rintro ⟨untagged, -⟩
      exact absurd untagged tagged

/-- A payload that a value is encoded as has the identifier that the value resolves to, and decodes into
the value with its default identifier. -/
theorem decode_of_encode (consistent : s.Consistent) (apart : p.SetsApart a) {raw : Payload}
    (done : s.encode p a = .ok raw) :
    s.resolve p a = .ok raw.tag ∧ raw.tag.isEmpty = false ∧
      ∃ w changed, s.defaultTag p a = .ok (w, changed) ∧
        (s.kindOf? raw.tag = some p.name → p.ReadsBack w → s.decode p raw = .ok w) := by
  cases read : Payload.ofJson (p.toJson a).sorted with
  | error fault => cases (encode_of_unread read).symm.trans done
  | ok q =>
    obtain ⟨ms, object, rest, -⟩ := carried_of_ofJson apart read
    rw [encode_eq apart read] at done
    cases stands : s.resolve p a with
    | error e =>
      rw [stands] at done
      cases done
    | ok t =>
      rw [stands] at done
      cases done
      have named := named_of_resolve consistent stands
      obtain ⟨changed, default_⟩ := defaultTag_of_resolve apart stands
      refine ⟨rfl, named, p.withTag a t, changed, default_, fun bound reads => ?_⟩
      rw [Payload.withTag, rest]
      exact decode_of_readsBack apart named bound object reads

/-- Encoding fails in reading the object or in finding an identifier for it. -/
theorem encode_error_iff (consistent : s.Consistent) (apart : p.SetsApart a) :
    (∃ e, s.encode p a = .error e) ↔ ¬ (p.toJson a).IsTagged ∨
      ((p.tag a).isEmpty = true ∧ ∀ t, s.kindOf? t ≠ some p.name) := by
  rw [← Payload.exists_ofJson_iff, ← resolve_error_iff consistent]
  cases read : Payload.ofJson (p.toJson a).sorted with
  | error fault =>
    refine ⟨fun _ => .inl ?_, fun _ => ⟨fault, encode_of_unread read⟩⟩
    rintro ⟨q, taken⟩
    cases taken
  | ok q =>
    rw [encode_eq apart read]
    constructor
    · rintro ⟨e, failed⟩
      cases stands : s.resolve p a with
      | error fault => exact .inr ⟨fault, rfl⟩
      | ok t =>
        rw [stands] at failed
        cases failed
    · rintro (unread | ⟨fault, stands⟩)
      · exact absurd ⟨q, rfl⟩ unread
      · rw [stands]
        exact ⟨fault, rfl⟩

/-- Under a scheme that calls have brought about, a value whose prototype sets its identifier apart is
encoded. The payload has the identifier that the value stands for, which is not empty. If it is bound to
the prototype, the payload decodes into the value with its default identifier, provided that the object
of this value reads back. Encoding fails if and only if the value is written as something else than an
object with an identifier, or it has no identifier and nothing is bound to the prototype. -/
theorem decode_undoes_encode (reachable : Reachable s) (apart : p.SetsApart a) :
    (∀ raw, s.encode p a = .ok raw →
      s.resolve p a = .ok raw.tag ∧ raw.tag.isEmpty = false ∧
        ∃ w changed, s.defaultTag p a = .ok (w, changed) ∧
          (s.kindOf? raw.tag = some p.name → p.ReadsBack w → s.decode p raw = .ok w)) ∧
      ((∃ e, s.encode p a = .error e) ↔ ¬ (p.toJson a).IsTagged ∨
        ((p.tag a).isEmpty = true ∧ ∀ t, s.kindOf? t ≠ some p.name)) := by
  have consistent := reachable.consistent
  constructor
  · intro raw done
    exact decode_of_encode consistent apart done
  · exact encode_error_iff consistent apart

/-- Charts have two identifiers and repositories have two, payloads have none. -/
def stocked : Scheme :=
  ((registering Sample.Repository.prototype [.versioned "repo" "v1", .ofName "repo"]).run
    ((registering Testing.helmChart [.versioned "chart" "v1", .ofName "chart"]).run {}).2).2

/-- A chart without an identifier. -/
def plainChart : Testing.HelmChart where
  chart := "redis"
  replicas := 3

/-- A repository under its second identifier. -/
def aliasedRepository : Sample.Repository where
  tag := .ofName "repo"
  components := ["a", "b"]
  pageSize := 2

/-- Under the scheme above the chart comes back with its canonical identifier and the repository with
the one that it has, and a payload without an identifier is not encoded. -/
theorem decode_undoes_encode_stocked :
    (∃ raw, stocked.encode Testing.helmChart plainChart = .ok raw ∧
      raw.tag = .versioned "chart" "v1" ∧ stocked.decode Testing.helmChart raw =
        .ok { plainChart with tag := .versioned "chart" "v1" }) ∧
      (∃ raw, stocked.encode Sample.Repository.prototype aliasedRepository = .ok raw ∧
        raw.tag = .ofName "repo" ∧
        stocked.decode Sample.Repository.prototype raw = .ok aliasedRepository) ∧
      ∃ e, stocked.encode Payload.prototype {} = .error e := by
  have reachable : Reachable stocked := ⟨false, .registered (.registered .same _ _) _ _⟩
  have parsed : (TypeId.ofName "repo").Parsed := ⟨"repo", by rfl⟩
  have empty : TypeId.empty.Parsed := ⟨"", by rfl⟩
  have tidy : Payload.Tidy {} := ⟨by decide, by decide, by decide⟩
  refine ⟨?chart, ?repository, ?payload⟩
  case chart =>
    obtain ⟨back, -⟩ := decode_undoes_encode reachable
      (Testing.HelmChart.setsApart_helmChart plainChart)
    have encoded : stocked.encode Testing.helmChart plainChart =
      .ok { tag := .versioned "chart" "v1", fields := plainChart.members } := by rfl
    obtain ⟨-, -, w, changed, default_, decodes⟩ := back _ encoded
    cases default_
    refine ⟨_, encoded, rfl, decodes (by rfl) (Testing.HelmChart.readsBack_helmChart ?_)⟩
    decide
  case repository =>
    obtain ⟨back, -⟩ := decode_undoes_encode reachable
      (Sample.Repository.setsApart_repository (r := aliasedRepository) parsed)
    have encoded : stocked.encode Sample.Repository.prototype aliasedRepository =
      .ok { tag := .ofName "repo", fields := aliasedRepository.otherMembers } := by rfl
    obtain ⟨-, -, w, changed, default_, decodes⟩ := back _ encoded
    cases default_
    refine ⟨_, encoded, rfl, decodes (by rfl) (Sample.Repository.readsBack_repository parsed ?_)⟩
    decide
  case payload =>
    have fails := (decode_undoes_encode reachable (Payload.setsApart_payload tidy empty)).2
    exact fails.2 (.inr ((resolve_error_iff reachable.consistent).1 ⟨_, rfl⟩))

end Scheme

end PluginKit
