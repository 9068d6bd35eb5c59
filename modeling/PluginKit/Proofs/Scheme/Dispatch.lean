import PluginKit.Proofs.Payload.Verbatim
import PluginKit.Proofs.Scheme.Coding

/-!
# Decoding by identifier

Whether a payload is decoded into a prototype is settled by its identifier, and only then does the
decoder of the prototype see the object. The object carries the text of the identifier. A decoder that
reads it finds the identifier that the payload was judged by, since its text reads as itself, and a
decoder that passes over it leaves the value without one, which is then given to it. Either way the
value has the identifier of the payload.

## Main statements

- `admits_iff`: what an identifier is told, case by case.
- `tag_of_decode`: a decoded value has the identifier of its payload.
- `takesTag_of_withPrototype?`: each prototype at hand does one or the other.
- `decode_follows_tag`: all of it together, and what it means for a value that is decoded in place.
-/

namespace PluginKit

open Json

variable {α : Type}

/-- The object of a payload that has an identifier carries its text as the member `type`. -/
theorem Payload.carries_text {raw : Payload} (formed : raw.Formed) (named : raw.tag.isEmpty = false) :
    ∃ ms, raw.toJson.sorted = .obj ms ∧ Table.get? ms tagKey = some (.str raw.tag.text) := by
  have written : raw.toJson = .obj (raw.fields.insert tagKey (.str raw.tag.text)) := by
    rw [toJson, if_neg (by simp [named])]
  rw [written]
  -- no field has the key, so the text stays where it was written
  refine ⟨_, rfl, get?_of_sorted rfl (Table.mem_of_get? (Table.get?_insert_self _ _ _)) ?_⟩
  intro e mem key
  rcases Table.mem_insert mem with rfl | field
  · rfl
  · exact absurd key (formed.untagged e field)

/-! ## Prototypes and their identifier -/

namespace Prototype

/-- A value that is read from an object with an identifier has this identifier. -/
def ReadsTag (p : Prototype α) : Prop :=
  ∀ v ms text a, v.sorted = .obj ms → Table.get? ms Payload.tagKey = some (.str text) →
    decodeValue p.decoder v = .ok a → TypeId.parse text = .ok (p.tag a)

/-- A value that is read from an object has no identifier, whatever the object says. -/
def IgnoresTag (p : Prototype α) : Prop :=
  ∀ v ms a, v.sorted = .obj ms → decodeValue p.decoder v = .ok a → (p.tag a).isEmpty = true

/-- Values of a prototype can be given any identifier, and either all of them or none get one from the
object that they are read from. -/
structure TakesTag (p : Prototype α) : Prop where
  tag_withTag : ∀ a t, p.tag (p.withTag a t) = t
  reads_or_ignores : p.ReadsTag ∨ p.IgnoresTag

end Prototype

namespace Json

/-- The field `type` is read as the identifier that the object says. -/
theorem Fields.tells_type {ms : Table String Json} {text : String} {absent : Except DecodeFault TypeId}
    {beyond : Option TypeId} {P : TypeId → Prop}
    (there : Table.get? ms Payload.tagKey = some (.str text))
    (reads : ∀ t, TypeId.parse text = .ok t → P t) :
    (field "type" TypeId.decoder absent beyond).Tells ms P := by
  refine tells_field there ?_
  intro t read
  apply reads
  simp only [Decoder.Reads, Node.ofJson, TypeId.decoder, Decoder.refine, Decoder.string,
    TypeId.read] at read
  cases parsed : TypeId.parse text with
  | error flaw =>
    rw [parsed] at read
    cases read
  | ok u =>
    rw [parsed] at read
    cases read
    rfl

end Json

/-! ## The prototypes at hand -/

section Prototypes

open Fields

/-- A record has the identifier that the object says if its fields tell so. -/
theorem Prototype.readsTag_of_tells {p : Prototype α} {what : String} {f : Fields α}
    (record : p.decoder = .record what f)
    (tells : ∀ ms text, Table.get? ms Payload.tagKey = some (.str text) →
      f.Tells ms fun a => TypeId.parse text = .ok (p.tag a)) : p.ReadsTag := by
  intro v ms text a object carried read
  rw [record] at read
  exact decodeValue_record_tells (P := fun a => TypeId.parse text = .ok (p.tag a)) object
    (tells ms text carried) read

/-- A record has no identifier if its fields tell so. -/
theorem Prototype.ignoresTag_of_tells {p : Prototype α} {what : String} {f : Fields α}
    (record : p.decoder = .record what f)
    (tells : ∀ ms, f.Tells ms fun a => (p.tag a).isEmpty = true) : p.IgnoresTag := by
  intro v ms a object read
  rw [record] at read
  exact decodeValue_record_tells (P := fun a => (p.tag a).isEmpty = true) object (tells ms) read

theorem Testing.readsTag_ociImage : Testing.ociImage.ReadsTag := by
  apply Prototype.readsTag_of_tells rfl
  intro ms text carried
  refine tells_seq (tells_map (tells_type carried ?_))
  intro t parsed _
  exact parsed

theorem Testing.readsTag_localBlob : Testing.localBlob.ReadsTag := by
  apply Prototype.readsTag_of_tells rfl
  intro ms text carried
  refine tells_seq (tells_seq (tells_map (tells_type carried ?_)))
  intro t parsed _ _
  exact parsed

theorem Sample.readsTag_artifact : Sample.Artifact.prototype.ReadsTag := by
  apply Prototype.readsTag_of_tells rfl
  intro ms text carried
  refine tells_seq (tells_seq (tells_map (tells_type carried ?_)))
  intro t parsed _ _
  exact parsed

theorem Sample.readsTag_repository : Sample.Repository.prototype.ReadsTag := by
  apply Prototype.readsTag_of_tells rfl
  intro ms text carried
  refine tells_seq (tells_seq (tells_seq (tells_seq (tells_map (tells_type carried ?_)))))
  intro t parsed _ _ _ _
  exact parsed

/-- The object of a chart has no field for the identifier. -/
theorem Testing.ignoresTag_helmChart : Testing.helmChart.IgnoresTag := by
  apply Prototype.ignoresTag_of_tells rfl
  intro ms
  refine tells_seq (tells_seq (tells_map ?_))
  intro place chart _ replicas tags
  rfl

/-- Strings are not read from objects at all. -/
theorem Testing.ignoresTag_scalar : Testing.scalar.IgnoresTag := by
  intro v ms a object read
  rw [decodeValue, object] at read
  cases read

/-- A payload has the identifier that the object it was read from says. -/
theorem Payload.parse_tag_of_ofJson {ms : Table String Json} {text : String} {q : Payload}
    (carried : Table.get? ms tagKey = some (.str text)) (read : ofJson (.obj ms) = .ok q) :
    TypeId.parse text = .ok q.tag := by
  obtain ⟨members, same, -, tagged⟩ := ofJson_eq_ok read
  cases same
  rcases tagged with ⟨-, absent | null⟩ | ⟨text', said, parsed⟩
  · cases absent.symm.trans carried
  · cases null.symm.trans carried
  · cases said.symm.trans carried
    exact parsed

/-- A payload that is decoded from an object has the identifier of the object. -/
theorem Payload.readsTag_payload : Payload.prototype.ReadsTag := by
  intro v ms text a object carried read
  -- the decoder sorts the members once more, and the member `type` stays
  obtain ⟨ms', again⟩ : ∃ ms', (Json.obj ms).sorted = .obj ms' := ⟨_, rfl⟩
  have stays : Table.get? ms' tagKey = some (.str text) := by
    refine get?_of_sorted again (Table.mem_of_get? carried) ?_
    intro e mem key
    have found := (Table.get?_eq_some_iff (ascending_of_sorted object)).2 (mem : (e.1, e.2) ∈ ms)
    rw [key] at found
    exact Option.some.inj (found.symm.trans carried)
  have whole : Decoder.any (Node.ofJson v.sorted) = .ok (.obj ms') := by
    rw [object, ← again]
    exact Decoder.reads_any_sorted (.obj ms)
  replace read : Payload.decoder (Node.ofJson v.sorted) = .ok a := read
  simp only [Payload.decoder, Decoder.refine, whole] at read
  cases taken : ofJson (.obj ms') with
  | error fault =>
    rw [taken] at read
    cases read
  | ok q =>
    rw [taken] at read
    cases read
    exact parse_tag_of_ofJson stays taken

/-- Whichever of them is asked for by name, values of it can be given any identifier and read theirs or
pass over it. -/
theorem Testing.takesTag_of_withPrototype? {name : String} {takes : Prop}
    (known : withPrototype? name (fun p => p.TakesTag) = some takes) : takes := by
  unfold withPrototype? at known
  split at known
  case h_1 => cases known; exact ⟨fun _ _ => rfl, .inl readsTag_ociImage⟩
  case h_2 => cases known; exact ⟨fun _ _ => rfl, .inl readsTag_localBlob⟩
  case h_3 => cases known; exact ⟨fun _ _ => rfl, .inr ignoresTag_helmChart⟩
  case h_4 => cases known; exact ⟨fun _ _ => rfl, .inr ignoresTag_scalar⟩
  case h_5 => cases known; exact ⟨fun _ _ => rfl, .inl Payload.readsTag_payload⟩
  case h_6 => cases known; exact ⟨fun _ _ => rfl, .inl Sample.readsTag_artifact⟩
  case h_7 => cases known; exact ⟨fun _ _ => rfl, .inl Sample.readsTag_repository⟩
  case h_8 => cases known

end Prototypes

namespace Scheme

variable {s : Scheme} {p : Prototype α} {t : TypeId} {raw : Payload}

/-! ## What an identifier is told -/

/-- The verdict on the identifier of a payload for a prototype, by the identifiers that the prototypes of
a scheme list. -/
inductive Judged (s : Scheme) (p : Prototype α) (t : TypeId) : Except SchemeFault Unit → Prop where
  | unnamed (empty : t.isEmpty = true) : Judged s p t (.error .missingType)
  | unknown (named : t.isEmpty = false) (unbound : ∀ kind, ¬ s.Lists kind t)
    (strict : ¬ (s.allowsUnknown = true ∧ p.takesAnyTag = true)) : Judged s p t (.error (.unknownType t))
  | foreign {kind : String} (bound : s.Lists kind t) (other : kind ≠ p.name)
    (picky : p.takesAnyTag = false) : Judged s p t (.error (.kindMismatch t kind p.name))
  | own (bound : s.Lists p.name t) : Judged s p t (.ok ())
  | any {kind : String} (bound : s.Lists kind t) (takesAny : p.takesAnyTag = true) : Judged s p t (.ok ())
  | passed (named : t.isEmpty = false) (unbound : ∀ kind, ¬ s.Lists kind t)
    (allowed : s.allowsUnknown = true) (takesAny : p.takesAnyTag = true) : Judged s p t (.ok ())

theorem admits_of_bound (consistent : s.Consistent) {kind : String} (bound : s.Lists kind t) :
    s.admits p t = if kind = p.name ∨ p.takesAnyTag = true then .ok ()
      else .error (.kindMismatch t kind p.name) := by
  have known := (consistent.bound_iff t kind).2 bound
  have named := consistent.named_of_lists bound
  rw [admits, if_neg (by simp [named])]
  simp only [known]

theorem admits_of_unbound (consistent : s.Consistent) (named : t.isEmpty = false)
    (unbound : ∀ kind, ¬ s.Lists kind t) :
    s.admits p t = if s.allowsUnknown = true ∧ p.takesAnyTag = true then .ok ()
      else .error (.unknownType t) := by
  have unknown : s.kindOf? t = none := by
    cases known : s.kindOf? t with
    | none => rfl
    | some kind => exact absurd ((consistent.bound_iff t kind).1 known) (unbound kind)
  rw [admits, if_neg (by simp [named])]
  simp only [unknown, Bool.and_eq_true]

/-- Every identifier is judged by one of the cases. -/
theorem judged_admits (consistent : s.Consistent) (p : Prototype α) (t : TypeId) :
    Judged s p t (s.admits p t) := by
  cases name : t.isEmpty with
  | true =>
    rw [admits, if_pos name]
    exact .unnamed name
  | false =>
    by_cases listed : ∃ kind, s.Lists kind t
    · obtain ⟨kind, bound⟩ := listed
      rw [admits_of_bound consistent bound]
      split
      · next fits =>
        rcases fits with rfl | takesAny
        · exact .own bound
        · exact .any bound takesAny
      · next unfit =>
        obtain ⟨other, picky⟩ := not_or.1 unfit
        exact .foreign bound other (eq_false_of_ne_true picky)
    · have unbound := not_exists.1 listed
      rw [admits_of_unbound consistent name unbound]
      split
      · next pass => exact .passed name unbound pass.1 pass.2
      · next strict => exact .unknown name unbound strict

/-- The verdict on an identifier is the one of its case. -/
theorem admits_iff (consistent : s.Consistent) {r : Except SchemeFault Unit} :
    s.admits p t = r ↔ Judged s p t r := by
  constructor
  · rintro rfl
    exact judged_admits consistent p t
  · intro judged
    cases judged with
    | unnamed empty => rw [admits, if_pos empty]
    | unknown named unbound strict => rw [admits_of_unbound consistent named unbound, if_neg strict]
    | foreign bound other picky =>
      rw [admits_of_bound consistent bound, if_neg (by simp [other, picky])]
    | own bound => rw [admits_of_bound consistent bound, if_pos (.inl rfl)]
    | any bound takesAny => rw [admits_of_bound consistent bound, if_pos (.inr takesAny)]
    | passed named unbound allowed takesAny =>
      rw [admits_of_unbound consistent named unbound, if_pos ⟨allowed, takesAny⟩]

/-! ## Decoding -/

/-- A value under the identifier of its payload if it has none of its own. -/
def restored (p : Prototype α) (t : TypeId) (b : α) : α :=
  if (p.tag b).isEmpty = true then p.withTag b t else b

/-- The identifier is judged before the object is looked at. -/
theorem decode_eq : s.decode p raw =
    match s.admits p raw.tag, decodeValue p.decoder raw.toJson with
    | .error fault, _ => .error fault
    | .ok (), .error e => .error (.serialization e)
    | .ok (), .ok b => .ok (restored p raw.tag b) := by
  unfold decode
  cases s.admits p raw.tag with
  | error fault => rfl
  | ok u => cases decodeValue p.decoder raw.toJson <;> rfl

/-- Decoding fails in the judgement of the identifier or else in the decoder. -/
theorem decode_eq_error_iff {fault : SchemeFault} : s.decode p raw = .error fault ↔
    s.admits p raw.tag = .error fault ∨ s.admits p raw.tag = .ok () ∧
      ∃ e, fault = .serialization e ∧ decodeValue p.decoder raw.toJson = .error e := by
  rw [decode_eq]
  cases s.admits p raw.tag with
  | error e => simp
  | ok u => cases decodeValue p.decoder raw.toJson <;> simp [eq_comm]

/-- A decoded value is what the decoder has read, under the identifier of the payload if that has
none. -/
theorem decode_eq_ok_iff {a : α} : s.decode p raw = .ok a ↔ s.admits p raw.tag = .ok () ∧
    ∃ b, decodeValue p.decoder raw.toJson = .ok b ∧ a = restored p raw.tag b := by
  rw [decode_eq]
  cases s.admits p raw.tag with
  | error e => simp
  | ok u => cases decodeValue p.decoder raw.toJson <;> simp [eq_comm]

/-- A payload has no type if and only if its identifier is empty. -/
theorem decode_eq_missingType_iff (consistent : s.Consistent) :
    s.decode p raw = .error .missingType ↔ raw.tag.isEmpty = true := by
  rw [decode_eq_error_iff, admits_iff consistent]
  constructor
  · rintro (judged | ⟨-, e, ⟨⟩, -⟩)
    cases judged with
    | unnamed empty => exact empty
  · intro empty
    exact .inl (.unnamed empty)

theorem decode_eq_unknownType_iff (consistent : s.Consistent) :
    s.decode p raw = .error (.unknownType t) ↔ t = raw.tag ∧ raw.tag.isEmpty = false ∧
      (∀ kind, ¬ s.Lists kind raw.tag) ∧ ¬ (s.allowsUnknown = true ∧ p.takesAnyTag = true) := by
  rw [decode_eq_error_iff, admits_iff consistent]
  constructor
  · rintro (judged | ⟨-, e, ⟨⟩, -⟩)
    cases judged with
    | unknown named unbound strict => exact ⟨rfl, named, unbound, strict⟩
  · rintro ⟨rfl, named, unbound, strict⟩
    exact .inl (.unknown named unbound strict)

theorem decode_eq_kindMismatch_iff (consistent : s.Consistent) {kind wanted : String} :
    s.decode p raw = .error (.kindMismatch t kind wanted) ↔ t = raw.tag ∧ wanted = p.name ∧
      s.Lists kind raw.tag ∧ kind ≠ p.name ∧ p.takesAnyTag = false := by
  rw [decode_eq_error_iff, admits_iff consistent]
  constructor
  · rintro (judged | ⟨-, e, ⟨⟩, -⟩)
    cases judged with
    | foreign bound other picky => exact ⟨rfl, rfl, bound, other, picky⟩
  · rintro ⟨rfl, rfl, bound, other, picky⟩
    exact .inl (.foreign bound other picky)

/-- An identifier that is bound to the prototype, or that it takes for being bound or unknown, is let
through. -/
theorem admits_of_fits (consistent : s.Consistent) (named : t.isEmpty = false)
    (open_ : (∃ kind, s.Lists kind t) ∨ (s.allowsUnknown = true ∧ p.takesAnyTag = true))
    (fits : ∀ kind, s.Lists kind t → kind = p.name ∨ p.takesAnyTag = true) :
    s.admits p t = .ok () := by
  rw [admits_iff consistent]
  by_cases listed : ∃ kind, s.Lists kind t
  · obtain ⟨kind, bound⟩ := listed
    rcases fits kind bound with rfl | takesAny
    · exact .own bound
    · exact .any bound takesAny
  · obtain ⟨allowed, takesAny⟩ := open_.resolve_left listed
    exact .passed named (not_exists.1 listed) allowed takesAny

theorem named_of_admits (admitted : s.admits p t = .ok ()) : t.isEmpty = false := by
  unfold admits at admitted
  split at admitted
  · cases admitted
  · next named => exact eq_false_of_ne_true named

/-- A decoded value has the identifier of its payload, whether the decoder reads identifiers or not. -/
theorem tag_of_decode (takes : p.TakesTag) (formed : raw.Formed) (parsed : raw.tag.Parsed) {a : α}
    (decoded : s.decode p raw = .ok a) : p.tag a = raw.tag := by
  obtain ⟨admitted, b, read, rfl⟩ := decode_eq_ok_iff.1 decoded
  have named := named_of_admits admitted
  unfold restored
  split
  · -- the value has lost the identifier and gets it back
    exact takes.tag_withTag b raw.tag
  -- a value with an identifier has read it, since a prototype that passes over it reads none
  · next tagged =>
    obtain ⟨ms, object, carried⟩ := Payload.carries_text formed named
    rcases takes.reads_or_ignores with reads | ignores
    · -- the text in the object reads as the identifier that was judged
      have told := reads _ ms _ b object carried read
      rw [TypeId.parse_text parsed] at told
      exact (Except.ok.inj told).symm
    · exact absurd (ignores _ ms b object read) tagged

/-! ## Decoding in place -/

/-- A value that is there already is replaced if the payload can be decoded, and otherwise left as it
is. -/
theorem convert_eq (dest : α) : s.convert p raw dest =
    match s.decode p raw with
    | .ok a => (.ok (), a)
    | .error fault => (.error fault, dest) := by
  unfold convert
  cases s.decode p raw <;> rfl

/-! ## All together -/

/-- Under a scheme that calls have brought about, let a payload be decoded whose identifier is empty or
was read. It has no type if and only if its identifier is empty. The type is unknown if and only if no
prototype lists the identifier, unless the scheme lets unknown ones pass and the prototype takes any. It
is of another kind if and only if a prototype lists it that is not the one asked for, and this one does
not take any. Otherwise all depends on the decoder of the prototype: its fault is reported, or the value
that it reads has the identifier of the payload or is given it. So a decoded value always has the
identifier of its payload. Decoding into a value that is there leaves it as it is if that fails, and
replaces it if not. -/
theorem decode_follows_tag (reachable : Reachable s) (takes : p.TakesTag) (formed : raw.Formed)
    (tagged : raw.tag.isEmpty = true ∨ raw.tag.Parsed) :
    (s.decode p raw = .error .missingType ↔ raw.tag.isEmpty = true) ∧
    (∀ t, s.decode p raw = .error (.unknownType t) ↔ t = raw.tag ∧ raw.tag.isEmpty = false ∧
      (∀ kind, ¬ s.Lists kind raw.tag) ∧ ¬ (s.allowsUnknown = true ∧ p.takesAnyTag = true)) ∧
    (∀ t kind wanted, s.decode p raw = .error (.kindMismatch t kind wanted) ↔
      t = raw.tag ∧ wanted = p.name ∧ s.Lists kind raw.tag ∧ kind ≠ p.name ∧ p.takesAnyTag = false) ∧
    (raw.tag.isEmpty = false →
      (∃ kind, s.Lists kind raw.tag) ∨ (s.allowsUnknown = true ∧ p.takesAnyTag = true) →
      (∀ kind, s.Lists kind raw.tag → kind = p.name ∨ p.takesAnyTag = true) →
      s.decode p raw = match decodeValue p.decoder raw.toJson with
        | .error e => .error (.serialization e)
        | .ok b => .ok (restored p raw.tag b)) ∧
    (∀ a, s.decode p raw = .ok a → p.tag a = raw.tag) ∧
    ∀ dest after,
      (∀ fault, s.convert p raw dest = (.error fault, after) ↔
        s.decode p raw = .error fault ∧ after = dest) ∧
      (s.convert p raw dest = (.ok (), after) ↔ s.decode p raw = .ok after) := by
  have consistent := reachable.consistent
  refine ⟨decode_eq_missingType_iff consistent, fun t => decode_eq_unknownType_iff consistent,
    fun t kind wanted => decode_eq_kindMismatch_iff consistent, ?otherwise, ?same, ?inPlace⟩
  case otherwise =>
    intro named open_ fits
    rw [decode_eq, admits_of_fits consistent named open_ fits]
    cases decodeValue p.decoder raw.toJson <;> rfl
  case same =>
    intro a decoded
    rcases tagged with empty | parsed
    · have named := named_of_admits (decode_eq_ok_iff.1 decoded).1
      cases empty.symm.trans named
    · exact tag_of_decode takes formed parsed decoded
  case inPlace =>
    intro dest after
    rw [convert_eq]
    cases s.decode p raw <;> simp [eq_comm]

/-- A chart without anything but its name. -/
def redis : Payload := .make (.versioned "chart" "v1") [("chart", .str "redis")]

/-- Where charts and repositories are known, the chart is decoded into a chart, which gets the identifier
that its object passes over. It is no repository, and one that is there stays as it is. Under an
identifier that is not bound it is unknown. -/
theorem decode_follows_tag_redis :
    (∃ a, stocked.decode Testing.helmChart redis = .ok a ∧ a.tag = .versioned "chart" "v1") ∧
    (stocked.convert Sample.Repository.prototype redis aliasedRepository).2 = aliasedRepository ∧
    stocked.decode Payload.prototype (redis.withTag (.ofName "redis")) =
      .error (.unknownType (.ofName "redis")) := by
  have reachable : Reachable stocked := ⟨false, .registered (.registered .same _ _) _ _⟩
  have formed : redis.Formed := .made _ _
  have bound : stocked.Lists Testing.helmChart.name redis.tag := ⟨_, rfl, by decide⟩
  refine ⟨?chart, ?repository, ?unbound⟩
  case chart =>
    obtain ⟨-, -, -, otherwise, same, -⟩ := decode_follows_tag reachable (p := Testing.helmChart)
      ⟨fun _ _ => rfl, .inr Testing.ignoresTag_helmChart⟩ formed (.inr ⟨"chart/v1", by rfl⟩)
    have fits (kind : String) (listed : stocked.Lists kind redis.tag) :
        kind = Testing.helmChart.name ∨ Testing.helmChart.takesAnyTag = true :=
      .inl (reachable.consistent.lists_unique listed bound)
    have read := otherwise rfl (.inl ⟨_, bound⟩) fits
    exact ⟨_, read, same _ read⟩
  case repository =>
    obtain ⟨-, -, mismatch, -, -, inPlace⟩ := decode_follows_tag reachable
      (p := Sample.Repository.prototype) ⟨fun _ _ => rfl, .inl Sample.readsTag_repository⟩ formed
      (.inr ⟨"chart/v1", by rfl⟩)
    have other := (mismatch _ _ _).2 ⟨rfl, rfl, bound, by decide, rfl⟩
    have failed := ((inPlace aliasedRepository aliasedRepository).1 _).2 ⟨other, rfl⟩
    rw [failed]
  case unbound =>
    have renamed : (redis.withTag (.ofName "redis")).Formed := .withTag _ formed
    obtain ⟨-, unknown, -⟩ := decode_follows_tag reachable (p := Payload.prototype)
      ⟨fun _ _ => rfl, .inl Payload.readsTag_payload⟩ renamed (.inr ⟨"redis", by rfl⟩)
    refine (unknown _).2 ⟨rfl, rfl, ?_, by decide⟩
    intro kind listed
    cases (reachable.consistent.bound_iff _ _).2 listed

end Scheme

end PluginKit
