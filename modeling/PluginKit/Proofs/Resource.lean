import PluginKit.Proofs.Time.Reading
import PluginKit.Wire.Resource

/-!
# Resources between hosts and plugins

What a host sends to a plugin and what it takes from one are read from the same form. A resource is
written without loss and read back, provided that its creation time lies in a year from 0 to 9999.
Reading is wider than writing at this one place: an offset from universal time carries the first and
the last hours of the calendar out of these years, and what was taken from one plugin is then refused
by the next.

## Main statements

- `Resource.ofWire_toWire`: a resource is read back from its form on the wire.
- `Resource.toWire_of_ofWire`: what was read is written again as it was, with its creation time in
  universal time; it can be read again exactly if that time lies in a year from 0 to 9999.
-/

namespace PluginKit.Resource

/-! ## Reading, part by part -/

/-- Only a relation's own name is read as that relation. -/
theorem name_of_readRelation {who s : String} {r : Relation} (h : readRelation who s = .ok r) :
    r.name = s := by
  unfold readRelation at h
  split at h
  · next found =>
    cases h
    exact Relation.name_of_ofName? found
  · cases h

/-- A creation time is read exactly as its text is. -/
theorem parse_of_readCreationTime {who s : String} {t : Timestamp}
    (h : readCreationTime who s = .ok t) : Timestamp.parse s = .ok t := by
  unfold readCreationTime at h
  cases read : Timestamp.parse s with
  | error flaw =>
    rw [read] at h
    cases h
  | ok u =>
    rw [read] at h
    cases h
    rfl

/-- The form on the wire of a resource that was read is the one that it was read from, with its creation
time as it is written. -/
theorem ofWire_eq_ok {w : Wire.Resource} {r : Resource} (h : ofWire w = .ok r) :
    r.toWire = { w with creationTime := r.creationTime.map Timestamp.text } ∧
      w.creationTime.map Timestamp.parse = r.creationTime.map .ok := by
  obtain ⟨relation, named, h⟩ := ok_of_bind h
  obtain ⟨creationTime, timed, h⟩ := ok_of_bind h
  cases h
  constructor
  · simp only [toWire, name_of_readRelation named]
  · cases written : w.creationTime with
    | none =>
      rw [written] at timed
      cases timed
      rfl
    | some s =>
      rw [written] at timed
      obtain ⟨t, read, eq⟩ := ok_of_bind timed
      cases eq
      exact congrArg some (parse_of_readCreationTime read)

/-! ## Reading what is written -/

/-- A resource that was written with some text for its creation time is read as it was, with the
creation time that the text stands for. -/
theorem ofWire_retimed (r : Resource) (text : Option String) :
    ofWire { r.toWire with creationTime := text } =
      text.mapM (readCreationTime r.name) >>= fun time => .ok { r with creationTime := time } := by
  unfold ofWire
  rw [show readRelation r.toWire.name r.toWire.relation = .ok r.relation from
    readRelation_name r.name r.relation]
  rfl

/-- A creation time is the one that its text stands for. -/
theorem ofWire_retimed_of_parse {r : Resource} {s : String} {t : Timestamp}
    (read : Timestamp.parse s = .ok t) :
    ofWire { r.toWire with creationTime := some s } = .ok { r with creationTime := some t } := by
  rw [ofWire_retimed]
  simp only [Option.mapM_some, readCreationTime, read]
  rfl

/-- A resource without a creation time is read back. -/
theorem ofWire_toWire_none {r : Resource} (h : r.creationTime = none) : ofWire r.toWire = .ok r := by
  have unset : r.toWire = { r.toWire with creationTime := none } := by rw [toWire, h]; rfl
  rw [unset, ofWire_retimed]
  exact congrArg Except.ok (by rw [← h])

/-- A creation time whose text is read back leaves the resource as it is. -/
theorem ofWire_toWire_some {r : Resource} {t : Timestamp} (h : r.creationTime = some t)
    (read : Timestamp.parse t.text = .ok t) : ofWire r.toWire = .ok r := by
  have set : r.toWire = { r.toWire with creationTime := some t.text } := by rw [toWire, h]; rfl
  rw [set, ofWire_retimed_of_parse read, ← h]

/-- The complaint about a creation time that cannot be sent on. -/
def unsendable (who : String) (t : Timestamp) : Fault :=
  .conversion ("resource " ++ who ++ ": invalid creation time " ++ Text.quoted t.text ++ ": " ++
    Timestamp.Flaw.invalid.message)

/-- A creation time in a year with a sign is complained of. -/
theorem ofWire_toWire_signed {r : Resource} {t : Timestamp} (h : r.creationTime = some t)
    (year : ¬ (0 ≤ t.year ∧ t.year ≤ 9999)) : ofWire r.toWire = .error (unsendable r.name t) := by
  have set : r.toWire = { r.toWire with creationTime := some t.text } := by rw [toWire, h]; rfl
  rw [set, ofWire_retimed]
  simp only [Option.mapM_some, readCreationTime, Timestamp.parse_text_of_signed_year year]
  rfl

/-- A resource is read back from its form on the wire, whatever it holds, if its creation time lies
in a year from 0 to 9999. -/
theorem ofWire_toWire {r : Resource}
    (time : ∀ t ∈ r.creationTime, t.WellFormed ∧ 0 ≤ t.year ∧ t.year ≤ 9999) :
    ofWire r.toWire = .ok r := by
  cases h : r.creationTime with
  | none => exact ofWire_toWire_none h
  | some t =>
    obtain ⟨wellFormed, year⟩ := time t h
    exact ofWire_toWire_some h (Timestamp.parse_text wellFormed year)

/-- A resource with something in every part, made in the middle of a leap second. -/
def midLeap : Resource where
  name := "r"
  version := "1.0.0"
  labels := [⟨"l", .obj [("a", .arr [.null, .bool true, .str ""])], some "v1", true⟩,
    ⟨"l", .null, none, false⟩]
  extraIdentity := [("arch", "arm64"), ("os", "linux")]
  type := "blob"
  relation := .external
  sourceRefs := [{}, { identitySelector := [("name", "s")], labels := [⟨"l", .nat 7, none, false⟩] }]
  access := some { tag := .ofName "t", fields := [("url", .str "https://h/")] }
  digest := some ⟨"SHA-256", "genericBlobDigest/v1", "0a1b"⟩
  size := some 1024
  creationTime := some ⟨1483228799, 1500000000⟩

/-- A resource with a creation time in a leap second is read as it was written. -/
theorem ofWire_toWire_midLeap : midLeap.toWire.creationTime = some "2016-12-31T23:59:60.500Z" ∧
    ofWire midLeap.toWire = .ok midLeap := by
  refine ⟨by decide +kernel, ofWire_toWire ?_⟩
  intro t made
  cases made
  exact ⟨⟨by decide, by decide⟩, by decide⟩

/-! ## Writing what is read -/

/-- A resource that was read is written as it was, with its creation time as the same point in universal
time. It can be read again exactly if that point lies in a year from 0 to 9999. -/
theorem toWire_of_ofWire {w : Wire.Resource} {r : Resource} (h : ofWire w = .ok r) :
    r.toWire = { w with creationTime := r.creationTime.map Timestamp.text } ∧
      w.creationTime.map Timestamp.parse = r.creationTime.map .ok ∧
      (ofWire r.toWire = .ok r ↔ ∀ t ∈ r.creationTime, 0 ≤ t.year ∧ t.year ≤ 9999) ∧
      ∀ t ∈ r.creationTime, ¬ (0 ≤ t.year ∧ t.year ≤ 9999) →
        ofWire r.toWire = .error (unsendable r.name t) := by
  obtain ⟨same, instant⟩ := ofWire_eq_ok h
  refine ⟨same, instant, ?_, fun t => ofWire_toWire_signed⟩
  cases time : r.creationTime with
  | none =>
    refine ⟨fun _ t none => ?_, fun _ => ofWire_toWire_none time⟩
    cases none
  | some t =>
    constructor
    · intro back u made
      cases made
      -- a refusal would be no success
      refine Decidable.byContradiction fun signed => ?_
      rw [ofWire_toWire_signed time signed] at back
      cases back
    · intro year
      -- whatever was read is well-formed
      obtain ⟨s, -, read⟩ := Option.map_eq_some_iff.1 (instant.trans (congrArg _ time))
      have wellFormed := Timestamp.wellFormed_of_parse read
      exact ofWire_toWire_some time (Timestamp.parse_text wellFormed (year t rfl))

/-- The same resource as a plugin five hours west of universal time sends it. -/
def midLeapWest : Wire.Resource :=
  { midLeap.toWire with creationTime := some "2016-12-31t18:59:60.5-05:00" }

/-- It is taken and sent on in universal time. -/
theorem midLeapWest_sent_on : ofWire midLeapWest = .ok midLeap ∧
    midLeap.toWire = { midLeapWest with creationTime := some "2016-12-31T23:59:60.500Z" } ∧
    ofWire midLeap.toWire = .ok midLeap := by
  have text : Timestamp.parse "2016-12-31t18:59:60.5-05:00" = .ok ⟨1483228799, 1500000000⟩ := by
    decide +kernel
  have read : ofWire midLeapWest = .ok midLeap := ofWire_retimed_of_parse text
  obtain ⟨same, -, back, -⟩ := toWire_of_ofWire read
  have written : Timestamp.text ⟨1483228799, 1500000000⟩ = "2016-12-31T23:59:60.500Z" := by
    decide +kernel
  refine ⟨read, ?_, back.2 ?_⟩
  · rw [same, ← written]
    rfl
  · intro t made
    cases made
    decide

/-- A resource that a plugin an hour east of universal time dates half an hour into the year 0. -/
def firstHour : Wire.Resource where
  name := "r"
  version := "1"
  type := "blob"
  relation := "local"
  creationTime := some "0000-01-01T00:30:00+01:00"

/-- The resource that is read from it. -/
def firstHourRead : Resource where
  name := "r"
  version := "1"
  type := "blob"
  creationTime := some ⟨-62167221000, 0⟩

/-- In universal time it lies before the year 0, and what is sent on is not taken back. -/
theorem firstHour_not_sent_on : ofWire firstHour = .ok firstHourRead ∧
    firstHourRead.toWire.creationTime = some "-0001-12-31T23:30:00Z" ∧
    ¬ ofWire firstHourRead.toWire = .ok firstHourRead := by
  have text : Timestamp.parse "0000-01-01T00:30:00+01:00" = .ok ⟨-62167221000, 0⟩ := by
    decide +kernel
  refine ⟨ofWire_retimed_of_parse (r := firstHourRead) text, by decide +kernel, ?_⟩
  rw [ofWire_toWire_signed rfl (by decide)]
  intro back
  cases back

end PluginKit.Resource
