import PluginKit.Proofs.Schema.Documents
import PluginKit.Schema.Validator

/-!
# What a validator keeps

A validator compiles a schema when the first payload comes for it and keeps it, and with it the documents
outside that judging payloads has read. What it keeps is a function of the questions that were put to it.
Nothing else enters, neither a schema that does not compile nor the plugin that a payload was for. So a
validator that has judged any number of payloads gives the answer that a new one would give, unless a
document has changed that was read before for a payload of the same type.

## Main statements

- `judge_eq_of_consistent`: with schemas that are kept and documents that are the same, a payload is
  judged as without.
- `Reflects.validate`: what one judgement does to what is kept.
- `reflects_afterAll`: what is kept after any judgements.
- `answers_as_new`: the judgements are those of new validators.
- `changed_document_unseen`: a document that has changed is judged by as it was.
-/

namespace PluginKit

open Schema (Documents Occasion)

namespace Validator

variable {v : Validator} {schemas : Table TypeId Json} {docs : Documents} {t : TypeId}

/-! ## One judgement -/

@[simp] theorem schemas_keep (v : Validator) (t : TypeId) (schema : Schema) :
    (v.keep t schema).schemas = v.schemas := rfl

theorem get?_keep_self (v : Validator) (t : TypeId) (schema : Schema) :
    (v.keep t schema).compiled.get? t = some schema :=
  Table.get?_insert_self ..

theorem get?_keep_of_ne {u : TypeId} (other : u ≠ t) (schema : Schema) :
    (v.keep t schema).compiled.get? u = v.compiled.get? u :=
  Table.get?_insert_of_ne _ other _

theorem keep_keep (v : Validator) (t : TypeId) (schema later : Schema) :
    (v.keep t schema).keep t later = v.keep t later :=
  congrArg (fun compiled => { v with compiled }) (Table.insert_insert_self ..)

/-- A schema that does not compile is reported, and nothing is kept of it. -/
theorem lookup_of_error {source : Json} {flaw : Schema.Violation}
    (absent : v.compiled.get? t = none) (h : Schema.compile source = .error flaw) :
    v.lookup t source = (.error flaw, v) := by
  rw [lookup, absent]
  dsimp only
  rw [h]

/-- The schema that is looked up is the one that is kept, or else the one that was just compiled. -/
theorem lookup_of_ok {source : Json} {fresh : Schema} (h : Schema.compile source = .ok fresh) :
    ∃ u, v.lookup t source = (.ok ((v.compiled.get? t).getD fresh), u) ∧
      ∀ schema, u.keep t schema = v.keep t schema := by
  unfold lookup
  cases v.compiled.get? t with
  | some schema => exact ⟨v, rfl, fun _ => rfl⟩
  | none =>
    refine ⟨v.keep t fresh, ?_, keep_keep v t fresh⟩
    dsimp only
    rw [h]
    rfl

/-- A payload is judged by the schema for its type, which keeps the documents that it reads. -/
theorem validate_of_ok {p : Payload} {source : Json} {fresh : Schema}
    (advertised : v.schemas.get? p.tag = some source) (h : Schema.compile source = .ok fresh)
    (docs : Documents) (plugin : PluginId) :
    let schema := (v.compiled.get? p.tag).getD fresh
    v.validate docs plugin p =
      (outcome plugin p ((schema.violations docs p.toJson).map Schema.Violation.text),
        v.keep p.tag (schema.after docs p.toJson)) := by
  obtain ⟨u, found, keeps⟩ := lookup_of_ok (v := v) (t := p.tag) h
  simp only [validate, advertised, found, keeps]

theorem validate_of_error {p : Payload} {source : Json} {flaw : Schema.Violation}
    (advertised : v.schemas.get? p.tag = some source) (absent : v.compiled.get? p.tag = none)
    (h : Schema.compile source = .error flaw) (docs : Documents) (plugin : PluginId) :
    v.validate docs plugin p = (outcome plugin p (uncompiled flaw), v) := by
  simp only [validate, advertised, lookup_of_error absent h]

/-- Judging a payload leaves the advertised schemas as they are. -/
theorem schemas_validate (v : Validator) (docs : Documents) (plugin : PluginId) (p : Payload) :
    (v.validate docs plugin p).2.schemas = v.schemas := by
  have kept (source : Json) : (v.lookup p.tag source).2.schemas = v.schemas := by
    unfold lookup
    split
    · rfl
    · split <;> rfl
  unfold validate
  split
  · rfl
  · next source advertised =>
    have kept := kept source
    split
    · next found => rwa [found] at kept
    · next found => rwa [found] at kept

/-! ## Documents that stay the same -/

/-- Every kept schema is the one that its document compiles to, together with documents that are still
the same. -/
def Consistent (v : Validator) (docs : Documents) : Prop :=
  ∀ t schema, v.compiled.get? t = some schema → ∃ source fresh kept,
    v.schemas.get? t = some source ∧ Schema.compile source = .ok fresh ∧
      schema = { fresh with kept } ∧ docs.Holds kept

/-- A new validator keeps no schemas. -/
theorem consistent_ofSchemas (schemas : Table TypeId Json) (docs : Documents) :
    (ofSchemas schemas).Consistent docs := by
  intro t schema h
  cases h

/-- The schema that a payload is judged by is the one its document compiles to, with documents that are
still the same. -/
theorem Consistent.exists_holds (h : v.Consistent docs) {source : Json} {fresh : Schema}
    (advertised : v.schemas.get? t = some source) (compiled : Schema.compile source = .ok fresh) :
    ∃ kept, (v.compiled.get? t).getD fresh = { fresh with kept } ∧ docs.Holds kept := by
  cases stored : v.compiled.get? t with
  | none =>
    refine ⟨fresh.kept, rfl, ?_⟩
    rw [Schema.kept_of_compile compiled]
    exact nofun
  | some schema =>
    obtain ⟨source', fresh', kept, advertised', compiled', rfl, holds⟩ := h t schema stored
    cases advertised.symm.trans advertised'
    cases compiled.symm.trans compiled'
    exact ⟨kept, rfl, holds⟩

theorem Consistent.absent_of_error (h : v.Consistent docs) {source : Json} {flaw : Schema.Violation}
    (advertised : v.schemas.get? t = some source) (fails : Schema.compile source = .error flaw) :
    v.compiled.get? t = none := by
  cases stored : v.compiled.get? t with
  | none => rfl
  | some schema =>
    obtain ⟨source', fresh, kept, advertised', compiled, -⟩ := h t schema stored
    cases advertised.symm.trans advertised'
    cases fails.symm.trans compiled

/-- With schemas that are kept and documents that are the same, a payload is judged as without. -/
theorem judge_eq_of_consistent (h : v.Consistent docs) {p : Payload} {source : Json}
    (advertised : v.schemas.get? p.tag = some source) (plugin : PluginId) :
    (v.validate docs plugin p).1 = outcome plugin p (judge docs source p) := by
  unfold judge
  cases compiled : Schema.compile source with
  | error flaw =>
    rw [validate_of_error advertised (h.absent_of_error advertised compiled) compiled]
  | ok fresh =>
    obtain ⟨kept, same, holds⟩ := h.exists_holds advertised compiled
    rw [validate_of_ok advertised compiled, same]
    dsimp only
    rw [Schema.violations_of_holds (Schema.kept_of_compile compiled) holds]

/-- Judging a payload leaves a validator consistent with the documents. -/
theorem consistent_validate (h : v.Consistent docs) (plugin : PluginId) (p : Payload) :
    (v.validate docs plugin p).2.Consistent docs := by
  cases advertised : v.schemas.get? p.tag with
  | none =>
    rw [validate_of_unadvertised advertised]
    exact h
  | some source =>
    cases compiled : Schema.compile source with
    | error flaw =>
      rw [validate_of_error advertised (h.absent_of_error advertised compiled) compiled]
      exact h
    | ok fresh =>
      obtain ⟨kept, same, holds⟩ := h.exists_holds advertised compiled
      have new := Schema.kept_of_compile compiled
      rw [validate_of_ok advertised compiled, same]
      intro t schema stored
      by_cases here : t = p.tag
      · subst here
        rw [get?_keep_self] at stored
        cases stored
        refine ⟨source, fresh, _, advertised, compiled, rfl, ?_⟩
        -- what is read now is there as well
        intro e mem
        rcases Schema.mem_kept_after mem with old | read
        · exact holds e old
        · rw [Schema.reads_of_holds new holds] at read
          exact Schema.holds_reads new e read
      · rw [get?_keep_of_ne here] at stored
        exact h t schema stored

/-! ## What is kept -/

/-- A payload to be judged, the plugin that it is for, and the documents outside at that time. -/
structure Question where
  documents : Documents
  plugin : PluginId
  payload : Payload

/-- The value to be judged. -/
def Question.occasion (q : Question) : Occasion := ⟨q.documents, q.payload.toJson⟩

/-- The values to be judged by the schema for a type. -/
def occasionsFor (asked : List Question) (t : TypeId) : List Occasion :=
  (asked.filter fun q => q.payload.tag = t).map Question.occasion

/-- A type has been asked for and has an advertised schema that compiles, which has judged the values that
there were for it since. -/
def Keeps (schemas : Table TypeId Json) (asked : List Question) (t : TypeId) (schema : Schema) : Prop :=
  (∃ q ∈ asked, q.payload.tag = t) ∧ ∃ source fresh, schemas.get? t = some source ∧
    Schema.compile source = .ok fresh ∧ schema = fresh.afterAll (occasionsFor asked t)

/-- A validator for some schemas keeps what follows from the questions that were put to it. -/
structure Reflects (v : Validator) (schemas : Table TypeId Json) (asked : List Question) : Prop where
  advertises : v.schemas = schemas
  ascending : v.compiled.Ascending
  kept_iff : ∀ t schema, v.compiled.get? t = some schema ↔ Keeps schemas asked t schema

variable {asked : List Question} {q : Question}

theorem reflects_ofSchemas (schemas : Table TypeId Json) : (ofSchemas schemas).Reflects schemas [] where
  advertises := rfl
  ascending := Table.ascending_nil
  kept_iff _ _ := ⟨nofun, fun ⟨⟨_, asked, _⟩, _⟩ => nomatch asked⟩

theorem occasionsFor_concat_self (asked : List Question) (q : Question) :
    occasionsFor (asked ++ [q]) q.payload.tag = occasionsFor asked q.payload.tag ++ [q.occasion] := by
  simp [occasionsFor]

/-- A question leaves what is kept for other types. -/
theorem keeps_concat_iff (other : t ≠ q.payload.tag) {schema : Schema} :
    Keeps schemas (asked ++ [q]) t schema ↔ Keeps schemas asked t schema := by
  have same : occasionsFor (asked ++ [q]) t = occasionsFor asked t := by
    simp [occasionsFor, Ne.symm other]
  simp only [Keeps, same, List.mem_append, List.mem_singleton, or_and_right, exists_or, exists_eq_left,
    Ne.symm other, or_false]

/-- A question for a type without a schema that compiles leaves all that is kept. -/
theorem Reflects.ask_in_vain (h : v.Reflects schemas asked)
    (vain : ∀ source, schemas.get? q.payload.tag = some source →
      ∀ fresh, Schema.compile source ≠ .ok fresh) : v.Reflects schemas (asked ++ [q]) where
  advertises := h.advertises
  ascending := h.ascending
  kept_iff t schema := by
    rw [h.kept_iff]
    by_cases here : t = q.payload.tag
    · subst here
      have none_ (qs : List Question) : ¬ Keeps schemas qs q.payload.tag schema := by
        rintro ⟨-, source, fresh, advertised, compiled, -⟩
        exact vain source advertised fresh compiled
      exact iff_of_false (none_ _) (none_ _)
    · exact (keeps_concat_iff here).symm

/-- The schema for a type is the one that has judged all values for it so far. -/
theorem Reflects.getD_eq (h : v.Reflects schemas asked) {source : Json} {fresh : Schema}
    (advertised : schemas.get? t = some source) (compiled : Schema.compile source = .ok fresh) :
    (v.compiled.get? t).getD fresh = fresh.afterAll (occasionsFor asked t) := by
  by_cases before : ∃ q ∈ asked, q.payload.tag = t
  · rw [(h.kept_iff t _).2 ⟨before, source, fresh, advertised, compiled, rfl⟩]
    rfl
  · -- nothing has been judged by it
    have nothing : occasionsFor asked t = [] := by
      rw [occasionsFor, List.map_eq_nil_iff, List.filter_eq_nil_iff]
      intro q mem same
      exact before ⟨q, mem, of_decide_eq_true same⟩
    have absent : v.compiled.get? t = none := by
      rw [Option.eq_none_iff_forall_ne_some]
      intro schema stored
      exact before ((h.kept_iff t schema).1 stored).1
    rw [absent, nothing]
    rfl

theorem Reflects.absent_of_error (h : v.Reflects schemas asked) {source : Json}
    {flaw : Schema.Violation} (advertised : schemas.get? t = some source)
    (fails : Schema.compile source = .error flaw) : v.compiled.get? t = none := by
  rw [Option.eq_none_iff_forall_ne_some]
  intro schema stored
  obtain ⟨-, source', fresh, advertised', compiled, -⟩ := (h.kept_iff t schema).1 stored
  cases advertised.symm.trans advertised'
  cases fails.symm.trans compiled

/-- After a judgement the validator reflects one question more. -/
theorem Reflects.validate (h : v.Reflects schemas asked) (q : Question) :
    (v.validate q.documents q.plugin q.payload).2.Reflects schemas (asked ++ [q]) := by
  cases advertised : schemas.get? q.payload.tag with
  | none =>
    rw [validate_of_unadvertised (h.advertises ▸ advertised)]
    refine h.ask_in_vain fun source advertised' => ?_
    cases advertised.symm.trans advertised'
  | some source =>
    have own : v.schemas.get? q.payload.tag = some source := h.advertises ▸ advertised
    cases compiled : Schema.compile source with
    | error flaw =>
      rw [validate_of_error own (h.absent_of_error advertised compiled) compiled]
      refine h.ask_in_vain fun source' advertised' fresh compiled' => ?_
      cases advertised.symm.trans advertised'
      cases compiled.symm.trans compiled'
    | ok fresh =>
      rw [validate_of_ok own compiled, h.getD_eq advertised compiled]
      refine ⟨h.advertises, Table.ascending_insert h.ascending _ _, ?_⟩
      intro t schema
      by_cases here : t = q.payload.tag
      · subst here
        -- the value joins those that the schema has judged
        rw [get?_keep_self, Option.some.injEq, Keeps, occasionsFor_concat_self]
        simp only [Schema.afterAll_concat]
        constructor
        · rintro rfl
          exact ⟨⟨q, List.mem_append_right _ List.mem_cons_self, rfl⟩, source, fresh, advertised,
            compiled, rfl⟩
        · rintro ⟨-, source', fresh', advertised', compiled', rfl⟩
          cases advertised.symm.trans advertised'
          cases compiled.symm.trans compiled'
          rfl
      · rw [get?_keep_of_ne here, h.kept_iff, keeps_concat_iff here]

/-- The answers of one validator to questions that are put one after another, and the validator after
them. -/
def answerAll (v : Validator) : List Question → List (Outcome Unit) × Validator
  | [] => ([], v)
  | q :: qs =>
    let (first, v) := v.validate q.documents q.plugin q.payload
    let (rest, v) := answerAll v qs
    (first :: rest, v)

/-- After any questions the validator reflects all of them. -/
theorem reflects_afterAll (h : v.Reflects schemas asked) (qs : List Question) :
    (v.answerAll qs).2.Reflects schemas (asked ++ qs) := by
  induction qs generalizing v asked with
  | nil => rwa [List.append_nil]
  | cons q qs ih =>
    have rest := ih (h.validate q)
    rwa [List.append_assoc, List.singleton_append] at rest

/-! ## What is answered -/

/-- The documents outside that a new validator reads for a question. -/
def readsFor (schemas : Table TypeId Json) (q : Question) : List (String × Json) :=
  match schemas.get? q.payload.tag with
  | none => []
  | some source =>
    match Schema.compile source with
    | .ok fresh => fresh.readsOn q.occasion
    | .error _ => []

/-- No document that is read for a question is another one when a later question for the same type is
put. -/
def Steady (schemas : Table TypeId Json) (qs : List Question) : Prop :=
  qs.Pairwise fun q q' => q.payload.tag = q'.payload.tag → q'.documents.Holds (readsFor schemas q)

theorem readsFor_of_ok {source : Json} {fresh : Schema}
    (advertised : schemas.get? q.payload.tag = some source)
    (compiled : Schema.compile source = .ok fresh) : readsFor schemas q = fresh.readsOn q.occasion := by
  simp only [readsFor, advertised, compiled]

/-- Documents that stay the same are steady. -/
theorem steady_of_forall (docs : Documents) {qs : List Question} (same : ∀ q ∈ qs, q.documents = docs) :
    Steady schemas qs := by
  refine List.Pairwise.imp_of_mem (R := fun _ _ => True) ?_ (List.pairwise_of_forall fun _ _ => trivial)
  intro q q' mem mem' _ _
  rw [same q' mem', ← same q mem]
  unfold readsFor
  split
  · exact nofun
  · split
    · next compiled => exact Schema.holds_reads (Schema.kept_of_compile compiled)
    · exact nofun

/-- The documents that the schema for a question has kept are still the same when it is put. -/
theorem holds_of_steady {source : Json} {fresh : Schema}
    (advertised : schemas.get? q.payload.tag = some source) (compiled : Schema.compile source = .ok fresh)
    (steady : Steady schemas (asked ++ [q])) :
    q.documents.Holds (fresh.afterAll (occasionsFor asked q.payload.tag)).kept := by
  obtain ⟨earlier, -, last⟩ := List.pairwise_append.1 steady
  have reads (p : Question) (same : p.payload.tag = q.payload.tag) :
      readsFor schemas p = fresh.readsOn p.occasion :=
    readsFor_of_ok (same ▸ advertised) compiled
  apply Schema.holds_kept_of_steady (Schema.kept_of_compile compiled)
  -- among the earlier questions for the type, and from each of them to this one
  · rw [occasionsFor, List.pairwise_map, List.pairwise_filter]
    refine earlier.imp fun {p p'} step here here' => ?_
    have here := of_decide_eq_true here
    rw [← reads p here]
    exact step (here.trans (of_decide_eq_true here').symm)
  · intro o mem
    obtain ⟨p, listed, rfl⟩ := List.mem_map.1 mem
    obtain ⟨before, here⟩ := List.mem_filter.1 listed
    rw [← reads p (of_decide_eq_true here)]
    exact last p before q List.mem_cons_self (of_decide_eq_true here)

/-- A question is answered as by a new validator if no document has changed that was read before. -/
theorem Reflects.answer_eq (h : v.Reflects schemas asked) (steady : Steady schemas (asked ++ [q])) :
    (v.validate q.documents q.plugin q.payload).1 =
      ((ofSchemas schemas).validate q.documents q.plugin q.payload).1 := by
  have new := consistent_ofSchemas schemas q.documents
  cases advertised : schemas.get? q.payload.tag with
  | none =>
    rw [validate_of_unadvertised (h.advertises ▸ advertised),
      validate_of_unadvertised (v := ofSchemas schemas) advertised]
  | some source =>
    have own : v.schemas.get? q.payload.tag = some source := h.advertises ▸ advertised
    rw [judge_eq_of_consistent new advertised]
    unfold judge
    cases compiled : Schema.compile source with
    | error flaw => rw [validate_of_error own (h.absent_of_error advertised compiled) compiled]
    | ok fresh =>
      rw [validate_of_ok own compiled, h.getD_eq advertised compiled, Schema.afterAll_eq]
      dsimp only
      rw [Schema.violations_of_holds (Schema.kept_of_compile compiled)
        (holds_of_steady advertised compiled steady)]

/-- The answers to any questions are those of new validators. -/
theorem answers_eq_map (h : v.Reflects schemas asked) {qs : List Question}
    (steady : Steady schemas (asked ++ qs)) : (v.answerAll qs).1 =
      qs.map fun q => ((ofSchemas schemas).validate q.documents q.plugin q.payload).1 := by
  -- what was asked before grows with every question
  induction qs generalizing v asked with
  | nil => rfl
  | cons q qs ih =>
    rw [← List.singleton_append, ← List.append_assoc] at steady
    have first := h.answer_eq (List.pairwise_append.1 steady).1
    have rest := ih (h.validate q) steady
    rw [List.map_cons, ← first, ← rest]
    rfl

/-- Let one validator judge any payloads, for any plugins and one after another, and let no document
outside that was read for one of them be another one when a later one of the same type is judged. Then
each of them is told what a new validator for the same schemas would tell it then. At every point, and
whatever documents change, the validator still has the schemas that it was made with, and it keeps
exactly those of the types asked for so far whose schema compiles, each once: for each of them what its
own schema compiles to, once that has judged the payloads of the type, with the documents that it has
read for them. -/
theorem answers_as_new (schemas : Table TypeId Json) (qs : List Question) :
    (Steady schemas qs → ((ofSchemas schemas).answerAll qs).1 =
        qs.map fun q => ((ofSchemas schemas).validate q.documents q.plugin q.payload).1) ∧
      ∀ n, ((ofSchemas schemas).answerAll (qs.take n)).2.schemas = schemas ∧
        ((ofSchemas schemas).answerAll (qs.take n)).2.compiled.keys.Nodup ∧
        ∀ t schema, ((ofSchemas schemas).answerAll (qs.take n)).2.compiled.get? t = some schema ↔
          (∃ q ∈ qs.take n, q.payload.tag = t) ∧
            ∃ source fresh, schemas.get? t = some source ∧ Schema.compile source = .ok fresh ∧
              schema = fresh.afterAll (occasionsFor (qs.take n) t) := by
  have new := reflects_ofSchemas schemas
  refine ⟨fun steady => answers_eq_map new steady, fun n => ?_⟩
  have kept := reflects_afterAll new (qs.take n)
  exact ⟨kept.advertises, kept.ascending.nodup_keys, kept.kept_iff⟩

/-- A schema for one type, which is a document outside. -/
def outsideSchemas : Table TypeId Json := [(.ofName "t", .obj [("$ref", .str "file:///a.json")])]

/-- The one document outside that there is: the schema that every value is valid for, or none. -/
def oneDocument (anything : Bool) : Documents where
  found := [("file:///a.json", .bool anything)]
  ascending := List.pairwise_singleton _ _
  fault _ := "No such file or directory (os error 2)"

/-- Payloads of the type, judged while the document is as given. -/
def questionsWith (anything : List Bool) : List Question :=
  anything.map fun b => ⟨oneDocument b, ⟨"p"⟩, { tag := .ofName "t", fields := [] }⟩

/-- The document stays the same. -/
theorem same_document_seen : Steady outsideSchemas (questionsWith [false, false]) ∧
    ((ofSchemas outsideSchemas).answerAll (questionsWith [false, false])).1 =
      (questionsWith [false, false]).map fun q =>
        ((ofSchemas outsideSchemas).validate q.documents q.plugin q.payload).1 := by
  have steady : Steady outsideSchemas (questionsWith [false, false]) := by
    apply steady_of_forall (oneDocument false)
    intro q mem
    simp only [questionsWith, List.map_cons, List.map_nil, List.mem_cons, List.not_mem_nil, or_false,
      or_self] at mem
    rw [mem]
  exact ⟨steady, (answers_as_new outsideSchemas _).1 steady⟩

/-- The first payload is valid, and then the document changes. A new validator would refuse the second
payload, but it is judged by the document as it was. -/
theorem changed_document_unseen :
    (((ofSchemas outsideSchemas).answerAll (questionsWith [true, false])).1.map Except.isOk =
        [true, true]) ∧
      ((questionsWith [true, false]).map fun q =>
        ((ofSchemas outsideSchemas).validate q.documents q.plugin q.payload).1.isOk) =
        [true, false] := by
  decide +kernel

end Validator

end PluginKit
