import PluginKit.Schema.Part

/-!
# Schemas

A document is a schema if the schema of schemas finds nothing wrong with it and every keyword in it has a
value that it can use. What references lead to is looked at when a value is judged by them, and what is
wrong with it is a violation of that value.

A reference may lead to a document outside. That is asked for when a value is first judged by the
reference, and kept from then on.

## Main statements

- `load_of_compile`: what compiles is the schema of its document.
- `judge_of_inside`: the judge of a part of a schema does not depend on documents outside.
-/

namespace PluginKit

/-- A schema: what references in it can lead to, its judge, the judges of the parts that its own
references lead to, and the documents outside that it has read. -/
structure Schema where
  library : Schema.Library
  judge : Schema.Judge
  parts : List (String × Schema.Compiled)
  kept : Table String Json := []

namespace Schema

/-- The judge of the part that a reference leads to. -/
def Library.judge (l : Library) (docs : Documents) (target : Url) : Compiled :=
  match l.resolve docs target with
  | .ok (scope, source) => (Part.ofJson scope source).judge
  | .error cause => .error { place := .nowhere, part := .null, cause }

/-- The judge of a part of a schema does not depend on documents outside. -/
theorem Library.judge_of_inside {l : Library} {target : Url} (inside : l.outside? target = none)
    (docs docs' : Documents) : l.judge docs target = l.judge docs' target := by
  rw [judge, judge, resolve_of_inside inside docs docs']

/-- Judges for different places inside. -/
def Library.judges (l : Library) : List Url → List (String × Compiled)
  | [] => []
  | u :: us =>
    let rest := l.judges us
    if (l.outside? u).isSome || (rest.lookup u.text).isSome then rest
    else (u.text, l.judge .none u) :: rest

/-- The schema of a document. -/
def ofLibrary (l : Library) : Except Violation Schema :=
  let part := Part.ofJson ⟨l.draft, l.base⟩ l.root
  part.judge.map fun judge => { library := l, judge, parts := l.judges part.targets }

/-- The library of a document, or the identifier in it that is none. -/
def libraryOf (draft : Draft) (source : Json) : Except Violation Library :=
  match Library.ofSchema draft source with
  | .ok l => .ok l
  | .error flaw => Part.unread flaw

/-- The schema of a document, which is not looked at as a whole. -/
def load (draft : Draft) (source : Json) : Except Violation Schema :=
  match libraryOf draft source with
  | .ok library => ofLibrary library
  | .error v => .error v

/-! ## Judging -/

/-- The judge of what a reference leads to. -/
def part (s : Schema) (docs : Documents) (target : Url) : Compiled :=
  (s.parts.lookup target.text).getD (s.library.judge docs target)

/-- The document outside that is read for a reference, if there is one. -/
def reading (s : Schema) (docs : Documents) (target : Url) : List Finding :=
  match s.library.outside? target with
  | some u => if (docs.get u).isOk then [.read u.text] else []
  | none => []

/-- Judges by reference, following at most so many references inside one another. -/
def follow (s : Schema) (docs : Documents) : Nat → References
  | 0 => fun _ _ => []
  | n + 1 => fun target v =>
    s.reading docs target ++
      match s.part docs target with
      | .ok judge => judge (s.follow docs n) v
      | .error violation => [.wrong violation]

/-- How many references inside one another are followed: one for every place in the documents at every
step into the value. -/
def reach (s : Schema) (docs : Documents) (v : Json) : Nat :=
  (s.library.size + docs.size + 1) * (v.depth + 2)

/-- The findings in a value, with the documents outside as given or as the schema has kept them. -/
def findings (s : Schema) (docs : Documents) (v : Json) : List Finding :=
  let docs := docs.keeping s.kept
  s.judge (s.follow docs (s.reach docs v)) v

/-- The violations of a schema by a value. -/
def violations (s : Schema) (docs : Documents) (v : Json) : List Violation :=
  (s.findings docs v).filterMap Finding.violation?

/-- The documents outside that are read to judge a value. -/
def reads (s : Schema) (docs : Documents) (v : Json) : List (String × Json) :=
  (s.findings docs v).filterMap fun f =>
    f.name?.bind fun name => ((docs.keeping s.kept).found.get? name).map fun d => (name, d)

/-- The schema once it has judged a value. It keeps the documents that it has read. -/
def after (s : Schema) (docs : Documents) (v : Json) : Schema :=
  { s with kept := s.kept.union (s.reads docs v) }

/-! ## Compiling -/

/-- The schemas of schemas. -/
def metaschemas : List (Draft × Schema) :=
  Draft.all.filterMap fun d => ((load d (Metaschema.document d)).toOption).map fun s => (d, s)

/-- The violations of the schema of schemas of a draft by a document. The schemas of schemas refer to no
documents outside. -/
def faults (draft : Draft) (source : Json) : List Violation :=
  match metaschemas.lookup draft with
  | some s => s.violations .none source
  | none => []

/-- The schema of a document that is one, or the first thing wrong with it. -/
def compile (source : Json) : Except Violation Schema :=
  match libraryOf (Draft.ofDocument source) source with
  | .error v => .error v
  | .ok library =>
    match faults (Draft.ofDocument source) source with
    | [] => ofLibrary library
    | v :: _ => .error v

/-- A schema that a document compiles to is loaded by the draft that the document names. -/
theorem load_of_compile {source : Json} {s : Schema} (h : compile source = .ok s) :
    load (Draft.ofDocument source) source = .ok s := by
  unfold compile at h
  unfold load
  split at h
  · cases h
  · next library hl =>
    rw [hl]
    split at h
    · exact h
    · cases h

end Schema

end PluginKit
