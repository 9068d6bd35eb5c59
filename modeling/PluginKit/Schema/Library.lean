import PluginKit.Schema.Documents
import PluginKit.Schema.Metaschema
import PluginKit.Url.Reader

/-!
# What references lead to

A schema has an identifier of its own, or else `json-schema:///`. Parts of it may have identifiers as
well, read from the place where they stand. A reference leads to the part whose identifier it is, or from
a document along a pointer. The schema, its named parts and the schemas of schemas are documents of its
own; any other document is one outside.

## Main statements

- `resolve_of_inside`: where a reference leads that needs no document outside does not depend on those.
-/

namespace PluginKit.Schema

/-- The scope of a schema: its draft, and the place from which references are read. -/
structure Scope where
  draft : Draft
  base : Url

/-- A schema and what references in it can lead to. -/
structure Library where
  draft : Draft
  root : Json
  base : Url
  named : List (String × Json)

namespace Library

/-- The identifier of a schema that states none. -/
def unnamed : Url :=
  { scheme := "json-schema".toList, authority := some { host := .empty }, path := .steps [[]] }

/-- An identifier without a fragment that is empty. -/
def withoutEmptyFragment (u : Url) : Url := if u.fragment = some [] then u.withoutFragment else u

/-- Members whose values hold no schemas. -/
def holdsValues (key : String) : Bool := key == "enum" || key == "const"

mutual
/-- The parts of a value that have identifiers, in the order in which they start. -/
def namedIn (draft : Draft) (base : Url) : Json → Except Url.Flaw (List (String × Json))
  | .obj ms =>
    match draft.id? (.obj ms) with
    | some id => do
      let here ← base.join id
      let inside ← namedInMembers draft (withoutEmptyFragment here) ms
      return ((withoutEmptyFragment here).text, .obj ms) :: inside
    | none => namedInMembers draft base ms
  | .arr xs => namedInItems draft base xs
  | _ => .ok []
/-- `namedIn` on every item. -/
def namedInItems (draft : Draft) (base : Url) : List Json → Except Url.Flaw (List (String × Json))
  | [] => .ok []
  | x :: xs => do return (← namedIn draft base x) ++ (← namedInItems draft base xs)
/-- `namedIn` on every member that may hold schemas. -/
def namedInMembers (draft : Draft) (base : Url) :
    List (String × Json) → Except Url.Flaw (List (String × Json))
  | [] => .ok []
  | (k, x) :: ms => do
    let here ← if holdsValues k then .ok [] else namedIn draft base x
    return here ++ (← namedInMembers draft base ms)
end

/-- The library of a schema. Every identifier in it has to be one. -/
def ofSchema (draft : Draft) (root : Json) : Except Url.Flaw Library := do
  let base ← match draft.id? root with
    | some id => Url.parse id
    | none => .ok unnamed
  return { draft, root, base, named := ← namedIn draft base root }

/-! ## Documents -/

/-- The document of its own that has an identifier without a fragment. -/
def own? (l : Library) (u : Url) : Option Json :=
  if u = unnamed then some l.root
  else (l.named.reverse.lookup u.text).or (Metaschema.documents.lookup u.text)

/-- The document of an identifier without a fragment: of its own, or else one outside. -/
def document (l : Library) (docs : Documents) (u : Url) : Except Cause Json :=
  match l.own? u with
  | some document => .ok document
  | none => (docs.get u).mapError (.foreignReference u.text)

/-! ## Pointers -/

/-- Goes along the names of a pointer. Identifiers of objects on the way are collected. -/
def descend (draft : Draft) : List (List Char) → Json → Option (List String × Json)
  | [], v => some ([], v)
  | name :: rest, v => do
    let (ids, part) ← descend draft rest (← v.under? name)
    return ((draft.id? v).toList ++ ids, part)

/-- The names of a pointer, which starts with a slash unless it is empty. -/
def names? (pointer : String) : Option (List (List Char)) :=
  match Text.splitAll '/' pointer.toList with
  | [[]] => some []
  | [] :: parts => some (parts.map Json.pointerName)
  | _ => none

/-- The pointer in the fragment of a reference. -/
def pointer (target : Url) : Except Cause String :=
  match Text.read ⟨(Url.Percent.octets (target.fragment.getD [])).toArray⟩ with
  | .ok s => .ok s
  | .error flaw => .error (.badText flaw)

/-- The part of a document that the pointer of a reference leads to. -/
def along (l : Library) (target : Url) (document : Json) (pointer : String) :
    Except Cause (Scope × Json) :=
  match (names? pointer).bind fun names => descend l.draft names document with
  | none => .error (.danglingReference target.text)
  | some (ids, part) =>
    match ids.foldlM Url.join target.withoutFragment with
    | .ok base => .ok ({ draft := l.draft, base }, part)
    | .error flaw => .error (.badIdentifier flaw)

/-- The part that a reference leads to, and the place from which references in it are read. -/
def resolve (l : Library) (docs : Documents) (target : Url) : Except Cause (Scope × Json) :=
  match pointer target with
  | .error cause => .error cause
  | .ok pointer =>
    match l.named.lookup target.text with
    | some part => .ok ({ draft := l.draft, base := target.withoutFragment }, part)
    | none =>
      match l.document docs target.withoutFragment with
      | .error cause => .error cause
      | .ok document => l.along target document pointer

/-- The document outside that a reference asks for, if it asks for one. -/
def outside? (l : Library) (target : Url) : Option Url :=
  match pointer target with
  | .error _ => none
  | .ok _ =>
    if (l.named.lookup target.text).isSome || (l.own? target.withoutFragment).isSome then none
    else some target.withoutFragment

/-- A reference that asks for no document outside leads to the same whatever these are. -/
theorem resolve_of_inside {l : Library} {target : Url} (inside : l.outside? target = none)
    (docs docs' : Documents) : l.resolve docs target = l.resolve docs' target := by
  unfold outside? at inside
  unfold resolve document
  cases read : pointer target with
  | error cause => rfl
  | ok pointer =>
    cases named : l.named.lookup target.text with
    | some part => rfl
    | none =>
      cases own : l.own? target.withoutFragment with
      | some document => rfl
      | none => simp [read, named, own] at inside

/-- How many values there are in all documents of its own together. -/
def size (l : Library) : Nat :=
  l.root.size + Json.sizeMembers Metaschema.documents

end Library

end PluginKit.Schema
