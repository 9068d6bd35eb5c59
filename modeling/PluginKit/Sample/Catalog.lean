import PluginKit.Contract
import PluginKit.Scheme.Basic
import PluginKit.System.Files

/-!
# Catalogs of components

The handler of a plugin whose repositories carry the names of their components with them. A page
starts after the component that the last one ended with.
-/

namespace PluginKit.Sample

/-- A repository with its components. -/
structure Repository where
  tag : TypeId := TypeId.empty
  name : String := ""
  components : List String := []
  pageSize : Nat := 0
  requiresAuth : Bool := false
  deriving DecidableEq, Repr, Inhabited

namespace Repository

/-- The schema of repository specifications. -/
def schema : Json :=
  .obj [("$schema", .str "http://json-schema.org/draft-07/schema#"),
    ("definitions", .obj [("Type", .obj [("type", .str "string")])]),
    ("description", .str "A repository whose component names are part of its specification."),
    ("properties", .obj [
      ("components", .obj [("default", .arr []),
        ("description", .str "Component names in listing order."),
        ("items", .obj [("type", .str "string")]), ("type", .str "array")]),
      ("name", .obj [("default", .str "default"),
        ("description", .str "Repository name, used as its credential identity."),
        ("type", .str "string")]),
      ("pageSize", .obj [("default", .nat 2), ("description", .str "Names returned per page."),
        ("format", .str "uint"), ("minimum", .num (.float Binary64.zero)),
        ("type", .str "integer")]),
      ("requiresAuth", .obj [("default", .bool false),
        ("description", .str "Refuse to list without a `token` credential."),
        ("type", .str "boolean")]),
      ("type", .obj [("$ref", .str "#/definitions/Type")])]),
    ("required", .arr [.str "type"]), ("title", .str "SampleRepository"), ("type", .str "object")]

/-- A specification as an object. -/
def toJson (r : Repository) : Json :=
  .obj [("type", r.tag.toJson), ("name", .str r.name),
    ("components", .arr (r.components.map Json.str)), ("pageSize", .nat r.pageSize),
    ("requiresAuth", .bool r.requiresAuth)]

/-- A specification in a document. -/
def decoder : Json.Decoder Repository :=
  .record "struct SampleRepository"
    (Repository.mk <$> .required "type" TypeId.decoder <*> .withDefault "name" .string "default" <*>
      .withDefault "components" (.list .string) [] <*> .withDefault "pageSize" .count 2 <*>
      .withDefault "requiresAuth" .bool false)

/-- Repositories as a prototype. -/
def prototype : Prototype Repository where
  name := "ocm_oracle::catalog::SampleRepository"
  schema := schema
  blank := {}
  tag := Repository.tag
  withTag r t := { r with tag := t }
  decoder := decoder
  toJson := toJson

end Repository

namespace Catalog

/-- The components after one of that name, or nothing if there is none. -/
def after (last : String) : List String → Option (List String)
  | [] => none
  | c :: rest => if c = last then some rest else after last rest

/-- The components from where a page starts. -/
def from? (last : String) (components : List String) : Option (List String) :=
  if last = "" then some components else after last components

/-- The names of a page and whether more follow it. A page holds at least one name. -/
def page (r : Repository) (last : String) : Outcome (List String × Bool) :=
  match from? last r.components with
  | none => .error (.rejected 400 ("unknown cursor " ++ last))
  | some rest => .ok (rest.take (max r.pageSize 1), max r.pageSize 1 < rest.length)

/-- Reads a repository specification. -/
def decode (s : Scheme) (p : Payload) : Outcome Repository :=
  Outcome.ofScheme (s.decode Repository.prototype p)

/-- The identity of a repository is its name. -/
def identity (s : Scheme) (r : Wire.IdentityRequest) : Outcome Wire.IdentityResponse :=
  (decode s r.object).map fun repo => ⟨.ofPairs [("repository", repo.name)]⟩

/-- One page of names. A repository may demand a token. -/
def list (s : Scheme) (r : Wire.ListRequest) (c : Credentials) : Outcome Wire.ListResponse := do
  let repo ← decode s r.repository
  if repo.requiresAuth ∧ c.get? "token" = none then
    throw (.rejected 401 ("repository " ++ repo.name ++ " requires a token"))
  let (names, more) ← page repo r.last
  return { names, last := if more then names.getLast? else none }

/-- The catalog as a lister of components. -/
def lister (s : Scheme) : ListerContract Files where
  identity r := .lift (identity s r)
  page r c := .lift (list s r c)

end Catalog

end PluginKit.Sample
