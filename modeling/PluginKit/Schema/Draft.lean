import PluginKit.Json.Basic

/-!
# Drafts

The schema language has several drafts. A document names the one it is written in, and one that names none
that is known here is written in the seventh.
-/

namespace PluginKit.Schema

/-- A draft of the schema language. -/
inductive Draft where
  | four
  | six
  | seven
  deriving DecidableEq, Repr

namespace Draft

/-- All drafts. -/
def all : List Draft := [.four, .six, .seven]

/-- The identifier of a draft in documents. -/
def uri : Draft → String
  | .four => "http://json-schema.org/draft-04/schema"
  | .six => "http://json-schema.org/draft-06/schema"
  | .seven => "http://json-schema.org/draft-07/schema"

/-- The draft of a name. -/
def ofUri? (s : String) : Option Draft := all.find? fun d => d.uri == s

/-- The draft that a document is written in. Hash signs at the end of its name do not count. -/
def ofDocument (document : Json) : Draft :=
  (do
    let name ← (← document.get? "$schema").asString?
    ofUri? (String.ofList (name.toList.reverse.dropWhile (· == '#')).reverse)).getD .seven

/-- The keyword under which a schema has an identifier. -/
def idKeyword : Draft → String
  | .four => "id"
  | _ => "$id"

/-- The identifier of a schema. Beside a reference it does not count. -/
def id? (d : Draft) (schema : Json) : Option String :=
  if (schema.get? "$ref").isSome then none else (schema.get? d.idKeyword).bind Json.asString?

/-- Whether a draft came with another one or before it. -/
def since (d first : Draft) : Bool :=
  match first with
  | .four => true
  | .six => d != .four
  | .seven => d == .seven

end Draft

end PluginKit.Schema
