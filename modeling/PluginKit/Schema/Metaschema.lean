import PluginKit.Schema.Violation

/-!
# The schemas of schemas

Each draft of the schema language described in itself. A document is a schema of a draft if the schema of
schemas finds nothing wrong with it.
-/

namespace PluginKit.Schema.Metaschema

/-- A value of a type. -/
def typed (name : String) (more : List (String × Json) := []) : Json :=
  .obj (("type", .str name) :: more)

/-- A reference into the document. -/
def ref (target : String) : Json := .obj [("$ref", .str target)]

/-- A schema. -/
def schema : Json := ref "#"

/-- An array of schemas that is not empty. -/
def schemas : Json := ref "#/definitions/schemaArray"

/-- Strings without repetition. -/
def names : Json := ref "#/definitions/stringArray"

/-- A choice. -/
def anyOf (options : List Json) (more : List (String × Json) := []) : Json :=
  .obj (("anyOf", .arr options) :: more)

/-- Schemas by name. -/
def named (more : List (String × Json) := []) : Json :=
  typed "object" ([("additionalProperties", schema), ("default", .obj [])] ++ more)

/-- The schema that every value is valid for. -/
def anything : Draft → Json
  | .seven => .bool true
  | _ => .obj []

/-- The name in a draft of the schema of numbers that are not negative. -/
def countName : Draft → String
  | .four => "positiveInteger"
  | _ => "nonNegativeInteger"

/-- A number that is not negative. -/
def count (draft : Draft) : Json := ref ("#/definitions/" ++ countName draft)

/-- A number that is not negative, zero by default. -/
def countOrZero (draft : Draft) : Json := ref ("#/definitions/" ++ countName draft ++ "Default0")

/-- The definitions of the document for its own use. -/
def definitions (draft : Draft) : Json :=
  .obj
    [("schemaArray", typed "array" [("minItems", .nat 1), ("items", schema)]),
      (countName draft, typed "integer" [("minimum", .nat 0)]),
      (countName draft ++ "Default0",
        .obj [("allOf", .arr [count draft, .obj [("default", .nat 0)]])]),
      ("simpleTypes", .obj [("enum", .arr (ValueType.all.map fun t => .str t.name))]),
      ("stringArray",
        typed "array"
          ([("items", typed "string"), ("uniqueItems", .bool true)] ++
            if draft = .four then [("minItems", .nat 1)] else [("default", .arr [])]))]

/-- Keywords that are the same in all drafts. -/
def common (draft : Draft) : List (String × Json) :=
  [("title", typed "string"), ("description", typed "string"), ("default", anything draft),
    ("maximum", typed "number"), ("minimum", typed "number"),
    ("maxLength", count draft), ("minLength", countOrZero draft),
    ("pattern", typed "string" [("format", .str "regex")]),
    ("items", anyOf [schema, schemas] [("default", anything draft)]),
    ("maxItems", count draft), ("minItems", countOrZero draft),
    ("uniqueItems", typed "boolean" [("default", .bool false)]),
    ("maxProperties", count draft), ("minProperties", countOrZero draft), ("required", names),
    ("definitions", named), ("properties", named),
    ("dependencies", typed "object" [("additionalProperties", anyOf [schema, names])]),
    ("type",
      anyOf
        [ref "#/definitions/simpleTypes",
          typed "array" [("items", ref "#/definitions/simpleTypes"), ("minItems", .nat 1),
            ("uniqueItems", .bool true)]]),
    ("format", typed "string"), ("allOf", schemas), ("anyOf", schemas), ("oneOf", schemas),
    ("not", schema)]

/-- An array of different values. -/
def options : Json := typed "array" [("minItems", .nat 1), ("uniqueItems", .bool true)]

/-- Keywords of the fourth draft, where limits are exclusive or not and a flag may stand for a schema. -/
def keywordsOfFour : List (String × Json) :=
  let orFlag := anyOf [typed "boolean", schema] [("default", .obj [])]
  [("id", typed "string"), ("$schema", typed "string"), ("enum", options),
    ("multipleOf", typed "number" [("minimum", .nat 0), ("exclusiveMinimum", .bool true)]),
    ("exclusiveMaximum", typed "boolean"), ("exclusiveMinimum", typed "boolean"),
    ("additionalItems", orFlag), ("additionalProperties", orFlag), ("patternProperties", named)]

/-- Keywords since the sixth draft. -/
def keywordsSinceSix (draft : Draft) : List (String × Json) :=
  let reference := typed "string" [("format", .str "uri-reference")]
  [("$id", reference), ("$schema", typed "string" [("format", .str "uri")]), ("$ref", reference),
    ("examples", typed "array" [("items", anything draft)]),
    ("multipleOf", typed "number" [("exclusiveMinimum", .nat 0)]),
    ("exclusiveMaximum", typed "number"), ("exclusiveMinimum", typed "number"),
    ("additionalItems", schema), ("contains", schema), ("additionalProperties", schema),
    ("propertyNames", schema), ("const", anything draft)]

/-- Keywords of the sixth draft. -/
def keywordsOfSix : List (String × Json) :=
  keywordsSinceSix .six ++ [("enum", options), ("patternProperties", named)]

/-- Keywords of the seventh draft. -/
def keywordsOfSeven : List (String × Json) :=
  let flag := typed "boolean" [("default", .bool false)]
  keywordsSinceSix .seven ++
    [("$comment", typed "string"), ("readOnly", flag), ("writeOnly", flag),
      ("patternProperties", named [("propertyNames", .obj [("format", .str "regex")])]),
      ("enum", typed "array" [("items", .bool true)]),
      ("contentMediaType", typed "string"), ("contentEncoding", typed "string"),
      ("if", schema), ("then", schema), ("else", schema)]

/-- The schemas of the values of every keyword. -/
def keywords (draft : Draft) : Json :=
  .obj <| common draft ++
    match draft with
    | .four => keywordsOfFour
    | .six => keywordsOfSix
    | .seven => keywordsOfSeven

/-- The members that are not the same in all drafts. -/
def heading (draft : Draft) : List (String × Json) :=
  if draft = .four then
    [("description", .str "Core schema meta-schema"), ("type", .str "object"),
      ("dependencies",
        .obj [("exclusiveMaximum", .arr [.str "maximum"]), ("exclusiveMinimum", .arr [.str "minimum"])])]
  else
    [("title", .str "Core schema meta-schema"), ("type", .arr [.str "object", .str "boolean"])]

/-- The schema of schemas of a draft. -/
def document (draft : Draft) : Json :=
  Json.sorted <| .obj <| heading draft ++
    [(draft.idKeyword, .str (draft.uri ++ "#")), ("$schema", .str (draft.uri ++ "#")),
      ("definitions", definitions draft), ("properties", keywords draft),
      ("default", anything draft)]

/-- The schemas of schemas by their names. -/
def documents : List (String × Json) := Draft.all.map fun d => (d.uri, document d)

end PluginKit.Schema.Metaschema
