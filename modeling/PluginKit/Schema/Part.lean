import PluginKit.Schema.Judge
import PluginKit.Schema.Library

/-!
# Parts of schemas

A schema document is read from the inside out. Every value in it is given all the meanings that a
keyword may ask of it: that of a schema, of a list of schemas and of schemas by name. A keyword takes
the meaning it needs, from its own value or from those beside it, and a value that does not have this
meaning is at fault. The keywords of a schema judge in the order of their names, and a reference replaces
everything beside it.
-/

namespace PluginKit.Schema

/-- A judge, or what is wrong with the schema. -/
abbrev Compiled := Except Violation Judge

/-- A value in a schema document with its meanings, and the places that references in it name. -/
structure Part where
  source : Json
  judge : Compiled
  items : List Compiled := []
  members : List (String × Compiled) := []
  targets : List Url := []

namespace Part

/-! ## Faults -/

/-- A value that is at fault in a schema. -/
def fault {α : Type} (source : Json) (cause : Cause) : Except Violation α :=
  .error { place := .inSchema [], part := source, cause }

/-- A value of a wrong type. -/
def misfit {α : Type} (source : Json) (allowed : List ValueType) : Except Violation α :=
  fault source (.wrongType allowed)

/-- An identifier that is none. It is at no place. -/
def unread {α : Type} (flaw : Url.Flaw) : Except Violation α :=
  .error { place := .nowhere, part := .null, cause := .badIdentifier flaw }

/-- The result of compiling a part that stands under a name. -/
def within {α : Type} (name : String) (r : Except Violation α) : Except Violation α :=
  r.mapError (Violation.within name)

/-! ## Meanings -/

/-- The members of the schema that a value stands beside. -/
abbrev Siblings := List (String × Part)

/-- The value of a keyword as a schema. -/
def schemaAt (key : String) (p : Part) : Compiled := within key p.judge

/-- The value of a keyword as a list of schemas. -/
def schemasAt (key : String) (p : Part) : Except Violation (List Judge) :=
  match p.source with
  | .arr _ => within key (p.items.zipIdx.mapM fun e => within (toString e.2) e.1)
  | v => misfit v [.array]

/-- The value of a keyword as schemas by name. -/
def namedAt (key : String) (p : Part) : Except Violation (List (String × Judge)) :=
  match p.source with
  | .obj _ => within key (p.members.mapM fun e => (within e.1 e.2).map fun j => (e.1, j))
  | v => misfit v [.object]

/-- Schemas by patterns. -/
def patternsAt (p : Part) : Except Violation (List (Pattern.Matcher × Judge)) :=
  match p.source with
  | .obj ms =>
    within "patternProperties" <|
      (ms.zip p.members).mapM fun e =>
        match Pattern.Matcher.read? e.1.1.toList with
        | none => fault e.1.2 (.notOfFormat "regex")
        | some pattern => (within e.1.1 e.2.2).map fun j => (pattern, j)
  | v => misfit v [.object]

/-- The value of a keyword as a string. -/
def text (p : Part) : Except Violation String :=
  match p.source with
  | .str s => .ok s
  | v => misfit v [.string]

/-- The number of a limit. -/
def number? : Json → Option Json.Number
  | .num n => some n
  | _ => none

/-- The largest count. Larger ones are read as it. -/
def largestCount : Nat := 0xFFFFFFFFFFFFFFFF

/-- The value of a keyword as a number of things. The fourth draft takes only numbers that are written as
integers. -/
def countAt (draft : Draft) (key : String) (p : Part) : Except Violation Nat :=
  within key <|
    match p.source with
    | .num (.int n) => if 0 ≤ n then .ok n.toNat else fault p.source (.belowMinimum (.int 0))
    | .num n =>
      if draft ≠ .four ∧ n.isWhole then .ok (min largestCount (n.ratio.1 / n.ratio.2).toNat)
      else misfit p.source [.integer]
    | v => misfit v [.integer]

/-- Names of members. -/
def namesAt (key : String) (v : Json) : Except Violation (List String) :=
  within key <|
    match v with
    | .arr xs => xs.mapM fun x =>
      match x with
      | .str s => .ok s
      | _ => misfit x [.string]
    | v => misfit v [.array]

/-- The type of a name. -/
def typeNamed (s : String) : Except Violation ValueType :=
  match ValueType.ofName? s with
  | some t => .ok t
  | none => .error { place := .nowhere, part := .null, cause := .badSchema }

/-- One of several types. -/
def typeListed : Json → Except Violation ValueType
  | .str s =>
    match ValueType.ofName? s with
    | some t => .ok t
    | none => fault (.str s) (.notListed (.arr (ValueType.all.map fun t => .str t.name)))
  | v => misfit v [.string]

/-- The types that `type` names, in the order of types. -/
def types (p : Part) : Except Violation (List ValueType) :=
  match p.source with
  | .str s => (typeNamed s).map fun t => [t]
  | .arr [.str s] => (typeNamed s).map fun t => [t]
  | .arr xs =>
    (within "type" (xs.mapM typeListed)).map fun named => ValueType.all.filter fun t => t ∈ named
  | v => misfit v [.array, .string]

/-! ## Keywords -/

/-- Whether further members are judged, together with those that are known. -/
def judgesOthers (siblings : Siblings) : Bool :=
  match siblings.lookup "additionalProperties" with
  | some p => p.source.isObject || p.source == .bool false
  | none => false

/-- The judges of members by the patterns that their names match. -/
def patternsBeside (siblings : Siblings) : Except Violation (List (Pattern.Matcher × Judge)) :=
  match siblings.lookup "patternProperties" with
  | some p => p.patternsAt
  | none => .ok []

/-- The judges of members by their names. -/
def namedBeside (siblings : Siblings) : Except Violation (List (String × Judge)) :=
  match siblings.lookup "properties" with
  | some p => p.namedAt "properties"
  | none => .ok []

/-- Members that no other keyword speaks about. -/
def otherMembers (siblings : Siblings) (p : Part) : Option Compiled :=
  match patternsBeside siblings, p.source with
  | .error v, _ => some (.error v)
  | _, .bool true => none
  | .ok patterns, .bool false =>
    some <|
      if (siblings.lookup "properties").isNone ∧ (siblings.lookup "patternProperties").isNone then
        .ok .noMembers
      else (namedBeside siblings).map fun named => .membersOnly named patterns
  | .ok patterns, _ =>
    some do
      let named ← namedBeside siblings
      return .membersOr named patterns (← p.schemaAt "additionalProperties")

/-- Items after those that have schemas of their own. Where no items are allowed, none are further. -/
def otherItems (siblings : Siblings) (p : Part) : Option Compiled :=
  match (siblings.lookup "items").map source, p.source with
  | some (.arr xs), .obj _ => some ((p.schemaAt "additionalItems").map (.itemsFrom xs.length))
  | some (.arr xs), .bool false => some (.ok (.noItemsFrom xs.length))
  | some (.bool false), _ => some (.ok .refuse)
  | _, _ => none

/-- The judge that a condition chooses, if there are any cases. -/
def cases (siblings : Siblings) (p : Part) : Option Compiled :=
  match siblings.lookup "then", siblings.lookup "else" with
  | none, none => none
  | yes, no => some do
    let condition ← p.schemaAt "if"
    let yes ← (yes.map (schemaAt "then")).getD (.ok .accept)
    let no ← (no.map (schemaAt "else")).getD (.ok .accept)
    return .cases condition yes no

/-- Members that ask for others, by names or by a schema. -/
def dependencies (p : Part) : Compiled :=
  match p.source with
  | .obj ms =>
    (within "dependencies" <|
      (ms.zip p.members).mapM fun e =>
        match e.1.2 with
        | .arr _ => (namesAt "required" e.1.2).map fun names => (e.1.1, Judge.required names)
        | _ => (within e.1.1 e.2.2).map fun j => (e.1.1, j)).map .dependencies
  | v => misfit v [.object]

/-- The medium of a string. Its encoding is judged together with it. -/
def media (siblings : Siblings) (p : Part) : Option Compiled :=
  match p.source, (siblings.lookup "contentEncoding").map source with
  | .str "application/json", none => some (.ok .json)
  | .str "application/json", some (.str "base64") => some (.ok .jsonInBase64)
  | .str "application/json", some (.str _) => none
  | .str "application/json", some v => some (misfit v [.string])
  | .str _, _ => none
  | v, _ => some (misfit v [.string])

/-- The encoding of a string without a medium. -/
def encoding (siblings : Siblings) (p : Part) : Option Compiled :=
  match siblings.lookup "contentMediaType", p.source with
  | some _, _ => none
  | none, .str "base64" => some (.ok .base64)
  | none, .str _ => none
  | none, v => some (misfit v [.string])

/-- The pattern of a string. -/
def pattern (p : Part) : Compiled := do
  let s ← p.text
  match Dialect.matcher? s.toList with
  | some m => return .pattern s m
  | none => fault p.source (.notOfFormat "regex")

/-- The format of a string. -/
def format (draft : Draft) (p : Part) : Option Compiled :=
  match p.text with
  | .ok s => (Format.test? draft s).map fun test => .ok (.format s test)
  | .error v => some (.error v)

/-- The schemas of items. -/
def ofItems (p : Part) : Option Compiled :=
  match p.source with
  | .arr _ => some ((p.schemasAt "items").map .itemsInOrder)
  | .obj _ => some ((p.schemaAt "items").map (.itemsFrom 0))
  | .bool false => some ((p.schemaAt "items").map (.itemsFrom 0))
  | _ => none

/-- The names of members. -/
def ofNames (p : Part) : Option Compiled :=
  match p.source with
  | .obj _ => some ((p.schemaAt "propertyNames").map .names)
  | .bool false => some (.ok .noNames)
  | _ => none

/-- A divisor. -/
def divisor (p : Part) : Compiled :=
  match p.source with
  | .num n => .ok (.multipleOf n.toBinary64)
  | v => misfit v [.number]

/-- The options for a value. -/
def options (p : Part) : Compiled :=
  match p.source with
  | .arr xs => .ok (.enum xs)
  | v => misfit v [.array]

/-- A limit, which a flag beside it makes exclusive in the fourth draft. -/
def limit (draft : Draft) (siblings : Siblings) (flag : String) (inclusive exclusive : Json.Number → Judge)
    (p : Part) : Option Compiled :=
  let isExclusive := draft == .four && (siblings.lookup flag).any fun f => f.source == .bool true
  (number? p.source).map fun n => .ok (if isExclusive then exclusive n else inclusive n)

/-- The draft that a keyword came with. -/
def introduced (key : String) : Draft :=
  if key = "if" then .seven
  else if key ∈ ["const", "contains", "contentEncoding", "contentMediaType", "exclusiveMaximum",
      "exclusiveMinimum", "propertyNames"] then .six
  else .four

/-- The judge of a keyword that the draft knows, unless the keyword asks for nothing. -/
def ofKeyword (draft : Draft) (siblings : Siblings) (p : Part) : String → Option Compiled
  | "additionalItems" => otherItems siblings p
  | "additionalProperties" => otherMembers siblings p
  | "allOf" => some ((p.schemasAt "allOf").map .all)
  | "anyOf" => some ((p.schemasAt "anyOf").map .anyOf)
  | "const" => some (.ok (.const p.source))
  | "contains" => some ((p.schemaAt "contains").map .contains)
  | "contentEncoding" => encoding siblings p
  | "contentMediaType" => media siblings p
  | "dependencies" => some p.dependencies
  | "enum" => some p.options
  | "exclusiveMaximum" => (number? p.source).map fun n => .ok (.exclusiveMaximum n)
  | "exclusiveMinimum" => (number? p.source).map fun n => .ok (.exclusiveMinimum n)
  | "format" => p.format draft
  | "if" => cases siblings p
  | "items" => p.ofItems
  | "maximum" => p.limit draft siblings "exclusiveMaximum" .maximum .exclusiveMaximum
  | "maxItems" => some ((p.countAt draft "maxItems").map .maxItems)
  | "maxLength" => some ((p.countAt draft "maxLength").map .maxLength)
  | "maxProperties" => some ((p.countAt draft "maxProperties").map .maxMembers)
  | "minimum" => p.limit draft siblings "exclusiveMinimum" .minimum .exclusiveMinimum
  | "minItems" => some ((p.countAt draft "minItems").map .minItems)
  | "minLength" => some ((p.countAt draft "minLength").map .minLength)
  | "minProperties" => some ((p.countAt draft "minProperties").map .minMembers)
  | "multipleOf" => some p.divisor
  | "not" => some ((p.schemaAt "not").map (.exclude p.source))
  | "oneOf" => some ((p.schemasAt "oneOf").map .oneOf)
  | "pattern" => some p.pattern
  | "patternProperties" => if judgesOthers siblings then none else some (p.patternsAt.map .matching)
  | "properties" => if judgesOthers siblings then none else some ((p.namedAt "properties").map .members)
  | "propertyNames" => p.ofNames
  | "required" => some ((namesAt "required" p.source).map .required)
  | "type" => some (p.types.map (.ofType draft))
  | "uniqueItems" => if p.source == .bool true then some (.ok .uniqueItems) else none
  | _ => none

/-- The judge of a keyword, unless the keyword asks for nothing or the draft does not know it. -/
def keyword (draft : Draft) (siblings : Siblings) (p : Part) (key : String) : Option Compiled :=
  if draft.since (introduced key) then ofKeyword draft siblings p key else none

/-! ## Schemas -/

/-- The judge of a schema with the given members. -/
def judgeOf (scope : Scope) (siblings : Siblings) : Compiled :=
  match (siblings.lookup "$ref").map source with
  | some (.str target) =>
    match scope.base.join target with
    | .ok url => .ok (.reference url)
    | .error flaw => unread flaw
  | some v => misfit v [.string]
  | none => (siblings.filterMap fun e => keyword scope.draft siblings e.2 e.1).mapM id |>.map .all

/-- The target of the reference of a schema with the given members. -/
def ownTarget (scope : Scope) (siblings : Siblings) : List Url :=
  match (siblings.lookup "$ref").map source with
  | some (.str target) => (scope.base.join target).toOption.toList
  | _ => []

/-- The scope inside a schema: an identifier of its own is another place. -/
def enter (scope : Scope) (schema : Json) : Except Url.Flaw Scope :=
  match scope.draft.id? schema with
  | some id => (scope.base.join id).map fun base => { scope with base }
  | none => .ok scope

/-- A value that is no schema. Used as one, it is at fault itself. -/
def plain (source : Json) : Part := { source, judge := misfit source [.boolean, .object] }

mutual
/-- The meanings of a value. -/
def ofJson (scope : Scope) : Json → Part
  | .bool true => { source := .bool true, judge := .ok .accept }
  | .bool false => { source := .bool false, judge := .ok .refuse }
  | .arr xs =>
    let parts := itemsOf scope xs
    { plain (.arr xs) with items := parts.map judge, targets := parts.flatMap targets }
  | .obj ms =>
    match enter scope (.obj ms) with
    | .error flaw => { source := .obj ms, judge := unread flaw }
    | .ok inner =>
      let siblings := membersOf inner ms
      { source := .obj ms, judge := judgeOf inner siblings,
        members := siblings.map fun e => (e.1, e.2.judge),
        targets := ownTarget inner siblings ++ siblings.flatMap fun e => e.2.targets }
  | v => plain v
/-- The parts in an array. -/
def itemsOf (scope : Scope) : List Json → List Part
  | [] => []
  | x :: xs => ofJson scope x :: itemsOf scope xs
/-- The members of an object with their meanings. -/
def membersOf (scope : Scope) : List (String × Json) → List (String × Part)
  | [] => []
  | (k, x) :: ms => (k, ofJson scope x) :: membersOf scope ms
end

end Part

end PluginKit.Schema
