import PluginKit.Payload

/-!
# Schemes

A prototype is a type of values that carry an identifier and have a JSON form. A scheme binds
identifiers to prototypes: each identifier to one prototype, each prototype to any number of
identifiers, of which the first one is canonical.

The bindings are kept twice, from identifiers to prototypes and from prototypes to their identifiers
in the order of registration.
-/

namespace PluginKit

/-- A type of tagged values with a JSON form and a schema. `takesAnyTag` marks the prototype whose
values stand for payloads of every identifier. -/
structure Prototype (α : Type) where
  name : String
  schema : Json
  blank : α
  tag : α → TypeId
  withTag : α → TypeId → α
  decoder : Json.Decoder α
  toJson : α → Json
  takesAnyTag : Bool := false

/-- Payloads as a prototype. -/
def Payload.prototype : Prototype Payload where
  name := "ocm_runtime::raw::Raw"
  schema :=
    .obj [("$schema", .str "http://json-schema.org/draft-07/schema#"),
      ("definitions", .obj [("Type", .obj [("type", .str "string")])]),
      ("properties", .obj [("type", .obj [("$ref", .str "#/definitions/Type")])]),
      ("title", .str "Raw"), ("type", .str "object")]
  blank := {}
  tag := Payload.tag
  withTag := Payload.withTag
  decoder := Payload.decoder
  toJson := Payload.toJson
  takesAnyTag := true

/-- The binding of a prototype: its schema and its identifiers, the canonical one first. -/
structure Binding where
  schema : Json
  types : List TypeId
  deriving Inhabited

/-- Identifiers bound to prototypes. `allowsUnknown` lets payloads of unknown identifiers pass as
payloads. -/
structure Scheme where
  kinds : Table String Binding := []
  types : Table TypeId String := []
  allowsUnknown : Bool := false
  deriving Inhabited

namespace Scheme

/-- The scheme that binds nothing. -/
def empty : Scheme := {}

/-- Whether an identifier is bound. -/
def isRegistered (s : Scheme) (t : TypeId) : Bool := s.types.contains t

/-- The name of the prototype that an identifier is bound to. -/
def kindOf? (s : Scheme) (t : TypeId) : Option String := s.types.get? t

/-- An identifier can be bound unless it is bound to another prototype. -/
def checkBinding (s : Scheme) (kind : String) (t : TypeId) : Except SchemeFault Unit :=
  match s.kindOf? t with
  | none => .ok ()
  | some existing => if existing = kind then .ok () else .error (.alreadyRegistered t existing kind)

/-- An identifier can be registered if it is not empty and can be bound. -/
def checkType (s : Scheme) (kind : String) (t : TypeId) : Except SchemeFault Unit :=
  if t.isEmpty then .error (.invalidType "" ("cannot register an empty type for " ++ kind))
  else s.checkBinding kind t

/-- Adds an identifier at the end unless it is there. -/
def addType (types : List TypeId) (t : TypeId) : List TypeId :=
  if t ∈ types then types else types ++ [t]

/-- Binds the identifiers to a prototype without a check. -/
def bind (s : Scheme) (kind : String) (schema : Json) (ts : List TypeId) : Scheme :=
  let known := (s.kinds.get? kind).getD { schema, types := [] }
  { s with
    kinds := s.kinds.insert kind { known with types := ts.foldl addType known.types }
    types := ts.foldl (fun m t => m.insert t kind) s.types }

/-- Binds identifiers to a prototype: all of them or, if one cannot be registered, none. -/
def registerKind (s : Scheme) (kind : String) (schema : Json) (ts : List TypeId) :
    Except SchemeFault Scheme := do
  ts.forM (s.checkType kind)
  return if ts.isEmpty then s else s.bind kind schema ts

/-- Binds identifiers to a prototype. -/
def registerAll {α : Type} (s : Scheme) (p : Prototype α) (ts : List TypeId) :
    Except SchemeFault Scheme :=
  s.registerKind p.name p.schema ts

/-- Takes over every binding of another scheme, or none if one conflicts. -/
def merge (s other : Scheme) : Except SchemeFault Scheme := do
  other.types.forM fun e => s.checkBinding e.2 e.1
  return other.kinds.foldl (fun s e => s.bind e.1 e.2.schema e.2.types) s

/-- Every identifier of a prototype, the canonical one first. -/
def typesOf (s : Scheme) (kind : String) : Except SchemeFault (List TypeId) :=
  match s.kinds.get? kind with
  | some b => .ok b.types
  | none => .error (.notRegistered kind)

/-- The canonical identifier of a prototype. -/
def typeOf (s : Scheme) (kind : String) : Except SchemeFault TypeId :=
  match s.kinds.get? kind with
  | some { types := t :: _, .. } => .ok t
  | _ => .error (.notRegistered kind)

/-- Every identifier bound to the same prototype. An unknown one stands alone. -/
def aliases (s : Scheme) (t : TypeId) : List TypeId :=
  match (s.kindOf? t).bind fun kind => s.kinds.get? kind with
  | some b => b.types
  | none => [t]

/-- The identifier that a value stands for: its own, or the canonical one if it has none. -/
def resolveTag (s : Scheme) (kind : String) (tag : TypeId) : Except SchemeFault TypeId :=
  if tag.isEmpty then s.typeOf kind else .ok tag

/-- The identifier that a value stands for. -/
def resolve {α : Type} (s : Scheme) (p : Prototype α) (a : α) : Except SchemeFault TypeId :=
  s.resolveTag p.name (p.tag a)

/-- Gives a value without an identifier the canonical one; the flag says whether it had none. -/
def defaultTag {α : Type} (s : Scheme) (p : Prototype α) (a : α) : Except SchemeFault (α × Bool) :=
  if (p.tag a).isEmpty then (s.typeOf p.name).map fun t => (p.withTag a t, true)
  else .ok (a, false)

/-- Whether a payload's identifier allows it to be decoded into a prototype. -/
def admits {α : Type} (s : Scheme) (p : Prototype α) (tag : TypeId) : Except SchemeFault Unit :=
  if tag.isEmpty then .error .missingType
  else
    match s.kindOf? tag with
    | none => if s.allowsUnknown && p.takesAnyTag then .ok () else .error (.unknownType tag)
    | some kind =>
      if kind = p.name ∨ p.takesAnyTag then .ok () else .error (.kindMismatch tag kind p.name)

/-- Decodes a payload into a value of a prototype. A value that lost its identifier gets the
payload's. -/
def decode {α : Type} (s : Scheme) (p : Prototype α) (raw : Payload) : Except SchemeFault α := do
  s.admits p raw.tag
  let a ← (Json.decodeValue p.decoder raw.toJson).mapError SchemeFault.serialization
  return if (p.tag a).isEmpty then p.withTag a raw.tag else a

/-- Decodes a payload into a value that is there already: the outcome, and the value after it. -/
def convert {α : Type} (s : Scheme) (p : Prototype α) (raw : Payload) (dest : α) :
    Except SchemeFault Unit × α :=
  let assign : ExceptT SchemeFault (StateM α) Unit := do
    let a ← liftExcept (s.decode p raw)
    set a
  assign.run dest

/-- Encodes a value into a payload, with the canonical identifier if it has none. -/
def encode {α : Type} (s : Scheme) (p : Prototype α) (a : α) : Except SchemeFault Payload := do
  let raw ← Payload.ofJson (p.toJson a).sorted
  if raw.tag.isEmpty then
    return raw.withTag (← s.resolve p a)
  return raw

/-- The schema of the prototype that an identifier is bound to. -/
def jsonSchema (s : Scheme) (t : TypeId) : Except SchemeFault Json :=
  match (s.kindOf? t).bind fun kind => s.kinds.get? kind with
  | some b => .ok b.schema
  | none => .error (.unknownType t)

/-- All bound identifiers in order. -/
def allTypes (s : Scheme) : List TypeId := s.types.keys

end Scheme

end PluginKit
