import PluginKit.Scheme.Fault

/-!
# Payloads

A payload is a JSON object whose member `type` says what it is. The identifier is kept apart from the
other members, so that it can be looked at without knowing what they mean.
-/

namespace PluginKit

/-- A tagged object. The fields do not hold the key `type`. -/
structure Payload where
  tag : TypeId := TypeId.empty
  fields : Table String Json := []
  deriving Inhabited

namespace Payload

instance : BEq Payload where
  beq p q := p.tag == q.tag && p.fields == q.fields

/-- The member that holds the identifier. -/
def tagKey : String := "type"

/-- A payload of an identifier and fields. A field `type` is left out. -/
def make (tag : TypeId) (fields : Table String Json) : Payload :=
  { tag, fields := fields.erase tagKey }

/-- Reads a payload from a value with sorted members. A member `type` that is `null` counts as
absent. -/
def ofJson : Json → Except SchemeFault Payload
  | .obj fields =>
    let rest := Table.erase fields tagKey
    match Table.get? fields tagKey with
    | none | some .null => .ok { fields := rest }
    | some (.str s) => (TypeId.read s).map fun tag => { tag, fields := rest }
    | some other =>
      .error (.invalidPayload ("type member must be a string, got " ++ other.render))
  | _ => .error (.invalidPayload "typed payloads must be JSON objects")

/-- The object with its member `type`, which is left out when the identifier is empty. -/
def toJson (p : Payload) : Json :=
  .obj (if p.tag.isEmpty then p.fields else p.fields.insert tagKey (.str p.tag.text))

/-- The value of a field. -/
def field? (p : Payload) (key : String) : Option Json := p.fields.get? key

/-- Writes a field. The key `type` is not a field and is passed over. -/
def withField (p : Payload) (key : String) (v : Json) : Payload :=
  if key = tagKey then p else { p with fields := p.fields.insert key v }

/-- The payload under another identifier. -/
def withTag (p : Payload) (tag : TypeId) : Payload := { p with tag }

/-- A payload in a document. -/
def decoder : Json.Decoder Payload :=
  Json.Decoder.any.refine fun v => (ofJson v).mapError SchemeFault.message

end Payload

end PluginKit
