import PluginKit.Fault
import PluginKit.Payload
import PluginKit.Schema.Basic

/-!
# Validation of payloads

A plugin advertises schemas for the types of payloads that it takes. A payload is judged by the schema
of its type; a payload of any other type passes. A schema is compiled when the first payload comes
for it, and kept, together with the documents outside that its references have led to.

## Main statements

- `validate_of_unadvertised`: a payload of a type without a schema passes.
-/

namespace PluginKit

/-- Advertised schemas, and those of them that have been compiled. -/
structure Validator where
  schemas : Table TypeId Json := []
  compiled : Table TypeId Schema := []

namespace Validator

/-- The validator for advertised schemas. -/
def ofSchemas (schemas : Table TypeId Json) : Validator := { schemas }

/-- Whether a schema is advertised for a type. -/
def hasSchema (v : Validator) (t : TypeId) : Bool := v.schemas.contains t

/-- The violation that stands for a schema that is none. -/
def uncompiled (flaw : Schema.Violation) : List String :=
  ["advertised schema does not compile: " ++ flaw.message]

/-- The violations of a payload under a document, which has to be a schema. -/
def judge (docs : Schema.Documents) (source : Json) (payload : Payload) : List String :=
  match Schema.compile source with
  | .error flaw => uncompiled flaw
  | .ok schema => (schema.violations docs payload.toJson).map Schema.Violation.text

/-- The outcome for a list of violations. -/
def outcome (plugin : PluginId) (payload : Payload) : List String → Outcome Unit
  | [] => .ok ()
  | violations => .error (.validation plugin payload.tag violations)

/-- Keeps a schema for a type. -/
def keep (v : Validator) (t : TypeId) (schema : Schema) : Validator :=
  { v with compiled := v.compiled.insert t schema }

/-- The schema for a type, from what is kept or newly compiled and then kept. -/
def lookup (v : Validator) (t : TypeId) (source : Json) :
    Except Schema.Violation Schema × Validator :=
  match v.compiled.get? t with
  | some schema => (.ok schema, v)
  | none =>
    match Schema.compile source with
    | .ok schema => (.ok schema, v.keep t schema)
    | .error flaw => (.error flaw, v)

/-- Judges a payload by the schema advertised for its type, with the documents outside as they are. -/
def validate (v : Validator) (docs : Schema.Documents) (plugin : PluginId) (payload : Payload) :
    Outcome Unit × Validator :=
  match v.schemas.get? payload.tag with
  | none => (.ok (), v)
  | some source =>
    match v.lookup payload.tag source with
    | (.ok schema, v) =>
      (outcome plugin payload ((schema.violations docs payload.toJson).map Schema.Violation.text),
        v.keep payload.tag (schema.after docs payload.toJson))
    | (.error flaw, v) => (outcome plugin payload (uncompiled flaw), v)

/-- A payload of a type without a schema passes. -/
theorem validate_of_unadvertised {v : Validator} {payload : Payload}
    (h : v.schemas.get? payload.tag = none) (docs : Schema.Documents) (plugin : PluginId) :
    v.validate docs plugin payload = (.ok (), v) := by
  simp [validate, h]

end Validator

end PluginKit
