import PluginKit.Json.Value
import PluginKit.Pattern.Extended.Machine
import PluginKit.Schema.Draft
import PluginKit.Url.Host

/-!
# Violations

What a schema finds wrong with a value: where, with which part of the value, and why. The text starts
with the pointer to the part unless it is the whole value. A schema may be wrong itself; then the pointer
leads into the schema, and going outwards in the value does not change it.
-/

namespace PluginKit.Schema

/-- The types of values that schemas tell apart, in the order of their names. -/
inductive ValueType where
  | array
  | boolean
  | integer
  | null
  | number
  | object
  | string
  deriving DecidableEq, Repr

namespace ValueType

/-- All types in order. -/
def all : List ValueType := [.array, .boolean, .integer, .null, .number, .object, .string]

/-- The name of a type. -/
def name : ValueType → String
  | .array => "array"
  | .boolean => "boolean"
  | .integer => "integer"
  | .null => "null"
  | .number => "number"
  | .object => "object"
  | .string => "string"

/-- The type with a name. -/
def ofName? (s : String) : Option ValueType := all.find? fun t => t.name == s

/-- Whether a value is of a type. A number whose value is whole is an integer; in the fourth draft it has
to be written as one. -/
def admits (draft : Draft) : ValueType → Json → Bool
  | .array, .arr _ => true
  | .boolean, .bool _ => true
  | .integer, .num (.int _) => true
  | .integer, .num n => draft != .four && n.isWhole
  | .null, .null => true
  | .number, .num _ => true
  | .object, .obj _ => true
  | .string, .str _ => true
  | _, _ => false

/-- A type is found by its name. -/
theorem ofName?_name (t : ValueType) : ofName? t.name = some t := by cases t <;> decide

end ValueType

/-- Why a value violates a schema. -/
inductive Cause where
  | never
  | wrongType (allowed : List ValueType)
  | belowMinimum (limit : Json.Number)
  | aboveMaximum (limit : Json.Number)
  | notAboveMinimum (limit : Json.Number)
  | notBelowMaximum (limit : Json.Number)
  | notMultiple (divisor : Binary64)
  | tooShort (least : Nat)
  | tooLong (most : Nat)
  | tooFewItems (least : Nat)
  | tooManyItems (most : Nat)
  | tooFewMembers (least : Nat)
  | tooManyMembers (most : Nat)
  | repeated
  | noMatch (pattern : String)
  | notOfFormat (format : String)
  | notEncoded (encoding : String)
  | notOfMedia (media : String)
  | notListed (options : Json)
  | notConstant (expected : Json)
  | missing (member : String)
  | extraItems (items : List Json)
  | extraMembers (names : List String)
  | noneContained
  | anyOfNone
  | oneOfNone
  | oneOfSeveral
  | excluded (schema : Json)
  | notSearched (fault : Pattern.Extended.SearchFault)
  | badSchema
  | badIdentifier (flaw : Url.Flaw)
  | badText (flaw : Text.Flaw)
  | danglingReference (target : String)
  | foreignReference (target reason : String)

/-- The place of a violation: a part of the value, a part of the schema, or no part of either. -/
inductive Place where
  | inValue (path : List String)
  | inSchema (path : List String)
  | nowhere
  deriving DecidableEq, Repr

/-- Something wrong with a value: where, the part that is wrong and the cause. -/
structure Violation where
  place : Place := .inValue []
  part : Json
  cause : Cause

namespace Violation

/-- The violation as it is seen from outside, where the value is under a name. -/
def under (name : String) (v : Violation) : Violation :=
  match v.place with
  | .inValue path => { v with place := .inValue (name :: path) }
  | _ => v

/-- The violation as it is seen from outside, where the schema is under a name. -/
def within (name : String) (v : Violation) : Violation :=
  match v.place with
  | .inSchema path => { v with place := .inSchema (name :: path) }
  | _ => v

/-- Divisors are written without an exponent. -/
def divisorFormat : DecimalFormat where
  least := -400
  most := 400
  exponentMark := "e"
  plus := ""

/-- The text of a divisor. A whole one has no point. -/
def divisorText (d : Binary64) : String :=
  let s := (divisorFormat.text d).toList
  String.ofList (if d.toInt?.isSome then s.take (s.length - 2) else s)

/-- The ending of a noun after a number. -/
def ending (n : Nat) (one more : String) : String := if n = 1 then one else more

/-- Names of types between quotes. -/
def typeNames (ts : List ValueType) : String :=
  ", ".intercalate (ts.map fun t => "\"" ++ t.name ++ "\"")

/-- The verb for a number of things. -/
def verb (n : Nat) : String := if n = 1 then "was" else "were"

/-- The wording for a part that is wrong. -/
def describe (part : String) : Cause → String
  | .never => "False schema does not allow " ++ part
  | .wrongType [t] => part ++ " is not of type \"" ++ t.name ++ "\""
  | .wrongType ts => part ++ " is not of types " ++ typeNames ts
  | .belowMinimum l => part ++ " is less than the minimum of " ++ l.render
  | .aboveMaximum l => part ++ " is greater than the maximum of " ++ l.render
  | .notAboveMinimum l => part ++ " is less than or equal to the minimum of " ++ l.render
  | .notBelowMaximum l => part ++ " is greater than or equal to the maximum of " ++ l.render
  | .notMultiple d => part ++ " is not a multiple of " ++ divisorText d
  | .tooShort n => part ++ " is shorter than " ++ toString n ++ " character" ++ ending n "" "s"
  | .tooLong n => part ++ " is longer than " ++ toString n ++ " character" ++ ending n "" "s"
  | .tooFewItems n => part ++ " has less than " ++ toString n ++ " item" ++ ending n "" "s"
  | .tooManyItems n => part ++ " has more than " ++ toString n ++ " item" ++ ending n "" "s"
  | .tooFewMembers n => part ++ " has less than " ++ toString n ++ " propert" ++ ending n "y" "ies"
  | .tooManyMembers n => part ++ " has more than " ++ toString n ++ " propert" ++ ending n "y" "ies"
  | .repeated => part ++ " has non-unique elements"
  | .noMatch p => part ++ " does not match \"" ++ p ++ "\""
  | .notOfFormat f => part ++ " is not a \"" ++ f ++ "\""
  | .notEncoded e => part ++ " is not compliant with \"" ++ e ++ "\" content encoding"
  | .notOfMedia m => part ++ " is not compliant with \"" ++ m ++ "\" media type"
  | .notListed options => part ++ " is not one of " ++ options.render
  | .notConstant expected => expected.render ++ " was expected"
  | .missing name => (Json.str name).render ++ " is a required property"
  | .extraItems items =>
    "Additional items are not allowed (" ++ ", ".intercalate (items.map Json.render) ++ " " ++
      verb items.length ++ " unexpected)"
  | .extraMembers names =>
    "Additional properties are not allowed (" ++
      ", ".intercalate (names.map fun n => "'" ++ n ++ "'") ++ " " ++ verb names.length ++
      " unexpected)"
  | .noneContained => "None of " ++ part ++ " are valid under the given schema"
  | .anyOfNone => part ++ " is not valid under any of the schemas listed in the 'anyOf' keyword"
  | .oneOfNone => part ++ " is not valid under any of the schemas listed in the 'oneOf' keyword"
  | .oneOfSeveral =>
    part ++ " is valid under more than one of the schemas listed in the 'oneOf' keyword"
  | .excluded schema => schema.render ++ " is not allowed for " ++ part
  | .notSearched fault => fault.message
  | .badSchema => "Schema error"
  | .badIdentifier flaw => flaw.message
  | .badText flaw => flaw.message
  | .danglingReference target => "Invalid reference: " ++ target
  | .foreignReference target reason => "failed to resolve " ++ target ++ ": " ++ reason

/-- The wording without the place. -/
def message (v : Violation) : String := describe v.part.render v.cause

/-- The names on the way to what is wrong. -/
def path (v : Violation) : List String :=
  match v.place with
  | .inValue path => path
  | .inSchema path => path
  | .nowhere => []

/-- The wording with the pointer to what is wrong. -/
def text (v : Violation) : String :=
  if v.path.isEmpty then v.message else Json.pointer v.path ++ ": " ++ v.message

end Violation

end PluginKit.Schema
