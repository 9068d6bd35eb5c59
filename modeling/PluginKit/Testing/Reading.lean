import PluginKit.Testing.Faults
import PluginKit.Testing.Prototypes

/-!
# Reading descriptions

What is to be tried is described by an object. A part that is missing counts as `null`, and most parts
have a default. Reading a description may fail for its own faults as well as for those of what it
describes.
-/

namespace PluginKit.Testing

/-- Why there is no answer. -/
inductive Setback where
  /-- The description is at fault. -/
  | description (reason : String)
  | scheme (fault : SchemeFault)
  | text (fault : Json.DecodeFault)
  | fault (fault : Fault)
  | usage (kind : String)
  /-- The answer is not to be had in time. -/
  | endless

/-- A value or the reason why there is none. -/
abbrev Attempt (α : Type) := Except Setback α

instance : Inhabited Setback := ⟨.endless⟩

/-- The description is at fault. -/
def bad {α : Type} (reason : String) : Attempt α := .error (.description reason)

/-- The result of an operation on a scheme. -/
def ofScheme {α : Type} (r : Except SchemeFault α) : Attempt α := r.mapError .scheme

/-- The result of decoding a text. -/
def ofText {α : Type} (r : Except Json.DecodeFault α) : Attempt α := r.mapError .text

/-- The result of an operation of the library. -/
def ofOutcome {α : Type} (r : Outcome α) : Attempt α := r.mapError .fault

/-- A value that the description has to have. -/
def ofOption {α : Type} (what : String) : Option α → Attempt α
  | some a => .ok a
  | none => bad what

/-! ## Parts -/

/-- A part of a description. -/
def part (j : Json) (key : String) : Json := (j.get? key).getD .null

/-- A part as a value of its type. -/
def get {α : Type} (d : Json.Decoder α) (j : Json) (key : String) : Attempt α :=
  ofText (Json.decodeValue d (part j key))

/-- A part that may be missing. -/
def get? {α : Type} (d : Json.Decoder α) (j : Json) (key : String) : Attempt (Option α) :=
  get (Json.Decoder.optional d) j key

/-- A part with a default. -/
def getD {α : Type} (d : Json.Decoder α) (j : Json) (key : String) (value : α) : Attempt α := do
  return (← get? d j key).getD value

/-- A text. -/
def str (j : Json) (key : String) : Attempt String := get .string j key

/-- A text that may be missing. -/
def str? (j : Json) (key : String) : Attempt (Option String) := get? .string j key

/-- A number that may be missing. -/
def nat? (j : Json) (key : String) : Attempt (Option Nat) := get? (.unsigned 64) j key

/-- A truth value, false where it is missing. -/
def flag (j : Json) (key : String) : Attempt Bool := getD .bool j key false

/-- The items of a list. -/
def items (j : Json) (key : String) : List Json := ((part j key).asArray?).getD []

/-- The members of an object. -/
def members (j : Json) (key : String) : List (String × Json) := ((part j key).asObject?).getD []

/-! ## Domain values -/

/-- A type identifier. -/
def typeId (s : String) : Attempt TypeId := ofScheme (TypeId.read s)

/-- A type identifier, empty where it is missing. -/
def typeAt (j : Json) (key : String) : Attempt TypeId := do typeId (← getD .string j key "")

/-- Type identifiers. -/
def typesAt (j : Json) (key : String) : Attempt (List TypeId) := do
  (← getD (.list .string) j key []).mapM typeId

/-- A capability. -/
def capAt (j : Json) (key : String) : Attempt Capability := get Capability.decoder j key

/-- A payload. -/
def payloadAt (j : Json) (key : String) : Attempt Payload := ofScheme (Payload.ofJson (part j key).sorted)

/-- Pairs of texts. -/
def pairs (j : Json) (key : String) : Attempt (List (String × String)) := do
  (← getD (.list (.list .string)) j key []).mapM fun
    | [k, v] => .ok (k, v)
    | _ => bad "pair"

/-- Uses the prototype of a kind. -/
def withKind {β : Type} (j : Json) (use : {α : Type} → Prototype α → Attempt β) : Attempt β := do
  let k ← str j "kind"
  (withPrototype? k use).getD (bad k)

/-- A fault that may be missing. -/
def faultAt (j : Json) (key : String) : Attempt (Option Fault) :=
  match part j key with
  | .null => .ok none
  | v => (ofOption "fault" (faultOf? v)).map some

/-- A resource, the access of which is a payload of its own. -/
def resourceAt (j : Json) (key : String) : Attempt Resource := do
  let access := part (part j key) "access"
  unless access.isNull do discard (ofScheme (Payload.ofJson access.sorted))
  get Resource.description j key

end PluginKit.Testing
