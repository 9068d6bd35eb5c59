import PluginKit.Json.Basic

/-!
# Readings of a JSON text

A text that is not JSON still has a reading up to its first fault, and a decoder for a known
shape may be stopped by the shape before the fault. So a text is read into a tree that holds what can
be read and, in the place of each fault, the fault itself. The tree of a JSON value has no faults.

A fault that spoils a value need not stop a reader that steps over it: a number beyond the range, a
string with half a surrogate pair and a nesting that is too deep are faults only to the reader who
wants the value. So each fault comes with the one that a reader stepping over it meets, if any.

## Main statements

- `value_ofJson`: the tree of a value with sorted members reads as that value.
-/

namespace PluginKit.Json

/-- The ways in which a text fails to be JSON. -/
inductive Malformed where
  | endInValue
  | endInString
  | endInList
  | endInObject
  | expectedValue
  | expectedIdent
  | expectedColon
  | expectedCommaInList
  | expectedCommaInObject
  | trailingComma
  | trailingCharacters
  | keyNotString
  | controlCharacter
  | invalidEscape
  | invalidNumber
  | numberOutOfRange
  | invalidCodePoint
  | loneSurrogate
  | halfPair
  | tooDeep
  deriving DecidableEq, Repr

/-- The wording of a fault. -/
def Malformed.message : Malformed → String
  | .endInValue => "EOF while parsing a value"
  | .endInString => "EOF while parsing a string"
  | .endInList => "EOF while parsing a list"
  | .endInObject => "EOF while parsing an object"
  | .expectedValue => "expected value"
  | .expectedIdent => "expected ident"
  | .expectedColon => "expected `:`"
  | .expectedCommaInList => "expected `,` or `]`"
  | .expectedCommaInObject => "expected `,` or `\x7d`"
  | .trailingComma => "trailing comma"
  | .trailingCharacters => "trailing characters"
  | .keyNotString => "key must be a string"
  | .controlCharacter => "control character (\\u0000-\\u001F) found while parsing a string"
  | .invalidEscape => "invalid escape"
  | .invalidNumber => "invalid number"
  | .numberOutOfRange => "number out of range"
  | .invalidCodePoint => "invalid unicode code point"
  | .loneSurrogate => "lone leading surrogate in hex escape"
  | .halfPair => "unexpected end of hex escape"
  | .tooDeep => "recursion limit exceeded"

/-- A fault met by a reader of the value, and the one met by a reader that steps over it. -/
structure Stop where
  read : Malformed
  skip : Option Malformed
  deriving DecidableEq, Repr

/-- The same fault for both readers. -/
def Stop.both (m : Malformed) : Stop := ⟨m, some m⟩

/-- The reading of a value. An array or object that does not end where it should carries the fault
found there. `flaw` stands for a value that cannot be read, with the character it starts with; `deep`
for one nested deeper than a reader goes. -/
inductive Node where
  | null
  | bool (value : Bool)
  | num (value : Number)
  | str (value : String)
  | arr (items : List Node) (stop : Option Stop)
  | obj (members : List (String × Node)) (stop : Option Stop)
  | flaw (opening : Option Char) (stop : Stop)
  | deep (inner : Node)
  deriving Repr

namespace Node

mutual
/-- The fault of a value for a reader that skips it. -/
def skip : Node → Option Malformed
  | .arr xs stop => skipItems (stop.bind Stop.skip) xs
  | .obj ms stop => skipMembers (stop.bind Stop.skip) ms
  | .flaw _ stop => stop.skip
  | .deep inner => skip inner
  | _ => none
/-- `skip` over items and then over what ends the list. -/
def skipItems (last : Option Malformed) : List Node → Option Malformed
  | [] => last
  | x :: xs => (skip x).or (skipItems last xs)
/-- `skip` over members and then over what ends the object. -/
def skipMembers (last : Option Malformed) : List (String × Node) → Option Malformed
  | [] => last
  | (_, x) :: ms => (skip x).or (skipMembers last ms)
end

/-- The outcome of reading everything before a fault, if there is one. -/
def passing {α : Type} (stop : Option Stop) (a : α) : Except Malformed α :=
  match stop with
  | some s => .error s.read
  | none => .ok a

mutual
/-- The value, or the first fault in it. Of members with equal keys the last one stays. -/
def value : Node → Except Malformed Json
  | .null => .ok .null
  | .bool b => .ok (.bool b)
  | .num n => .ok (.num n)
  | .str s => .ok (.str s)
  | .arr xs stop =>
    match values xs with
    | .ok vs => passing stop (.arr vs)
    | .error e => .error e
  | .obj ms stop =>
    match memberValues ms with
    | .ok vs => passing stop (.obj (Table.ofList vs))
    | .error e => .error e
  | .flaw _ stop => .error stop.read
  | .deep _ => .error .tooDeep
/-- The values of the items, or the first fault in them. -/
def values : List Node → Except Malformed (List Json)
  | [] => .ok []
  | x :: xs =>
    match value x with
    | .error e => .error e
    | .ok v =>
      match values xs with
      | .error e => .error e
      | .ok vs => .ok (v :: vs)
/-- The values of the members, or the first fault in them. -/
def memberValues : List (String × Node) → Except Malformed (List (String × Json))
  | [] => .ok []
  | (k, x) :: ms =>
    match value x with
    | .error e => .error e
    | .ok v =>
      match memberValues ms with
      | .error e => .error e
      | .ok vs => .ok ((k, v) :: vs)
end

mutual
/-- The reading of a value that is at hand. -/
def ofJson : Json → Node
  | .null => .null
  | .bool b => .bool b
  | .num n => .num n
  | .str s => .str s
  | .arr xs => .arr (ofItems xs) none
  | .obj ms => .obj (ofMembers ms) none
/-- The readings of items. -/
def ofItems : List Json → List Node
  | [] => []
  | x :: xs => ofJson x :: ofItems xs
/-- The readings of members. -/
def ofMembers : List (String × Json) → List (String × Node)
  | [] => []
  | (k, v) :: ms => (k, ofJson v) :: ofMembers ms
end

mutual
/-- A value that is at hand holds no fault, and reads as itself with sorted members. -/
theorem value_ofJson : (v : Json) → value (ofJson v) = .ok v.sorted
  | .null => rfl
  | .bool _ => rfl
  | .num _ => rfl
  | .str _ => rfl
  | .arr xs => by rw [ofJson, value, values_ofItems xs]; rfl
  | .obj ms => by rw [ofJson, value, memberValues_ofMembers ms]; rfl
/-- `value_ofJson` item by item. -/
theorem values_ofItems : (xs : List Json) → values (ofItems xs) = .ok (sortedItems xs)
  | [] => rfl
  | x :: xs => by rw [ofItems, values, value_ofJson x, values_ofItems xs]; rfl
/-- `value_ofJson` member by member. -/
theorem memberValues_ofMembers :
    (ms : List (String × Json)) → memberValues (ofMembers ms) = .ok (sortedMembers ms)
  | [] => rfl
  | (k, v) :: ms => by
    rw [ofMembers, memberValues, value_ofJson v, memberValues_ofMembers ms]; rfl
end

end Node

/-- The reading of a whole text: its value, and whether more than blanks follows it. -/
structure Reading where
  root : Node
  trailing : Bool

/-- The reading of a value that is at hand. -/
def Reading.ofJson (v : Json) : Reading := ⟨Node.ofJson v, false⟩

end PluginKit.Json
