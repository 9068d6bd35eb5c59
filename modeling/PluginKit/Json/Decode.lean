import PluginKit.Json.Printer
import PluginKit.Json.Reader
import PluginKit.Text.Quoted

/-!
# Decoding readings into typed values

A decoder takes the reading of a value to a typed value or to the first fault in reading order. The
fault lies in the text, or in what was found against what the type expects.

A record is decoded from an object, whose unknown members are stepped over, or from an array that
lists its fields in order. Fields are combined by `Fields.seq`; each field reports a fault with the
place where it was found, and of several faults the one at the first place wins, so the order in
which a record declares its fields cannot be seen in an answer.
-/

namespace PluginKit.Json

/-! ## Faults -/

/-- The value that a decoder found in the place of the one that it expected. -/
inductive Found where
  | null
  | bool (value : Bool)
  | num (value : Number)
  | str (value : String)
  | seq
  | map
  | unitVariant
  deriving DecidableEq, Repr

/-- How a message names what was found. -/
def Found.text : Found → String
  | .null => "null"
  | .bool b => "boolean `" ++ (if b then "true" else "false") ++ "`"
  | .num (.int n) => "integer `" ++ toString n ++ "`"
  | .num (.float x) => "floating point `" ++ (Number.float x).render ++ "`"
  | .str s => "string " ++ Text.quoted s
  | .seq => "sequence"
  | .map => "map"
  | .unitVariant => "unit variant"

/-- Why a text does not decode into a type. -/
inductive DecodeFault where
  | malformed (cause : Malformed)
  | mismatch (found : Found) (expected : String)
  | outOfRange (found : Found) (expected : String)
  | badLength (length : Nat) (expected : String)
  | unknownVariant (name : String) (known : List String)
  | missingField (name : String)
  | duplicateField (name : String)
  | refused (reason : String)
  deriving DecidableEq, Repr

/-- The names that a message offers instead of an unknown one. -/
def oneOfNames : List String → String
  | [] => "there are no variants"
  | [a] => "expected `" ++ a ++ "`"
  | [a, b] => "expected `" ++ a ++ "` or `" ++ b ++ "`"
  | names => "expected one of " ++ ", ".intercalate (names.map fun n => "`" ++ n ++ "`")

/-- The wording of a fault. -/
def DecodeFault.message : DecodeFault → String
  | .malformed m => m.message
  | .mismatch found expected => "invalid type: " ++ found.text ++ ", expected " ++ expected
  | .outOfRange found expected => "invalid value: " ++ found.text ++ ", expected " ++ expected
  | .badLength n expected => "invalid length " ++ toString n ++ ", expected " ++ expected
  | .unknownVariant name known => "unknown variant `" ++ name ++ "`, " ++ oneOfNames known
  | .missingField name => "missing field `" ++ name ++ "`"
  | .duplicateField name => "duplicate field `" ++ name ++ "`"
  | .refused reason => reason

/-! ## Plain values -/

/-- Takes the reading of a value to a typed value. -/
abbrev Decoder (α : Type) := Node → Except DecodeFault α

/-- The fault of a decoder that cannot use the value. An array or an object is refused at its start,
so the faults inside are not met. -/
def mismatched {α : Type} (expected : String) : Node → Except DecodeFault α
  | .null => .error (.mismatch .null expected)
  | .bool b => .error (.mismatch (.bool b) expected)
  | .num n => .error (.mismatch (.num n) expected)
  | .str s => .error (.mismatch (.str s) expected)
  | .arr .. => .error (.mismatch .seq expected)
  | .obj .. => .error (.mismatch .map expected)
  | .flaw _ stop => .error (.malformed stop.read)
  | .deep inner => mismatched expected inner

namespace Decoder

/-- Any value. -/
def any : Decoder Json := fun node =>
  match node.value with
  | .ok v => .ok v
  | .error m => .error (.malformed m)

/-- A string. -/
def string : Decoder String
  | .str s => .ok s
  | node => mismatched "a string" node

/-- The text of a path. -/
def path : Decoder String
  | .str s => .ok s
  | node => mismatched "path string" node

/-- A truth value. -/
def bool : Decoder Bool
  | .bool b => .ok b
  | node => mismatched "a boolean" node

/-- An integer from zero up to below `2^bits`, named by `what` in messages. -/
def natural (bits : Nat) (what : String) : Decoder Nat
  | .num (.int n) =>
    if 0 ≤ n ∧ n.toNat < Nat.pow 2 bits then .ok n.toNat else .error (.outOfRange (.num (.int n)) what)
  | node => mismatched what node

/-- An integer of a number of bits. -/
def unsigned (bits : Nat) : Decoder Nat := natural bits ("u" ++ toString bits)

/-- A number of things. -/
def count : Decoder Nat := natural 64 "usize"

/-- A value that may be `null`. -/
def optional {α : Type} (d : Decoder α) : Decoder (Option α)
  | .null => .ok none
  | node =>
    match d node with
    | .ok a => .ok (some a)
    | .error e => .error e

/-- A value that a further condition may refuse. -/
def refine {α β : Type} (d : Decoder α) (f : α → Except String β) : Decoder β := fun node =>
  match d node with
  | .error e => .error e
  | .ok a =>
    match f a with
    | .ok b => .ok b
    | .error reason => .error (.refused reason)

/-- Another view of the values of a decoder. -/
def map {α β : Type} (f : α → β) (d : Decoder α) : Decoder β := fun node =>
  match d node with
  | .ok a => .ok (f a)
  | .error e => .error e

/-- A value that was decoded from an array or an object, unless something other than the bracket ends it.
-/
def ending {α : Type} (stop : Option Stop) (a : α) : Except DecodeFault α :=
  match stop with
  | none => .ok a
  | some s => .error (.malformed s.read)

/-- Decodes every item. -/
def items {α : Type} (d : Decoder α) : List Node → Except DecodeFault (List α)
  | [] => .ok []
  | x :: xs =>
    match d x with
    | .error e => .error e
    | .ok a =>
      match items d xs with
      | .error e => .error e
      | .ok as => .ok (a :: as)

/-- An array of like values. -/
def list {α : Type} (d : Decoder α) : Decoder (List α)
  | .arr xs stop =>
    match items d xs with
    | .error e => .error e
    | .ok as => ending stop as
  | .deep (.arr _ _) => .error (.malformed .tooDeep)
  | node => mismatched "a sequence" node

/-- Decodes every member, its key by `key`. -/
def entries {κ α : Type} (key : String → Except DecodeFault κ) (d : Decoder α) :
    List (String × Node) → Except DecodeFault (List (κ × α))
  | [] => .ok []
  | (k, x) :: ms =>
    match key k with
    | .error e => .error e
    | .ok j =>
      match d x with
      | .error e => .error e
      | .ok a =>
        match entries key d ms with
        | .error e => .error e
        | .ok rest => .ok ((j, a) :: rest)

/-- An object whose keys are data. Of members with equal keys the last one stays. -/
def table {κ α : Type} [Ord κ] (key : String → Except DecodeFault κ) (d : Decoder α) :
    Decoder (Table κ α)
  | .obj ms stop =>
    match entries key d ms with
    | .error e => .error e
    | .ok es => ending stop (Table.ofList es)
  | .deep (.obj _ _) => .error (.malformed .tooDeep)
  | node => mismatched "a map" node

/-- An object from strings to like values. -/
def dict {α : Type} (d : Decoder α) : Decoder (Table String α) := table .ok d

end Decoder

/-! ## Records -/

/-- The source of the fields of a record: the members of an object, or the items of an array in the order
of the fields. `whole` names the record in a message on its length. -/
inductive Layout where
  | byName (members : List (String × Node)) (stop : Option Stop)
  | byPlace (items : List Node) (stop : Option Stop) (whole : String)

/-- A fault and the place of the member or item where it was met. -/
abbrev Located := Nat × DecodeFault

/-- The earlier of two faults. -/
def Located.first (a b : Located) : Located := if a.1 ≤ b.1 then a else b

/-- Fields of a record, decoded together. `read` takes the place of the first field. -/
structure Fields (α : Type) where
  names : List String
  read : Nat → Layout → Except Located α

namespace Fields

/-- The first member under a key and its place. -/
def find (name : String) : List (String × Node) → Option (Nat × Node)
  | [] => none
  | (k, x) :: ms => if k = name then some (0, x) else (find name ms).map fun p => (p.1 + 1, p.2)

/-- One field; `absent` answers for it when an object does not have it, `beyond` when an array ends
before it. -/
def field {α : Type} (name : String) (d : Decoder α) (absent : Except DecodeFault α)
    (beyond : Option α) : Fields α where
  names := [name]
  read place
    | .byName ms stop =>
      match find name ms with
      | some (i, x) => (d x).mapError fun e => (i, e)
      | none =>
        match stop with
        | some s => .error (ms.length, .malformed s.read)
        | none => absent.mapError fun e => (ms.length, e)
    | .byPlace xs stop whole =>
      match xs[place]? with
      | some x => (d x).mapError fun e => (place, e)
      | none =>
        match stop, beyond with
        | some s, _ => .error (xs.length, .malformed s.read)
        | none, some a => .ok a
        | none, none => .error (xs.length, .badLength place whole)

/-- A field that has to be there. -/
def required {α : Type} (name : String) (d : Decoder α) : Fields α :=
  field name d (.error (.missingField name)) none

/-- A field with a value for when it is left out. -/
def withDefault {α : Type} (name : String) (d : Decoder α) (value : α) : Fields α :=
  field name d (.ok value) (some value)

/-- No field. -/
def pure {α : Type} (a : α) : Fields α := ⟨[], fun _ _ => .ok a⟩

/-- The fields of both, which follow one another in an array. -/
def seq {α β : Type} (f : Fields (α → β)) (x : Fields α) : Fields β where
  names := f.names ++ x.names
  read place layout :=
    match f.read place layout, x.read (place + f.names.length) layout with
    | .ok g, .ok a => .ok (g a)
    | .error e, .ok _ => .error e
    | .ok _, .error e => .error e
    | .error e, .error e' => .error (e.first e')

/-- The first key of the record that stands twice. -/
def duplicate (names : List String) : List String → List (String × Node) → Nat → Option Located
  | _, [], _ => none
  | seen, (k, _) :: ms, i =>
    if k ∈ names ∧ k ∈ seen then some (i, .duplicateField k)
    else duplicate names (k :: seen) ms (i + 1)

/-- The first fault in a member that is stepped over. -/
def unknown (names : List String) : List (String × Node) → Nat → Option Located
  | [], _ => none
  | (k, x) :: ms, i =>
    if k ∈ names then unknown names ms (i + 1)
    else
      match x.skip with
      | some m => some (i, .malformed m)
      | none => unknown names ms (i + 1)

/-- The earlier of two faults that may be there. -/
def earlier : Option Located → Option Located → Option Located
  | none, b => b
  | a, none => a
  | some a, some b => some (a.first b)

/-- The fault of an object that lies in none of its fields. -/
def strayFault (names : List String) (ms : List (String × Node)) (stop : Option Stop) :
    Option Located :=
  earlier (duplicate names [] ms 0)
    (earlier (unknown names ms 0) (stop.map fun s => (ms.length, .malformed s.read)))

/-- The fault after the last field in an array. -/
def overlong (fields : Nat) (xs : List Node) (stop : Option Stop) : Option DecodeFault :=
  if fields < xs.length then some (.malformed .trailingCharacters)
  else
    match stop with
    | none => none
    | some s =>
      match s.read with
      | .trailingComma => some (.malformed .trailingComma)
      | .endInList => some (.malformed .endInList)
      | _ => some (.malformed .trailingCharacters)

/-- How a message names a record with its number of fields. -/
def withLength (what : String) (n : Nat) : String :=
  what ++ " with " ++ toString n ++ (if n = 1 then " element" else " elements")

end Fields

instance : Pure Fields := ⟨Fields.pure⟩
instance : Seq Fields := ⟨fun f x => f.seq (x ())⟩
instance : Functor Fields where
  map f x := (Fields.pure f).seq x
  mapConst a x := (Fields.pure fun _ => a).seq x

/-- A record, named by `what` in messages. -/
def Decoder.record {α : Type} (what : String) (fields : Fields α) : Decoder α
  | .obj ms stop =>
    match fields.read 0 (.byName ms stop), Fields.strayFault fields.names ms stop with
    | .ok a, none => .ok a
    | .ok _, some e => .error e.2
    | .error e, none => .error e.2
    | .error e, some e' => .error (e'.first e).2
  | .arr xs stop =>
    match fields.read 0 (.byPlace xs stop (Fields.withLength what fields.names.length)) with
    | .error e => .error e.2
    | .ok a =>
      match Fields.overlong fields.names.length xs stop with
      | none => .ok a
      | some e => .error e
  | .deep (.obj _ _) => .error (.malformed .tooDeep)
  | .deep (.arr _ _) => .error (.malformed .tooDeep)
  | node => mismatched what node

/-! ## Variants -/

/-- The content of a variant besides its name. -/
inductive Variant (α : Type) where
  | plain (value : α)
  | record (decode : Decoder α) (what : String)

/-- The content of a plain variant written as an object. -/
def Variant.content {α : Type} : Variant α → Decoder α
  | .plain a => fun
    | .null => .ok a
    | node => mismatched "unit" node
  | .record d _ => d

/-- A variant that was decoded from the first member of an object, unless another member follows. -/
def variantEnd {α : Type} (more : List (String × Node)) (stop : Option Stop) (a : α) :
    Except DecodeFault α :=
  match more, stop with
  | [], none => .ok a
  | [], some s =>
    if s.read = .endInObject then .error (.malformed .endInObject)
    else .error (.malformed .expectedValue)
  | _ :: _, _ => .error (.malformed .expectedValue)

/-- One of several variants: its name, or an object with its name as the only key. -/
def Decoder.variants {α : Type} (cases : List (String × Variant α)) : Decoder α
  | .str name =>
    match cases.lookup name with
    | some (.plain a) => .ok a
    | some (.record _ _) => .error (.mismatch .unitVariant "struct variant")
    | none => .error (.unknownVariant name (cases.map Prod.fst))
  | .obj ((name, x) :: more) stop =>
    match cases.lookup name with
    | none => .error (.unknownVariant name (cases.map Prod.fst))
    | some v =>
      match v.content x with
      | .error e => .error e
      | .ok a => variantEnd more stop a
  | .obj [] (some s) =>
    if s.read = .endInObject then .error (.malformed .endInValue)
    else if s.read = .keyNotString then .error (.malformed .expectedValue)
    else .error (.malformed s.read)
  | .deep (.obj _ _) => .error (.malformed .tooDeep)
  | .flaw none _ => .error (.malformed .endInValue)
  | .flaw (some c) stop => .error (.malformed (if c = '"' then stop.read else .expectedValue))
  | _ => .error (.malformed .expectedValue)

/-- A key that names a plain variant. -/
def variantKey {α : Type} (cases : List (String × α)) (name : String) : Except DecodeFault α :=
  match cases.lookup name with
  | some a => .ok a
  | none => .error (.unknownVariant name (cases.map Prod.fst))

/-! ## Documents -/

/-- Decodes a whole text. Nothing but blanks may follow the value. -/
def Reading.decode {α : Type} (d : Decoder α) (r : Reading) : Except DecodeFault α :=
  match d r.root with
  | .error e => .error e
  | .ok a => if r.trailing then .error (.malformed .trailingCharacters) else .ok a

/-- Decodes a text. -/
def decodeText {α : Type} (d : Decoder α) (s : String) : Except DecodeFault α :=
  (Reading.ofString s).decode d

/-- Decodes octets. -/
def decodeOctets {α : Type} (d : Decoder α) (b : Text.Octets) : Except DecodeFault α :=
  (Reading.ofOctets b).decode d

/-- Decodes a value that is at hand. -/
def decodeValue {α : Type} (d : Decoder α) (v : Json) : Except DecodeFault α :=
  d (Node.ofJson v.sorted)

end PluginKit.Json
