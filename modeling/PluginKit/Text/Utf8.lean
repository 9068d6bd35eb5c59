/-!
# Octets and text

Bodies and files are octets, messages are text. This module reads octets as text when they form one
(`decode?`), and otherwise puts one stand-in for every stretch that no character can start with
(`decodeWith`). The stretches are maximal: an octet that may continue the character before it
belongs to that character's stretch.

The reader is a machine that takes one octet at a time. It stands between characters or inside one;
inside, it owes a number of tail octets, the next of which lies in a range.

## Main statements

- `decode?_encode`: the octets of a text read back as that text.
-/

namespace PluginKit.Text

/-- Octets as they are sent or stored. -/
abbrev Octets := ByteArray

/-- The octets of a text. -/
def encode (s : String) : Octets := s.toByteArray

/-- The text that the octets form, if they form one. -/
def decode? (b : Octets) : Option String :=
  if h : b.IsValidUTF8 then some (String.ofByteArray b h) else none

/-- The octets of a text read back as that text. -/
theorem decode?_encode (s : String) : decode? (encode s) = some s := by
  rw [decode?, dif_pos (show (encode s).IsValidUTF8 from s.isValidUTF8)]
  rfl

/-- A text has at least one octet for every character. -/
theorem length_le_size_encode (cs : List Char) :
    cs.length ≤ (encode (String.ofList cs)).size := by
  rw [encode, String.toByteArray_ofList, List.utf8Encode, List.size_toByteArray]
  induction cs with
  | nil => exact Nat.le_refl 0
  | cons c cs ih =>
    have positive := c.utf8Size_pos
    rw [List.flatMap_cons, List.length_append, String.length_utf8EncodeChar, List.length_cons]
    omega

/-! ## Reading with stand-ins -/

/-- The state of the reader. Inside a character it owes `tails` octets after the next one, which lies
between `low` and `high`; `code` holds the bits read so far. -/
inductive Stand where
  | between
  | inside (tails : Nat) (low high : UInt8) (code : Nat)

/-- The state after the first octet of a character, if a character starts with it. -/
def Stand.first (b : UInt8) : Option (Stand × Option Char) :=
  if b < 0x80 then some (.between, some (Char.ofNat b.toNat))
  else if b < 0xC2 then none
  else if b < 0xE0 then some (.inside 0 0x80 0xBF (b.toNat % 32), none)
  else if b = 0xE0 then some (.inside 1 0xA0 0xBF 0, none)
  else if b = 0xED then some (.inside 1 0x80 0x9F 13, none)
  else if b < 0xF0 then some (.inside 1 0x80 0xBF (b.toNat % 16), none)
  else if b = 0xF0 then some (.inside 2 0x90 0xBF 0, none)
  else if b < 0xF4 then some (.inside 2 0x80 0xBF (b.toNat % 8), none)
  else if b = 0xF4 then some (.inside 2 0x80 0x8F 4, none)
  else none

/-- One octet: where the reader stands after it and the character that it ends, or nothing if the
octet cannot stand here. -/
def Stand.next : Stand → UInt8 → Option (Stand × Option Char)
  | .between, b => Stand.first b
  | .inside tails low high code, b =>
    if low ≤ b ∧ b ≤ high then
      let code := code * 64 + b.toNat % 64
      match tails with
      | 0 => some (.between, some (Char.ofNat code))
      | t + 1 => some (.inside t 0x80 0xBF code, none)
    else none

/-- Reads the octets from a stand. A refused octet closes the stretch before it with a stand-in; if
it starts a character it is read as such, and otherwise it is a stretch of its own. -/
def Stand.run (standIn : Char) : Stand → List UInt8 → List Char → List Char
  | .between, [], done => done.reverse
  | .inside .., [], done => (standIn :: done).reverse
  | s, b :: rest, done =>
    match s.next b with
    | some (s', c) => run standIn s' rest (c.toList ++ done)
    | none =>
      let done := match s with
        | .between => done
        | .inside .. => standIn :: done
      match Stand.first b with
      | some (s', c) => run standIn s' rest (c.toList ++ done)
      | none => run standIn .between rest (standIn :: done)

/-- The text that the octets form, with `standIn` for each stretch that belongs to no character. -/
def decodeWith (standIn : Char) (b : Octets) : String :=
  match decode? b with
  | some s => s
  | none => String.ofList (Stand.run standIn .between b.toList [])

/-- The text that the octets form, with the replacement character for what is no text. -/
def decodeLossy (b : Octets) : String := decodeWith '\uFFFD' b

/-! ## Where octets stop being text -/

/-- The first octets that belong to no character: where they start, and how many they are unless the text
ends before its last character does. -/
structure Flaw where
  index : Nat
  length : Option Nat
  deriving DecidableEq, Repr

/-- The wording of a flaw. -/
def Flaw.message (f : Flaw) : String :=
  match f.length with
  | some n => "invalid utf-8 sequence of " ++ toString n ++ " bytes from index " ++ toString f.index
  | none => "incomplete utf-8 byte sequence from index " ++ toString f.index

/-- Looks for a flaw. `start` is where the character under way starts. -/
def Stand.flaw? (start : Nat) : Stand → Nat → List UInt8 → Option Flaw
  | .between, _, [] => none
  | .inside .., _, [] => some ⟨start, none⟩
  | s, here, b :: rest =>
    match s.next b with
    | some (.between, _) => flaw? (here + 1) .between (here + 1) rest
    | some (s', _) => flaw? start s' (here + 1) rest
    | none => some ⟨start, some (max 1 (here - start))⟩

/-- Reads octets as text. -/
def read (b : Octets) : Except Flaw String :=
  match decode? b with
  | some s => .ok s
  | none => .error ((Stand.flaw? 0 .between 0 b.toList).getD ⟨0, none⟩)

end PluginKit.Text
