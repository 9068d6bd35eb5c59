import PluginKit.Text.Utf8

/-!
# Octets as hexadecimal digits

Two digits stand for an octet. Digits are written in lower case and read in either.

## Main statements

- `digit?_digit`: a digit that was written is read back.
-/

namespace PluginKit.Text.Hex

/-- The digit of a number below 16. -/
def digit (n : Nat) : Char := Nat.digitChar (n % 16)

/-- The value of a digit. -/
def digit? (c : Char) : Option Nat :=
  if c.isDigit then some (c.toNat - '0'.toNat)
  else if 'a' ≤ c ∧ c ≤ 'f' then some (c.toNat - 'a'.toNat + 10)
  else if 'A' ≤ c ∧ c ≤ 'F' then some (c.toNat - 'A'.toNat + 10)
  else none

/-- A digit that was written is read back. -/
theorem digit?_digit (n : Fin 16) : digit? (digit n) = some n.val := by
  revert n
  decide

/-- The digits of octets. -/
def encode (b : Octets) : String :=
  String.ofList (b.toList.flatMap fun o => [digit (o.toNat / 16), digit o.toNat])

/-- The octets that digits stand for. -/
def decodeList? : List Char → Option (List UInt8)
  | [] => some []
  | [_] => none
  | a :: b :: rest => do
    let high ← digit? a
    let low ← digit? b
    let more ← decodeList? rest
    return UInt8.ofNat (high * 16 + low) :: more

/-- The octets that a text of digits stands for. -/
def decode? (s : String) : Option Octets :=
  (decodeList? s.toList).map fun l => ByteArray.mk l.toArray

end PluginKit.Text.Hex
