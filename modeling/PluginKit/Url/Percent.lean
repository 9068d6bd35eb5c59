import PluginKit.Text.Hex

/-!
# Percent signs

Inside an identifier of a resource a character may be written as its octets, each one as a percent sign
and two hexadecimal digits. Which characters have to be written so depends on where they stand; controls
and characters that are not ASCII always have to.
-/

namespace PluginKit.Url.Percent

/-- An octet as a percent sign and two digits. -/
def escape (o : UInt8) : List Char :=
  ['%', (Nat.digitChar (o.toNat / 16)).toUpper, (Nat.digitChar (o.toNat % 16)).toUpper]

/-- Whether a character is always written as its octets. -/
def isBeyond (c : Char) : Bool := c.toNat < 0x20 || 0x7E < c.toNat

/-- A character in a place where some characters of ASCII are written as octets. -/
def encodeChar (marked : List Char) (c : Char) : List Char :=
  if isBeyond c || marked.contains c then
    (Text.encode (String.singleton c)).toList.flatMap escape
  else [c]

/-- A text in a place where some characters of ASCII are written as octets. -/
def encode (marked : List Char) (s : List Char) : List Char := s.flatMap (encodeChar marked)

/-- The octets that a text means. A percent sign without two digits after it means itself. -/
def octets : List Char → List UInt8
  | '%' :: a :: b :: cs =>
    match Text.Hex.digit? a, Text.Hex.digit? b with
    | some x, some y => UInt8.ofNat (16 * x + y) :: octets cs
    | _, _ => 0x25 :: octets (a :: b :: cs)
  | c :: cs => (Text.encode (String.singleton c)).toList ++ octets cs
  | [] => []

/-- Whether percent signs are followed by two hexadecimal digits. -/
def isComplete : List Char → Bool
  | '%' :: a :: b :: cs =>
    (Text.Hex.digit? a).isSome && (Text.Hex.digit? b).isSome && isComplete cs
  | '%' :: _ => false
  | _ :: cs => isComplete cs
  | [] => true

end PluginKit.Url.Percent
