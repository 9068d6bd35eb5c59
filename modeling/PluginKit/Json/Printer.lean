import PluginKit.Json.Basic
import PluginKit.Decimal

/-!
# The written form of JSON

A value is written without blanks. In a string the quote, the backslash and the controls are
escaped, the latter by a letter where JSON has one and otherwise by four hexadecimal digits; every
other character stands for itself. A floating point number is written with its shortest digits and
always shows that it is one, by a point or by an exponent.
-/

namespace PluginKit.Json

/-- Floating point numbers are written positionally from `10^-5` up to below `10^16`; beyond, the
exponent has a sign. -/
def numberFormat : DecimalFormat where
  least := -5
  most := 15
  exponentMark := "e"
  plus := "+"

/-- The text of a number. -/
def Number.render : Number → String
  | .int n => toString n
  | .float x => numberFormat.text x

/-- A digit of four bits. -/
def hexDigit (n : Nat) : Char := Nat.digitChar (n % 16)

/-- How one character stands in a string. -/
def escapeChar (c : Char) : List Char :=
  if c = '"' then ['\\', '"']
  else if c = '\\' then ['\\', '\\']
  else if 0x20 ≤ c.toNat then [c]
  else if c = '\x08' then ['\\', 'b']
  else if c = '\t' then ['\\', 't']
  else if c = '\n' then ['\\', 'n']
  else if c = '\x0c' then ['\\', 'f']
  else if c = '\r' then ['\\', 'r']
  else ['\\', 'u', '0', '0', hexDigit (c.toNat / 16), hexDigit c.toNat]

/-- A string between quotes. -/
def renderString (s : String) : List Char := '"' :: s.toList.flatMap escapeChar ++ ['"']

mutual
/-- The characters of a value, put in front of `rest`. -/
def renderOnto (rest : List Char) : Json → List Char
  | .null => 'n' :: 'u' :: 'l' :: 'l' :: rest
  | .bool true => 't' :: 'r' :: 'u' :: 'e' :: rest
  | .bool false => 'f' :: 'a' :: 'l' :: 's' :: 'e' :: rest
  | .num n => n.render.toList ++ rest
  | .str s => renderString s ++ rest
  | .arr [] => '[' :: ']' :: rest
  | .arr (x :: xs) => '[' :: renderOnto (renderItems (']' :: rest) xs) x
  | .obj [] => '{' :: '}' :: rest
  | .obj ((k, v) :: ms) => '{' :: renderString k ++ ':' :: renderOnto (renderMembers ('}' :: rest) ms) v
/-- The items after the first one, each with the comma before it. -/
def renderItems (rest : List Char) : List Json → List Char
  | [] => rest
  | x :: xs => ',' :: renderOnto (renderItems rest xs) x
/-- The members after the first one, each with the comma before it. -/
def renderMembers (rest : List Char) : List (String × Json) → List Char
  | [] => rest
  | (k, v) :: ms => ',' :: renderString k ++ ':' :: renderOnto (renderMembers rest ms) v
end

/-- The text of a value. -/
def render (v : Json) : String := String.ofList (renderOnto [] v)

end PluginKit.Json
