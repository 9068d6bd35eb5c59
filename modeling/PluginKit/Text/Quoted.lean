import PluginKit.Text.Plain

/-!
# Quoted text

A message that shows a foreign text puts it between double quotes and replaces every character that
would not be seen as itself: tab, line feed, carriage return and NUL by a letter, the quote and the
backslash by a pair, and any other hidden character by its code point in hexadecimal digits.
-/

namespace PluginKit.Text

/-- The hexadecimal digits of a number, in lower case and without leading zeros. -/
def hexDigits (n : Nat) : List Char := Nat.toDigits 16 n

/-- How a quoted text shows one character. -/
def quotedChar (c : Char) : List Char :=
  if c = '\x00' then ['\\', '0']
  else if c = '\t' then ['\\', 't']
  else if c = '\r' then ['\\', 'r']
  else if c = '\n' then ['\\', 'n']
  else if c = '\\' then ['\\', '\\']
  else if c = '"' then ['\\', '"']
  else if Plain.isPlain c then [c]
  else '\\' :: 'u' :: '{' :: hexDigits c.toNat ++ ['}']

/-- The text between double quotes, each character as `quotedChar` shows it. -/
def quoted (s : String) : String :=
  String.ofList ('"' :: s.toList.flatMap quotedChar ++ ['"'])

end PluginKit.Text
