import PluginKit.Unicode.Property

/-!
# Positions in a text

A pattern is matched against a text at positions between its characters. A condition on a position looks
at the characters next to it and takes none of them.
-/

namespace PluginKit.Pattern

/-- The text that a pattern is matched against. -/
abbrev Text := Array Char

/-- The character before a position. -/
def Text.before? (text : Text) (i : Nat) : Option Char := if i = 0 then none else text[i - 1]?

/-- Whether there is a character and it belongs to words. -/
def inWord (c : Option Char) : Bool := c.any fun c => Unicode.Property.word.has c.toNat

/-- Whether there is a character and it belongs to words of ASCII. -/
def inAsciiWord (c : Option Char) : Bool := c.any fun c => c.isAlphanum || c == '_'

/-- A condition on a position. -/
inductive Look where
  | start
  | finish
  | lineStart
  | lineEnd
  /-- The start of a line, where a carriage return ends lines as well. -/
  | returnStart
  /-- The end of a line, where a carriage return ends lines as well. -/
  | returnEnd
  | edge
  | noEdge
  | asciiEdge
  | asciiNoEdge
  | wordStart
  | wordEnd
  deriving DecidableEq, Repr

namespace Look

/-- Whether a condition asks which characters belong to words at all. -/
def asksWord : Look → Bool
  | .edge => true
  | .noEdge => true
  | .wordStart => true
  | .wordEnd => true
  | _ => false

/-- Whether a condition asks for words of any kind. -/
def asksAnyWord (l : Look) : Bool := l.asksWord || l == .asciiEdge || l == .asciiNoEdge

/-- Whether a condition holds at a position. -/
def holds (l : Look) (text : Text) (i : Nat) : Bool :=
  let before := text.before? i
  let after := text[i]?
  match l with
  | .start => i == 0
  | .finish => i == text.size
  | .lineStart => i == 0 || before == some '\n'
  | .lineEnd => i == text.size || after == some '\n'
  | .returnStart => i == 0 || before == some '\n' || (before == some '\r' && after != some '\n')
  | .returnEnd => i == text.size || after == some '\r' || (after == some '\n' && before != some '\r')
  | .edge => inWord before != inWord after
  | .noEdge => inWord before == inWord after
  | .asciiEdge => inAsciiWord before != inAsciiWord after
  | .asciiNoEdge => inAsciiWord before == inAsciiWord after
  | .wordStart => !inWord before && inWord after
  | .wordEnd => inWord before && !inWord after

end Look

end PluginKit.Pattern
