import PluginKit.Unicode.Property

/-!
# Characters that a quoted text shows as they are

A quoted text shows a character as it is unless it is a control, a format or a private character, is
unassigned, separates words or lines other than as the ASCII space, extends the character before it or
is not seen at all.
-/

namespace PluginKit.Text.Plain

/-- Whether a quoted text shows the character as it is. Of ASCII these are the space and the graphic
characters. -/
def isPlain (c : Char) : Bool :=
  if c.toNat < 0x80 then decide (0x20 ≤ c.toNat) && decide (c.toNat < 0x7F)
  else !Unicode.Property.hidden.has c.toNat

end PluginKit.Text.Plain
