import PluginKit.Text.Blank
import PluginKit.Text.Hex

/-!
# Request identifiers

A call carries an identifier, so that what both sides log about it can be put together. The
identifier is a UUID: 32 hexadecimal digits, shown in groups of 8, 4, 4, 4 and 12, which makes 36
characters (`length_text`). A plugin takes over the identifier it was sent if it can read it.
-/

namespace PluginKit.Telemetry

/-- A request identifier, as the values of its 32 digits. -/
structure RequestId where
  digits : List Nat
  size_eq : digits.length = 32
  deriving DecidableEq

namespace RequestId

/-- The identifier of zeros. -/
def zero : RequestId := ⟨List.replicate 32 0, List.length_replicate⟩

instance : Inhabited RequestId := ⟨zero⟩

/-- The digits in their groups. -/
def grouped (ds : List Char) : List Char :=
  ds.take 8 ++ '-' :: (ds.drop 8).take 4 ++ '-' :: (ds.drop 12).take 4 ++ '-' :: (ds.drop 16).take 4 ++
    '-' :: ds.drop 20

/-- The groups of 32 digits have 36 characters. -/
theorem length_grouped {ds : List Char} (h : ds.length = 32) : (grouped ds).length = 36 := by
  simp only [grouped, List.length_append, List.length_cons, List.length_take, List.length_drop, h]
  omega

/-- The shown identifier. -/
def text (r : RequestId) : String := String.ofList (grouped (r.digits.map Text.Hex.digit))

/-- A shown identifier has 36 characters. -/
theorem length_text (r : RequestId) : r.text.length = 36 := by
  rw [text, String.length_ofList, length_grouped]
  rw [List.length_map, r.size_eq]

/-- The identifier of 32 digits. -/
def ofDigits? (cs : List Char) : Option RequestId := do
  let ds ← cs.mapM Text.Hex.digit?
  if h : ds.length = 32 then return ⟨ds, h⟩ else none

/-- The digits of an identifier in its groups. -/
def ungroup? (cs : List Char) : Option (List Char) :=
  if cs.length = 36 ∧ [8, 13, 18, 23].all (fun i => cs[i]? == some '-') then
    some (cs.take 8 ++ (cs.drop 9).take 4 ++ (cs.drop 14).take 4 ++ (cs.drop 19).take 4 ++ cs.drop 24)
  else none

/-- Reads an identifier: its digits, with or without groups. Grouped, it may stand between braces or
after the start of a URN. -/
def parse? (cs : List Char) : Option RequestId :=
  if cs.length = 32 then ofDigits? cs
  else
    let inner :=
      if cs.length = 38 ∧ cs.head? = some '{' ∧ cs.getLast? = some '}' then cs.tail.dropLast
      else if cs.length = 45 ∧ (cs.take 9).map Char.toLower = "urn:uuid:".toList then cs.drop 9
      else cs
    (ungroup? inner).bind ofDigits?

/-- The identifier in a header, if there is one. Blanks around it do not count. -/
def ofHeader? (header : Option String) : Option RequestId :=
  header.bind fun s => parse? (Text.trim s.toList)

end RequestId

/-- The context of a call that is logged with it. -/
structure RequestContext where
  id : RequestId
  pluginId : String
  operation : String

namespace RequestContext

/-- The context of a call that was received. Without a readable identifier it gets a fresh one. -/
def received (pluginId operation : String) (header : Option String) (fresh : RequestId) :
    RequestContext :=
  { id := (RequestId.ofHeader? header).getD fresh, pluginId, operation }

/-- The identifier as it is sent. -/
def headerValue (c : RequestContext) : String := c.id.text

end RequestContext

end PluginKit.Telemetry
