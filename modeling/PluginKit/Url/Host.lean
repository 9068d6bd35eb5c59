import PluginKit.Net.Address
import PluginKit.Unicode.Category
import PluginKit.Unicode.Folding
import PluginKit.Url.Percent
import PluginKit.Url.Punycode

/-!
# Hosts

Where the scheme of an identifier is known to name hosts of the internet, a host is an address or a name
of labels between dots. A name is lower case and its labels are written in ASCII. Under any other scheme
a host is a text of which only the characters that end it are refused.
-/

namespace PluginKit.Url

/-- Why a text is no identifier. -/
inductive Flaw where
  | emptyHost
  | badName
  | badPort
  | badV4
  | badV6
  | badCharacter
  | noBase
  | baseWithoutSegments
  deriving DecidableEq, Repr

/-- The wording of a flaw. -/
def Flaw.message : Flaw → String
  | .emptyHost => "empty host"
  | .badName => "invalid international domain name"
  | .badPort => "invalid port number"
  | .badV4 => "invalid IPv4 address"
  | .badV6 => "invalid IPv6 address"
  | .badCharacter => "invalid domain character"
  | .noBase => "relative URL without a base"
  | .baseWithoutSegments => "relative URL with a cannot-be-a-base base"

/-- A host. The empty name stands for none. -/
inductive Host where
  | name (s : List Char)
  | v4 (ip : Net.V4)
  | v6 (ip : Net.V6)
  deriving DecidableEq, Repr

namespace Host

/-- No host. -/
def empty : Host := .name []

/-- The text of a host. An address of version 6 stands between brackets. -/
def text : Host → List Char
  | .name s => s
  | .v4 ip => ip.text.toList
  | .v6 ip => '[' :: ip.textOfGroups.toList ++ [']']

/-! ## Addresses -/

/-- A part of an address of version 4: decimal, or octal after a zero, or hexadecimal after `0x`. -/
def readNumber (s : List Char) : Option Nat :=
  let (base, ds) := match s with
    | '0' :: 'x' :: ds => (16, ds)
    | '0' :: 'X' :: ds => (16, ds)
    | '0' :: d :: ds => (8, d :: ds)
    | ds => (10, ds)
  if s.isEmpty then none
  else (ds.mapM (Net.digit? base)).map fun ds => ds.foldl (fun n d => n * base + d) 0

/-- The parts of a name, without an empty one at the end. -/
def nameParts (s : List Char) : List (List Char) :=
  let ps := Text.splitAll '.' s
  if 1 < ps.length ∧ ps.getLast? = some [] then ps.dropLast else ps

/-- Whether the last part of a name is a number. Such a name has to be an address. -/
def endsInNumber (s : List Char) : Bool :=
  match (nameParts s).getLast? with
  | some p => !p.isEmpty && (p.all Char.isDigit || (readNumber p).isSome)
  | none => false

/-- An address of version 4. The last of its parts fills all octets that are left. -/
def readV4 (s : List Char) : Except Flaw Host := do
  let some numbers := (nameParts s).mapM readNumber | throw .badV4
  let some last := numbers.getLast? | throw .badV4
  let ahead := numbers.dropLast
  if 3 < ahead.length ∨ ahead.any (255 < ·) ∨ Nat.pow 256 (4 - ahead.length) ≤ last then throw .badV4
  let rest := (List.range (4 - ahead.length)).map fun k => last / Nat.pow 256 k % 256
  return .v4 ⟨ahead ++ rest.reverse⟩

/-- An address of version 6 between brackets, the first of which is gone. -/
def readV6 (s : List Char) : Except Flaw Host :=
  match s.getLast? with
  | some ']' =>
    match Net.readV6 s.dropLast with
    | some (ip, []) => .ok (.v6 ip)
    | _ => .error .badV6
  | _ => .error .badV6

/-! ## Names -/

/-- Characters that names leave out. -/
def isLeftOut (c : Char) : Bool :=
  let n := c.toNat
  n == 0xAD || n == 0x34F || n == 0x200B || n == 0x2060 || n == 0xFEFF ||
    (0x180B ≤ n && n ≤ 0x180F) || (0xFE00 ≤ n && n ≤ 0xFE0F)

/-- The characters that are not ASCII and have a lower case. -/
def upper : Unicode.CharSet :=
  Unicode.Category.set fun c => c == .uppercaseLetter || c == .titlecaseLetter

/-- The characters that no name holds: controls, blanks and code points without a character. -/
def refused : Unicode.CharSet := (Unicode.Category.group 'C').union (Unicode.Category.group 'Z')

/-- The characters that no label starts with. -/
def marks : Unicode.CharSet := Unicode.Category.group 'M'

/-- A character in lower case and in its usual width. -/
def lower (c : Char) : Char :=
  let n := c.toNat
  if n < 0x80 then c.toLower
  else if n = 0x3002 ∨ n = 0xFF61 then '.'
  else if 0xFF01 ≤ n ∧ n ≤ 0xFF5E then (Char.ofNat (n - 0xFEE0)).toLower
  else if upper.has n then ((Unicode.Folding.pairs.lookup n).map Char.ofNat).getD c
  else c

/-- A name as it is compared. -/
def normal (s : List Char) : List Char := (s.filter fun c => !isLeftOut c).map lower

/-- Whether a label can be shown. -/
def isLabel (s : List Char) : Bool :=
  !(s.head?.any fun c => marks.has c.toNat) && !(s.any fun c => 0x80 ≤ c.toNat && refused.has c.toNat)

/-- Whether a text is ASCII. -/
def isAscii (s : List Char) : Bool := s.all fun c => c.toNat < 0x80

/-- A label in ASCII. One that is already encoded has to stand for a label that is not ASCII. -/
def labelText (s : List Char) : Except Flaw (List Char) :=
  match s with
  | 'x' :: 'n' :: '-' :: '-' :: rest =>
    match Punycode.decode rest with
    | some shown =>
      if !isAscii shown && normal shown == shown && isLabel shown then .ok s else .error .badName
    | none => .error .badName
  | _ =>
    if isAscii s then .ok s
    else if isLabel s then .ok ('x' :: 'n' :: '-' :: '-' :: Punycode.encode s)
    else .error .badName

/-- Characters that a name of the internet does not hold. -/
def isForbidden (c : Char) : Bool :=
  c.toNat ≤ 0x20 || c.toNat == 0x7F || "%#/:<>?@[\\]^|".toList.contains c

/-- A name of the internet, or the address that it is. -/
def readName (s : List Char) : Except Flaw Host := do
  let some shown := Text.decode? ⟨(Percent.octets s).toArray⟩ | throw .badName
  let labels ← (Text.splitAll '.' (normal shown.toList)).mapM labelText
  let name := ['.'].intercalate labels
  if name.any isForbidden then throw .badName
  if name.isEmpty then throw .emptyHost
  if endsInNumber name then readV4 name else return .name name

/-- Characters that the text of a host does not hold under any scheme. -/
def isEnding (c : Char) : Bool :=
  ['\x00', '\t', '\n', '\r', ' ', '#', '/', ':', '<', '>', '?', '@', '[', '\\', ']', '^', '|'].contains c

/-- Reads a host. -/
def read (known : Bool) (s : List Char) : Except Flaw Host :=
  match s with
  | '[' :: rest => readV6 rest
  | _ =>
    if known then readName s
    else if s.any isEnding then .error .badCharacter
    else .ok (.name (Percent.encode [] s))

end Host

end PluginKit.Url
