import PluginKit.Json.Reader
import PluginKit.Net.Address
import PluginKit.Schema.Draft
import PluginKit.Schema.Dialect
import PluginKit.Timestamp
import PluginKit.Unicode.Property
import PluginKit.Url.Reader

/-!
# Formats of strings

The formats that a schema can ask of a string. A format that is not listed here, or that a draft does not
know, is asked of nothing. A draft knows the formats of those before it (`test?_isSome_of_since`).
-/

namespace PluginKit.Schema.Format

/-! ## Dates and times -/

/-- A number of digits in a range. -/
def number? (width least most : Nat) (s : List Char) : Option Nat :=
  if s.length = width ∧ s.all Char.isDigit then
    (String.ofList s).toNat?.filter fun n => least ≤ n && n ≤ most
  else none

/-- The date `YYYY-MM-DD`. -/
def date? (s : List Char) : Option Timestamp.Date :=
  match Text.splitAll '-' s with
  | [y, m, d] => do
    let date : Timestamp.Date := ⟨← number? 4 0 9999 y, ← number? 2 1 12 m, ← number? 2 1 31 d⟩
    if date.isValid then some date else none
  | _ => none

/-- A date. -/
def isDate (s : List Char) : Bool := (date? s).isSome

/-- The offset from universal time in minutes. -/
def offset? : List Char → Option Int
  | ['Z'] => some 0
  | ['z'] => some 0
  | sign :: rest =>
    match Text.splitAll ':' rest with
    | [h, m] => do
      let minutes : Int := 60 * (← number? 2 0 23 h) + (← number? 2 0 59 m)
      if sign = '+' then some minutes else if sign = '-' then some (-minutes) else none
    | _ => none
  | [] => none

/-- Whether a second may be added after a minute of a day in universal time: it may at the end of a
month. -/
def admitsLeapSecond (date : Timestamp.Date) (minute : Int) : Bool :=
  minute % 1440 == 1439 && (Timestamp.Date.ofDays (date.toDays + minute / 1440 + 1)).day == 1

/-- Whether the text after a date and one character is a time of the day with an offset. -/
def isTimeOn (date : Timestamp.Date) (s : List Char) : Bool :=
  let clock := s.takeWhile fun c => c.isDigit || c == ':'
  let rest := s.drop clock.length
  let digits := (rest.drop 1).takeWhile Char.isDigit
  let rest := if rest.head? == some '.' then rest.drop (digits.length + 1) else rest
  (s[clock.length]? != some '.' || !digits.isEmpty) &&
    match Text.splitAll ':' clock with
    | [h, m, sec] =>
      match number? 2 0 23 h, number? 2 0 59 m, number? 2 0 60 sec, offset? rest with
      | some h, some m, some sec, some offset =>
        sec < 60 || admitsLeapSecond date (60 * h + m - offset)
      | _, _, _, _ => false
    | _ => false

/-- A date and a time with any character of ASCII between them. -/
def isDateTime (s : List Char) : Bool :=
  match date? (s.take 10), s.drop 10 with
  | some date, c :: time => c.toNat < 0x80 && isTimeOn date time
  | _, _ => false

/-- Whether two characters are a number with a first digit up to a limit. -/
def isTwoDigits (most : Char) : List Char → Bool
  | [a, b] => '0' ≤ a && a ≤ most && b.isDigit
  | _ => false

/-- Whether two characters are an hour. -/
def isHour : List Char → Bool
  | ['2', b] => '0' ≤ b && b ≤ '3'
  | s => isTwoDigits '1' s

/-- A time of the day with an offset: a fraction has six digits, and a bar may stand for the sign. -/
def isTime (s : List Char) : Bool :=
  let fraction := (s.drop 9).take 6
  let offset :=
    if s[8]? = some '.' ∧ fraction.length = 6 ∧ fraction.all Char.isDigit then s.drop 15 else s.drop 8
  isHour (s.take 2) && s[2]? == some ':' && isTwoDigits '5' ((s.drop 3).take 2) && s[5]? == some ':' &&
    isTwoDigits '5' ((s.drop 6).take 2) &&
    match offset with
    | [c] => c == 'Z' || c == 'z'
    | sign :: rest =>
      ['+', '|', '-'].contains sign && isHour (rest.take 2) && rest[2]? == some ':' &&
        isTwoDigits '5' (rest.drop 3)
    | [] => false

/-! ## Names of hosts and mail boxes -/

/-- A host name. -/
def isHost (s : List Char) : Bool :=
  !s.isEmpty && s.head? != some '-' && s.getLast? != some '-' && s.length ≤ 255 &&
    s.all (fun c => Unicode.Property.isAlphanumeric c || c == '-' || c == '.') &&
    (Text.splitAll '.' s).all fun part => part.length ≤ 63

/-- Whether a name goes on to an at sign after a character. Dots stand alone inside the name. -/
def endsInAt (before : Char) : List Char → Bool
  | [] => false
  | c :: cs =>
    if before = '.' ∧ (c = '.' ∨ c = '@') then false else if c = '@' then true else endsInAt c cs

/-- An address of electronic mail: a name and an at sign. -/
def isEmail : List Char → Bool
  | [] => false
  | c :: cs => c != '.' && endsInAt c cs

/-- An address of version 4 of the internet protocol that does not start with a zero. -/
def isIpv4 (s : List Char) : Bool :=
  s.head? != some '0' &&
    match Net.readV4 s with
    | some (_, []) => true
    | _ => false

/-- An address of version 6 of the internet protocol. -/
def isIpv6 (s : List Char) : Bool :=
  match Net.readV6 s with
  | some (_, []) => true
  | _ => false

/-- Whether tildes are followed by a digit that completes them. -/
def escapesTildes : List Char → Bool
  | '~' :: c :: cs => (c == '0' || c == '1') && escapesTildes cs
  | ['~'] => false
  | _ :: cs => escapesTildes cs
  | [] => true

/-- A pointer into a value. -/
def isPointer (s : List Char) : Bool := s.isEmpty || (s.head? == some '/' && escapesTildes s)

/-- A pointer from where one stands: how far out to go, then a pointer or a hash sign. -/
def isRelativePointer (s : List Char) : Bool :=
  let ds := s.takeWhile Char.isDigit
  let rest := s.drop ds.length
  !ds.isEmpty && (ds.length == 1 || ds.head? != some '0') && (rest == ['#'] || isPointer rest)

/-! ## Identifiers of resources -/

/-- A reference to a resource. -/
def isUriReference (s : List Char) : Bool := s.all fun c => c != '\\' && !Text.isBlank c

/-- An identifier of a resource. -/
def isUri (s : List Char) : Bool := (Url.parse (String.ofList s)).toBool

/-- A hexadecimal digit in lower case. -/
def isLowerHex (c : Char) : Bool := c.isDigit || ('a' ≤ c && c ≤ 'f')

/-- Whether characters of a kind, and octets after percent signs, are all there is. -/
def isWord (kind : Char → Bool) : List Char → Bool
  | '%' :: a :: b :: cs => isLowerHex a && isLowerHex b && isWord kind cs
  | c :: cs => kind c && isWord kind cs
  | [] => true

/-- Characters that a template holds only as octets, if at all. -/
def outOfTemplates : List Char := "\"'<>%\\^\x60\x7b|\x7d".toList

/-- Characters of a template outside of its braces. -/
def isLiteral (c : Char) : Bool := 0x20 < c.toNat && !outOfTemplates.contains c

/-- Characters in names of variables. -/
def isNameChar (c : Char) : Bool := c.isLower || c.isDigit || c == '_'

/-- A variable of a template: its name, and a limit or a star after it. -/
def isVariable (s : List Char) : Bool :=
  let isName := fun (n : List Char) => !n.isEmpty && isWord isNameChar n
  match Text.splitFirst ':' s with
  | some (name, limit) =>
    isName name && limit.all Char.isDigit && limit.head?.any (· != '0') && limit.length ≤ 4
  | none => isName (if s.getLast? == some '*' then s.dropLast else s)

/-- Whether a text can stand between the braces of a template: variables, with an operator in front of
them or without. -/
def isExpansion (s : List Char) : Bool :=
  let names := match s with
    | c :: cs => if "+#./;?&=,!@|".toList.contains c then cs else s
    | [] => []
  (Text.splitAll ',' names).all isVariable

/-- A template of identifiers. -/
def isTemplate (s : List Char) : Bool :=
  match Text.splitAll '\x7b' s with
  | [] => false
  | start :: parts =>
    isWord isLiteral start &&
      parts.all fun part =>
        match Text.splitFirst '\x7d' part with
        | some (inside, rest) => isExpansion inside && isWord isLiteral rest
        | none => false

/-! ## All formats -/

/-- The formats with the drafts that they came with. -/
def all : List (String × Draft × (List Char → Bool)) :=
  [("date", .four, isDate), ("date-time", .four, isDateTime), ("email", .four, isEmail),
    ("hostname", .four, isHost), ("idn-email", .four, isEmail), ("idn-hostname", .seven, isHost),
    ("ipv4", .four, isIpv4), ("ipv6", .four, isIpv6), ("iri", .seven, isUri),
    ("iri-reference", .seven, isUriReference), ("json-pointer", .six, isPointer),
    ("regex", .four, fun s => (Dialect.matcher? s).isSome),
    ("relative-json-pointer", .seven, isRelativePointer), ("time", .four, isTime),
    ("uri", .four, isUri), ("uri-reference", .six, isUriReference), ("uri-template", .six, isTemplate)]

/-- The test of a format, if a draft has one. -/
def test? (draft : Draft) (name : String) : Option (List Char → Bool) := do
  let (first, test) ← all.lookup name
  if draft.since first then some test else none

/-- A draft knows the formats of those before it. -/
theorem test?_isSome_of_since {earlier later : Draft} (order : later.since earlier = true)
    {name : String} (h : (test? earlier name).isSome = true) : (test? later name).isSome = true := by
  simp only [test?, Option.bind_eq_bind] at h ⊢
  cases hl : all.lookup name with
  | none => simp [hl] at h
  | some e =>
    obtain ⟨first, test⟩ := e
    rw [hl] at h
    cases earlier <;> cases later <;> cases first <;> simp_all [Draft.since]

/-! ## Contents -/

/-- The value of a character in base 64. -/
def sextet? (c : Char) : Option Nat :=
  if 'A' ≤ c ∧ c ≤ 'Z' then some (c.toNat - 65)
  else if 'a' ≤ c ∧ c ≤ 'z' then some (c.toNat - 71)
  else if c.isDigit then some (c.toNat + 4)
  else if c = '+' then some 62
  else if c = '/' then some 63
  else none

/-- Decodes base 64 with padding. Bits that are not used have to be zero. -/
def decodeBase64 : List Char → Option (List UInt8)
  | [] => some []
  | [a, b, '=', '='] => do
    let n := (← sextet? a) * 64 + (← sextet? b)
    if n % 16 = 0 then return [UInt8.ofNat (n / 16)] else none
  | [a, b, c, '='] => do
    let n := ((← sextet? a) * 64 + (← sextet? b)) * 64 + (← sextet? c)
    if n % 4 = 0 then return [UInt8.ofNat (n / 1024), UInt8.ofNat (n / 4)] else none
  | a :: b :: c :: d :: rest => do
    let n := (((← sextet? a) * 64 + (← sextet? b)) * 64 + (← sextet? c)) * 64 + (← sextet? d)
    return [UInt8.ofNat (n / 65536), UInt8.ofNat (n / 256), UInt8.ofNat n] ++ (← decodeBase64 rest)
  | _ => none

/-- Whether a text is JSON. -/
def isJson (s : String) : Bool :=
  let r := Json.Reading.ofString s
  r.root.value.isOk && !r.trailing

end PluginKit.Schema.Format
