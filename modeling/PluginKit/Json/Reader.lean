import PluginKit.Json.Node
import PluginKit.Text.Utf8

/-!
# Reading JSON texts

The reader follows RFC 8259 and builds the reading of a text. It goes 127 levels deep. Digits beyond
the 64 bits of the significand are dropped, and a floating point number is the significand scaled by
a power of ten with one rounding for each of the two and one for the scaling.

Octets are read like text. A string with octets that are no text is a flaw.
-/

namespace PluginKit.Json.Reader

/-- The blanks between tokens. -/
def isBlank (c : Char) : Bool := c == ' ' || c == '\n' || c == '\t' || c == '\r'

/-- The text from its first token on. -/
def skipBlanks (cs : List Char) : List Char := cs.dropWhile isBlank

/-! ## Numbers -/

/-- The value of a decimal digit. -/
def digit (c : Char) : Nat := c.toNat - '0'.toNat

/-- The digits of an integer taken into 64 bits: the significand, and how many digits did not fit. -/
def significand : Nat → List Char → Nat × Nat
  | acc, [] => (acc, 0)
  | acc, c :: cs =>
    if acc * 10 + digit c < Nat.pow 2 64 then significand (acc * 10 + digit c) cs else (acc, cs.length + 1)

/-- The digits after the point taken into what is left of the 64 bits: the significand, and how many
digits it holds of them. -/
def fractional : Nat → List Char → Nat × Nat
  | acc, [] => (acc, 0)
  | acc, c :: cs =>
    if acc * 10 + digit c < Nat.pow 2 64 then
      let (m, n) := fractional (acc * 10 + digit c) cs
      (m, n + 1)
    else (acc, 0)

/-- A power of ten up to `10^308`. -/
def tenTo (n : Nat) : Binary64 := (Binary64.ofNat? (Nat.pow 10 n)).getD Binary64.zero

/-- The number `f * 10^e`. Exponents below -308 are approached in steps, rounding after each. -/
def scaleTen : Nat → Binary64 → Int → Option Binary64
  | 0, f, _ => some f
  | fuel + 1, f, e =>
    if e.natAbs ≤ 308 then
      if 0 ≤ e then f.mul? (tenTo e.natAbs) else f.div? (tenTo e.natAbs)
    else if f.isZero then some f
    else if 0 ≤ e then none
    else
      match f.div? (tenTo 308) with
      | some f => scaleTen fuel f (e + 308)
      | none => none

/-- The magnitude of a floating point number, or nothing beyond the range. -/
def magnitude (m : Nat) (e : Int) : Option Binary64 :=
  match Binary64.ofNat? m with
  | some f => scaleTen 8 f e
  | none => none

/-- The lexical parts of a number. -/
structure Numeral where
  negative : Bool
  whole : List Char
  fraction : Option (List Char)
  exponent : Option (Bool × List Char)

/-- An exponent that fits 32 bits with its sign. -/
def exponentValue? (digits : List Char) : Option Nat :=
  let e := digits.foldl (fun a c => a * 10 + digit c) 0
  if e < Nat.pow 2 31 then some e else none

/-- The number that a numeral stands for, or nothing beyond the range. An integer without point and
exponent that fits 64 bits is an integer, except for the negative zero. -/
def Numeral.value (n : Numeral) : Option Number :=
  let (m, dropped) := significand 0 n.whole
  let signed (x : Binary64) : Number := .float (if n.negative then x.neg else x)
  if n.fraction.isNone ∧ n.exponent.isNone ∧ dropped = 0 then
    if ¬ n.negative then some (.int m)
    else if m ≠ 0 ∧ m ≤ Nat.pow 2 63 then some (.int (-(m : Int)))
    else (Binary64.ofNat? m).map signed
  else
    let (m, taken) := fractional m (n.fraction.getD [])
    let start : Int := (dropped : Int) - taken
    match n.exponent with
    | none => (magnitude m start).map signed
    | some (negative, digits) =>
      match exponentValue? digits with
      | some e => (magnitude m (if negative then start - e else start + e)).map signed
      | none => if m ≠ 0 ∧ ¬ negative then none else some (signed Binary64.zero)

/-- The digits at the start of a text and what follows them. -/
def spanDigits (cs : List Char) : List Char × List Char :=
  (cs.takeWhile Char.isDigit, cs.dropWhile Char.isDigit)

/-- The fault of a number that stops where a digit should stand. -/
def digitMissing (rest : List Char) : Stop :=
  match rest with
  | [] => ⟨.endInValue, some .invalidNumber⟩
  | _ :: _ => .both .invalidNumber

/-- The exponent of a number, if there is one. -/
def lexExponent : List Char → Except Stop (Option (Bool × List Char) × List Char)
  | 'e' :: r | 'E' :: r =>
    let (negative, r) := match r with
      | '+' :: r => (false, r)
      | '-' :: r => (true, r)
      | r => (false, r)
    match spanDigits r with
    | ([], rest) => .error (digitMissing rest)
    | (ds, rest) => .ok (some (negative, ds), rest)
  | r => .ok (none, r)

/-- The digits after the point, if there is one. -/
def lexFraction : List Char → Except Stop (Option (List Char) × List Char)
  | '.' :: r =>
    match spanDigits r with
    | ([], rest) => .error (digitMissing rest)
    | (ds, rest) => .ok (some ds, rest)
  | r => .ok (none, r)

/-- The digits before the point. A zero stands alone. -/
def lexWhole (cs : List Char) : Except Stop (List Char × List Char) :=
  match spanDigits cs with
  | ([], rest) => .error (digitMissing rest)
  | ('0' :: _ :: _, _) => .error (.both .invalidNumber)
  | (ds, rest) => .ok (ds, rest)

/-- A numeral after its sign. -/
def lexNumeral (negative : Bool) (cs : List Char) : Except Stop (Numeral × List Char) := do
  let (whole, cs) ← lexWhole cs
  let (fraction, cs) ← lexFraction cs
  let (exponent, cs) ← lexExponent cs
  return (⟨negative, whole, fraction, exponent⟩, cs)

/-- The result of reading a value from a text: its reading, and the text after it unless the reader cannot
go on. -/
abbrev Step := Node × Option (List Char)

/-- The reading of a number. -/
def number (opening : Char) (negative : Bool) (cs : List Char) : Step :=
  match lexNumeral negative cs with
  | .error stop => (.flaw opening stop, none)
  | .ok (n, rest) =>
    match n.value with
    | some v => (.num v, some rest)
    | none => (.flaw opening ⟨.numberOutOfRange, none⟩, some rest)

/-! ## Strings -/

/-- The value of a hexadecimal digit. -/
def hexValue? (c : Char) : Option Nat :=
  if c.isDigit then some (digit c)
  else if 'a' ≤ c ∧ c ≤ 'f' then some (c.toNat - 'a'.toNat + 10)
  else if 'A' ≤ c ∧ c ≤ 'F' then some (c.toNat - 'A'.toNat + 10)
  else none

/-- The value of four hexadecimal digits. -/
def hexFour? (a b c d : Char) : Option Nat := do
  return (((← hexValue? a) * 16 + (← hexValue? b)) * 16 + (← hexValue? c)) * 16 + (← hexValue? d)

/-- The character of a one-letter escape. -/
def shortEscape? : Char → Option Char
  | '"' => some '"'
  | '\\' => some '\\'
  | '/' => some '/'
  | 'b' => some '\x08'
  | 'f' => some '\x0c'
  | 'n' => some '\n'
  | 'r' => some '\r'
  | 't' => some '\t'
  | _ => none

/-- The part of a string that was read: its characters in reverse, a leading surrogate that waits for its
partner, the first flaw, and whether octets were met that are no text. -/
structure Progress where
  chars : List Char := []
  lead : Option Nat := none
  flaw : Option Malformed := none
  foreign : Bool := false

/-- A string as far as it was read: its text, or a flaw that a reader may step over, each with the
rest of the text, or the fault that stops every reader. -/
inductive Scanned where
  | text (s : String) (rest : List Char)
  | spoiled (flaw : Malformed) (rest : List Char)
  | stopped (read skip : Malformed)

/-- Stops the reading of the whole text. The fault of the value is its earlier flaw, if it has one. -/
def Progress.stop (p : Progress) (m : Malformed) : Scanned := .stopped (p.flaw.getD m) m

/-- A leading surrogate must be followed by its partner. -/
def Progress.settle (p : Progress) : Progress :=
  if p.lead.isSome then { p with lead := none, flaw := p.flaw.or (some .halfPair) } else p

/-- One more character. -/
def Progress.push (p : Progress) (c : Char) : Progress :=
  let p := p.settle
  { p with chars := c :: p.chars }

/-- The closing quote. -/
def Progress.close (p : Progress) (rest : List Char) : Scanned :=
  let p := p.settle
  match p.flaw, p.foreign with
  | some m, _ => .spoiled m rest
  | none, true => .spoiled .invalidCodePoint rest
  | none, false => .text (String.ofList p.chars.reverse) rest

/-- An escape by code unit. Surrogates make a character in pairs. -/
def Progress.unit (p : Progress) (n : Nat) : Progress :=
  let trailing := 0xDC00 ≤ n ∧ n ≤ 0xDFFF
  match p.lead with
  | some l =>
    if trailing then
      { p with lead := none,
               chars := Char.ofNat (0x10000 + (l - 0xD800) * 0x400 + (n - 0xDC00)) :: p.chars }
    else { p with lead := none, flaw := p.flaw.or (some .loneSurrogate) }
  | none =>
    if trailing then { p with flaw := p.flaw.or (some .loneSurrogate) }
    else if 0xD800 ≤ n ∧ n ≤ 0xDBFF then { p with lead := some n }
    else { p with chars := Char.ofNat n :: p.chars }

/-- Fewer than four characters after the start of an escape by code unit. They are too few if they
are fewer than four octets. -/
def shortUnit (rest : List Char) : Malformed :=
  if (String.ofList rest).utf8ByteSize < 4 then .endInString else .invalidEscape

/-- Reads a string from after its opening quote. -/
def scan (foreign : Char → Bool) : List Char → Progress → Scanned
  | [], p => p.stop .endInString
  | '"' :: r, p => p.close r
  | ['\\'], p => p.stop .endInString
  | '\\' :: 'u' :: a :: b :: c :: d :: r, p =>
    match hexFour? a b c d with
    | some n => scan foreign r (p.unit n)
    | none => p.stop .invalidEscape
  | '\\' :: 'u' :: r, p => p.stop (shortUnit r)
  | '\\' :: e :: r, p =>
    match shortEscape? e with
    | some c => scan foreign r (p.push c)
    | none => p.settle.stop .invalidEscape
  | c :: r, p =>
    if c.toNat < 0x20 then p.settle.stop .controlCharacter
    else if foreign c then scan foreign r { p.settle with foreign := true }
    else scan foreign r (p.push c)

/-! ## Values -/

/-- A word of letters that stands for a value, from its second letter on. -/
def word (opening : Char) (v : Node) : List Char → List Char → Step
  | [], rest => (v, some rest)
  | _ :: _, [] => (.flaw opening (.both .endInValue), none)
  | c :: cs, d :: rest =>
    if c = d then word opening v cs rest else (.flaw opening (.both .expectedIdent), none)

/-- The fault of a text that ends where a value should stand. -/
def nothingLeft : Step := (.flaw none (.both .endInValue), none)

/-- A string as a value. -/
def stringNode : Scanned → Step
  | .text s rest => (.str s, some rest)
  | .spoiled flaw rest => (.flaw '"' ⟨flaw, none⟩, some rest)
  | .stopped read skip => (.flaw '"' ⟨read, some skip⟩, none)

/-- The members of an object from a key that cannot be read on. A reader that steps over them goes on
to the first fault after the key. -/
def spoiledKey (flaw : Malformed) (after : List (String × Node) × Option Stop × Option (List Char)) :
    List (String × Node) × Option Stop × Option (List Char) :=
  let (ms, stop, rest) := after
  ([], some ⟨flaw, Node.skipMembers (stop.bind Stop.skip) ms⟩, rest)

mutual
/-- Reads a value from its first character on. `depth` levels of nesting are left. -/
def value (foreign : Char → Bool) : Nat → Nat → List Char → Step
  | 0, _, _ => nothingLeft
  | fuel + 1, depth, cs =>
    match cs with
    | [] => nothingLeft
    | 'n' :: r => word 'n' .null ['u', 'l', 'l'] r
    | 't' :: r => word 't' (.bool true) ['r', 'u', 'e'] r
    | 'f' :: r => word 'f' (.bool false) ['a', 'l', 's', 'e'] r
    | '"' :: r => stringNode (scan foreign r {})
    | '-' :: r => number '-' true r
    | '[' :: r =>
      let step : Step := match skipBlanks r with
        | [] => (.arr [] (some (.both .endInList)), none)
        | ']' :: r => (.arr [] none, some r)
        | r =>
          let (xs, stop, rest) := items foreign fuel (depth - 1) r
          (.arr xs stop, rest)
      if depth = 0 then (.deep step.1, step.2) else step
    | '{' :: r =>
      let step : Step := match skipBlanks r with
        | [] => (.obj [] (some (.both .endInObject)), none)
        | '}' :: r => (.obj [] none, some r)
        | '"' :: r =>
          let (ms, stop, rest) := members foreign fuel (depth - 1) r
          (.obj ms stop, rest)
        | _ => (.obj [] (some (.both .keyNotString)), none)
      if depth = 0 then (.deep step.1, step.2) else step
    | c :: r =>
      if c.isDigit then number c false (c :: r) else (.flaw c (.both .expectedValue), none)
/-- Reads items from the first character of one on, up to the end of the array. -/
def items (foreign : Char → Bool) : Nat → Nat → List Char →
    List Node × Option Stop × Option (List Char)
  | 0, _, _ => ([], some (.both .endInList), none)
  | fuel + 1, depth, cs =>
    match value foreign fuel depth cs with
    | (x, none) => ([x], none, none)
    | (x, some r) =>
      match skipBlanks r with
      | [] => ([x], some (.both .endInList), none)
      | ']' :: r => ([x], none, some r)
      | ',' :: r =>
        match skipBlanks r with
        | [] => ([x], some (.both .endInValue), none)
        | ']' :: _ => ([x], some ⟨.trailingComma, some .expectedValue⟩, none)
        | r =>
          let (xs, stop, rest) := items foreign fuel depth r
          (x :: xs, stop, rest)
      | _ => ([x], some (.both .expectedCommaInList), none)
/-- Reads members from after the opening quote of a key on, up to the end of the object. -/
def members (foreign : Char → Bool) : Nat → Nat → List Char →
    List (String × Node) × Option Stop × Option (List Char)
  | 0, _, _ => ([], some (.both .endInObject), none)
  | fuel + 1, depth, cs =>
    match scan foreign cs {} with
    | .text key r => afterKey foreign fuel depth key r
    | .spoiled flaw r => spoiledKey flaw (afterKey foreign fuel depth "" r)
    | .stopped read skip => ([], some ⟨read, some skip⟩, none)
/-- Reads a member from after its key on, and the members that follow it. -/
def afterKey (foreign : Char → Bool) : Nat → Nat → String → List Char →
    List (String × Node) × Option Stop × Option (List Char)
  | 0, _, _, _ => ([], some (.both .endInObject), none)
  | fuel + 1, depth, key, cs =>
    match skipBlanks cs with
    | [] => ([(key, .flaw none (.both .endInObject))], none, none)
    | ':' :: r =>
      match value foreign fuel depth (skipBlanks r) with
      | (x, none) => ([(key, x)], none, none)
      | (x, some r) =>
        match skipBlanks r with
        | [] => ([(key, x)], some (.both .endInObject), none)
        | '}' :: r => ([(key, x)], none, some r)
        | ',' :: r =>
          match skipBlanks r with
          | [] => ([(key, x)], some ⟨.endInValue, some .endInObject⟩, none)
          | '}' :: _ => ([(key, x)], some ⟨.trailingComma, some .keyNotString⟩, none)
          | '"' :: r =>
            let (ms, stop, rest) := members foreign fuel depth r
            ((key, x) :: ms, stop, rest)
          | _ => ([(key, x)], some (.both .keyNotString), none)
        | _ => ([(key, x)], some (.both .expectedCommaInObject), none)
    | c :: _ => ([(key, .flaw c (.both .expectedColon))], none, none)
end

/-- The levels of nesting that a reader goes down. -/
def maxDepth : Nat := 127

/-- The reading of a text in which the characters of `foreign` stand for octets that are no text. -/
def readWith (foreign : Char → Bool) (cs : List Char) : Reading :=
  match value foreign (4 * cs.length + 4) maxDepth (skipBlanks cs) with
  | (root, none) => ⟨root, false⟩
  | (root, some rest) => ⟨root, !(skipBlanks rest).isEmpty⟩

end Reader

/-- The reading of a text. -/
def Reading.ofString (s : String) : Reading := Reader.readWith (fun _ => false) s.toList

/-- The character that stands for octets that are no text. It is no character of any text. -/
def Reading.standIn : Char := Char.ofNat 0x10FFFF

/-- The reading of octets. -/
def Reading.ofOctets (b : Text.Octets) : Reading :=
  match Text.decode? b with
  | some s => .ofString s
  | none => Reader.readWith (· == standIn) (Text.decodeWith standIn b).toList

end PluginKit.Json
