import PluginKit.Pattern.Plain.Basic
import PluginKit.Text.Blank
import PluginKit.Unicode.Folding
import PluginKit.Unicode.Named

/-!
# Reading plain patterns

The notation of plain patterns: brackets may stand within each other and be combined by `&&`, `--` and
`~~`, a backslash makes punctuation stand for itself, and `(?flags)` changes how the rest of a group is
read. Whatever could have a meaning one day but has none is refused.
-/

namespace PluginKit.Pattern.Plain

open Unicode (CharSet)

/-! ## Flags -/

/-- How a part of a pattern is read. -/
structure Flags where
  caseless : Bool := false
  multiline : Bool := false
  /-- Whether the point stands for the ends of lines as well. -/
  everything : Bool := false
  /-- Whether greedy and reluctant repetition are exchanged. -/
  swapped : Bool := false
  /-- Whether all characters are meant and not those of ASCII alone. -/
  unicode : Bool := true
  /-- Whether carriage returns end lines as well. -/
  returns : Bool := false
  /-- Whether blanks and comments are left out. -/
  verbose : Bool := false
  deriving DecidableEq, Repr, Inhabited

/-- Sets the flag that a letter stands for. -/
def Flags.set? (f : Flags) (value : Bool) : Char → Option Flags
  | 'i' => some { f with caseless := value }
  | 'm' => some { f with multiline := value }
  | 's' => some { f with everything := value }
  | 'U' => some { f with swapped := value }
  | 'u' => some { f with unicode := value }
  | 'R' => some { f with returns := value }
  | 'x' => some { f with verbose := value }
  | _ => none

/-- Flags up to a colon or a closing parenthesis, each at most once, those to be unset after a hyphen.
Gives the letters, the flags and what follows. -/
def readFlags : List Char → Bool → Flags → List Char → Option (List Char × Flags × List Char)
  | seen, value, f, s =>
    match s with
    | [] => none
    | ')' :: _ => if seen.head? = some '-' then none else some (seen, f, s)
    | ':' :: _ => if seen.head? = some '-' then none else some (seen, f, s)
    | c :: rest =>
      if seen.contains c then none
      else if c = '-' then readFlags (c :: seen) false f rest
      else
        match f.set? value c with
        | some f => readFlags (c :: seen) value f rest
        | none => none

/-- Steps over blanks and comments, if they are left out. -/
def skip (verbose : Bool) (inComment : Bool) : List Char → List Char
  | [] => []
  | c :: rest =>
    if !verbose then c :: rest
    else if inComment then skip verbose (c != '\n') rest
    else if c = '#' then skip verbose true rest
    else if Text.isBlank c then skip verbose false rest
    else c :: rest

/-! ## Characters -/

/-- The meaning of a backslash and the characters after it. -/
inductive Escape where
  | literal (c : Char)
  | set (s : CharSet)
  | look (l : Look)

/-- The value of a hexadecimal digit. -/
def hexDigit? (c : Char) : Option Nat :=
  if c.isDigit then some (c.toNat - '0'.toNat)
  else if 'a' ≤ c ∧ c ≤ 'f' then some (c.toNat - 'a'.toNat + 10)
  else if 'A' ≤ c ∧ c ≤ 'F' then some (c.toNat - 'A'.toNat + 10)
  else none

/-- The character that hexadecimal digits give. -/
def charOfHex? (digits : List Char) : Option Char := do
  if digits.isEmpty then none
  let n ← digits.foldlM (fun n c => (hexDigit? c).map fun d => 16 * n + d) 0
  if n.isValidChar then some (Char.ofNat n) else none

/-- A character by `width` hexadecimal digits, or by any number of them between braces. -/
def readHex (width : Nat) (s : List Char) : Option (Char × List Char) :=
  match s with
  | '\x7b' :: rest =>
    let digits := rest.takeWhile (· != '\x7d')
    match rest.drop digits.length with
    | _ :: after => (charOfHex? digits).map fun c => (c, after)
    | [] => none
  | s => if width ≤ s.length then (charOfHex? (s.take width)).map fun c => (c, s.drop width) else none

/-- The set with its variants in case, if case does not matter, or what is not in it. -/
def adjust (f : Flags) (negated : Bool) (s : CharSet) : CharSet :=
  let s := if f.caseless then s.foldClosure else s
  if negated then s.complement else s

/-- The set that a name between braces stands for, or a property and its value. -/
def namedSet? (f : Flags) (negated : Bool) (name : List Char) : Option CharSet :=
  let before := name.takeWhile fun c => c != '=' && c != ':'
  match name.drop before.length with
  | [] => (Unicode.Named.lookup? name).map (adjust f negated)
  | _ :: value =>
    if before.getLast? = some '!' ∧ name[before.length]? = some '=' then
      (Unicode.Named.lookupValue? before.dropLast value).map (adjust f !negated)
    else (Unicode.Named.lookupValue? before value).map (adjust f negated)

/-- A named set: its name stands between braces, or has one letter. -/
def readNamed (f : Flags) (negated : Bool) (s : List Char) : Option (CharSet × List Char) :=
  if !f.unicode then none
  else
    match s with
    | '\x7b' :: rest =>
      let name := rest.takeWhile (· != '\x7d')
      match rest.drop name.length with
      | _ :: after => (namedSet? f negated name).map fun set => (set, after)
      | [] => none
    | '\\' :: _ => none
    | c :: rest => ((Unicode.Named.lookup? [c]).map (adjust f negated)).map fun set => (set, rest)
    | [] => none

/-- The characters of ASCII in one of the classes that a letter stands for. -/
def asciiClass (letter : Char) : CharSet :=
  if letter = 'd' then .ofRanges [(0x30, 0x39)]
  else if letter = 's' then .ofRanges [(0x09, 0x0D), (0x20, 0x20)]
  else .ofRanges [(0x30, 0x39), (0x41, 0x5A), (0x5F, 0x5F), (0x61, 0x7A)]

/-- The class that a letter stands for: digits, blanks or characters of words, a capital letter for the
other characters. The other characters of ASCII alone are no set of characters. -/
def letterClass? (f : Flags) (letter : Char) : Option CharSet :=
  let small := letter.toLower
  let negated := small != letter
  if !f.unicode then if negated then none else some (asciiClass small)
  else
    let set :=
      if small = 'd' then Unicode.Property.digit
      else if small = 's' then Unicode.Property.whiteSpace
      else Unicode.Property.word
    some (if negated then set.complement else set)

/-- Whether a backslash before a character of ASCII makes it stand for itself. -/
def standsForItself (c : Char) : Bool := c.toNat < 0x80 && !c.isAlphanum && c != '<' && c != '>'

/-- Reads the characters after a backslash. -/
def readEscape (f : Flags) : List Char → Option (Escape × List Char)
  | [] => none
  | c :: rest =>
    match c with
    | 'x' => (readHex 2 rest).map fun p => (.literal p.1, p.2)
    | 'u' => (readHex 4 rest).map fun p => (.literal p.1, p.2)
    | 'U' => (readHex 8 rest).map fun p => (.literal p.1, p.2)
    | 'p' => (readNamed f false rest).map fun p => (.set p.1, p.2)
    | 'P' => (readNamed f true rest).map fun p => (.set p.1, p.2)
    | 'a' => some (.literal '\x07', rest)
    | 'f' => some (.literal '\x0c', rest)
    | 't' => some (.literal '\t', rest)
    | 'n' => some (.literal '\n', rest)
    | 'r' => some (.literal '\r', rest)
    | 'v' => some (.literal '\x0b', rest)
    | 'A' => some (.look .start, rest)
    | 'z' => some (.look .finish, rest)
    | 'b' => some (.look (if f.unicode then .edge else .asciiEdge), rest)
    | 'B' => some (.look (if f.unicode then .noEdge else .asciiNoEdge), rest)
    | '<' => some (.look .wordStart, rest)
    | '>' => some (.look .wordEnd, rest)
    | c =>
      if ['d', 's', 'w'].contains c.toLower then (letterClass? f c).map fun set => (.set set, rest)
      else if standsForItself c then some (.literal c, rest)
      else none

/-! ## Brackets -/

/-- The classes of ASCII by name. -/
def classNames : List (String × List (Nat × Nat)) :=
  [.mk "alnum" [(0x30, 0x39), (0x41, 0x5A), (0x61, 0x7A)], .mk "alpha" [(0x41, 0x5A), (0x61, 0x7A)],
    .mk "ascii" [(0x00, 0x7F)], .mk "blank" [(0x09, 0x09), (0x20, 0x20)],
    .mk "cntrl" [(0x00, 0x1F), (0x7F, 0x7F)], .mk "digit" [(0x30, 0x39)], .mk "graph" [(0x21, 0x7E)],
    .mk "lower" [(0x61, 0x7A)], .mk "print" [(0x20, 0x7E)],
    .mk "punct" [(0x21, 0x2F), (0x3A, 0x40), (0x5B, 0x60), (0x7B, 0x7E)],
    .mk "space" [(0x09, 0x0D), (0x20, 0x20)], .mk "upper" [(0x41, 0x5A)],
    .mk "word" [(0x30, 0x39), (0x41, 0x5A), (0x5F, 0x5F), (0x61, 0x7A)],
    .mk "xdigit" [(0x30, 0x39), (0x41, 0x46), (0x61, 0x66)]]

/-- A class of ASCII by its name between colons, after its opening bracket. -/
def readClassName (f : Flags) : List Char → Option (CharSet × List Char)
  | ':' :: rest =>
    let (negated, rest) := match rest with
      | '^' :: rest => (true, rest)
      | rest => (false, rest)
    let name := rest.takeWhile (· != ':')
    match rest.drop name.length with
    | ':' :: ']' :: after =>
      (classNames.find? fun c => c.1 == String.ofList name).map fun c =>
        (adjust f negated (.ofRanges c.2), after)
    | _ => none
  | _ => none

/-- How sets within a bracket are combined. -/
inductive Combination where
  | intersection
  | difference
  | symmetricDifference
  deriving DecidableEq, Repr

/-- Combines the set so far with the next one. Case does not matter before anything is taken away. -/
def combine (f : Flags) : Option (CharSet × Combination) → CharSet → CharSet
  | none, t => t
  | some (s, how), t =>
    let s := adjust f false s
    let t := adjust f false t
    match how with
    | .intersection => s.inter t
    | .difference => s.difference t
    | .symmetricDifference => s.symmetricDifference t

/-- A sign that combines sets. -/
def readCombination : List Char → Option (Combination × List Char)
  | '&' :: '&' :: rest => some (.intersection, rest)
  | '-' :: '-' :: rest => some (.difference, rest)
  | '~' :: '~' :: rest => some (.symmetricDifference, rest)
  | _ => none

/-- A member of a bracket, which is no condition: a character or a set. -/
def readMember (f : Flags) : List Char → Option (Escape × List Char)
  | '\\' :: rest =>
    match readEscape f rest with
    | some (.look _, _) => none
    | other => other
  | c :: rest => some (.literal c, rest)
  | [] => none

/-- The members that a member or a range of them stands for. -/
def readRange (f : Flags) (s : List Char) : Option (CharSet × List Char) :=
  let skip := skip f.verbose false
  match readMember f s with
  | none => none
  | some (first, rest) =>
    let alone := match first with
      | .literal c => some (CharSet.single c.toNat, skip rest)
      | .set set => some (set, skip rest)
      | .look _ => none
    match skip rest with
    | '-' :: rest =>
      let rest := skip rest
      if rest.head? = some ']' ∨ rest.head? = some '-' then alone
      else
        match first, readMember f rest with
        | .literal a, some (.literal b, rest) => if a ≤ b then some (.range a.toNat b.toNat, rest) else none
        | _, _ => none
    | _ => alone

/-- The hyphens at the start of a bracket, or a closing bracket, which stand for themselves. -/
def readOpening (f : Flags) : List Char → CharSet × List Char
  | '-' :: rest => (.single '-'.toNat, skip f.verbose false (rest.dropWhile (· == '-')))
  | ']' :: rest => (.single ']'.toNat, skip f.verbose false rest)
  | rest => (.empty, rest)

/-- The members of a bracket after its start, up to its end. -/
def readMembers (f : Flags) :
    Nat → Bool → Option (CharSet × Combination) → CharSet → List Char → Option (CharSet × List Char)
  | 0, _, _, _, _ => none
  | fuel + 1, negated, before, sofar, s =>
    match skip f.verbose false s with
    | [] => none
    | ']' :: rest => some (adjust f negated (combine f before sofar), rest)
    | '[' :: rest =>
      match readClassName f rest with
      | some (set, rest) => readMembers f fuel negated before (sofar.union set) rest
      | none =>
        let (inner, rest) := match skip f.verbose false rest with
          | '^' :: rest => (true, skip f.verbose false rest)
          | rest => (false, rest)
        let (first, rest) := readOpening f rest
        match readMembers f fuel inner none first rest with
        | some (set, rest) => readMembers f fuel negated before (sofar.union set) rest
        | none => none
    | s =>
      match readCombination s with
      | some (how, rest) =>
        readMembers f fuel negated (some (combine f before sofar, how)) .empty rest
      | none =>
        match readRange f s with
        | some (set, rest) => readMembers f fuel negated before (sofar.union set) rest
        | none => none

/-- A bracket after its start. A bracket of ASCII alone may have no other members. -/
def readBracket (f : Flags) (s : List Char) : Option (CharSet × List Char) :=
  let (negated, rest) := match skip f.verbose false s with
    | '^' :: rest => (true, skip f.verbose false rest)
    | rest => (false, rest)
  let (first, rest) := readOpening f rest
  match readMembers f (s.length + 1) negated none first rest with
  | some (set, rest) =>
    if f.unicode || (set.inter (.range 0x80 Unicode.lastCodePoint)).ranges.isEmpty then some (set, rest)
    else none
  | none => none

/-! ## Repetition -/

/-- Decimal digits as a number. -/
def number? (digits : List Char) : Option Nat :=
  if digits.isEmpty then none
  else
    let n := digits.foldl (fun n c => 10 * n + (c.toNat - '0'.toNat)) 0
    if n < 0x100000000 then some n else none

/-- The bounds of a repetition after an opening brace. -/
def readBounds (s : List Char) : Option (Nat × Option Nat × List Char) :=
  let digits := s.takeWhile Char.isDigit
  match number? digits, s.drop digits.length with
  | some n, '\x7d' :: rest => some (n, some n, rest)
  | some n, ',' :: '\x7d' :: rest => some (n, none, rest)
  | some n, ',' :: rest =>
    let digits := rest.takeWhile Char.isDigit
    match number? digits, rest.drop digits.length with
    | some m, '\x7d' :: rest => if n ≤ m then some (n, some m, rest) else none
    | _, _ => none
  | _, _ => none

/-- A sign of repetition, if the text starts with one. -/
def readSign : List Char → Option (Option (Nat × Option Nat × List Char))
  | '?' :: rest => some (some (0, some 1, rest))
  | '*' :: rest => some (some (0, none, rest))
  | '+' :: rest => some (some (1, none, rest))
  | '\x7b' :: rest => some (readBounds rest)
  | _ => none

/-! ## Groups -/

/-- The state of the reader of a pattern. -/
structure State where
  flags : Flags := {}
  /-- The number of the next group that is remembered. -/
  next : Nat := 1
  names : List (List Char) := []
  deriving Inhabited

/-- The characters after an opening parenthesis, by their meaning. -/
inductive Opening where
  /-- Flags for the rest of the group around. -/
  | flags (f : Flags)
  | group (number : Option Nat)

/-- The name of a group, which starts with a letter or a low line. No two groups have one name. -/
def readName (st : State) (s : List Char) : Option (Opening × State × List Char) :=
  let name := s.takeWhile (· != '>')
  match name, s.drop name.length with
  | c :: cs, _ :: rest =>
    let starts := c == '_' || Unicode.Property.alphabetic.has c.toNat
    let goesOn := cs.all fun c =>
      c == '_' || c == '.' || c == '[' || c == ']' || Unicode.Property.isAlphanumeric c
    if starts && goesOn && !st.names.contains name then
      some (.group (some st.next), { st with next := st.next + 1, names := name :: st.names }, rest)
    else none
  | _, _ => none

/-- Reads the characters after an opening parenthesis. -/
def readOpen (st : State) (s : List Char) : Option (Opening × State × List Char) :=
  match skip st.flags.verbose false s with
  | '?' :: 'P' :: '<' :: rest => readName st rest
  | '?' :: '<' :: '=' :: _ => none
  | '?' :: '<' :: '!' :: _ => none
  | '?' :: '<' :: rest => readName st rest
  | '?' :: rest =>
    match readFlags [] true st.flags rest with
    | some (seen, f, ')' :: rest) => if seen.isEmpty then none else some (.flags f, st, rest)
    | some (_, f, _ :: rest) => some (.group none, { st with flags := f }, rest)
    | _ => none
  | rest => some (.group (some st.next), { st with next := st.next + 1 }, rest)

/-! ## Patterns -/

/-- A character that stands for itself. -/
def literal? (f : Flags) (c : Char) : Option Plain :=
  if f.caseless && !f.unicode && 0x80 ≤ c.toNat then none
  else some (.one (adjust f false (.single c.toNat)))

/-- The characters that the point stands for. -/
def point (f : Flags) : CharSet :=
  if f.everything then .full
  else if f.returns then (CharSet.ofRanges [(0x0A, 0x0A), (0x0D, 0x0D)]).complement
  else (CharSet.single 0x0A).complement

/-- A pattern of one sign. -/
def readAtom (f : Flags) : List Char → Option (Plain × List Char)
  | '.' :: rest => if f.unicode then some (.one (point f), rest) else none
  | '^' :: rest =>
    some (.look (if !f.multiline then .start else if f.returns then .returnStart else .lineStart), rest)
  | '$' :: rest =>
    some (.look (if !f.multiline then .finish else if f.returns then .returnEnd else .lineEnd), rest)
  | '[' :: rest => (readBracket f rest).map fun p => (.one p.1, p.2)
  | '\\' :: rest =>
    match readEscape f rest with
    | some (.literal c, after) => (literal? f c).map fun p => (p, after)
    | some (.set s, after) => some (.one s, after)
    | some (.look l, after) => some (.look l, after)
    | none => none
  | c :: rest => (literal? f c).map fun p => (p, rest)
  | [] => none

/-- Reads up to the end of a group. Of the choices and the parts that were read, the last one stands
first; a part is missing where flags were set, which cannot be repeated. -/
def readBody :
    Nat → State → List Plain → List (Option Plain) → List Char → Option (Plain × State × List Char)
  | 0, _, _, _, _ => none
  | fuel + 1, st, choices, parts, s =>
    let here := ofParts (parts.reverse.filterMap id)
    match skip st.flags.verbose false s with
    | [] => some (ofChoices (here :: choices).reverse, st, [])
    | ')' :: rest => some (ofChoices (here :: choices).reverse, st, ')' :: rest)
    | '|' :: rest => readBody fuel st (here :: choices) [] rest
    | '(' :: rest =>
      match readOpen st rest with
      | none => none
      | some (.flags f, st, rest) => readBody fuel { st with flags := f } choices (none :: parts) rest
      | some (.group number, inner, rest) =>
        match readBody fuel inner [] [] rest with
        | some (content, inner, ')' :: rest) =>
          readBody fuel { inner with flags := st.flags } choices (some (.group number content) :: parts) rest
        | _ => none
    | s =>
      match readSign s with
      | some none => none
      | some (some (least, most, rest)) =>
        match parts with
        | some p :: parts =>
          let reluctant := rest.head? = some '?'
          let rest := if reluctant then rest.drop 1 else rest
          readBody fuel st choices
            (some (.repeated p least most (reluctant == st.flags.swapped)) :: parts) rest
        | _ => none
      | none =>
        match readAtom st.flags s with
        | some (p, rest) => readBody fuel st choices (some p :: parts) rest
        | none => none

/-- How deep patterns may stand within each other. -/
def depthLimit : Nat := 250

/-- Reads a pattern. -/
def read? (s : List Char) : Option Plain :=
  match readBody (2 * s.length + 2) {} [] [] s with
  | some (p, _, []) => if p.depth ≤ depthLimit then some p else none
  | _ => none

end PluginKit.Pattern.Plain
