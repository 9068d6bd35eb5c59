import PluginKit.Pattern.Extended.Basic
import PluginKit.Pattern.Plain.Reader

/-!
# Reading extended patterns

The notation of extended patterns. Only its structure is read here: brackets and named sets are taken as
they stand, to be read as plain patterns later. A brace that opens no bounds stands for itself.
-/

namespace PluginKit.Pattern.Extended

/-! ## What holds while a pattern is read -/

/-- How a part of a pattern is read. -/
structure Flags where
  caseless : Bool := false
  multiline : Bool := false
  everything : Bool := false
  swapped : Bool := false
  verbose : Bool := false
  deriving DecidableEq, Repr, Inhabited

/-- The text that is left to read, and the parts that were read so far. -/
structure Cursor where
  rest : List Char
  flags : Flags := {}
  /-- How many groups were opened. -/
  opened : Nat := 0
  /-- The groups that have names. -/
  names : List (List Char × Nat) := []
  /-- The groups that are asked for. -/
  wanted : List Nat := []
  /-- Whether a group is asked for by its number. -/
  numeric : Bool := false
  deriving Repr, Inhabited

/-- A reader of patterns. -/
abbrev Read := StateT Cursor Option

/-- Leaves characters behind. -/
def advance (n : Nat) : Read Unit := modify fun c => { c with rest := c.rest.drop n }

/-- Whether a text is next, which is left behind then. -/
def accept (s : String) : Read Bool := do
  let c ← get
  let s := s.toList
  if s.isPrefixOf c.rest then
    advance s.length
    pure true
  else pure false

/-- The position of the reader with regard to comments. -/
inductive Skipping where
  | between
  | line
  | comment
  | escaped
  deriving DecidableEq, Repr

/-- The text after blanks and comments, of which some count only where they are left out. A comment in
parentheses has to end. -/
def skip (verbose : Bool) : Skipping → List Char → Option (List Char)
  | .comment, [] => none
  | .escaped, [] => none
  | _, [] => some []
  | .line, c :: rest => skip verbose (if c = '\n' then .between else .line) rest
  | .comment, c :: rest =>
    skip verbose (if c = ')' then .between else if c = '\\' then .escaped else .comment) rest
  | .escaped, _ :: rest => skip verbose .comment rest
  | .between, '(' :: '?' :: '#' :: rest => skip verbose .comment rest
  | .between, c :: rest =>
    if verbose && c == '#' then skip verbose .line rest
    else if verbose && (c == ' ' || c == '\r' || c == '\n' || c == '\t') then skip verbose .between rest
    else some (c :: rest)

/-- Steps over blanks and comments. -/
def skipBlanks : Read Unit := do
  let c ← get
  let rest ← skip c.flags.verbose .between c.rest
  set { c with rest }

/-! ## Groups that are asked for -/

/-- The number that decimal digits give, if it fits into 64 bits, and what follows. -/
def readDecimal (s : List Char) : Option (Nat × List Char) :=
  let digits := s.takeWhile Char.isDigit
  let n := digits.foldl (fun n c => 10 * n + (c.toNat - '0'.toNat)) 0
  if digits.isEmpty || 0x10000000000000000 ≤ n then none else some (n, s.drop digits.length)

/-- Whether a character may stand in the name of a group. -/
def inName (c : Char) : Bool := c == '_' || Unicode.Property.isAlphanumeric c

/-- Asks for a group, which has to be open. -/
def ask (n : Nat) : Read Nat := do
  let c ← get
  if n ≤ c.opened then
    set { c with wanted := n :: c.wanted }
    pure n
  else failure

/-- Asks for a group by its number, which is small compared with the octets of the pattern. -/
def readNumbered (size : Nat) : Read Nat := do
  let c ← get
  let (n, rest) ← readDecimal c.rest
  if n < size / 2 then
    set { c with rest, numeric := true }
    ask n
  else failure

/-- The group that is so many groups before or after where one stands. -/
def relative (opened : Nat) (sign : Char) (n : Nat) : Option Nat :=
  if sign = '-' then
    if n = 0 then some opened else if n ≤ opened + 1 then some (opened + 1 - n) else none
  else some (opened + n)

/-- Asks for a group by its name or its number, or by where it stands. -/
def readNamed (opening close : String) (allowRelative : Bool) : Read Nat := do
  if !(← accept opening) then failure
  let c ← get
  let name := c.rest.takeWhile inName
  if name.isEmpty then
    match c.rest with
    | sign :: digits =>
      if allowRelative && (sign == '-' || sign == '+') then
        let (n, rest) ← readDecimal digits
        set { c with rest }
        if !(← accept close) then failure
        ask (← relative c.opened sign n)
      else failure
    | [] => failure
  else
    advance name.length
    if !(← accept close) then failure
    match c.names.find? fun n => n.1 == name with
    | some n => ask n.2
    | none =>
      match readDecimal name with
      | some (n, []) => ask n
      | _ => failure

/-! ## Characters -/

/-- A character that stands for itself. -/
def character (c : Char) : Read Extended := do
  pure (.literal c (← get).flags.caseless)

/-- A character by `width` hexadecimal digits, or by up to eight of them between braces. -/
def readHex (width : Nat) : Read Extended := do
  let c ← get
  let digits := c.rest.take width
  if digits.length = width ∧ digits.all (fun d => (Plain.hexDigit? d).isSome) = true then
    advance width
    character (← Plain.charOfHex? digits)
  else
    match c.rest with
    | '\x7b' :: inner =>
      let digits := inner.takeWhile fun d => (Plain.hexDigit? d).isSome
      if digits.length ≤ 8 ∧ (inner.drop digits.length).head? = some '\x7d' then
        advance (digits.length + 2)
        character (← Plain.charOfHex? digits)
      else failure
    | _ => failure

/-- The name of a set after its letter, as it stands. -/
def nameOfSet : List Char → Option (List Char)
  | '\x7b' :: rest =>
    let name := rest.takeWhile (· != '\x7d')
    if name.length < rest.length then some ('\x7b' :: name ++ ['\x7d']) else none
  | c :: _ => some [c]
  | [] => none

/-- The character of its own that a letter after a backslash stands for. -/
def letterEscape? (inBracket : Bool) (c : Char) : Option Char :=
  match c with
  | 'a' => some '\x07'
  | 'f' => some '\x0c'
  | 'n' => some '\n'
  | 'r' => some '\r'
  | 't' => some '\t'
  | 'v' => some '\x0b'
  | 'e' => some '\x1b'
  | 'b' => if inBracket then some '\x08' else none
  | 'k' => if inBracket then some 'k' else none
  | 'A' => if inBracket then some 'A' else none
  | 'z' => if inBracket then some 'z' else none
  | 'B' => if inBracket then some 'B' else none
  | 'K' => if inBracket then some 'K' else none
  | 'G' => if inBracket then some 'G' else none
  | c => if c.isAlpha then none else some c

/-- A pattern by a letter after a backslash, outside of brackets. -/
def letterPattern? : Char → Option Extended
  | 'A' => some (.look .start)
  | 'z' => some (.look .finish)
  | 'b' => some (.look .edge)
  | 'B' => some (.look .noEdge)
  | '<' => some (.look .wordStart)
  | '>' => some (.look .wordEnd)
  | 'K' => some .keepOut
  | 'G' => some .resume
  | _ => none

/-- Reads the characters after a backslash. -/
def readEscape (size : Nat) (inBracket : Bool) : Read Extended := do
  let cursor ← get
  match cursor.rest with
  | [] => failure
  | c :: rest =>
    let set (text : List Char) : Extended := .plain text cursor.flags.caseless
    if c.isDigit then return .same (← readNumbered size)
    advance 1
    if c = 'k' ∧ !inBracket then
      if rest.head? = some '\'' then return .same (← readNamed "'" "'" true)
      else return .same (← readNamed "<" ">" true)
    match if inBracket then none else letterPattern? c with
    | some p =>
      if (c = 'b' ∨ c = 'B') ∧ rest.head? = some '\x7b' then failure
      return p
    | none => pure ()
    if ['d', 's', 'w'].contains c.toLower then return set ['\\', c]
    else if c = 'h' then return .plain "[0-9A-Fa-f]".toList false
    else if c = 'H' then return .plain "[^0-9A-Fa-f]".toList false
    else if c = 'x' then readHex 2
    else if c = 'u' then readHex 4
    else if c = 'U' then readHex 8
    else if c = 'p' ∨ c = 'P' then
      let name ← nameOfSet rest
      advance name.length
      return set ('\\' :: c :: name)
    else character (← letterEscape? inBracket c)

/-! ## Brackets -/

/-- The characters that a backslash makes stand for themselves in a bracket. -/
def bracketQuoted (c : Char) : List Char :=
  if "\\.+*?()|[]\x7b\x7d^$#&-~".toList.contains c then ['\\', c] else [c]

/-- The text of a bracket up to its end, which may have other brackets in it. What was read stands in
reverse. -/
def readBracketText (size : Nat) : Nat → Nat → List Char → Read (List Char)
  | 0, _, _ => failure
  | fuel + 1, nesting, sofar => do
    match (← get).rest with
    | [] => failure
    | '\\' :: _ =>
      advance 1
      match ← readEscape size true with
      | .literal c _ => readBracketText size fuel nesting ((bracketQuoted c).reverse ++ sofar)
      | .plain text _ => readBracketText size fuel nesting (text.reverse ++ sofar)
      | _ => failure
    | '[' :: _ =>
      advance 1
      readBracketText size fuel (nesting + 1) ('[' :: sofar)
    | ']' :: _ =>
      advance 1
      if nesting = 0 then pure (']' :: sofar).reverse
      else readBracketText size fuel (nesting - 1) (']' :: sofar)
    | c :: _ =>
      advance 1
      readBracketText size fuel nesting (c :: sofar)

/-- A bracket after its start. -/
def readBracket (size : Nat) : Read Extended := do
  let sofar := if ← accept "^" then ['^', '['] else ['[']
  let sofar := if ← accept "]" then ']' :: sofar else sofar
  let cursor ← get
  pure (.plain (← readBracketText size (cursor.rest.length + 1) 0 sofar) cursor.flags.caseless)

/-! ## Repetition -/

/-- The bounds of a repetition after an opening brace, and what follows. -/
def readBounds (verbose : Bool) (s : List Char) : Option (Nat × Option Nat × List Char) := do
  let s ← skip verbose .between s
  let (least, s) ← match s with
    | ',' :: _ => some (0, s)
    | s => readDecimal s
  let s ← skip verbose .between s
  match s with
  | '\x7d' :: rest => some (least, some least, rest)
  | ',' :: rest =>
    let rest ← skip verbose .between rest
    let (most, rest) := match readDecimal rest with
      | some (n, rest) => (some n, rest)
      | none => (none, rest)
    match ← skip verbose .between rest with
    | '\x7d' :: rest => some (least, most, rest)
    | _ => none
  | _ => none

/-- A sign of repetition, and what follows. -/
def readSign (verbose : Bool) : List Char → Option (Nat × Option Nat × List Char)
  | '?' :: rest => some (0, some 1, rest)
  | '*' :: rest => some (0, none, rest)
  | '+' :: rest => some (1, none, rest)
  | '\x7b' :: rest => readBounds verbose rest
  | _ => none

/-- The signs of repetition after a pattern. -/
def readRepetition (p : Extended) : Read Extended := do
  skipBlanks
  let c ← get
  match readSign c.flags.verbose c.rest with
  | none => pure p
  | some (least, most, rest) =>
    if !p.isRepeatable then failure
    set { c with rest }
    skipBlanks
    let reluctant ← accept "?"
    let p := .repeated p least most (reluctant == c.flags.swapped)
    if ← accept "+" then pure (.atomic p) else pure p

/-! ## Groups -/

/-- Opens a group that has a name after a text. -/
def openNamed (opening : String) : Read Nat := do
  let _ ← accept opening
  let c ← get
  let name := c.rest.takeWhile inName
  if name.isEmpty then failure
  advance name.length
  if !(← accept ">") then failure
  modify fun d => { d with opened := c.opened + 1, names := (name, c.opened + 1) :: c.names }
  pure (c.opened + 1)

/-- Steps over the end of a group. -/
def close : Read Unit := do
  skipBlanks
  if !(← accept ")") then failure

/-- How flags end. -/
inductive FlagsEnd where
  /-- They hold for the rest of the group around. -/
  | alone
  /-- They hold for a group of their own. -/
  | group

/-- The flags after an opening parenthesis and a question mark. Flags after a hyphen are unset. -/
def readFlags : Nat → Bool → Bool → Read FlagsEnd
  | 0, _, _ => failure
  | fuel + 1, seen, value => do
    skipBlanks
    let c ← get
    advance 1
    let turn (f : Flags) : Read FlagsEnd := do
      modify fun c => { c with flags := f }
      readFlags fuel true value
    match c.rest with
    | 'i' :: _ => turn { c.flags with caseless := value }
    | 'm' :: _ => turn { c.flags with multiline := value }
    | 's' :: _ => turn { c.flags with everything := value }
    | 'U' :: _ => turn { c.flags with swapped := value }
    | 'x' :: _ => turn { c.flags with verbose := value }
    | 'u' :: _ => if value then readFlags fuel true value else failure
    | '-' :: _ => if value then readFlags fuel seen false else failure
    | ')' :: _ => if seen then pure .alone else failure
    | ':' :: _ => if seen || value then pure .group else failure
    | _ => failure

/-! ## Patterns -/

/-- How deep groups may stand within each other. -/
def depthLimit : Nat := 64

/-- The condition that a part stands for: a reference to a group asks whether the group has matched. -/
def asCondition : Extended → Extended
  | .same n => .known n
  | p => p

/-- A condition with the patterns for either case. -/
def decided (condition yes no : Extended) : Extended :=
  if yes.isEmpty && no.isEmpty then condition else .conditional condition yes no

mutual
/-- A choice between patterns. A group that is asked for by its number goes with no names. -/
def readChoice (size : Nat) : Nat → Nat → Read Extended
  | 0, _ => failure
  | fuel + 1, depth => do
    let first ← readParts size fuel depth []
    skipBlanks
    let c ← get
    if c.rest.head? = some '|' then readChoices size fuel depth [first]
    else if c.numeric && !c.names.isEmpty then failure
    else pure first
/-- The further choices. What was read stands in reverse. -/
def readChoices (size : Nat) : Nat → Nat → List Extended → Read Extended
  | 0, _, _ => failure
  | fuel + 1, depth, sofar => do
    if ← accept "|" then
      let next ← readParts size fuel depth []
      skipBlanks
      readChoices size fuel depth (next :: sofar)
    else pure (.alt sofar.reverse)
/-- Patterns one after another. What was read stands in reverse. -/
def readParts (size : Nat) : Nat → Nat → List Extended → Read Extended
  | 0, _, _ => failure
  | fuel + 1, depth, sofar => do
    let before ← get
    if before.rest.isEmpty then pure (ofParts sofar.reverse)
    else
      let p ← readRepetition (← readAtom size fuel depth)
      let after ← get
      if after.rest.length = before.rest.length then pure (ofParts sofar.reverse)
      else readParts size fuel depth (if p.isEmpty then sofar else p :: sofar)
/-- A pattern that signs of repetition may follow. -/
def readAtom (size : Nat) : Nat → Nat → Read Extended
  | 0, _ => failure
  | fuel + 1, depth => do
    skipBlanks
    let c ← get
    match c.rest with
    | [] => pure .empty
    | s :: _ =>
      if ['+', '*', '?', '|', ')'].contains s then return .empty
      advance 1
      match s with
      | '.' => pure (.any c.flags.everything)
      | '^' => pure (.look (if c.flags.multiline then .lineStart else .start))
      | '$' => pure (.look (if c.flags.multiline then .lineEnd else .finish))
      | '(' => readGroup size fuel (depth + 1)
      | '\\' => readEscape size false
      | '[' => readBracket size
      | s => character s
/-- A group after its start. -/
def readGroup (size : Nat) : Nat → Nat → Read Extended
  | 0, _ => failure
  | fuel + 1, depth => do
    if depthLimit ≤ depth then failure
    skipBlanks
    let inside : Read Extended := do
      let p ← readChoice size fuel depth
      close
      pure p
    let c ← get
    if ← accept "?=" then return .around (← inside) false false
    if ← accept "?!" then return .around (← inside) false true
    if ← accept "?<=" then return .around (← inside) true false
    if ← accept "?<!" then return .around (← inside) true true
    if "?<".toList.isPrefixOf c.rest then
      let n ← openNamed "?<"
      return .group n (← inside)
    if "?P<".toList.isPrefixOf c.rest then
      let n ← openNamed "?P<"
      return .group n (← inside)
    if ← accept "?P=" then return .same (← readNamed "" ")" false)
    if ← accept "?>" then return .atomic (← inside)
    if ← accept "?(" then return ← readConditional size fuel depth
    if ← accept "?" then
      match ← readFlags (c.rest.length + 1) false true with
      | .alone => return .empty
      | .group =>
        let p ← inside
        modify fun d => { d with flags := c.flags }
        return p
    let n := c.opened + 1
    set { c with opened := n }
    return .group n (← inside)
/-- A conditional pattern after the start of its condition. -/
def readConditional (size : Nat) : Nat → Nat → Read Extended
  | 0, _ => failure
  | fuel + 1, depth => do
    let c ← get
    let condition ← match c.rest with
      | [] => failure
      | '\'' :: _ => return ← readCases size fuel depth (.same (← readNamed "'" "'" true))
      | '<' :: _ => return ← readCases size fuel depth (.same (← readNamed "<" ">" true))
      | s :: _ =>
        if s.isDigit then pure (.same (← readNumbered size)) else readChoice size fuel depth
    readCases size fuel depth condition
/-- The cases of a conditional pattern after its condition. -/
def readCases (size : Nat) : Nat → Nat → Extended → Read Extended
  | 0, _, _ => failure
  | fuel + 1, depth, condition => do
    close
    let before ← get
    let both ← readChoice size fuel depth
    let after ← get
    if after.rest.length = before.rest.length then
      match condition with
      | .same n =>
        close
        return .known n
      | _ => failure
    close
    match both with
    | .alt [yes, no] => return decided (asCondition condition) yes no
    | .alt (yes :: others) => return decided (asCondition condition) yes (.alt others)
    | yes => return decided (asCondition condition) yes .empty
end

/-- An extended pattern with the groups that are asked for in it. -/
structure Reading where
  pattern : Extended
  wanted : List Nat
  groups : Nat

/-- Reads a pattern. -/
def read? (s : List Char) : Option Reading :=
  let size := (String.ofList s).utf8ByteSize
  match (readChoice size (8 * s.length + 16) 0).run { rest := s } with
  | some (p, c) => if c.rest.isEmpty then some ⟨p, c.wanted, c.opened⟩ else none
  | none => none

end PluginKit.Pattern.Extended
