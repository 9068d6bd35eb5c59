import PluginKit.Json.Reader
import PluginKit.Net.Address
import PluginKit.Timestamp
import PluginKit.Toml.Tree

/-!
# Reading TOML

A document is read line by line into a tree of tables and answered as a value. Points in time are
objects with one member, since values have no type for them.
-/

namespace PluginKit.Toml

/-- Reads a part of a text and gives what follows. -/
abbrev Reads (α : Type) := List Char → Option (α × List Char)

/-! ## Blanks -/

/-- Steps over spaces and tabs. -/
def skipBlanks (s : List Char) : List Char := s.dropWhile fun c => c = ' ' ∨ c = '\t'

/-- A character that may stand in a line. -/
def inLine (c : Char) : Bool := c == '\t' || (0x20 ≤ c.toNat && c.toNat != 0x7F)

/-- Steps over a comment, if there is one. -/
def skipComment : List Char → List Char
  | '#' :: s => s.dropWhile inLine
  | s => s

/-- Steps over the end of a line. -/
def newline? : List Char → Option (List Char)
  | '\n' :: s => some s
  | '\r' :: '\n' :: s => some s
  | _ => none

/-- Steps over what may follow on a line up to its end. -/
def endLine? (s : List Char) : Option (List Char) :=
  match skipComment (skipBlanks s) with
  | [] => some []
  | s => newline? s

/-- Steps over blanks, comments and ends of lines. -/
def skipLines : Nat → List Char → List Char
  | 0, s => s
  | fuel + 1, s =>
    let s := skipComment (skipBlanks s)
    match newline? s with
    | some s => skipLines fuel s
    | none => s

/-! ## Strings -/

/-- A character by hexadecimal digits. -/
def readCode (width : Nat) : Reads Char := fun s =>
  if s.length < width then none
  else do
    let n ← (s.take width).foldlM (fun n c => (Net.digit? 16 c).map fun d => 16 * n + d) 0
    if n.isValidChar then some (Char.ofNat n, s.drop width) else none

/-- The character that an escape stands for, after the backslash. -/
def readEscape : Reads Char
  | 'b' :: s => some ('\x08', s)
  | 't' :: s => some ('\t', s)
  | 'n' :: s => some ('\n', s)
  | 'f' :: s => some ('\x0c', s)
  | 'r' :: s => some ('\r', s)
  | '"' :: s => some ('"', s)
  | '\\' :: s => some ('\\', s)
  | 'u' :: s => readCode 4 s
  | 'U' :: s => readCode 8 s
  | _ => none

/-- The rest of a string in double quotes. -/
def readBasic : Nat → Reads (List Char)
  | 0, _ => none
  | fuel + 1, s =>
    match s with
    | '"' :: s => some ([], s)
    | '\\' :: s => do
      let (c, s) ← readEscape s
      let (cs, s) ← readBasic fuel s
      some (c :: cs, s)
    | c :: s => if inLine c then (readBasic fuel s).map fun p => (c :: p.1, p.2) else none
    | [] => none

/-- The rest of a string in single quotes. -/
def readLiteral (s : List Char) : Option (List Char × List Char) :=
  let content := s.takeWhile fun c => c != '\'' && inLine c
  match s.drop content.length with
  | '\'' :: s => some (content, s)
  | _ => none

/-- A backslash at the end of a line takes all blanks and lines up to the next text away. -/
def skipFold : Nat → List Char → List Char
  | 0, s => s
  | fuel + 1, s =>
    let s := skipBlanks s
    match newline? s with
    | some s => skipFold fuel s
    | none => s

/-- The quotes that end a string over lines: three, after at most two that belong to it. -/
def closing? (quote : Char) (s : List Char) : Option (List Char × List Char) :=
  let n := (s.takeWhile (· == quote)).length
  if 3 ≤ n then
    let inside := min (n - 3) 2
    some (List.replicate inside quote, s.drop (inside + 3))
  else none

/-- The rest of a string over lines. In single quotes backslashes stand for themselves. -/
def readLong (quote : Char) : Nat → Reads (List Char)
  | 0, _ => none
  | fuel + 1, s =>
    match closing? quote s with
    | some p => some p
    | none =>
      match s with
      | '\\' :: s =>
        if quote = '"' then
          match newline? (skipBlanks s) with
          | some _ => readLong quote fuel (skipFold (s.length + 1) s)
          | none => do
            let (c, s) ← readEscape s
            let (cs, s) ← readLong quote fuel s
            some (c :: cs, s)
        else (readLong quote fuel s).map fun p => ('\\' :: p.1, p.2)
      | c :: rest =>
        match newline? s with
        | some s => (readLong quote fuel s).map fun p => ('\n' :: p.1, p.2)
        | none => if inLine c then (readLong quote fuel rest).map fun p => (c :: p.1, p.2) else none
      | [] => none

/-- An end of line right after the opening quotes does not count. -/
def dropFirstNewline (s : List Char) : List Char := (newline? s).getD s

/-- A string. -/
def readString : Reads String := fun s =>
  let result := match s with
    | '"' :: '"' :: '"' :: s => readLong '"' (s.length + 1) (dropFirstNewline s)
    | '\'' :: '\'' :: '\'' :: s => readLong '\'' (s.length + 1) (dropFirstNewline s)
    | '"' :: s => readBasic (s.length + 1) s
    | '\'' :: s => readLiteral s
    | _ => none
  result.map fun p => (String.ofList p.1, p.2)

/-! ## Keys -/

/-- A character of a key without quotes. -/
def inBareKey (c : Char) : Bool := c.isAlphanum || c == '-' || c == '_'

/-- A single name of a key. -/
def readName : Reads String := fun s =>
  match s with
  | '"' :: s => (readBasic (s.length + 1) s).map fun p => (String.ofList p.1, p.2)
  | '\'' :: s => (readLiteral s).map fun p => (String.ofList p.1, p.2)
  | s =>
    let name := s.takeWhile inBareKey
    if name.isEmpty then none else some (String.ofList name, s.drop name.length)

/-- How many arrays and tables may lie inside one another, and how many names a key may have. -/
def depthLimit : Nat := 79

/-- At most so many names between dots, with blanks around them. -/
def readNames : Nat → Reads (List String)
  | 0, _ => none
  | room + 1, s => do
    let (name, s) ← readName (skipBlanks s)
    match skipBlanks s with
    | '.' :: s => do
      let (names, s) ← readNames room s
      some (name :: names, s)
    | s => some ([name], s)

/-- The names of a key. -/
def readKey : Reads (List String) := readNames depthLimit

/-! ## Numbers and points in time -/

/-- Digits that may be separated by single underscores, without them. -/
def groupedDigits? (isDigit : Char → Bool) : List Char → Option (List Char)
  | [] => none
  | [c] => if isDigit c then some [c] else none
  | c :: '_' :: rest => if isDigit c then (groupedDigits? isDigit rest).map (c :: ·) else none
  | c :: rest => if isDigit c then (groupedDigits? isDigit rest).map (c :: ·) else none

/-- The value of digits in a base. -/
def valueOf (base : Nat) (ds : List Char) : Nat :=
  ds.foldl (fun n c => base * n + (Net.digit? base c).getD 0) 0

/-- An integer of 64 bits. -/
def inRange (n : Int) : Option Json :=
  if -0x8000000000000000 ≤ n ∧ n < 0x8000000000000000 then some (.int n) else none

/-- An integer in another base than ten. -/
def basedInteger (base : Nat) (ds : List Char) : Option Json := do
  let ds ← groupedDigits? (fun c => (Net.digit? base c).isSome) ds
  inRange (valueOf base ds)

/-- A sign and what follows it. -/
def splitSign : List Char → Bool × List Char
  | '-' :: s => (true, s)
  | '+' :: s => (false, s)
  | s => (false, s)

/-- The digits of a whole decimal number. It does not start with a zero unless it is one. -/
def wholeDigits? (ds : List Char) : Option (List Char) := do
  let ds ← groupedDigits? Char.isDigit ds
  if 1 < ds.length ∧ ds.head? = some '0' then none else some ds

/-- The digits of a number with a fraction or an exponent, without underscores. -/
def floatDigits? (s : List Char) : Option (List Char) := do
  let isMark (c : Char) : Bool := c == '.' || c == 'e' || c == 'E'
  let whole := s.takeWhile fun c => !isMark c
  let wholeDs ← wholeDigits? whole
  let rest := s.drop whole.length
  let (fraction, rest) ← match rest with
    | '.' :: rest =>
      let f := rest.takeWhile fun c => !isMark c
      (groupedDigits? Char.isDigit f).map fun ds => ('.' :: ds, rest.drop f.length)
    | rest => some ([], rest)
  let exponent ← match rest with
    | [] => some []
    | e :: rest =>
      if e = 'e' ∨ e = 'E' then
        let (negative, ds) := splitSign rest
        (groupedDigits? Char.isDigit ds).map fun ds => 'e' :: (if negative then '-' :: ds else ds)
      else none
  some (wholeDs ++ fraction ++ exponent)

/-- The floating point number that a text of digits stands for, unless it is too large. -/
def floatOf (negative : Bool) (ds : List Char) : Option Json :=
  let text := if negative then '-' :: ds else ds
  (Json.Reading.ofString (String.ofList text)).root.value.toOption

/-- A number without bounds. -/
def special (negative : Bool) (bits : UInt64) : Json :=
  .num (.float (if negative then (⟨bits⟩ : Binary64).neg else ⟨bits⟩))

/-- A decimal number. -/
def decimal (s : List Char) : Option Json :=
  let (negative, s) := splitSign s
  if s = "inf".toList then some (special negative 0x7FF0000000000000)
  else if s = "nan".toList then some (special negative 0x7FF8000000000000)
  else
    match wholeDigits? s with
    | some ds =>
      let n := valueOf 10 ds
      inRange (if negative then -(n : Int) else n)
    | none => (floatDigits? s).bind (floatOf negative)

/-- Two digits up to a bound. -/
def twoDigits? (most : Nat) : List Char → Option Nat
  | [a, b] =>
    if a.isDigit ∧ b.isDigit ∧ valueOf 10 [a, b] ≤ most then some (valueOf 10 [a, b]) else none
  | _ => none

/-- Whether a text is a date. -/
def isDate (s : List Char) : Bool :=
  match Text.splitAll '-' s with
  | [y, m, d] =>
    y.length == 4 && y.all Char.isDigit &&
      match twoDigits? 12 m, twoDigits? 31 d with
      | some m, some d => (Timestamp.Date.mk (valueOf 10 y) m d).isValid
      | _, _ => false
  | _ => false

/-- Whether a text is a time of day. -/
def isClock (s : List Char) : Bool :=
  match Text.splitAll ':' s with
  | [h, m, sec] =>
    let whole := sec.take 2
    let fraction := sec.drop 2
    (twoDigits? 23 h).isSome && (twoDigits? 59 m).isSome && (twoDigits? 60 whole).isSome &&
      (fraction.isEmpty ||
        (fraction.head? == some '.' && 1 < fraction.length && fraction.tail.all Char.isDigit))
  | _ => false

/-- Whether a text is a time of day with or without an offset. -/
def isTime (s : List Char) : Bool :=
  let clock := s.takeWhile fun c => c.isDigit || c == ':' || c == '.'
  isClock clock &&
    match s.drop clock.length with
    | [] => true
    | [c] => c == 'Z' || c == 'z'
    | sign :: rest =>
      (sign == '+' || sign == '-') &&
        match Text.splitAll ':' rest with
        | [h, m] => (twoDigits? 23 h).isSome && (twoDigits? 59 m).isSome
        | _ => false

/-- A point in time as a value. -/
def moment (s : List Char) : Json :=
  .obj [("$__toml_private_datetime", .str (String.ofList s))]

/-- A date, a time of day or both. -/
def momentOf? (s : List Char) : Option Json :=
  if isDate s ∨ isClock s then some (moment s)
  else
    match s.drop 10 with
    | c :: time =>
      if (c = 'T' ∨ c = 't' ∨ c = ' ') ∧ isDate (s.take 10) ∧ isTime time then some (moment s)
      else none
    | [] => none

/-- A character of a word: a number, a truth value or a point in time. -/
def inWord (c : Char) : Bool := c.isAlphanum || c ∈ ['+', '-', '_', '.', ':']

/-- The value of a word. -/
def wordValue (s : List Char) : Option Json :=
  if s = "true".toList then some (.bool true)
  else if s = "false".toList then some (.bool false)
  else
    match s with
    | '0' :: 'x' :: ds => basedInteger 16 ds
    | '0' :: 'o' :: ds => basedInteger 8 ds
    | '0' :: 'b' :: ds => basedInteger 2 ds
    | s => (decimal s).orElse fun _ => momentOf? s

/-- A word and its value. A date and a time may be separated by a space. -/
def readWord : Reads Json := fun s =>
  let word := s.takeWhile inWord
  let rest := s.drop word.length
  match rest with
  | ' ' :: after =>
    let time := after.takeWhile inWord
    if isDate word ∧ isTime time then some (moment (word ++ ' ' :: time), after.drop time.length)
    else (wordValue word).map fun v => (v, rest)
  | _ => (wordValue word).map fun v => (v, rest)

/-! ## Values -/

mutual
/-- A value. In it at most `room` arrays and tables lie inside one another. -/
def readValue : Nat → Nat → Reads Json
  | 0, _, _ => none
  | fuel + 1, room, s =>
    match s, room with
    | '"' :: _, _ => (readString s).map fun p => (.str p.1, p.2)
    | '\'' :: _, _ => (readString s).map fun p => (.str p.1, p.2)
    | '[' :: _, 0 => none
    | '{' :: _, 0 => none
    | '[' :: s, room + 1 => (readItems fuel room s).map fun p => (.arr p.1, p.2)
    | '{' :: s, room + 1 =>
      match skipBlanks s with
      | '}' :: s => some (.obj [], s)
      | s => (readInline fuel room [] s).map fun p => (.obj (membersOf p.1), p.2)
    | s, _ => readWord s
/-- The rest of an array. -/
def readItems : Nat → Nat → Reads (List Json)
  | 0, _, _ => none
  | fuel + 1, room, s =>
    match skipLines (s.length + 1) s with
    | ']' :: s => some ([], s)
    | s =>
      match readValue fuel room s with
      | none => none
      | some (v, s) =>
        match skipLines (s.length + 1) s with
        | ',' :: s => (readItems fuel room s).map fun p => (v :: p.1, p.2)
        | ']' :: s => some ([v], s)
        | _ => none
/-- The rest of an inline table, after the entries so far. -/
def readInline : Nat → Nat → Entries → Reads Entries
  | 0, _, _, _ => none
  | fuel + 1, room, es, s =>
    match readKey s with
    | some (names, '=' :: s) =>
      match readValue fuel room (skipBlanks s) with
      | none => none
      | some (v, s) =>
        match Entries.defineKey names (.value v) es with
        | none => none
        | some es =>
          match skipBlanks s with
          | ',' :: s => readInline fuel room es s
          | '}' :: s => some (es, s)
          | _ => none
    | _ => none
end

/-! ## Documents -/

/-- The document so far and the names of the table where one stands. -/
structure Document where
  root : Entries := []
  here : List String := []

/-- The table of a header, after its bracket. -/
def readHeader (d : Document) (s : List Char) : Option (Document × List Char) :=
  match readKey s with
  | some (names, ']' :: s) => do
    let key ← names.getLast?
    let root ← Entries.alter (Entries.openTable key) names.dropLast d.root
    some ({ root, here := names }, s)
  | _ => none

/-- The table of a header between double brackets. -/
def readNextHeader (d : Document) (s : List Char) : Option (Document × List Char) :=
  match readKey s with
  | some (names, ']' :: ']' :: s) => do
    let key ← names.getLast?
    let root ← Entries.alter (Entries.openNext key) names.dropLast d.root
    some ({ root, here := names }, s)
  | _ => none

/-- A key and its value. -/
def readEntry (d : Document) (s : List Char) : Option (Document × List Char) :=
  match readKey s with
  | some (names, '=' :: s) => do
    let (v, s) ← readValue (2 * s.length + 2) depthLimit (skipBlanks s)
    let root ← Entries.alter (Entries.defineKey names (.value v)) d.here d.root
    some ({ d with root }, s)
  | _ => none

/-- Reads a line that is neither blank nor a comment. -/
def readStatement (d : Document) : List Char → Option (Document × List Char)
  | '[' :: '[' :: s => readNextHeader d s
  | '[' :: s => readHeader d s
  | s => readEntry d s

/-- Reads lines to the end. -/
def readLines : Nat → Document → List Char → Option Document
  | 0, _, _ => none
  | fuel + 1, d, s =>
    match skipLines (s.length + 1) s with
    | [] => some d
    | s => do
      let (d, s) ← readStatement d s
      readLines fuel d (← endLine? s)

/-- Reads a document. A mark of the order of octets at the start does not count. -/
def read? (text : String) : Option Json :=
  let s := match text.toList with
    | '\ufeff' :: s => s
    | s => s
  (readLines (s.length + 1) {} s).map fun d => .obj (membersOf d.root)

end PluginKit.Toml
