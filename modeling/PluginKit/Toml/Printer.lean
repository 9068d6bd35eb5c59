import PluginKit.Json.Basic
import PluginKit.Text.Hex

/-!
# Writing TOML

A value is written as a document: its plain members first, one on a line, and a table for every
member that is an object. A text is written in the plainest quotes that show it as it is.
-/

namespace PluginKit.Toml

/-! ## Texts -/

/-- The longest run of a character. -/
def longestRun (c : Char) (s : List Char) : Nat :=
  (s.foldl
    (fun (acc : Nat × Nat) d =>
      let run := if d = c then acc.2 + 1 else 0
      (max acc.1 run, run)) (0, 0)).1

/-- A character that only an escape can show. -/
def needsEscape (c : Char) : Bool := (c.toNat < 0x20 && c != '\t' && c != '\n') || c == '\x7f'

/-- The quotes around a text. -/
inductive Quotes where
  | basic
  | literal
  | longBasic
  | longLiteral
  deriving DecidableEq, Repr

/-- The plainest quotes that show a text as it is, and double quotes where none do. -/
def Quotes.of (s : List Char) : Quotes :=
  let codes := s.any needsEscape
  let slash := s.contains '\\'
  let lines := s.contains '\n'
  let double := longestRun '"' s
  let single := longestRun '\'' s
  if !codes && !slash && double = 0 && !lines then .basic
  else if !codes && single = 0 && !lines then .literal
  else if !codes && !slash && double ≤ 2 then .longBasic
  else if !codes && single ≤ 2 then .longLiteral
  else if lines then .longBasic
  else .basic

/-- How a character other than a quote is written between double quotes. -/
def escaped (long : Bool) (c : Char) : List Char :=
  if c = '\\' then ['\\', '\\']
  else if c = '\n' then if long then ['\n'] else ['\\', 'n']
  else if c = '\x08' then ['\\', 'b']
  else if c = '\t' then ['\\', 't']
  else if c = '\x0c' then ['\\', 'f']
  else if c = '\r' then ['\\', 'r']
  else if needsEscape c then
    '\\' :: 'u' :: '0' :: '0' :: [Text.Hex.digit (c.toNat / 16), Text.Hex.digit c.toNat].map Char.toUpper
  else [c]

/-- The content of double quotes, in which only a number of quotes may follow each other. -/
def escapedText (long : Bool) (most : Nat) : Nat → List Char → List Char
  | _, [] => []
  | run, c :: cs =>
    if c = '"' then
      if run < most then '"' :: escapedText long most (run + 1) cs
      else '\\' :: '"' :: escapedText long most 0 cs
    else escaped long c ++ escapedText long most 0 cs

/-- A text between quotes. Long quotes start with an end of line, which does not count. -/
def quoteAs (q : Quotes) (s : List Char) : List Char :=
  match q with
  | .basic => '"' :: escapedText false 0 0 s ++ ['"']
  | .literal => '\'' :: s ++ ['\'']
  | .longBasic => "\"\"\"".toList ++ firstLine ++ escapedText true 2 0 s ++ "\"\"\"".toList
  | .longLiteral => "'''".toList ++ firstLine ++ s ++ "'''".toList
where
  /-- The end of line after long quotes, which only a text over lines needs. -/
  firstLine : List Char := if s.contains '\n' then ['\n'] else []

/-- A text as a value. -/
def renderText (s : String) : String := String.ofList (quoteAs (.of s.toList) s.toList)

/-- A name as a key: as it is if it is plain, and between quotes on one line otherwise. -/
def renderKey (s : String) : String :=
  let cs := s.toList
  if !cs.isEmpty && cs.all fun c => c.isAlphanum || c == '-' || c == '_' then s
  else
    let q := match Quotes.of cs with
      | .literal => Quotes.literal
      | _ => .basic
    String.ofList (quoteAs q cs)

/-! ## Values -/

/-- An integer, which has to fit 64 bits with a sign. -/
def renderInteger (n : Int) : Option String :=
  if -0x8000000000000000 ≤ n ∧ n < 0x8000000000000000 then some (toString n) else none

/-- A list: on one line if it is short, and one item on a line otherwise. -/
def renderList (items : List String) : String :=
  match items with
  | [] => "[]"
  | [v] => "[" ++ v ++ "]"
  | vs => "[\n" ++ String.join (vs.map fun v => "    " ++ v ++ ",\n") ++ "]"

/-- A value that is not a table, if it has a form. -/
def renderValue : Json → Option String
  | .str s => some (renderText s)
  | .bool b => some (if b then "true" else "false")
  | .num (.int n) => renderInteger n
  | .arr items => (renderItems items).map renderList
  | _ => none
where
  /-- The items of a list. -/
  renderItems : List Json → Option (List String)
    | [] => some []
    | v :: vs => do return (← renderValue v) :: (← renderItems vs)

/-- A member on a line. -/
def renderMember (m : String × Json) : Option String :=
  (renderValue m.2).map fun v => renderKey m.1 ++ " = " ++ v ++ "\n"

/-- The header of a table. -/
def renderHeader (path : List String) : String := "[" ++ ".".intercalate (path.map renderKey) ++ "]\n"

mutual
/-- A table and the tables in it, as blocks of lines. A table that holds only tables needs no block
of its own. -/
def blocks (path : List String) : Json → Option (List String)
  | .obj ms => do
    let own ← (ms.filter fun m => !m.2.isObject && !m.2.isNull).mapM renderMember
    let inner ← blocksIn path ms
    let header := if path.isEmpty then "" else renderHeader path
    if own.isEmpty && (path.isEmpty || ms.any fun m => m.2.isObject) then return inner
    return (header ++ String.join own) :: inner
  | _ => none
/-- The blocks of the tables among members. -/
def blocksIn (path : List String) : List (String × Json) → Option (List String)
  | [] => some []
  | (k, .obj ms) :: rest => do return (← blocks (path ++ [k]) (.obj ms)) ++ (← blocksIn path rest)
  | _ :: rest => blocksIn path rest
end

/-- An object as a document, with a blank line between tables. Members without a value are left
out. -/
def render? (v : Json) : Option String := (blocks [] v).map ("\n".intercalate ·)

end PluginKit.Toml
