import PluginKit.Text.Utf8

/-!
# Request targets

The target of a request: a path with a query, an authority, or both after a scheme. Reading looks at
octets and refuses those that a target may not hold; a fragment is dropped.

## Main statements

- `parse_nil`: there is no empty target.
-/

namespace PluginKit.Http

/-- A request target. An absent path is written as a slash where there is a scheme. -/
structure Uri where
  scheme : Option String := none
  authority : Option String := none
  path : String := ""
  query : Option String := none
  deriving DecidableEq, Repr

namespace Uri

/-- Why a text is no target. -/
inductive Flaw where
  | empty
  | tooLong
  | foreignCharacter
  | authority
  | schemeTooLong
  | format
  deriving DecidableEq, Repr

/-- The wording of a flaw. -/
def Flaw.message : Flaw → String
  | .empty => "empty string"
  | .tooLong => "uri too long"
  | .foreignCharacter => "invalid uri character"
  | .authority => "invalid authority"
  | .schemeTooLong => "scheme too long"
  | .format => "invalid format"

/-- The path as it is routed. -/
def routed (u : Uri) : String :=
  if u.path = "" ∧ (u.scheme.isSome ∨ u.query.isSome) then "/" else u.path

/-- The text of a target. -/
def text (u : Uri) : String :=
  (match u.scheme with
    | some s => s ++ "://"
    | none => "") ++
  u.authority.getD "" ++ u.routed ++
  (match u.query with
    | some q => "?" ++ q
    | none => "")

/-! ## Reading -/

/-- Octets that a path may hold. -/
def inPath (c : Char) : Bool :=
  let n := c.toNat
  n == 0x21 || (0x24 ≤ n && n ≤ 0x3B) || n == 0x3D || (0x40 ≤ n && n ≤ 0x5F) ||
    (0x61 ≤ n && n ≤ 0x7A) || n == 0x7C || (0x7E ≤ n && n != 0x7F) || c == '"' || c == '{' || c == '}'

/-- Octets that a query may hold. -/
def inQuery (c : Char) : Bool :=
  let n := c.toNat
  n == 0x21 || (0x24 ≤ n && n ≤ 0x3B) || n == 0x3D || (0x3F ≤ n && n != 0x7F)

/-- Octets that an authority may hold besides the percent sign. -/
def inAuthority (c : Char) : Bool :=
  c.isAlphanum || c ∈ ['!', '$', '&', '\'', '(', ')', '*', '+', ',', '-', '.', ':', ';', '=', '@',
    '[', ']', '_', '~']

/-- Reads path and query. -/
def readPath (s : List Char) : Except Flaw (String × Option String) :=
  let path := s.takeWhile fun c => c != '?' && c != '#'
  if !path.all inPath then .error .foreignCharacter
  else
    match s.drop path.length with
    | '?' :: rest =>
      let query := rest.takeWhile (· != '#')
      if query.all inQuery then .ok (String.ofList path, some (String.ofList query))
      else .error .foreignCharacter
    | _ => .ok (String.ofList path, none)

/-- The parts of an authority that were read so far. -/
structure AuthorityState where
  colons : Nat := 0
  opened : Bool := false
  closed : Bool := false
  percent : Bool := false

/-- One more character of an authority. -/
def AuthorityState.next (s : AuthorityState) (c : Char) : Except Flaw AuthorityState :=
  if c = ':' then
    if 8 ≤ s.colons then .error .authority else .ok { s with colons := s.colons + 1 }
  else if c = '[' then
    if s.percent || s.opened then .error .authority else .ok { s with opened := true }
  else if c = ']' then
    if !s.opened || s.closed then .error .authority
    else .ok { s with closed := true, colons := 0, percent := false }
  else if c = '@' then .ok { s with colons := 0, percent := false }
  else if c = '%' then .ok { s with percent := true }
  else if inAuthority c then .ok s
  else .error .foreignCharacter

/-- Splits off an authority, which may be empty. -/
def readAuthority (s : List Char) : Except Flaw (List Char × List Char) := do
  let authority := s.takeWhile fun c => c != '/' && c != '?' && c != '#'
  let st ← authority.foldlM AuthorityState.next {}
  if st.opened != st.closed || 1 < st.colons || authority.getLast? == some '@' || st.percent then
    throw .authority
  return (authority, s.drop authority.length)

/-- Characters of a scheme. -/
def inScheme (c : Char) : Bool := c.isAlphanum || c ∈ ['+', '-', '.', '~']

/-- Splits off a scheme, if there is one. The two usual ones are known in any case of their
letters. -/
def readScheme (s : List Char) : Except Flaw (Option String × List Char) :=
  let lower := (s.take 8).map Char.toLower
  if "http://".toList.isPrefixOf lower then .ok (some "http", s.drop 7)
  else if "https://".toList.isPrefixOf lower then .ok (some "https", s.drop 8)
  else
    let name := s.takeWhile inScheme
    if 3 < s.length ∧ "://".toList.isPrefixOf (s.drop name.length) then
      if 64 < name.length then .error .schemeTooLong
      else .ok (some (String.ofList name), s.drop (name.length + 3))
    else .ok (none, s)

/-- Reads a target that does not start with a slash. -/
def readFull (s : List Char) : Except Flaw Uri := do
  let (scheme, rest) ← readScheme s
  let (authority, rest) ← readAuthority rest
  if scheme.isNone then
    if !rest.isEmpty then throw .format
    return { authority := some (String.ofList authority) }
  if authority.isEmpty then throw (if rest.isEmpty then .empty else .format)
  let (path, query) ← readPath rest
  return { scheme, authority := some (String.ofList authority), path, query }

/-- Reads a single character other than a slash or a star. -/
def readSingle (s : List Char) : Except Flaw Uri := do
  let (authority, rest) ← readAuthority s
  if !rest.isEmpty then throw .foreignCharacter
  return { authority := some (String.ofList authority) }

/-- Reads a target. -/
def parse (text : String) : Except Flaw Uri :=
  if 65534 < text.utf8ByteSize then .error .tooLong
  else
    match text.toList with
    | [] => .error .empty
    | ['*'] => .ok { path := "*" }
    | '/' :: rest => (readPath ('/' :: rest)).map fun p => { path := p.1, query := p.2 }
    | [c] => readSingle [c]
    | s => readFull s

/-- The empty text is not a target. -/
theorem parse_nil : parse "" = .error .empty := rfl

end Uri

end PluginKit.Http
