import PluginKit.Url.Basic

/-!
# Reading identifiers of resources

A text is an identifier of its own, or a reference that is read from where another identifier stands.
Blanks at its ends and line breaks do not count. Where the scheme names hosts of the internet slashes may
be written as backslashes.

## Main statements

- `parse_nil`: the empty text is no identifier of its own.
- `join_nil`: the empty reference stands for the place where one stands.
-/

namespace PluginKit.Url

/-- The text after a part that was read. -/
abbrev Rest := List Char

/-! ## Paths -/

/-- Characters that fragments have as octets. -/
def inFragment : List Char := [' ', '"', '<', '>', '\x60']

/-- Characters that paths have as octets. -/
def inPath : List Char := inFragment ++ ['#', '?', '\x7b', '\x7d']

/-- Characters that queries have as octets. -/
def inQuery (known : Bool) : List Char :=
  [' ', '"', '#', '<', '>'] ++ (if known then ['\''] else [])

/-- Characters that users have as octets. -/
def inUser : List Char := inPath ++ ['/', ':', ';', '=', '@', '[', '\\', ']', '^', '|']

/-- Whether a step stays in its place. -/
def isStay (s : List Char) : Bool := [".", "%2e"].contains (String.ofList (s.map Char.toLower))

/-- Whether a step goes back. -/
def isBack (s : List Char) : Bool :=
  ["..", "%2e.", ".%2e", "%2e%2e"].contains (String.ofList (s.map Char.toLower))

/-- Whether a step is a drive: a letter and a colon or a bar. -/
def isDrive : List Char → Bool
  | [c, d] => c.isAlpha && (d == ':' || d == '|')
  | _ => false

/-- Whether a step is a drive as it is written in paths. -/
def isWrittenDrive (s : List Char) : Bool := isDrive s && s.getLast? == some ':'

/-- The steps without the last one. A drive stays. Steps are listed backwards. -/
def back (ofFiles : Bool) : List (List Char) → List (List Char)
  | [s] => if ofFiles && isWrittenDrive s then [s] else []
  | _ :: ss => ss
  | [] => []

/-- The steps after one more. The flag tells whether a slash follows it. -/
def advance (ofFiles slash : Bool) (done : List (List Char)) (s : List Char) : List (List Char) :=
  let stay := fun (ss : List (List Char)) => if slash then ss else [] :: ss
  if isBack s then stay (back ofFiles done)
  else if isStay s then stay done
  else if ofFiles && done.isEmpty && isDrive s then (s.take 1 ++ [':']) :: done
  else s :: done

/-- Reads steps up to a query or a fragment. `now` is the step under way. Both it and the steps that are
done are listed backwards. -/
def readSteps (known ofFiles : Bool) (done : List (List Char)) (now : List Char) :
    List Char → List (List Char) × Rest
  | [] => ((advance ofFiles false done now.reverse).reverse, [])
  | c :: cs =>
    if c = '?' ∨ c = '#' then ((advance ofFiles false done now.reverse).reverse, c :: cs)
    else if c = '/' ∨ (known ∧ c = '\\') then
      readSteps known ofFiles (advance ofFiles true done now.reverse) [] cs
    else readSteps known ofFiles done ((Percent.encodeChar inPath c).reverse ++ now) cs

/-- Steps without empty ones in front, as those of files are written. -/
def withoutEmpty : List (List Char) → List (List Char)
  | [] :: s :: ss => withoutEmpty (s :: ss)
  | ss => ss

/-- Reads the steps after those that are done, which are listed backwards. -/
def readPath (scheme : List Char) (done : List (List Char)) (s : List Char) : Way × Rest :=
  let ofFiles := isOfFiles scheme
  let (ss, rest) := readSteps (isKnown scheme) ofFiles done [] s
  (.steps (if ofFiles then withoutEmpty ss else ss), rest)

/-- Reads the path after an authority. Where hosts of the internet are named there always is one. -/
def readPathStart (scheme : List Char) (s : List Char) : Way × Rest :=
  match s with
  | c :: cs =>
    if c = '/' ∨ (isKnown scheme ∧ c = '\\') then readPath scheme [] cs
    else if !isKnown scheme ∧ (c = '?' ∨ c = '#') then (.steps [], s)
    else readPath scheme [] s
  | [] => if isKnown scheme then readPath scheme [] s else (.steps [], [])

/-- Reads a path without steps. -/
def readFlat (s : List Char) : Way × Rest :=
  let here := s.takeWhile fun c => c != '?' && c != '#'
  (.flat (Percent.encode [] here), s.drop here.length)

/-! ## Queries and fragments -/

/-- The identifier with the fragment that follows, if one does. -/
def withFragment (u : Url) : Rest → Url
  | '#' :: f => { u with fragment := some (Percent.encode inFragment f) }
  | _ => { u with fragment := none }

/-- The identifier with the query and the fragment that follow, if they do. -/
def withQuery (u : Url) : Rest → Url
  | '?' :: s =>
    let query := s.takeWhile (· != '#')
    withFragment { u with query := some (Percent.encode (inQuery (isKnown u.scheme)) query) }
      (s.drop query.length)
  | s => withFragment { u with query := none } s

/-! ## Authorities -/

/-- Whether a character ends an authority. -/
def endsAuthority (known : Bool) (c : Char) : Bool :=
  c == '/' || c == '?' || c == '#' || (known && c == '\\')

/-- The user with a password, as it is written. -/
def userText (s : List Char) : List Char :=
  match Text.splitFirst ':' s with
  | none => Percent.encode inUser s
  | some (name, password) =>
    Percent.encode inUser name ++
      (if password.isEmpty then [] else ':' :: Percent.encode inUser password)

/-- Reads the user before the last at sign of an authority. -/
def readUser (known : Bool) (s : List Char) : Except Flaw (List Char × Rest) :=
  let here := s.takeWhile fun c => !endsAuthority known c
  match Text.splitLast '@' here with
  | none => .ok ([], s)
  | some (user, host) =>
    let rest := s.drop (user.length + 1)
    if user.isEmpty ∧ host.isEmpty ∧ !rest.isEmpty then .error .emptyHost
    else .ok (userText user, rest)

/-- The length of a host: it ends at a colon outside of brackets. -/
def hostLength (known : Bool) : Bool → List Char → Nat
  | _, [] => 0
  | inside, c :: cs =>
    if endsAuthority known c || (!inside && c == ':') then 0
    else hostLength known (c == '[' || (inside && c != ']')) cs + 1

/-- Reads the digits of a port. -/
def readPort (scheme s : List Char) : Except Flaw (Option Nat × Rest) :=
  let ds := s.takeWhile Char.isDigit
  let rest := s.drop ds.length
  let n := ds.foldl (fun (n : Nat) d => n * 10 + (d.toNat - '0'.toNat)) 0
  if 0xFFFF < n ∨ !(rest.head?.all (endsAuthority true)) then .error .badPort
  else .ok (if ds.isEmpty ∨ usualPort scheme = some n then none else some n, rest)

/-- Reads an authority after its slashes. -/
def readAuthority (scheme s : List Char) : Except Flaw (Authority × Rest) := do
  let known := isKnown scheme
  let (user, s) ← readUser known s
  let length := hostLength known false s
  if known ∧ length = 0 then throw .emptyHost
  let host ← Host.read known (s.take length)
  match s.drop length with
  | ':' :: rest =>
    if length = 0 then throw .emptyHost
    let (port, rest) ← readPort scheme rest
    return ({ user, host, port }, rest)
  | rest =>
    if length = 0 ∧ !user.isEmpty then throw .emptyHost
    return ({ user, host }, rest)

/-- Reads what follows the two slashes after a scheme. -/
def readFromAuthority (scheme s : List Char) : Except Flaw Url := do
  let (a, rest) ← readAuthority scheme s
  let (path, rest) := readPathStart scheme rest
  return withQuery { scheme, authority := some a, path } rest

/-! ## Files -/

/-- The scheme of files. -/
def fileScheme : List Char := ['f', 'i', 'l', 'e']

/-- The identifier of a file on a host. A drive stands on no host. -/
def fileOn (host : Host) (path : Way) (rest : Rest) : Url :=
  let host := match path with
    | .steps (s :: _) => if isWrittenDrive s then .empty else host
    | _ => host
  withQuery { scheme := fileScheme, authority := some { host }, path } rest

/-- Whether a text starts with a drive. -/
def startsWithDrive (s : List Char) : Bool :=
  isDrive (s.take 2) && (s.drop 2).head?.all (endsAuthority true)

/-- Reads a file after two slashes. The host of its own name is no host. -/
def readFileHost (s : List Char) : Except Flaw Url := do
  let here := s.takeWhile fun c => !endsAuthority true c
  if isDrive here then
    let (path, rest) := readPath fileScheme [] s
    return fileOn .empty path rest
  let host ← if here.isEmpty then .ok .empty else Host.read true here
  let host := if host = .name "localhost".toList then .empty else host
  let (path, rest) := readPathStart fileScheme (s.drop here.length)
  return fileOn host path rest

/-- The steps of a path, listed backwards. -/
def stepsBack (u : Url) : List (List Char) :=
  match u.path with
  | .flat _ => []
  | .steps ss => ss.reverse

/-- The host of an identifier. -/
def hostOf (u : Url) : Host := (u.authority.map Authority.host).getD .empty

/-- Reads a file from the root of no host. -/
def readRootFile (s : List Char) : Url :=
  let (path, rest) := readPath fileScheme [] s
  fileOn .empty path rest

/-- Reads a file from the place of another one. -/
def readNearFile (base : Url) (s : List Char) : Url :=
  match s with
  | [] => base.withoutFragment
  | '?' :: _ => withQuery base s
  | '#' :: _ => withFragment base s
  | _ =>
    if startsWithDrive s then readRootFile s
    else
      let (path, rest) := readPath fileScheme (back true base.stepsBack) s
      fileOn base.hostOf path rest

/-- Reads a file after one slash, which keeps the host and the drive of the place where it is read. -/
def readAbsoluteFile (base : Option Url) (s : List Char) : Url :=
  let near := !startsWithDrive s
  let drive := base.bind fun b => b.stepsBack.getLast?.filter fun step => near && isWrittenDrive step
  let host := if near && drive.isNone then (base.map hostOf).getD .empty else .empty
  let (path, rest) := readPath fileScheme drive.toList s
  fileOn host path rest

/-- Reads a file, from the place of another one if there is one. -/
def readFile (base : Option Url) (s : List Char) : Except Flaw Url :=
  let slashes := (s.takeWhile fun c => c == '/' || c == '\\').length
  match slashes, base with
  | 0, none => .ok (readRootFile s)
  | 0, some b => .ok (b.readNearFile s)
  | 1, _ => .ok (readAbsoluteFile base s.tail)
  | _, _ => readFileHost (s.drop 2)

/-! ## Whole identifiers -/

/-- Reads what refers to something from the place of another identifier of the same scheme. -/
def readRelative (base : Url) (s : List Char) : Except Flaw Url :=
  match s with
  | [] => .ok base.withoutFragment
  | '?' :: _ => .ok (withQuery base s)
  | '#' :: _ => .ok (withFragment base s)
  | c :: cs =>
    if c = '/' ∨ c = '\\' then
      match s with
      | '/' :: '/' :: rest => readFromAuthority base.scheme rest
      | _ =>
        if cs.head?.any fun d => d == '/' || d == '\\' then
          readFromAuthority base.scheme (s.dropWhile fun d => d == '/' || d == '\\')
        else
          let (path, rest) := readPath base.scheme [] cs
          .ok (withQuery { base with path } rest)
    else
      let (path, rest) := readPath base.scheme base.stepsBack.tail s
      .ok (withQuery { base with path } rest)

/-- The scheme in front of a colon, in lower case, and what follows. -/
def readScheme (s : List Char) : Option (List Char × Rest) :=
  match Text.splitFirst ':' s with
  | some (c :: scheme, rest) =>
    if c.isAlpha && scheme.all fun d => d.isAlphanum || d == '+' || d == '-' || d == '.' then
      some ((c :: scheme).map Char.toLower, rest)
    else none
  | _ => none

/-- Reads what follows a scheme. -/
def readFromScheme (base : Option Url) (scheme s : List Char) : Except Flaw Url :=
  if isOfFiles scheme then readFile (base.filter fun b => isOfFiles b.scheme) s
  else if isKnown scheme then
    let slashes := s.takeWhile fun c => c == '/' || c == '\\'
    match base.filter fun b => b.scheme == scheme && slashes.length < 2 with
    | some b => readRelative b s
    | none => readFromAuthority scheme (s.drop slashes.length)
  else
    match s with
    | '/' :: '/' :: rest => readFromAuthority scheme rest
    | '/' :: rest =>
      let (path, rest) := readPath scheme [] rest
      .ok (withQuery { scheme, path } rest)
    | _ =>
      let (path, rest) := readFlat s
      .ok (withQuery { scheme, path } rest)

/-- A text without the characters that do not count. -/
def trimmed (s : List Char) : List Char :=
  let counts := fun (c : Char) => decide (0x20 < c.toNat)
  let inner := ((s.dropWhile fun c => !counts c).reverse.dropWhile fun c => !counts c).reverse
  inner.filter fun c => c != '\t' && c != '\n' && c != '\r'

/-- Reads an identifier, or a reference from the place of another one. -/
def read (base : Option Url) (s : String) : Except Flaw Url :=
  let s := trimmed s.toList
  match readScheme s, base with
  | some (scheme, rest), _ => readFromScheme base scheme rest
  | none, none => .error .noBase
  | none, some b =>
    match s, b.path with
    | '#' :: _, _ => .ok (withFragment b s)
    | _, .flat _ => .error .baseWithoutSegments
    | _, .steps _ => if isOfFiles b.scheme then readFile base s else readRelative b s

/-- Reads an identifier. -/
def parse (s : String) : Except Flaw Url := read none s

/-- The identifier that a reference stands for from a place. -/
def join (base : Url) (s : String) : Except Flaw Url := read (some base) s

/-- The empty text is no identifier of its own. -/
theorem parse_nil : parse "" = .error .noBase := rfl

/-- The empty reference stands for the place where one stands. -/
theorem join_nil (u : Url) (ss : List (List Char)) (h : u.path = .steps ss) :
    u.join "" = .ok u.withoutFragment := by
  have nothing : trimmed "".toList = [] := rfl
  simp only [join, read, nothing, readScheme, Text.splitFirst, h]
  split <;> simp [readFile, readNearFile, readRelative]

end PluginKit.Url
