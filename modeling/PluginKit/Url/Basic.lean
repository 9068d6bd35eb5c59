import PluginKit.Url.Host

/-!
# Identifiers of resources

An identifier has a scheme and a path, and may have an authority, a query and a fragment. All parts are
kept as they are written, that is with octets for the characters that cannot stand in them.
-/

namespace PluginKit.Url

/-- The authority of an identifier: user, host and port. The user comes with a password, if there is one.
-/
structure Authority where
  user : List Char := []
  host : Host
  port : Option Nat := none
  deriving DecidableEq, Repr

/-- The way to a resource: a text without steps, or steps, each of them after a slash. -/
inductive Way where
  | flat (s : List Char)
  | steps (ss : List (List Char))
  deriving DecidableEq, Repr

end Url

/-- An identifier of a resource. -/
structure Url where
  scheme : List Char
  authority : Option Url.Authority := none
  path : Url.Way
  query : Option (List Char) := none
  fragment : Option (List Char) := none
  deriving DecidableEq, Repr

namespace Url

/-- The text of an authority. -/
def Authority.text (a : Authority) : List Char :=
  (if a.user.isEmpty then [] else a.user ++ ['@']) ++ a.host.text ++
    match a.port with
    | none => []
    | some p => ':' :: Nat.toDigits 10 p

/-- The text of a way. -/
def Way.text : Way → List Char
  | .flat s => s
  | .steps ss => ss.flatMap fun s => '/' :: s

/-- The text between scheme and path. Without an authority, a path that would be read as one is preceded
by a step that stays in its place. -/
def lead (u : Url) : List Char :=
  match u.authority, u.path with
  | some a, _ => '/' :: '/' :: a.text
  | none, .steps ([] :: _ :: _) => ['/', '.']
  | none, _ => []

/-- The identifier without its fragment. -/
def withoutFragment (u : Url) : Url := { u with fragment := none }

/-- The text of an identifier. -/
def text (u : Url) : String :=
  String.ofList <|
    u.scheme ++ ':' :: u.lead ++ u.path.text ++ (u.query.map fun q => '?' :: q).getD [] ++
      (u.fragment.map fun f => '#' :: f).getD []

/-! ## Schemes -/

/-- The schemes that name hosts of the internet, with their ports. -/
def ports : List (String × Option Nat) :=
  [("file", none), ("ftp", some 21), ("http", some 80), ("https", some 443), ("ws", some 80),
    ("wss", some 443)]

/-- Whether a scheme names hosts of the internet. -/
def isKnown (scheme : List Char) : Bool := (ports.lookup (String.ofList scheme)).isSome

/-- Whether a scheme names files. -/
def isOfFiles (scheme : List Char) : Bool := scheme == ['f', 'i', 'l', 'e']

/-- The port that goes without saying. -/
def usualPort (scheme : List Char) : Option Nat := (ports.lookup (String.ofList scheme)).join

end Url

end PluginKit
