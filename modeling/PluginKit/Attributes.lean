import PluginKit.Json.Decode

/-!
# Identities, credentials and locations

An identity describes a typed object by attributes, so that credentials can be looked up for it.
Credentials are handed over with one call; shown for inspection they give their keys away and
nothing else. A location says where the bytes of a resource lie.
-/

namespace PluginKit

/-- Attributes by which credentials are looked up. -/
structure Identity where
  entries : Table String String := []
  deriving DecidableEq, Repr, Inhabited

/-- Secrets handed to one operation. -/
structure Credentials where
  entries : Table String String := []
  deriving DecidableEq, Inhabited

/-- A table of strings as an object. -/
def Table.toJson (t : Table String String) : Json := .obj (t.mapValues Json.str)

/-- A table of strings in a document. -/
def Table.decoder : Json.Decoder (Table String String) := Json.Decoder.dict Json.Decoder.string

namespace Identity

/-- The identity with the given attributes, the last of equal keys staying. -/
def ofPairs (pairs : List (String × String)) : Identity := ⟨Table.ofList pairs⟩

/-- The value of an attribute. -/
def get? (i : Identity) (key : String) : Option String := i.entries.get? key

/-- Sets an attribute. -/
def insert (i : Identity) (key value : String) : Identity := ⟨i.entries.insert key value⟩

/-- The identity as an object. -/
def toJson (i : Identity) : Json := i.entries.toJson

/-- An identity in a document. -/
def decoder : Json.Decoder Identity := Table.decoder.map Identity.mk

end Identity

namespace Credentials

/-- The credentials with the given entries, the last of equal keys staying. -/
def ofPairs (pairs : List (String × String)) : Credentials := ⟨Table.ofList pairs⟩

/-- The value of a credential. -/
def get? (c : Credentials) (key : String) : Option String := c.entries.get? key

/-- Sets a credential. -/
def insert (c : Credentials) (key value : String) : Credentials := ⟨c.entries.insert key value⟩

/-- Whether there are none. -/
def isEmpty (c : Credentials) : Bool := c.entries.isEmpty

/-- The credentials as an object. -/
def toJson (c : Credentials) : Json := c.entries.toJson

/-- Credentials in a document. -/
def decoder : Json.Decoder Credentials := Table.decoder.map Credentials.mk

/-- The form for inspection, which shows the keys alone. -/
def redacted (c : Credentials) : String :=
  "\x7b" ++ ", ".intercalate (c.entries.keys.map fun k => Text.quoted k ++ ": \"<redacted>\"") ++ "\x7d"

end Credentials

/-- The kind of place that a location names. -/
inductive LocationKind where
  | localFile
  | remoteUrl
  | namedPipe
  deriving DecidableEq, Repr

namespace LocationKind

/-- The name in documents. -/
def name : LocationKind → String
  | .localFile => "localFile"
  | .remoteUrl => "remoteURL"
  | .namedPipe => "unixNamedPipe"

/-- The name in messages. -/
def label : LocationKind → String
  | .localFile => "LocalFile"
  | .remoteUrl => "RemoteUrl"
  | .namedPipe => "UnixNamedPipe"

/-- A kind of location in a document. -/
def decoder : Json.Decoder LocationKind :=
  Json.Decoder.variants
    [("localFile", .plain .localFile), ("remoteURL", .plain .remoteUrl),
      ("unixNamedPipe", .plain .namedPipe)]

end LocationKind

/-- Where the bytes of a resource lie. -/
structure Location where
  kind : LocationKind
  value : String
  mediaType : Option String := none
  deriving DecidableEq, Repr

namespace Location

/-- A path of the file system. -/
def localFile (path : String) : Location := { kind := .localFile, value := path }

/-- An address to fetch from. -/
def remoteUrl (url : String) : Location := { kind := .remoteUrl, value := url }

/-- The location as an object. -/
def toJson (l : Location) : Json :=
  .obj ([("locationType", .str l.kind.name), ("value", .str l.value)] ++
    (l.mediaType.map fun m => ("mediaType", Json.str m)).toList)

/-- A location in a document. -/
def decoder : Json.Decoder Location :=
  .record "struct Location"
    (Location.mk <$> .required "locationType" LocationKind.decoder <*>
      .required "value" .string <*> .withDefault "mediaType" (.optional .string) none)

end Location

end PluginKit
