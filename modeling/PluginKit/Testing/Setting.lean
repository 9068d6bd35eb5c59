import PluginKit.Config
import PluginKit.Descriptor
import PluginKit.Network
import PluginKit.Serve.Router
import PluginKit.Sample.Plugin
import PluginKit.Testing.Bench
import PluginKit.Testing.Echo
import PluginKit.Testing.Reading
import PluginKit.Testing.Script
import PluginKit.Text.Hex

/-!
# Settings

The things among which something is tried: schemes, files, descriptors of plugins, endpoints with
echoes behind them, and messages.
-/

namespace PluginKit.Testing

/-! ## Schemes and schemas -/

/-- Registers the types of a kind. -/
def register (s : Scheme) (r : Json) : Attempt Scheme :=
  withKind r fun p => do ofScheme (s.registerAll p (← typesAt r "types"))

/-- A scheme with registrations. -/
def schemeOf (j : Json) : Attempt Scheme := (j.asArray?.getD []).foldlM register Scheme.empty

/-- Schemas by their types. -/
def schemasOf (j : Json) : Attempt (Table TypeId Json) := do
  return Table.ofList (← (members j "schemas").mapM fun m => do return (← typeId m.1, m.2.sorted))

/-! ## Files -/

/-- The directory in which everything happens. -/
def scratch : Names := ["$SCRATCH"]

/-- Octets given by hexadecimal digits. -/
def hexAt (j : Json) (key : String) : Attempt Text.Octets := do
  ofOption "hex" (Text.Hex.decode? (← str j key))

/-- The value of octal digits. -/
def octal (s : String) : Nat := s.toList.foldl (fun n c => 8 * n + (c.toNat - '0'.toNat)) 0

/-- The place of a path in the scratch directory. -/
def placeOf (path : String) : Names :=
  scratch ++ (path.splitOn "/").filter fun n => n != "" && n != "."

/-- Puts a file or a directory somewhere. -/
def addFile (fs : Files) (f : Json) : Attempt Files := do
  let place := placeOf (← str f "path")
  if ← flag f "dir" then
    return if (fs.lookup place).isSome then fs else fs.plant place .directory
  let content ←
    if (part f "hex").isNull then do
      let one := Text.encode (← getD .string f "text" "")
      pure ((List.range (← getD .count f "times" 1)).foldl (fun acc _ => acc ++ one) .empty)
    else hexAt f "hex"
  return fs.plant place (.file content (octal (← getD .string f "mode" "644")))

/-- The files of a description. -/
def filesOf (j : Json) : Attempt Files :=
  (items j "files").foldlM addFile
    { entries := [(["tmp"], .directory)], workingDir := scratch }

/-- The programs of a description, which are scripts. The search path has no programs that could be
plugins. -/
def siteOf (j : Json) : Attempt Site := do
  return {
    files := ← filesOf j
    programs := Script.programs
    environment := { searchPath := some "/usr/local/bin:/usr/bin:/bin", home := some "/root" } }

/-! ## Documents outside of schemas -/

/-- Directories that are there on every machine. -/
def directories : List String :=
  ["/", "/bin", "/dev", "/etc", "/home", "/opt", "/proc", "/root", "/run", "/sys", "/tmp", "/usr", "/var"]

/-- The identifier of a file in the scratch directory, where the working directory is. -/
def urlOf (place : Names) : Option Url :=
  if scratch.isPrefixOf place then
    (Url.parse ("file:///proc/self/cwd/" ++ "/".intercalate (place.drop scratch.length))).toOption
  else none

/-- The fault of a file in the scratch directory that is read as a document, if it holds none. -/
def flawAt (fs : Files) (u : Url) : Option String := do
  let (_, e) ← fs.entries.find? fun e => (urlOf e.1).any fun v => v.text == u.text
  match e with
  | .file content _ =>
    match Json.decodeOctets Json.Decoder.any content with
    | .ok _ => none
    | .error e => some e.message
  | _ => some "Is a directory (os error 21)"

/-- Why no document is read from a file. -/
def fileFault (fs : Files) (u : Url) : String :=
  let path := String.ofList (u.path.text.reverse.dropWhile (· == '/')).reverse
  if u.hostOf ≠ .empty then "invalid file path"
  else if path == "/dev/null" then "EOF while parsing a value"
  else if path == "" || directories.contains path then "Is a directory (os error 21)"
  else (flawAt fs u).getD "No such file or directory (os error 2)"

/-- The documents on a machine without a network: those in files of the scratch directory. -/
def outside (fs : Files) : Schema.Documents where
  found := Table.ofList <| fs.entries.filterMap fun (place, e) => do
    match e with
    | .file content _ =>
      return ((← urlOf place).text, (← (Json.decodeOctets Json.Decoder.any content).toOption).sorted)
    | _ => none
  ascending := Table.ascending_ofList _
  fault u :=
    if Url.isOfFiles u.scheme then fileFault fs u
    else "error sending request for url (" ++ u.text ++ ")"

/-! ## Connections -/

/-- Connections can be made to sockets only. -/
def connect (fs : Files) : Place → Except IoError Unit
  | .socket path => fs.connect path
  | .tcp _ => .error .unreachable

/-- A network in which no plugin answers. -/
def silence : Network Site := fun place _ => .ofFunction fun s =>
  let e := match connect s.files place with
    | .error e => e
    | .ok () => .refused
  (.error (place.unreached e), s)

/-! ## Plugins -/

/-- The descriptor of a plugin. -/
def descriptorOf (j : Json) : Attempt PluginDescriptor := do
  return {
    id := ⟨← str j "id"⟩
    path := ← getD .string j "path" "/plugins/none"
    connection := ← getD Connection.decoder j "connection" .socket
    capabilities := ← getD Capabilities.decoder j "capabilities" {}
    binaryHash := ← str? j "hash" }

/-- The configuration of a host. -/
def configAt (j : Json) (key : String) : Attempt ManagerConfig := getD ManagerConfig.decoder j key {}

/-- Endpoints and the outcome of every registration. -/
def endpointsOf (j : Json) : Attempt (Endpoints Files × List (Attempt Unit)) := do
  if j == .str "sample" then return (← ofOutcome Sample.endpoints, [])
  (items j "register").foldlM
    (fun (acc : Endpoints Files × List (Attempt Unit)) r => do
      let h := echo (← getD .string r "name" "") (← faultAt r "fail") (← capAt r "cap")
      withKind r fun p =>
        match acc.1.serve p.name h with
        | .ok e => .ok (e, acc.2 ++ [.ok ()])
        | .error f => .ok (acc.1, acc.2 ++ [.error (.fault f)]))
    (.ofScheme (← schemeOf (part j "scheme")), [])

/-- Endpoints, all registrations of which have to be accepted. -/
def endpointsAt (j : Json) (key : String) : Attempt (Endpoints Files) := do
  let (e, registered) ← endpointsOf (part j key)
  for r in registered do r
  return e

/-! ## Messages -/

/-- The body of a request or response. -/
def bodyOf (j : Json) : Attempt Text.Octets :=
  match j.get? "body", part j "text", part j "hex" with
  | some b, _, _ => .ok (Text.encode b.sorted.render)
  | none, .str t, _ => .ok (Text.encode t)
  | none, _, .null => .ok .empty
  | none, _, _ => hexAt j "hex"

/-- A request. -/
def requestOf (j : Json) : Attempt Http.Request := do
  let uri ← (Http.Uri.parse (← str j "path")).mapError fun flaw => .description flaw.message
  let headers ← ["authorization", "x-request-id"].filterMapM fun name => do
    return (← str? j name).map fun v => (name, Text.encode v)
  return { method := ← getD .string j "method" "POST", uri, headers, body := ← bodyOf j }

/-- Replies that are laid out. -/
def repliesOf (j : Json) (key : String) : Attempt (List Reply) :=
  (items j key).mapM fun s => do
    match ← str? s "fail" with
    | some reason => return .broken reason
    | none => return .answer { status := ← get (.unsigned 16) s "status", body := ← bodyOf s }

end PluginKit.Testing
