import PluginKit.Path
import PluginKit.System.IoError
import PluginKit.Table
import PluginKit.Text.Utf8

/-!
# Files

A tree of files and directories, held as the entries at absolute paths. A path is resolved name by
name, and every name on the way has to be a directory; a path that is not absolute starts at the
working directory. There are no links, neither symbolic nor hard ones: every file has one place, and two
paths to one file differ only in how they spell it.

## Main statements

- `lookup_insert_self`: an entry just put somewhere is found there.
-/

namespace PluginKit

open Text (Octets)

/-- An entry of the file system. A file has rights, the last three octal digits of its mode. A socket is a
file that a plugin listens on. -/
inductive Entry where
  | file (content : Octets) (mode : Nat)
  | directory
  | socket

/-- Names from the root. -/
abbrev Names := List String

/-- A tree of files without links. The root and the working directory need no entry. -/
structure Files where
  entries : Table Names Entry := []
  workingDir : Names := []

namespace Files

/-- The entry at a place. -/
def lookup (fs : Files) (at_ : Names) : Option Entry :=
  if at_ = [] ∨ at_ = fs.workingDir then some .directory else fs.entries.get? at_

/-- Puts an entry somewhere. -/
def insert (fs : Files) (at_ : Names) (e : Entry) : Files :=
  { fs with entries := fs.entries.insert at_ e }

/-- Takes the entry away from somewhere. -/
def erase (fs : Files) (at_ : Names) : Files := { fs with entries := fs.entries.erase at_ }

/-- An entry just put somewhere is found there. -/
theorem lookup_insert_self (fs : Files) {at_ : Names} (e : Entry) (root : at_ ≠ [])
    (work : at_ ≠ fs.workingDir) : (fs.insert at_ e).lookup at_ = some e := by
  simp [lookup, insert, root, work]

/-! ## Resolving paths -/

/-- A place has to be a directory to go on from it. -/
def checkDirectory (fs : Files) (at_ : Names) : Except IoError Unit :=
  match fs.lookup at_ with
  | some .directory => .ok ()
  | some _ => .error .notDirectory
  | none => .error .notFound

/-- The octets that a name may have. -/
def nameLimit : Nat := 255

/-- The octets that a path may have. -/
def pathLimit : Nat := 4095

/-- Goes from a place along the names of a path. The last name need not be there. -/
def walk (fs : Files) : Names → List String → Except IoError Names
  | here, [] => .ok here
  | here, n :: rest => do
    fs.checkDirectory here
    if nameLimit < n.utf8ByteSize then throw .nameTooLong
    if n = "" ∨ n = "." then fs.walk here rest
    else if n = ".." then fs.walk here.dropLast rest
    else fs.walk (here ++ [n]) rest

/-- The directory at which a path starts, and its names. -/
def start (fs : Files) (path : String) : Except IoError (Names × List String) :=
  if '\x00' ∈ path.toList then .error (.other "file name contained an unexpected NUL byte")
  else if pathLimit < path.utf8ByteSize then .error .nameTooLong
  else if path = "" then .error .notFound
  else
    let names := (Text.splitAll '/' path.toList).map String.ofList
    .ok (if Path.isAbsolute path then ([], names.drop 1) else (fs.workingDir, names))

/-- The place that a path leads to. -/
def resolve (fs : Files) (path : String) : Except IoError Names := do
  let (here, names) ← fs.start path
  fs.walk here names

/-- The directory that the last name of a path stands in. -/
def resolveOuter (fs : Files) (path : String) : Except IoError Names := do
  let (here, names) ← fs.start path
  let outer ← fs.walk here (names.reverse.dropWhile (· == "")).tail.reverse
  fs.checkDirectory outer
  return outer

/-- The entry that a path leads to. -/
def entry (fs : Files) (path : String) : Except IoError Entry := do
  let at_ ← fs.resolve path
  match fs.lookup at_ with
  | some e => return e
  | none => throw .notFound

/-- Whether a path leads to something. -/
def pathExists (fs : Files) (path : String) : Bool := (fs.entry path).isOk

/-- Whether a path leads to a directory. -/
def isDirectory (fs : Files) (path : String) : Bool :=
  match fs.entry path with
  | .ok .directory => true
  | _ => false

/-- The absolute form of a path that leads to something. -/
def absolute (fs : Files) (path : String) : String :=
  if Path.isAbsolute path then path else Path.join (Path.ofComponents true fs.workingDir) path

/-- Puts an entry somewhere and a directory wherever one is missing on the way. -/
def plant (fs : Files) (at_ : Names) (e : Entry) : Files :=
  ((List.range at_.length).foldl
    (fun fs n => if (fs.lookup (at_.take n)).isSome then fs else fs.insert (at_.take n) .directory)
    fs).insert at_ e

/-! ## Reading -/

/-- The content of a file. -/
def read (fs : Files) (path : String) : Except IoError Octets := do
  match ← fs.entry path with
  | .file content _ => return content
  | .directory => throw .isDirectory
  | .socket => throw (.os 6)

/-- The text of a file. -/
def readText (fs : Files) (path : String) : Except IoError String := do
  match Text.decode? (← fs.read path) with
  | some s => return s
  | none => throw (.other "stream did not contain valid UTF-8")

/-- The names in a directory. -/
def list (fs : Files) (path : String) : Except IoError (List String) := do
  let at_ ← fs.resolve path
  fs.checkDirectory at_
  return fs.entries.keys.filterMap fun k =>
    if k.length = at_.length + 1 ∧ at_.isPrefixOf k then k.getLast? else none

/-- Whether a path leads to a file that may be run. -/
def isExecutable (fs : Files) (path : String) : Bool :=
  match fs.entry path with
  | .ok (.file _ mode) => mode % 8 % 2 = 1 || mode / 8 % 2 = 1 || mode / 64 % 2 = 1
  | _ => false

/-! ## Writing -/

/-- The rights of a file that is written without more said. -/
def plainMode : Nat := 0o644

/-- The place of a file to be written, and its rights so far. -/
def target (fs : Files) (path : String) : Except IoError (Names × Option Nat) := do
  if path = "" then throw .notFound
  if Path.namesDirectory path then
    discard (fs.resolveOuter path)
    throw .isDirectory
  let at_ ← fs.resolve path
  match fs.lookup at_ with
  | none => return (at_, none)
  | some (.file _ mode) => return (at_, some mode)
  | some .directory => throw .isDirectory
  | some .socket => throw (.os 6)

/-- Writes a file, in the place of what it held before. -/
def write (fs : Files) (path : String) (content : Octets) : Except IoError Files := do
  let (at_, mode) ← fs.target path
  return fs.insert at_ (.file content (mode.getD plainMode))

/-- Copies a file and says how much was copied. The target is emptied first, so a file copied onto
itself is lost. -/
def copy (fs : Files) (source path : String) : Except IoError (Nat × Files) := do
  match ← fs.entry source with
  | .directory =>
    throw (.other "the source path is neither a regular file nor a symlink to a regular file")
  | .socket => throw (.os 6)
  | .file _ mode =>
    let (at_, old) ← fs.target path
    let fs := fs.insert at_ (.file .empty (old.getD mode))
    let content ← fs.read source
    return (content.size, fs.insert at_ (.file content mode))

/-- Makes one directory. -/
def makeDirectory (fs : Files) (path : String) : Except IoError Files := do
  let at_ ← fs.resolve path
  match fs.lookup at_ with
  | some _ => throw .fileExists
  | none => return fs.insert at_ .directory

/-- Makes a directory, given by its names from the last to the first, and those on the way to it. A
directory that is there is none to make. -/
def makeAll (absolute : Bool) : List String → Files → Except IoError Unit × Files
  | [], fs => (.ok (), fs)
  | n :: outer, fs =>
    let path := Path.ofComponents absolute (n :: outer).reverse
    match fs.makeDirectory path with
    | .ok fs => (.ok (), fs)
    | .error e =>
      if e = .notFound then
        match makeAll absolute outer fs with
        | (.error e, fs) => (.error e, fs)
        | (.ok (), fs) =>
          match fs.makeDirectory path with
          | .ok fs => (.ok (), fs)
          | .error e => (if fs.isDirectory path then .ok () else .error e, fs)
      else (if fs.isDirectory path then .ok () else .error e, fs)

/-- Makes a directory and those on the way to it. -/
def makeDirectories (fs : Files) (path : String) : Except IoError Unit × Files :=
  makeAll (Path.isAbsolute path) (Path.components path).reverse fs

/-- Takes a file away. -/
def remove (fs : Files) (path : String) : Except IoError Files := do
  let at_ ← fs.resolve path
  match fs.lookup at_ with
  | none => throw .notFound
  | some .directory => throw .isDirectory
  | some _ => return fs.erase at_

end Files

end PluginKit
