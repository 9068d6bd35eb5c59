import PluginKit.ConfigFile
import PluginKit.Descriptor
import PluginKit.Effect
import PluginKit.System.Program

/-!
# Discovery

Plugins are found among the files of configured directories and by configured commands. Every binary
describes itself: run with `capabilities` it prints its document.

## Main statements

- `describe_runs`: describing a plugin runs its binary once at most.
-/

namespace PluginKit.Discovery

/-- The arguments with which a binary describes itself. -/
def capabilitiesArguments : List String := ["capabilities"]

/-- The capabilities that the output of a binary lists, once it has ended. -/
def document (path : String) (x : Execution) (ending : Ending) : Outcome Capabilities :=
  if !ending.isSuccess then .error (.discovery path ("exited with " ++ ending.text))
  else
    match Json.decodeOctets Capabilities.decoder x.allOutput with
    | .error e => .error (.discovery path ("invalid capabilities document: " ++ e.message))
    | .ok c => if c.isEmpty then .error (.discovery path "advertises no capabilities") else .ok c

/-- The capabilities that a binary reports within the time limit. -/
def answer (path : String) (limit : Duration) : Except IoError Execution → Outcome Capabilities
  | .error e => .error (.discovery path ("failed to run: " ++ e.message))
  | .ok x =>
    match x.ending with
    | some (time, ending) =>
      if 1000000 * time < limit.nanos then document path x ending
      else .error (.discovery path ("no answer within " ++ limit.text))
    | none => .error (.discovery path ("no answer within " ++ limit.text))

/-- The files as a binary leaves them that was run and is stopped at the limit. -/
def filesAfter (limit : Duration) (fs : Files) : Except IoError Execution → Files
  | .error _ => fs
  | .ok x => x.filesBefore fs ((limit.nanos + 999999) / 1000000)

/-- Has a binary describe itself. -/
def describe (id : PluginId) (path : String) (limit : Duration) : Effect Site PluginDescriptor :=
  .ofFunction fun s =>
    let (x, s) := s.run path capabilitiesArguments
    ((answer path limit x).map fun capabilities => { id, path, capabilities },
      { s with files := filesAfter limit s.files x })

/-- Describing a plugin runs its binary once at most. -/
theorem describe_runs (id : PluginId) (path : String) (limit : Duration) (s : Site) :
    ((describe id path limit).run s).2.runs = s.runs ∨
      ((describe id path limit).run s).2.runs =
        s.runs ++ [{ path, arguments := capabilitiesArguments }] := by
  change (s.run path capabilitiesArguments).2.runs = s.runs ∨ _ = _
  cases h : (s.run path capabilitiesArguments).1 with
  | error e =>
    left
    unfold Site.run at h ⊢
    split at h <;> try rfl
    split at h <;> simp_all
  | ok x => exact .inr (Site.run_runs h)

/-- The identifier of the plugin in a file, told by the name without its extension. -/
def idOf? (path : String) : Option PluginId :=
  (Path.stem? path).bind fun name => (PluginId.parse name).toOption

/-- The descriptors of some binaries. One that cannot be described is passed over. -/
def collect : List (Effect Site PluginDescriptor) → Effect Site (List PluginDescriptor)
  | [] => pure []
  | d :: rest => .ofFunction fun s =>
    match d.run s with
    | (.ok found, s) =>
      let (r, s) := (collect rest).run s
      (r.map (found :: ·), s)
    | (.error _, s) => (collect rest).run s

/-- The binaries among the files of a directory, with the identifiers of their plugins. -/
def binariesIn (fs : Files) (dir : String) (names : List String) : List (PluginId × String) :=
  (names.map (Path.join dir)).filterMap fun path =>
    if fs.isExecutable path then (idOf? path).map fun id => (id, path) else none

/-- The plugins in a directory. -/
def scan (dir : String) (c : ManagerConfig) : Effect Site (List PluginDescriptor) :=
  .ofFunction fun s =>
    match s.files.list dir with
    | .error e => (.error (.io e), s)
    | .ok names =>
      (collect ((binariesIn s.files dir names).map fun b => do
        return { (← describe b.1 b.2 c.discoveryTimeout) with connection := c.connection })).run s

/-! ## Commands -/

/-- Whether a command is the name of a binary. A path to one has several names, and the root counts as
one. -/
def isName (command : String) : Bool :=
  (Path.components command).length + (if Path.isAbsolute command then 1 else 0) ≤ 1

/-- A path without dots at its start that stand for the place itself. -/
def relative (command : String) : String :=
  if Path.isAbsolute command then command
  else Path.ofComponents false ((Path.components command).dropWhile (· == "."))

/-- A directory of the search path. A tilde as its first name stands for the home directory. -/
def expandHome (e : Environment) (dir : String) : String :=
  match Path.isAbsolute dir, Path.components dir, e.home.filter (· ≠ "") with
  | false, "~" :: names, some home => names.foldl Path.join home
  | _, _, _ => dir

/-- Where the binary of a command may be: in one of the directories of the search path if the command is
a name, and otherwise where the command leads from the working directory. -/
def candidates (s : Site) (command : String) : Except String (List String) :=
  if isName command then
    match s.environment.searchPath with
    | none => .error "no path to search and provided name is not an absolute path"
    | some path => .ok ((Environment.directoriesIn path).map fun dir =>
        Path.join (expandHome s.environment dir) command)
  else .ok [s.files.absolute (relative command)]

/-- Where the binary of a command is: at the first of its candidates that may be run. -/
def locate (s : Site) (command : String) : Outcome String :=
  match candidates s command with
  | .error reason => .error (.discovery command ("cannot find binary: " ++ reason))
  | .ok paths =>
    match paths.find? s.files.isExecutable with
    | some path => .ok path
    | none => .error (.discovery command "cannot find binary: cannot find binary path")

/-! ## Entries and directories -/

/-- The plugin of a configured command. A binary that is pinned has to have its hash. -/
def describeEntry (c : ManagerConfig) (name : String) (e : PluginEntry) :
    Effect Site PluginDescriptor := do
  let id ← Effect.lift ((PluginId.parse name).mapError fun flaw => .invalidId (flaw.message name))
  let path ← Effect.ofFunction fun s => (locate s e.command, s)
  let d ← describe id path c.discoveryTimeout
  let d := { d with connection := e.connection.getD c.connection, binaryHash := e.binaryHash }
  Effect.ofFunction fun s => (d.verify s.files, s)
  return d

/-- The plugins of all directories, in their order. A directory that cannot be read is passed over. -/
def scanAll (c : ManagerConfig) : List String → Effect Site (List PluginDescriptor)
  | [] => pure []
  | dir :: rest => .ofFunction fun s =>
    let (found, s) := if s.files.pathExists dir then (scan dir c).run s else (.ok [], s)
    let (r, s) := (scanAll c rest).run s
    (r.map fun ds => (found.toOption.getD []) ++ ds, s)

/-- Every plugin that a configuration names: first those in directories, then those given by their
commands. -/
def discover (c : ManagerConfig) : Effect Site (List PluginDescriptor) := do
  let found ← scanAll c c.pluginDirs
  let configured ← collect (c.plugins.map fun e => describeEntry c e.1 e.2)
  return found ++ configured

end PluginKit.Discovery
