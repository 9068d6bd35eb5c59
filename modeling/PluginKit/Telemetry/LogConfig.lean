import PluginKit.Json.Decode
import PluginKit.Text.Blank

/-!
# The configuration of logging

How verbose the log is, in which form its lines are written and where they go.
-/

namespace PluginKit.Telemetry

/-- The form of a line. -/
inductive LogFormat where
  | full
  | compact
  | pretty
  | json
  deriving DecidableEq, Repr

namespace LogFormat

/-- The name in documents. -/
def name : LogFormat → String
  | .full => "full"
  | .compact => "compact"
  | .pretty => "pretty"
  | .json => "json"

/-- Formats by their names. -/
def named : List (String × LogFormat) :=
  [LogFormat.full, .compact, .pretty, .json].map fun f => (f.name, f)

/-- The format with a name. -/
def ofName? (s : String) : Option LogFormat := named.lookup s

/-- A format in a document. -/
def decoder : Json.Decoder LogFormat := .variants (named.map fun e => (e.1, .plain e.2))

end LogFormat

/-- The target of log lines. Files are named by a common start and the date. -/
inductive LogTarget where
  | stdout
  | stderr
  | file (directory start : String)
  deriving DecidableEq, Repr

namespace LogTarget

/-- The target in a document. -/
def toJson : LogTarget → Json
  | .stdout => .str "stdout"
  | .stderr => .str "stderr"
  | .file directory start =>
    .obj [("file", .obj [("directory", .str directory), ("prefix", .str start)])]

/-- A directory and the start of file names in a document. -/
def fileDecoder : Json.Decoder LogTarget :=
  .record "struct variant LogTarget::File"
    (LogTarget.file <$> .required "directory" .path <*> .required "prefix" .string)

/-- A target in a document. -/
def decoder : Json.Decoder LogTarget :=
  .variants [("stdout", .plain .stdout), ("stderr", .plain .stderr),
    ("file", .record fileDecoder "struct variant LogTarget::File")]

end LogTarget

/-- The configuration of logging. -/
structure LogConfig where
  level : String := "info"
  format : LogFormat := .full
  target : LogTarget := .stderr
  directives : List String := []
  ansi : Bool := true
  timestamps : Bool := true
  deriving DecidableEq, Repr

namespace LogConfig

/-- The configuration as an object. -/
def toJson (c : LogConfig) : Json :=
  .obj [("level", .str c.level), ("format", .str c.format.name), ("target", c.target.toJson),
    ("directives", .arr (c.directives.map Json.str)), ("ansi", .bool c.ansi),
    ("timestamps", .bool c.timestamps)]

/-- A configuration in a document. -/
def decoder : Json.Decoder LogConfig :=
  .record "struct LogConfig"
    (LogConfig.mk <$> .withDefault "level" .string "info" <*>
      .withDefault "format" LogFormat.decoder .full <*>
      .withDefault "target" LogTarget.decoder .stderr <*>
      .withDefault "directives" (.list .string) [] <*> .withDefault "ansi" .bool true <*>
      .withDefault "timestamps" .bool true)

/-- The configuration of a host. -/
def forHost (level : String) : LogConfig := { level }

/-- The configuration of a plugin: short lines without colours and times, since the host that reads
them writes its own. -/
def forPlugin (level : String) : LogConfig :=
  { level, format := .compact, ansi := false, timestamps := false }

/-- With lines that go to files, which are never coloured. -/
def withFiles (c : LogConfig) (directory start : String) : LogConfig :=
  { c with target := .file directory start, ansi := false }

/-- With one more directive. -/
def withDirective (c : LogConfig) (d : String) : LogConfig :=
  { c with directives := c.directives ++ [d] }

end LogConfig

/-- The level that a setting gives, or the fallback where it is missing or blank. -/
def levelFrom (setting : Option String) (fallback : String) : String :=
  match setting with
  | some s => if (Text.trim s.toList).isEmpty then fallback else s
  | none => fallback

end PluginKit.Telemetry
