import PluginKit.Launch
import PluginKit.Serve.Router

/-!
# The command line of plugins

A plugin binary either describes itself, with the command `capabilities`, or serves the launch
configuration that it is given with `--config`.

## Main statements

- `parse_launch`: the arguments with which a host starts a plugin are read as meant.
-/

namespace PluginKit

/-- Why arguments are not those of a command line. Asking for help or the version ends it too. -/
inductive UsageFault where
  | invalidValue
  | unknownArgument
  | invalidSubcommand
  | tooManyValues
  | argumentConflict
  | displayHelp
  | displayVersion
  deriving DecidableEq, Repr

/-- The name of a kind of usage fault. -/
def UsageFault.name : UsageFault → String
  | .invalidValue => "InvalidValue"
  | .unknownArgument => "UnknownArgument"
  | .invalidSubcommand => "InvalidSubcommand"
  | .tooManyValues => "TooManyValues"
  | .argumentConflict => "ArgumentConflict"
  | .displayHelp => "DisplayHelp"
  | .displayVersion => "DisplayVersion"

/-- The options and the command that the arguments of a plugin ask for. -/
structure CommandLine where
  config : Option String := none
  capabilities : Bool := false
  deriving DecidableEq, Repr

namespace CommandLine

/-- An option that was named but not yet settled. -/
inductive Pending where
  | none
  | awaited
  | given (value : String)
  deriving DecidableEq, Repr

/-- How far arguments were read. -/
structure Progress where
  config : Option String := none
  pending : Pending := .none
  deriving DecidableEq, Repr

namespace Progress

/-- Gives the option its value, which it may get only once. -/
def give (p : Progress) (value : String) : Except UsageFault Progress :=
  match p.config with
  | some _ => .error .argumentConflict
  | none => .ok { config := some value }

/-- Settles the option that was named last. -/
def settle (p : Progress) : Except UsageFault Progress :=
  match p.pending with
  | .none => .ok p
  | .awaited => .error .invalidValue
  | .given value => give { p with pending := .none } value

end Progress

/-- A long option and the value after the first equals sign. -/
def splitLong (s : List Char) : String × Option String :=
  match Text.splitFirst '=' s with
  | some (name, value) => (String.ofList name, some (String.ofList value))
  | none => (String.ofList s, none)

/-- An argument by its form. -/
inductive Argument where
  | long (name : String) (value : Option String)
  | short (first : Char)
  | escape
  | plain (text : String)
  deriving DecidableEq, Repr

/-- The form of an argument. -/
def Argument.of (s : String) : Argument :=
  match s.toList with
  | ['-', '-'] => .escape
  | '-' :: '-' :: rest => .long (splitLong rest).1 (splitLong rest).2
  | '-' :: c :: _ => .short c
  | _ => .plain s

/-- A flag that takes no value and ends the command line. -/
def flag (p : Progress) (value : Option String) (outcome : UsageFault) :
    Except UsageFault Progress :=
  match value with
  | some _ => .error .tooManyValues
  | none => do
    discard p.settle
    .error outcome

/-- Reads an option. -/
def readOption (p : Progress) : Argument → Except UsageFault Progress
  | .long "config" none => do return { (← p.settle) with pending := .awaited }
  | .long "config" (some value) => do (← p.settle).give value
  | .long "help" value => flag p value .displayHelp
  | .long "version" value => flag p value .displayVersion
  | .short 'h' => flag p none .displayHelp
  | .short 'V' => flag p none .displayVersion
  | _ => .error .unknownArgument

/-- The commands that there are. -/
def commands : List String := ["capabilities", "help"]

/-- Reads what follows the command `help`: at most one command. -/
def readHelp : List String → UsageFault
  | [] => .displayHelp
  | [name] => if name ∈ commands then .displayHelp else .invalidSubcommand
  | _ => .invalidSubcommand

/-- Reads what follows the command `capabilities`, which takes nothing but a request for help. -/
def readCapabilities : List String → Except UsageFault Unit
  | [] => .ok ()
  | a :: rest =>
    match Argument.of a with
    | .long "help" (some _) => .error .tooManyValues
    | .long "help" none => .error .displayHelp
    | .short 'h' => .error .displayHelp
    | .escape => if rest.isEmpty then .ok () else .error .unknownArgument
    | _ => .error .unknownArgument

/-- Reads the arguments after two dashes, of which there must be none. -/
def readEscaped (p : Progress) : List String → Except UsageFault CommandLine
  | [] => do return { config := (← p.settle).config }
  | a :: _ => .error (if a ∈ commands then .unknownArgument else .invalidSubcommand)

/-- Reads arguments one after another. -/
def read (p : Progress) : List String → Except UsageFault CommandLine
  | [] => do return { config := (← p.settle).config }
  | a :: rest =>
    if p.pending ≠ .awaited ∧ a = "help" then .error (readHelp rest)
    else if p.pending ≠ .awaited ∧ a = "capabilities" then do
      readCapabilities rest
      return { config := (← p.settle).config, capabilities := true }
    else
      match Argument.of a with
      | .escape => readEscaped p rest
      | .plain text =>
        if p.pending = .awaited then read { p with pending := .given text } rest
        else .error .invalidSubcommand
      | option => do read (← readOption p option) rest

/-- Reads the arguments of a program, the first of which is its name. -/
def parse (args : List String) : Except UsageFault CommandLine := read {} (args.drop 1)

/-- The arguments with which a host starts a plugin are read as meant. -/
theorem parse_launch (name text : String) (plain : Argument.of text = .plain text) :
    parse [name, "--config", text] = .ok { config := some text } := by
  have option : Argument.of "--config" = .long "config" none := by decide +kernel
  simp [parse, read, option, plain, readOption, Progress.settle, Progress.give, pure, Except.pure,
    bind, Except.bind]

/-! ## Running -/

/-- The action that a plugin takes for its arguments. -/
inductive Action (σ : Type) where
  /-- Prints the document of its capabilities. -/
  | describe (document : Capabilities)
  /-- Serves an instance. -/
  | serve (launch : LaunchConfig) (router : Router σ)

/-- The action of a plugin with given endpoints for its arguments. A command takes precedence over a
configuration. -/
def run {σ : Type} (c : CommandLine) (e : Endpoints σ) : Outcome (Action σ) :=
  if c.capabilities then e.capabilities.map .describe
  else
    match c.config with
    | some text => do
      let launch ← LaunchConfig.ofText text
      return .serve launch (← Router.ofEndpoints e launch.capability)
    | none => .error (.config "expected the capabilities command or --config <json>")

end CommandLine

end PluginKit
