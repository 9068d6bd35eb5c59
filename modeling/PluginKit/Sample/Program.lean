import PluginKit.CommandLine
import PluginKit.Sample.Plugin

/-!
# The sample plugin as a program

What the binary of the sample plugin prints for its arguments, and with which status it ends.
-/

namespace PluginKit.Sample

/-- The output of a program, line by line, and the status with which it ends. -/
structure Printed where
  output : List String := []
  errors : List String := []
  status : Nat := 0
  deriving DecidableEq, Repr

/-- The status of a fault in the arguments. Help that was asked for is none. -/
def usageStatus : UsageFault → Nat
  | .displayHelp => 0
  | .displayVersion => 0
  | _ => 2

/-- A fault that ends the program. -/
def failed (e : Fault) : Printed := { errors := ["Error: " ++ e.message], status := 1 }

/-- Listening needs connections, which this program does not have. -/
def noListener : Fault := .io (.other "cannot listen here")

/-- The output of the program for its arguments, given the configuration in its environment. -/
def printed (arguments : List String) (configured? : Option String) : Printed :=
  match CommandLine.parse arguments with
  | .error e => { errors := [e.name], status := usageStatus e }
  | .ok c =>
    let action := do CommandLine.run { c with config := c.config <|> configured? } (← endpoints)
    match action with
    | .error e => failed e
    | .ok (.describe document) => { output := [document.toJson.render] }
    | .ok (.serve ..) => failed noListener

end PluginKit.Sample
