import PluginKit.Sample.Program

/-!
# The binary of the sample plugin

Hands the arguments to the program and prints what it says.
-/

open PluginKit

/-- Runs the sample plugin. -/
def main (args : List String) : IO UInt32 := do
  let said := Sample.printed ("plugin" :: args) (← IO.getEnv "OCM_PLUGIN_CONFIG")
  said.output.forM fun line => IO.println line
  said.errors.forM fun line => IO.eprintln line
  return said.status.toUInt32
