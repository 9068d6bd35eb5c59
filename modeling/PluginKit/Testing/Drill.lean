import PluginKit.Testing.Rehearsal

/-!
# Drills

A coordinator is tried out by steps: it is given processes and told to stop them.
-/

namespace PluginKit.Testing

/-- A coordinator that is tried out, and the time. -/
structure Drill where
  now : Nat := 0
  coordinator : Coordinator := {}

/-- The report of a step with a coordinator. -/
structure DrillReport where
  result : Attempt Unit := .ok ()
  elapsed : Nat := 0
  log : List String := []

/-- The lines that tell what happened to some processes. -/
def told (what : String) (ps : List Process) : List String :=
  ps.map fun p => what ++ " " ++ p.plugin.text

/-- Gives a process to a coordinator. -/
def Drill.track (d : Drill) (p : Process) : DrillReport × Drill :=
  ({}, { d with coordinator := d.coordinator.track p })

/-- Has a coordinator stop its processes, and waits for that. Processes that are killed at the very end
of the waiting are killed too late. -/
def Drill.stop (d : Drill) (patience : Option Nat) : DrillReport × Drill :=
  let interrupted := told "interrupt" d.coordinator.tracked
  let endless : DrillReport × Drill :=
    ({ result := .error .endless, elapsed := patienceLimit, log := inOrder interrupted },
      { now := d.now + patienceLimit })
  match d.coordinator.stop d.now (patience.map (d.now + ·)) with
  | some s =>
    let limit := d.now + patienceLimit
    if limit < s.finish ∨ (limit = s.finish ∧ !s.killed.isEmpty) then endless
    else
      ({ result := ofOutcome s.outcome, elapsed := s.finish - d.now,
         log := inOrder (interrupted ++ told "kill" s.killed) }, { now := s.finish })
  | none => endless

/-- A step with a coordinator. -/
def Drill.step (d : Drill) (j : Json) : Attempt (DrillReport × Drill) := do
  match ← str j "do" with
  | "track" => return d.track (← processOf ⟨← str j "id"⟩ 1 (part j "process"))
  | "shutdown" =>
    match ← nat? j "timeout_ms" with
    | some t => return d.stop (some t)
    | none => return d.stop (← nat? j "cancel_ms")
  | what => bad what

end PluginKit.Testing
