import PluginKit.Fault

/-!
# Processes of plugins

A host interrupts the process of a plugin, waits until it has exited and kills it if that takes too
long. Time is counted in milliseconds.

## Main statements

- `hasExited_kill`: a process that was killed has exited.
-/

namespace PluginKit

/-- Joins faults into one. What was joined before stays flat. -/
def Fault.join (faults : List Fault) : Outcome Unit :=
  let flat := faults.flatMap fun
    | .shutdown causes => causes
    | e => [e]
  if flat.isEmpty then .ok () else .error (.shutdown flat)

/-- The process of a plugin, which may be the first or a later one. It exits a while after it was
interrupted, if it does so at all. `exitsAt` is the moment from which it has exited, once that is
settled. -/
structure Process where
  plugin : PluginId
  count : Nat := 1
  exitAfter : Option Nat := none
  interruptFault : Option String := none
  waitFault : Option String := none
  exitsAt : Option Nat := none
  deriving DecidableEq, Repr

namespace Process

/-- Whether the process has exited by a moment. -/
def hasExited (p : Process) (now : Nat) : Bool := p.exitsAt.any (· ≤ now)

/-- Asks the process to exit. -/
def interrupt (now : Nat) (p : Process) : Process :=
  match p.exitsAt with
  | some _ => p
  | none => { p with exitsAt := p.exitAfter.map (now + ·) }

/-- Makes the process exit, unless it has already. -/
def kill (now : Nat) (p : Process) : Process :=
  if p.hasExited now then p else { p with exitsAt := some now }

/-- A process that was killed has exited. -/
theorem hasExited_kill (now : Nat) (p : Process) : (p.kill now).hasExited now = true := by
  unfold kill
  split
  · assumption
  · simp [hasExited]

/-- The fault of a process that had to be killed. -/
def killedFault (p : Process) : Fault :=
  .process p.plugin "did not exit before the shutdown deadline and was killed"

/-- The fault of a process that exited: that it could not be interrupted, or else that it could not
be waited for. -/
def exitFault (p : Process) : Option Fault :=
  (p.interruptFault.orElse fun _ => p.waitFault).map (.process p.plugin)

/-- When it is settled what becomes of an interrupted process: when it exits, or when one stops
waiting for it. -/
def settlesAt (cancelAt : Option Nat) (p : Process) : Option Nat :=
  match p.exitsAt, cancelAt with
  | some e, some c => some (min e c)
  | some e, none => some e
  | none, c => c

/-- The process at the moment when the waiting ends, killed if it has not exited, and the fault to report
for it. -/
def settle (now : Nat) (p : Process) : Process × Option Fault :=
  if p.hasExited now then (p, p.exitFault) else (p.kill now, some p.killedFault)

/-- When all of several interrupted processes are settled, nothing if that never happens. -/
def allSettleAt (now : Nat) (cancelAt : Option Nat) (ps : List Process) : Option Nat :=
  ps.foldl (fun latest p => do return max (← latest) (← p.settlesAt cancelAt)) (some now)

end Process

/-- The report of a host about processes that it has stopped. -/
def Process.report (now : Nat) (ps : List Process) : Outcome Unit :=
  Fault.join (ps.filterMap fun p => (p.settle now).2)

/-! ## Coordinators -/

/-- Processes that are to be stopped together, in the order in which they were started. -/
structure Coordinator where
  tracked : List Process := []
  deriving DecidableEq, Repr

namespace Coordinator

/-- With one more process. -/
def track (c : Coordinator) (p : Process) : Coordinator := { tracked := c.tracked ++ [p] }

/-- How processes were stopped. -/
structure Stopped where
  /-- When the last of them had exited or was killed. -/
  finish : Nat
  /-- The processes that had to be killed. -/
  killed : List Process
  outcome : Outcome Unit

/-- Interrupts the processes and waits for them, at most until a given moment. Without such a moment
the waiting may have no end. -/
def stop (now : Nat) (cancelAt : Option Nat) (c : Coordinator) : Option Stopped := do
  let interrupted := c.tracked.map (Process.interrupt now)
  let finish ← Process.allSettleAt now cancelAt interrupted
  return {
    finish
    killed := interrupted.filter fun p => !p.hasExited finish
    outcome := Process.report finish interrupted }

end Coordinator

end PluginKit
