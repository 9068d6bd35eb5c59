import PluginKit.Fault

/-!
# Operations on a world

Handlers work on files, clients on a connection. Both are operations that may fail and that leave
their world changed, whether they fail or not.
-/

namespace PluginKit

/-- An operation on a world `σ` that gives an `α` or fails. -/
abbrev Effect (σ α : Type) := ExceptT Fault (StateM σ) α

namespace Effect

variable {σ τ α : Type}

/-- The outcome of an operation and the world after it. -/
def run (e : Effect σ α) (s : σ) : Outcome α × σ := ExceptT.run e s

/-- The operation with a given behaviour. -/
def ofFunction (f : σ → Outcome α × σ) : Effect σ α := ExceptT.mk f

/-- An outcome that is known, without a look at the world. -/
def lift (r : Outcome α) : Effect σ α := ofFunction fun s => (r, s)

/-- A failure. -/
def fail (e : Fault) : Effect σ α := lift (.error e)

/-- An operation on a part of the world. -/
def within (get : τ → σ) (set : τ → σ → τ) (e : Effect σ α) : Effect τ α :=
  ofFunction fun t =>
    let (r, s) := e.run (get t)
    (r, set t s)

end Effect

end PluginKit
