import PluginKit.Host.Step

/-!
# Runs of a host

Tasks take turns. The task that can go on first goes on; of several that can go on at the same moment,
the one that went on last keeps its turn, and then the next ones follow in the order in which they were
asked for. Time only passes when no task can go on.
-/

namespace PluginKit.Host

variable {σ τ α β : Type}

/-! ## Turns -/

/-- How many steps all tasks are away from their ends at most. -/
def work (h : Host σ τ) : Nat := h.tasks.foldr (fun t n => t.stage.rank + n) 0

/-- A task that can go on, and when. -/
structure Turn where
  task : Nat
  time : Nat
  deriving DecidableEq, Repr

/-- The tasks that can go on by themselves. -/
def turns (h : Host σ τ) : List Turn :=
  h.tasks.zipIdx.filterMap fun e =>
    (h.readyAt e.2 e.1.stage).map fun t => { task := e.2, time := max t (max e.1.notBefore h.now) }

/-- How far a task is from having its turn at a moment, after the one that went on last. When time
passes the turns start anew. -/
def distance (h : Host σ τ) (last : Nat) (t : Turn) : Nat :=
  if t.time = h.now ∧ t.task < last then t.task + h.tasks.length else t.task

/-- Whether a turn comes before another one. -/
def comesBefore (h : Host σ τ) (last : Nat) (a b : Turn) : Bool :=
  a.time < b.time || (a.time == b.time && h.distance last a < h.distance last b)

/-- The turn that comes first. -/
def nextTurn (h : Host σ τ) (last : Nat) : Option Turn :=
  h.turns.foldl
    (fun best t =>
      match best with
      | none => some t
      | some b => if h.comesBefore last t b then some t else best) none

/-- Takes a turn. -/
def take (l : Launcher τ) (h : Host σ τ) (t : Turn) : Host σ τ :=
  match h.stage? t.task with
  | some s => { h with now := t.time }.next l t.task s
  | none => h

/-- Whether a turn comes too late for tasks that wait until a deadline. When the patience with a process
ends just then, its end is learned of only afterwards. -/
def isLate (h : Host σ τ) (deadline : Nat) (t : Turn) : Bool :=
  deadline < t.time ||
    (deadline == t.time &&
      match h.stage? t.task with
      | some (.stopping taken _) => (h.processesAt taken.flatten).any fun p => !p.hasExited deadline
      | some (.late _ p _) => (h.processesAt [p]).any fun p => !p.hasExited deadline
      | _ => false)

/-- Takes turns until no task can go on or the next turn comes too late for a deadline. What is to be
done right after a turn is given. -/
def run (l : Launcher τ) (after : Nat → α → Host σ τ → α × Host σ τ) (deadline : Nat) :
    Nat → Nat → α → Host σ τ → α × Host σ τ
  | 0, _, a, h => (a, h)
  | fuel + 1, last, a, h =>
    match h.nextTurn last with
    | none => (a, h)
    | some t =>
      if h.isLate deadline t then (a, h)
      else
        let (a, h) := after t.task a (h.take l t)
        run l after deadline fuel t.task a h

/-- Takes all turns up to a deadline. -/
def runUntil (l : Launcher τ) (after : Nat → α → Host σ τ → α × Host σ τ) (deadline : Nat) (a : α)
    (h : Host σ τ) : α × Host σ τ :=
  run l after deadline h.work 0 a h

/-- Gives up every task that has not ended. -/
def abandon (h : Host σ τ) : Host σ τ :=
  { h with
    tasks := h.tasks.map fun t => if t.stage.rank = 0 then t else { t with stage := .dropped }
    cells := h.cells.map fun c => { c with queue := [] } }

/-! ## Using a handler -/

/-- Uses what serves a type. -/
def perform (h : Host σ τ) (c : Capability) (p : Provider σ) (s : σ)
    (f : {ω : Type} → Handler ω → Effect ω β) : Outcome β × σ × Host σ τ :=
  match p with
  | .inside handler =>
    let (r, s) := (f handler).run s
    (r, s, h)
  | .instance cell =>
    match h.running? cell with
    | some x =>
      let (r, link) := (f (x.client.handler c)).run x.link
      (r, s, h.onCell cell fun y => { y with running := some { x with link } })
    | none => (.error (.notFound "instance"), s, h)

end PluginKit.Host
