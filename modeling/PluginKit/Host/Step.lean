import PluginKit.Host.Basic

/-!
# Steps of a host

One task goes from one stage to the next, in a single step that no other task can come between. Which
task goes on is left open: whatever holds after every step holds in every order of them.

## Main statements

- `rank_next`: every step brings a task closer to its end.
-/

namespace PluginKit.Host

variable {σ τ : Type}

/-- How long an instance that was started too late may take to exit. -/
def lateGrace : Nat := 5000

/-! ## Cells -/

/-- The cell of a plugin for a capability. A new one is made if there is none. -/
def cellOf (h : Host σ τ) (c : Capability) (id : PluginId) : Nat × Host σ τ :=
  match (h.registries c).cells.get? id with
  | some n => (n, h)
  | none =>
    let n := h.cells.length
    (n, { h.onRegistry c fun r => { r with cells := r.cells.insert id n } with
      cells := h.cells ++ [{}] })

/-- Whether a task in the queue of a cell may go on: if the instance runs, or to start it. -/
def mayGoOn (h : Host σ τ) (task cell : Nat) : Bool :=
  match h.cells[cell]? with
  | some c => c.running.isSome || c.queue.head? == some task
  | none => false

/-- Takes a task out of the queue of a cell. -/
def leave (h : Host σ τ) (task cell : Nat) : Host σ τ :=
  h.onCell cell fun c => { c with queue := c.queue.filter (· != task) }

/-! ## Finding a handler -/

/-- Looks up what serves a type. For a plugin the task joins the queue of its cell. -/
def look (h : Host σ τ) (task : Nat) (c : Capability) (kind : String) (tag : TypeId) : Host σ τ :=
  match (h.registries c).lookup kind tag with
  | .error e => h.onStage task (.failed e [])
  | .ok (.inside handler) => h.onStage task (.found c (.inside handler))
  | .ok (.plugin d) =>
    let generation := (h.registries c).generation
    let (cell, h) := h.cellOf c d.id
    (h.onCell cell fun x => { x with queue := x.queue ++ [task] }).onStage task
      (.queued { capability := c, descriptor := d, cell, generation })

/-- Starts an instance. -/
def launch (l : Launcher τ) (h : Host σ τ) (task : Nat) (k : Ticket) : Host σ τ :=
  let id := k.descriptor.id
  let count := (h.starts.get? id).getD 0 + 1
  let start := l k.descriptor k.capability count
  ({ h with starts := h.starts.insert id count }.note (.start id count k.capability)).onStage task
    (.starting k (h.now + start.delay) start.outcome)

/-- Takes the instance if it runs, or starts it. -/
def enter (l : Launcher τ) (h : Host σ τ) (task : Nat) (k : Ticket) : Host σ τ :=
  match h.running? k.cell with
  | some _ => (h.leave task k.cell).onStage task (.found k.capability (.instance k.cell))
  | none => h.launch l task k

/-- Takes the result of a start. A failed start is not kept: the next task in the queue tries again. -/
def receive (h : Host σ τ) (task : Nat) (k : Ticket) : Outcome (Started τ) → Host σ τ
  | .error e => (h.leave task k.cell).onStage task (.failed e [])
  | .ok s =>
    { h with processes := h.processes ++ [s.process] }.onStage task
      (.started k h.processes.length s)

/-- The instance of a plugin that was started. Its client judges payloads by the schemas that the
plugin advertises for the capability. -/
def Running.ofStarted (k : Ticket) (process : Nat) (s : Started τ) : Running τ where
  descriptor := k.descriptor
  process
  place := s.place
  client := { plugin := k.descriptor.id, send := s.send, ids := s.ids, documents := s.documents }
  link := { world := s.world, validator := .ofSchemas (k.descriptor.schemasFor k.capability) }

/-- Makes an instance known, unless all instances were stopped since its start began. Then it is
stopped as well. -/
def admitInstance (h : Host σ τ) (task : Nat) (k : Ticket) (process : Nat) (s : Started τ) :
    Host σ τ :=
  if (h.registries k.capability).generation = k.generation then
    let h := h.onRegistry k.capability fun r => { r with tracked := r.tracked ++ [process] }
    let h := h.onCell k.cell fun c => { c with running := some (Running.ofStarted k process s) }
    (h.leave task k.cell).onStage task (.found k.capability (.instance k.cell))
  else
    ((h.onProcess process (Process.interrupt h.now)).note (.interrupt process)).onStage task
      (.late k process (h.now + lateGrace))

/-- The fault of a start that all instances were stopped in between. -/
def overtaken (id : PluginId) : Fault :=
  .start id "registry shut down while the plugin was starting"

/-! ## Stopping -/

/-- Kills those of some processes that have not exited. -/
def killLeft (h : Host σ τ) : List Nat → Host σ τ
  | [] => h
  | p :: ps =>
    match h.processes[p]? with
    | some x =>
      if x.hasExited h.now then h.killLeft ps
      else ((h.onProcess p (Process.kill h.now)).note (.kill p)).killLeft ps
    | none => h.killLeft ps

/-- Ends the wait for an instance that was started too late. -/
def discharge (h : Host σ τ) (task : Nat) (k : Ticket) (process : Nat) : Host σ τ :=
  ((h.killLeft [process]).leave task k.cell).onStage task
    (.failed (overtaken k.descriptor.id) [process])

/-- Keeps the instances for a capability from being found. -/
def close (h : Host σ τ) (c : Capability) : Host σ τ :=
  h.onRegistry c fun r => { r with generation := r.generation + 1, cells := [] }

/-- Takes the processes of a capability and interrupts them. -/
def drain (h : Host σ τ) (task : Nat) (c : Capability) (left : List Capability)
    (taken : List (List Nat)) (cancelAt : Option Nat) : Host σ τ :=
  let mine := (h.registries c).tracked
  let h := h.onRegistry c fun r => { r with tracked := [] }
  (mine.foldl (fun h p => (h.onProcess p (Process.interrupt h.now)).note (.interrupt p)) h).onStage
    task (.closing left (taken ++ [mine]) cancelAt)

/-- Ends the wait for processes: those that have not exited are killed. Every capability reports its
own faults, and the reports are joined. -/
def finish (h : Host σ τ) (task : Nat) (taken : List (List Nat)) : Host σ τ :=
  let reports := taken.filterMap fun ps =>
    match Process.report h.now (h.processesAt ps) with
    | .error e => some e
    | .ok () => none
  (h.killLeft taken.flatten).onStage task (.stopped taken (Fault.join reports))

/-! ## Steps -/

/-- Brings a task to its next stage. -/
def next (l : Launcher τ) (h : Host σ τ) (task : Nat) : Stage σ τ → Host σ τ
  | .looking c kind tag => h.look task c kind tag
  | .queued k => h.enter l task k
  | .starting k _ outcome => h.receive task k outcome
  | .started k process s => h.admitInstance task k process s
  | .late k process _ => h.discharge task k process
  | .asked capabilities patience =>
    h.onStage task (.closing capabilities [] (patience.map (h.now + ·)))
  | .closing (c :: left) taken cancelAt =>
    (h.close c).onStage task (.draining c left taken cancelAt)
  | .closing [] taken cancelAt => h.onStage task (.stopping taken cancelAt)
  | .draining c left taken cancelAt => h.drain task c left taken cancelAt
  | .stopping taken _ => h.finish task taken
  | .found .. => h
  | .failed .. => h
  | .stopped .. => h
  | .dropped => h

/-- When a task at a stage can go on, nothing if it cannot by itself. -/
def readyAt (h : Host σ τ) (task : Nat) : Stage σ τ → Option Nat
  | .looking .. => some h.now
  | .queued k => if h.mayGoOn task k.cell then some h.now else none
  | .starting _ readyAt _ => some readyAt
  | .started .. => some h.now
  | .late _ p cancelAt => Process.allSettleAt h.now (some cancelAt) (h.processesAt [p])
  | .asked .. => some h.now
  | .closing .. => some h.now
  | .draining .. => some h.now
  | .stopping taken cancelAt => Process.allSettleAt h.now cancelAt (h.processesAt taken.flatten)
  | .found .. => none
  | .failed .. => none
  | .stopped .. => none
  | .dropped => none

/-! ## Progress -/

@[simp] theorem tasks_cellOf (h : Host σ τ) (c : Capability) (id : PluginId) :
    (h.cellOf c id).2.tasks = h.tasks := by
  unfold cellOf
  split <;> rfl

@[simp] theorem tasks_leave (h : Host σ τ) (task cell : Nat) : (h.leave task cell).tasks = h.tasks :=
  rfl

@[simp] theorem tasks_killLeft (ps : List Nat) (h : Host σ τ) : (h.killLeft ps).tasks = h.tasks := by
  induction ps generalizing h with
  | nil => rfl
  | cons p ps ih =>
    unfold killLeft
    split
    · split
      · exact ih h
      · simp [ih]
    · exact ih h

@[simp] theorem tasks_interrupted (ps : List Nat) (h : Host σ τ) :
    (ps.foldl (fun h p => (h.onProcess p (Process.interrupt h.now)).note (.interrupt p)) h).tasks =
      h.tasks := by
  induction ps generalizing h with
  | nil => rfl
  | cons p ps ih => simp [ih]

/-- Every step brings a task closer to its end. -/
theorem rank_next (l : Launcher τ) {h : Host σ τ} {task : Nat} {s : Stage σ τ}
    (at_ : h.stage? task = some s) (open_ : s.rank ≠ 0) :
    ∃ t, (h.next l task s).stage? task = some t ∧ t.rank < s.rank := by
  have reach {g : Host σ τ} (same : g.tasks = h.tasks) (t : Stage σ τ) (less : t.rank < s.rank) :
      ∃ u, (g.onStage task t).stage? task = some u ∧ u.rank < s.rank :=
    ⟨t, stage?_onStage at_ same t, less⟩
  cases s with
  | looking c kind tag =>
    simp only [next, look]
    split
    · exact reach rfl _ (by simp [Stage.rank])
    · exact reach rfl _ (by simp [Stage.rank])
    · exact reach (by simp) _ (by simp [Stage.rank])
  | queued k =>
    simp only [next, enter]
    split
    · exact reach rfl _ (by simp [Stage.rank])
    · exact reach rfl _ (by simp [Stage.rank])
  | starting k ready outcome =>
    cases outcome with
    | error e => exact reach rfl _ (by simp [Stage.rank])
    | ok x => exact reach rfl _ (by simp [Stage.rank])
  | started k process x =>
    simp only [next, admitInstance]
    split
    · exact reach rfl _ (by simp [Stage.rank])
    · exact reach rfl _ (by simp [Stage.rank])
  | late k process cancelAt => exact reach (by simp) _ (by simp [Stage.rank])
  | asked cs patience => exact reach rfl _ (by simp [Stage.rank])
  | closing left taken cancelAt =>
    cases left with
    | nil => exact reach rfl _ (by simp [Stage.rank])
    | cons c left => exact reach rfl _ (by simp [Stage.rank]; omega)
  | draining c left taken cancelAt => exact reach (by simp) _ (by simp [Stage.rank])
  | stopping taken cancelAt => exact reach (by simp) _ (by simp [Stage.rank])
  | found => simp [Stage.rank] at open_
  | failed => simp [Stage.rank] at open_
  | stopped => simp [Stage.rank] at open_
  | dropped => simp [Stage.rank] at open_

end PluginKit.Host
