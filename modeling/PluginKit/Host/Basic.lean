import PluginKit.Client
import PluginKit.Config
import PluginKit.Host.Process
import PluginKit.Host.Registry

/-!
# Hosts

A host holds a registry for every capability, the instances of plugins that were started and their
processes. What callers ask of it are tasks: to find a handler, which may start a plugin, and to stop
plugins. A task goes through stages, and between two stages any other task may go on. Time is counted
in milliseconds.

## Main statements

- `registry_onRegistry`: changing the registry of a capability changes no other.
- `stage?_onStage`: a task that was brought to a stage is there.
-/

namespace PluginKit

/-- A plugin that was started: where it is reached and over which connection, and its process. -/
structure Started (τ : Type) where
  place : Place
  process : Process
  send : Http.Request → Effect τ Http.Response
  ids : Nat → Telemetry.RequestId
  documents : Schema.Documents
  world : τ

/-- How starting a plugin goes: how long it takes and what comes of it. -/
structure Start (τ : Type) where
  delay : Nat := 0
  outcome : Outcome (Started τ)

/-- How plugins are started, given the plugin, the capability and the how-manieth start of the plugin
it is. -/
abbrev Launcher (τ : Type) := PluginDescriptor → Capability → Nat → Start τ

/-- An instance that serves a capability of a plugin. -/
structure Running (τ : Type) where
  descriptor : PluginDescriptor
  process : Nat
  place : Place
  client : Client τ
  link : Link τ

/-- The instance of a plugin for a capability, or the place for it. The first task of the queue starts
it, the others wait. -/
structure Cell (τ : Type) where
  queue : List Nat := []
  running : Option (Running τ) := none

/-- A provider of a type: a handler inside the host, or the instance in a cell. -/
inductive Provider (σ : Type) where
  | inside (handler : Handler σ)
  | instance (cell : Nat)

/-- The data that a task keeps while its instance is started: the plugin, the cell and how often all
instances had been stopped when it began. -/
structure Ticket where
  capability : Capability
  descriptor : PluginDescriptor
  cell : Nat
  generation : UInt64

/-- How far a task has come. -/
inductive Stage (σ τ : Type) where
  /-- To find what serves a specification of a kind with a tag. -/
  | looking (capability : Capability) (kind : String) (tag : TypeId)
  /-- Waits for the instance or for its turn to start it. -/
  | queued (ticket : Ticket)
  /-- Waits for a start. -/
  | starting (ticket : Ticket) (readyAt : Nat) (outcome : Outcome (Started τ))
  /-- Has started an instance that is not yet known to the host. -/
  | started (ticket : Ticket) (process : Nat) (start : Started τ)
  /-- Stops an instance that was started too late. -/
  | late (ticket : Ticket) (process : Nat) (cancelAt : Nat)
  | found (capability : Capability) (provider : Provider σ)
  | failed (fault : Fault) (stopped : List Nat)
  /-- To stop all instances for some capabilities, with a limit to the patience. -/
  | asked (capabilities : List Capability) (patience : Option Nat)
  /-- Has stopped the instances of some capabilities from being found. -/
  | closing (left : List Capability) (taken : List (List Nat)) (cancelAt : Option Nat)
  /-- Has done so for one more, but not yet taken its processes. -/
  | draining (capability : Capability) (left : List Capability) (taken : List (List Nat))
      (cancelAt : Option Nat)
  /-- Waits until the processes have exited. -/
  | stopping (taken : List (List Nat)) (cancelAt : Option Nat)
  | stopped (taken : List (List Nat)) (outcome : Outcome Unit)
  /-- The caller has lost interest. -/
  | dropped

/-- How many steps a task at a stage is away from its end at most. -/
def Stage.rank {σ τ : Type} : Stage σ τ → Nat
  | .looking .. => 5
  | .queued .. => 4
  | .starting .. => 3
  | .started .. => 2
  | .late .. => 1
  | .asked capabilities _ => 2 * capabilities.length + 3
  | .closing left _ _ => 2 * left.length + 2
  | .draining _ left _ _ => 2 * left.length + 3
  | .stopping .. => 1
  | .found .. => 0
  | .failed .. => 0
  | .stopped .. => 0
  | .dropped => 0

/-- Something that a caller asks for, not before a given moment. -/
structure Task (σ τ : Type) where
  notBefore : Nat := 0
  stage : Stage σ τ

/-- An event in the life of the process of a plugin. -/
inductive Event where
  | start (plugin : PluginId) (count : Nat) (capability : Capability)
  | interrupt (process : Nat)
  | kill (process : Nat)
  deriving DecidableEq, Repr

/-- A host. Cells, processes and tasks are numbered in the order in which they came up. -/
structure Host (σ τ : Type) where
  config : ManagerConfig := {}
  now : Nat := 0
  registries : Capability → Registry σ
  cells : List (Cell τ) := []
  processes : List Process := []
  starts : Table PluginId Nat := []
  tasks : List (Task σ τ) := []
  events : List Event := []

namespace Host

variable {σ τ : Type}

/-- A host that knows a scheme. -/
def ofScheme (s : Scheme) (config : ManagerConfig) : Host σ τ where
  config
  registries capability := { capability, scheme := s }

/-- Changes the registry of a capability. -/
def onRegistry (h : Host σ τ) (c : Capability) (f : Registry σ → Registry σ) : Host σ τ :=
  { h with registries := fun d => if d = c then f (h.registries d) else h.registries d }

/-- Changing the registry of a capability changes no other. -/
theorem registry_onRegistry (h : Host σ τ) {c d : Capability} (ne : d ≠ c)
    (f : Registry σ → Registry σ) : (h.onRegistry c f).registries d = h.registries d := by
  simp [onRegistry, ne]

/-- Changes a cell. -/
def onCell (h : Host σ τ) (n : Nat) (f : Cell τ → Cell τ) : Host σ τ :=
  { h with cells := h.cells.modify n f }

/-- Changes a process. -/
def onProcess (h : Host σ τ) (n : Nat) (f : Process → Process) : Host σ τ :=
  { h with processes := h.processes.modify n f }

/-- Brings a task to a stage. -/
def onStage (h : Host σ τ) (n : Nat) (stage : Stage σ τ) : Host σ τ :=
  { h with tasks := h.tasks.modify n fun t => { t with stage } }

/-- How far a task has come. -/
def stage? (h : Host σ τ) (n : Nat) : Option (Stage σ τ) := (h.tasks[n]?).map Task.stage

@[simp] theorem tasks_onRegistry (h : Host σ τ) (c : Capability) (f : Registry σ → Registry σ) :
    (h.onRegistry c f).tasks = h.tasks := rfl

@[simp] theorem tasks_onCell (h : Host σ τ) (n : Nat) (f : Cell τ → Cell τ) :
    (h.onCell n f).tasks = h.tasks := rfl

@[simp] theorem tasks_onProcess (h : Host σ τ) (n : Nat) (f : Process → Process) :
    (h.onProcess n f).tasks = h.tasks := rfl

/-- A task that was brought to a stage is there. -/
theorem stage?_onStage {h g : Host σ τ} {n : Nat} {s : Stage σ τ} (at_ : h.stage? n = some s)
    (same : g.tasks = h.tasks) (t : Stage σ τ) : (g.onStage n t).stage? n = some t := by
  obtain ⟨a, ha, -⟩ := Option.map_eq_some_iff.1 at_
  simp [stage?, onStage, same, ha]

/-- Keeps what has happened. -/
def note (h : Host σ τ) (e : Event) : Host σ τ := { h with events := h.events ++ [e] }

@[simp] theorem tasks_note (h : Host σ τ) (e : Event) : (h.note e).tasks = h.tasks := rfl

/-- The processes with given numbers. -/
def processesAt (h : Host σ τ) (ns : List Nat) : List Process := ns.filterMap fun n => h.processes[n]?

/-- The instance in a cell. -/
def running? (h : Host σ τ) (cell : Nat) : Option (Running τ) := do (← h.cells[cell]?).running

/-- The plugins that run for a capability, with their places. -/
def runningPlugins (h : Host σ τ) (c : Capability) : List (PluginId × Place) :=
  (h.registries c).cells.filterMap fun e => (h.running? e.2).map fun r => (e.1, r.place)

/-! ## Registering -/

/-- An operation on the registry of a capability. A failure leaves it as it is. -/
def register (h : Host σ τ) (c : Capability) (f : Registry σ → Outcome (Registry σ)) :
    Outcome Unit × Host σ τ :=
  match f (h.registries c) with
  | .ok r => (.ok (), h.onRegistry c fun _ => r)
  | .error e => (.error e, h)

/-- Registers one type after another and reports the first conflict. -/
def registerTypes (h : Host σ τ) (d : PluginDescriptor) :
    List (Capability × TypeId) → Outcome Unit × Host σ τ
  | [] => (.ok (), h)
  | (c, t) :: rest =>
    let (first, h) := h.register c fun r => r.add d t
    let (later, h) := h.registerTypes d rest
    (match first with
      | .error e => .error e
      | .ok () => later, h)

/-- The types that a plugin advertises, capability by capability. -/
def advertised (d : PluginDescriptor) : List (Capability × TypeId) :=
  Capability.all.flatMap fun c => (d.capabilities.typesFor c).map fun s => (c, s.type)

/-- Registers every type that a plugin advertises. Where there are conflicts, the first is reported
and the other types stay registered. -/
def registerDescriptor (h : Host σ τ) (d : PluginDescriptor) : Outcome Unit × Host σ τ :=
  h.registerTypes d (advertised d)

/-- Registers plugins and counts those without a conflict. -/
def registerAll (h : Host σ τ) : List PluginDescriptor → Nat × Host σ τ
  | [] => (0, h)
  | d :: ds =>
    let (r, h) := h.registerDescriptor d
    let (n, h) := h.registerAll ds
    (if r.isOk then n + 1 else n, h)

/-! ## Asking -/

/-- With one more task, and its number. -/
def ask (h : Host σ τ) (delay : Nat) (stage : Stage σ τ) : Nat × Host σ τ :=
  (h.tasks.length, { h with tasks := h.tasks ++ [{ notBefore := h.now + delay, stage }] })

/-- How long all plugins may take to stop where nothing else is said. -/
def patience (h : Host σ τ) : Nat := 1000 * h.config.shutdownSeconds

end Host

end PluginKit
