import Mathlib.Logic.Relation
import PluginKit.Host.Run
import PluginKit.Proofs.Registry.Edit

/-!
# What a host can do

A host goes on by steps: time passes, something is asked of it, a type is bound to a plugin, or a task
that can go on does so. What a task can do is said once, stage by stage; everything else about steps
follows from it.

## Main statements

- `moves_next`: the moves are all that a task can do.
- `step_next`: a step brings one task to its next stage or leaves everything that was there.
- `step_cases`: a step moves one task or leaves everything that was there.
- `steps_run`: the turns that a host takes one after another are made of such steps.
-/

namespace PluginKit.Host

variable {σ τ : Type} {l : Launcher τ} {h g : Host σ τ}

/-! ## What operations leave alone -/

/-- Interrupts processes one after another. -/
def interrupting (h : Host σ τ) (ps : List Nat) : Host σ τ :=
  ps.foldl (fun h p => (h.onProcess p (Process.interrupt h.now)).note (.interrupt p)) h

@[simp] theorem registries_onCell (h : Host σ τ) (n : Nat) (f : Cell τ → Cell τ) :
    (h.onCell n f).registries = h.registries := rfl

@[simp] theorem registries_onProcess (h : Host σ τ) (n : Nat) (f : Process → Process) :
    (h.onProcess n f).registries = h.registries := rfl

@[simp] theorem registries_onStage (h : Host σ τ) (n : Nat) (s : Stage σ τ) :
    (h.onStage n s).registries = h.registries := rfl

@[simp] theorem registries_note (h : Host σ τ) (e : Event) :
    (h.note e).registries = h.registries := rfl

@[simp] theorem registries_leave (h : Host σ τ) (n cell : Nat) :
    (h.leave n cell).registries = h.registries := rfl

@[simp] theorem cells_onRegistry (h : Host σ τ) (c : Capability) (f : Registry σ → Registry σ) :
    (h.onRegistry c f).cells = h.cells := rfl

@[simp] theorem cells_onProcess (h : Host σ τ) (n : Nat) (f : Process → Process) :
    (h.onProcess n f).cells = h.cells := rfl

@[simp] theorem cells_onStage (h : Host σ τ) (n : Nat) (s : Stage σ τ) :
    (h.onStage n s).cells = h.cells := rfl

@[simp] theorem cells_note (h : Host σ τ) (e : Event) : (h.note e).cells = h.cells := rfl

@[simp] theorem processes_onRegistry (h : Host σ τ) (c : Capability)
    (f : Registry σ → Registry σ) : (h.onRegistry c f).processes = h.processes := rfl

@[simp] theorem processes_onCell (h : Host σ τ) (n : Nat) (f : Cell τ → Cell τ) :
    (h.onCell n f).processes = h.processes := rfl

@[simp] theorem processes_onStage (h : Host σ τ) (n : Nat) (s : Stage σ τ) :
    (h.onStage n s).processes = h.processes := rfl

@[simp] theorem processes_note (h : Host σ τ) (e : Event) : (h.note e).processes = h.processes := rfl

@[simp] theorem processes_leave (h : Host σ τ) (n cell : Nat) :
    (h.leave n cell).processes = h.processes := rfl

@[simp] theorem now_onStage (h : Host σ τ) (n : Nat) (s : Stage σ τ) :
    (h.onStage n s).now = h.now := rfl

/-- A change of a registry that keeps some part of it keeps that part of all. -/
theorem field_onRegistry {α : Type} (π : Registry σ → α) (h : Host σ τ) {c : Capability}
    {f : Registry σ → Registry σ} (keeps : π (f (h.registries c)) = π (h.registries c))
    (d : Capability) : π ((h.onRegistry c f).registries d) = π (h.registries d) := by
  by_cases same : d = c
  · subst same
    simpa [onRegistry] using keeps
  · rw [registry_onRegistry h same]

/-- Making a cell changes nothing of the registries but their cells. -/
theorem field_cellOf {α : Type} (π : Registry σ → α)
    (keeps : ∀ (r : Registry σ) cells, π { r with cells } = π r) (h : Host σ τ) (c : Capability)
    (id : PluginId) (d : Capability) :
    π ((h.cellOf c id).2.registries d) = π (h.registries d) := by
  unfold cellOf
  split
  · rfl
  · exact field_onRegistry π h (c := c)
      (f := fun r => { r with cells := r.cells.insert id h.cells.length }) (keeps _ _) d

/-- Two hosts differ only in their processes, and these keep their numbers, as when processes are
interrupted and killed. -/
structure OnlyProcesses (h g : Host σ τ) : Prop where
  tasks : g.tasks = h.tasks
  registries : g.registries = h.registries
  cells : g.cells = h.cells
  now : g.now = h.now
  count : g.processes.length = h.processes.length

theorem OnlyProcesses.trans {k : Host σ τ} (a : OnlyProcesses h g) (b : OnlyProcesses g k) :
    OnlyProcesses h k where
  tasks := b.tasks.trans a.tasks
  registries := b.registries.trans a.registries
  cells := b.cells.trans a.cells
  now := b.now.trans a.now
  count := b.count.trans a.count

theorem onlyProcesses_onProcess (h : Host σ τ) (p : Nat) (f : Process → Process) (e : Event) :
    OnlyProcesses h ((h.onProcess p f).note e) :=
  ⟨rfl, rfl, rfl, rfl, List.length_modify f h.processes p⟩

theorem onlyProcesses_interrupting (ps : List Nat) (h : Host σ τ) :
    OnlyProcesses h (h.interrupting ps) := by
  induction ps generalizing h with
  | nil => exact ⟨rfl, rfl, rfl, rfl, rfl⟩
  | cons p ps ih => exact (onlyProcesses_onProcess h p _ _).trans (ih _)

theorem onlyProcesses_killLeft (ps : List Nat) (h : Host σ τ) :
    OnlyProcesses h (h.killLeft ps) := by
  induction ps generalizing h with
  | nil => exact ⟨rfl, rfl, rfl, rfl, rfl⟩
  | cons p ps ih =>
    unfold killLeft
    split
    · split
      · exact ih h
      · exact (onlyProcesses_onProcess h p _ _).trans (ih _)
    · exact ih h

/-! ## Moves -/

/-- The how-manieth start of a plugin comes next. -/
def nextCount (h : Host σ τ) (id : PluginId) : Nat := (h.starts.get? id).getD 0 + 1

/-- How the next start of a plugin goes. -/
def nextStart (l : Launcher τ) (h : Host σ τ) (k : Ticket) : Start τ :=
  l k.descriptor k.capability (h.nextCount k.descriptor.id)

/-- With a start of an instance under way. -/
def launching (h : Host σ τ) (k : Ticket) : Host σ τ :=
  let count := h.nextCount k.descriptor.id
  { h with starts := h.starts.insert k.descriptor.id count }.note
    (.start k.descriptor.id count k.capability)

/-- With an instance that is known to the host. -/
def admitting (h : Host σ τ) (k : Ticket) (p : Nat) (x : Started τ) : Host σ τ :=
  (h.onRegistry k.capability fun r => { r with tracked := r.tracked ++ [p] }).onCell k.cell
    fun c => { c with running := some (Running.ofStarted k p x) }

/-- With the processes of a capability taken and interrupted. -/
def draining (h : Host σ τ) (c : Capability) : Host σ τ :=
  (h.onRegistry c fun r => { r with tracked := [] }).interrupting (h.registries c).tracked

/-- The ticket of a task that has looked up a plugin. -/
def ticket (h : Host σ τ) (c : Capability) (d : PluginDescriptor) : Ticket where
  capability := c
  descriptor := d
  cell := (h.cellOf c d.id).1
  generation := (h.registries c).generation

/-- A move of the task `n` from a stage: the stage it comes to, and the host apart from that. -/
inductive Moves (l : Launcher τ) (h : Host σ τ) (n : Nat) :
    Stage σ τ → Stage σ τ → Host σ τ → Prop where
  | unresolved {c kind tag e} (sought : (h.registries c).lookup kind tag = .error e) :
    Moves l h n (.looking c kind tag) (.failed e []) h
  | inside {c kind tag handler} (sought : (h.registries c).lookup kind tag = .ok (.inside handler)) :
    Moves l h n (.looking c kind tag) (.found c (.inside handler)) h
  | joined {c kind tag d} (sought : (h.registries c).lookup kind tag = .ok (.plugin d)) :
    Moves l h n (.looking c kind tag) (.queued (h.ticket c d))
      ((h.cellOf c d.id).2.onCell (h.cellOf c d.id).1 fun x => { x with queue := x.queue ++ [n] })
  | shared {k r} (runs : h.running? k.cell = some r) :
    Moves l h n (.queued k) (.found k.capability (.instance k.cell)) (h.leave n k.cell)
  | launched {k} (idle : h.running? k.cell = none) :
    Moves l h n (.queued k)
      (.starting k (h.now + (nextStart l h k).delay) (nextStart l h k).outcome) (h.launching k)
  | unstarted {k r e} :
    Moves l h n (.starting k r (.error e)) (.failed e []) (h.leave n k.cell)
  | returned {k r x} :
    Moves l h n (.starting k r (.ok x)) (.started k h.processes.length x)
      { h with processes := h.processes ++ [x.process] }
  | admitted {k p x} (current : (h.registries k.capability).generation = k.generation) :
    Moves l h n (.started k p x) (.found k.capability (.instance k.cell))
      ((h.admitting k p x).leave n k.cell)
  | overtaken {k p x} (stale : (h.registries k.capability).generation ≠ k.generation) :
    Moves l h n (.started k p x) (.late k p (h.now + lateGrace))
      ((h.onProcess p (Process.interrupt h.now)).note (.interrupt p))
  | discharged {k p t} :
    Moves l h n (.late k p t) (.failed (Host.overtaken k.descriptor.id) [p])
      ((h.killLeft [p]).leave n k.cell)
  | begun {cs patience} :
    Moves l h n (.asked cs patience) (.closing cs [] (patience.map (h.now + ·))) h
  | closed {c left taken t} :
    Moves l h n (.closing (c :: left) taken t) (.draining c left taken t) (h.close c)
  | waits {taken t} : Moves l h n (.closing [] taken t) (.stopping taken t) h
  | drained {c left taken t} :
    Moves l h n (.draining c left taken t)
      (.closing left (taken ++ [(h.registries c).tracked]) t) (h.draining c)
  | finished {taken t outcome} :
    Moves l h n (.stopping taken t) (.stopped taken outcome) (h.killLeft taken.flatten)

/-- The moves are all that a task can do. -/
theorem moves_next (l : Launcher τ) (h : Host σ τ) (n : Nat) {s : Stage σ τ} (open_ : s.rank ≠ 0) :
    ∃ s' g, Moves l h n s s' g ∧ h.next l n s = g.onStage n s' := by
  cases s with
  | looking c kind tag =>
    cases sought : (h.registries c).lookup kind tag with
    | error e =>
      refine ⟨_, _, .unresolved sought, ?_⟩
      simp only [next, look, sought]
    | ok served =>
      cases served with
      | inside handler =>
        refine ⟨_, _, .inside sought, ?_⟩
        simp only [next, look, sought]
      | plugin d =>
        refine ⟨_, _, .joined sought, ?_⟩
        simp only [next, look, sought, ticket]
  | queued k =>
    cases runs : h.running? k.cell with
    | some r =>
      refine ⟨_, _, .shared runs, ?_⟩
      simp only [next, enter, runs]
    | none =>
      refine ⟨_, _, .launched runs, ?_⟩
      simp only [next, enter, runs]
      rfl
  | starting k r outcome =>
    cases outcome with
    | error e => exact ⟨_, _, .unstarted, rfl⟩
    | ok x => exact ⟨_, _, .returned, rfl⟩
  | started k p x =>
    by_cases current : (h.registries k.capability).generation = k.generation
    · refine ⟨_, _, .admitted current, ?_⟩
      simp only [next, admitInstance, if_pos current, admitting]
    · refine ⟨_, _, .overtaken current, ?_⟩
      simp only [next, admitInstance, if_neg current]
  | late k p t => exact ⟨_, _, .discharged, rfl⟩
  | asked cs patience => exact ⟨_, _, .begun, rfl⟩
  | closing left taken t =>
    cases left with
    | nil => exact ⟨_, _, .waits, rfl⟩
    | cons c left => exact ⟨_, _, .closed, rfl⟩
  | draining c left taken t => exact ⟨_, _, .drained, rfl⟩
  | stopping taken t => exact ⟨_, _, .finished, rfl⟩
  | found => exact absurd rfl open_
  | failed => exact absurd rfl open_
  | stopped => exact absurd rfl open_
  | dropped => exact absurd rfl open_

namespace Moves

variable {n : Nat} {s s' : Stage σ τ}

theorem tasks (m : Moves l h n s s' g) : g.tasks = h.tasks := by
  cases m with
  | joined sought => exact tasks_cellOf h _ _
  | discharged => exact tasks_killLeft _ h
  | drained => exact (onlyProcesses_interrupting _ _).tasks
  | finished => exact tasks_killLeft _ h
  | _ => rfl

theorem now (m : Moves l h n s s' g) : g.now = h.now := by
  cases m with
  | joined sought =>
    show (h.cellOf _ _).2.now = h.now
    unfold cellOf
    split <;> rfl
  | discharged => exact (onlyProcesses_killLeft _ h).now
  | drained => exact (onlyProcesses_interrupting _ _).now
  | finished => exact (onlyProcesses_killLeft _ h).now
  | _ => rfl

end Moves

/-! ## Steps -/

/-- The stages at which tasks begin: to find a handler, or to stop plugins. -/
def Begins : Stage σ τ → Prop
  | .looking .. => True
  | .asked .. => True
  | _ => False

/-- A task is at a stage and can go on now. -/
structure Due (h : Host σ τ) (n : Nat) (s : Stage σ τ) : Prop where
  at_ : h.stage? n = some s
  begun : ∀ t ∈ h.tasks[n]?, t.notBefore ≤ h.now
  ready : ∃ r ≤ h.now, h.readyAt n s = some r

/-- One step of a host. Which one it is is left open: time passes, something is asked, a type is bound
to a plugin, or any one of the tasks that can go on does so. -/
inductive Step (l : Launcher τ) (h : Host σ τ) : Host σ τ → Prop where
  | waited {time} (later : h.now ≤ time) : Step l h { h with now := time }
  | asked (delay : Nat) {s : Stage σ τ} (begins : Begins s) : Step l h (h.ask delay s).2
  | bound (c : Capability) (d : PluginDescriptor) (t : TypeId) :
    Step l h (h.register c fun r => r.add d t).2
  | turned {n s} (due : h.Due n s) : Step l h (h.next l n s)

/-- Two hosts between which no task has moved. There may be more tasks, which have only been asked for. -/
structure Kept (h g : Host σ τ) : Prop where
  tasks : ∃ new, g.tasks = h.tasks ++ new ∧ ∀ t ∈ new, Begins t.stage
  tracked : ∀ c, (g.registries c).tracked = (h.registries c).tracked
  generation : ∀ c, (g.registries c).generation = (h.registries c).generation
  places : ∀ c, (g.registries c).cells = (h.registries c).cells
  cells : g.cells = h.cells
  processes : g.processes = h.processes
  later : h.now ≤ g.now

theorem rank_ne_zero_of_readyAt {n r : Nat} {s : Stage σ τ} (ready : h.readyAt n s = some r) :
    s.rank ≠ 0 := by
  intro ended
  cases s <;> simp [Stage.rank, readyAt] at ended ready

/-- Binding a type to a plugin changes nothing but that. -/
theorem add_cases {r r' : Registry σ} {d : PluginDescriptor} {t : TypeId} (h : r.add d t = .ok r') :
    ∃ external, r' = { r with external } := by
  obtain ⟨-, ⟨rfl, -⟩ | ⟨-, rfl⟩⟩ := Registry.add_eq_ok h
  · exact ⟨r'.external, rfl⟩
  · exact ⟨_, rfl⟩

theorem kept_bound (c : Capability) (d : PluginDescriptor) (t : TypeId) :
    Kept h (h.register c fun r => r.add d t).2 := by
  unfold register
  split
  · next r' bound =>
    obtain ⟨external, rfl⟩ := add_cases bound
    have keeps {α : Type} (π : Registry σ → α)
        (same : π { h.registries c with external } = π (h.registries c)) :=
      field_onRegistry π h (c := c) (f := fun _ => { h.registries c with external }) same
    exact ⟨⟨[], (List.append_nil _).symm, by simp⟩, keeps Registry.tracked rfl,
      keeps Registry.generation rfl, keeps Registry.cells rfl, rfl, rfl, Nat.le_refl _⟩
  · exact ⟨⟨[], (List.append_nil _).symm, by simp⟩, fun _ => rfl, fun _ => rfl, fun _ => rfl, rfl, rfl,
      Nat.le_refl _⟩

/-- A step brings one task to its next stage, or it leaves everything that was there and nothing
happens. -/
theorem step_next (step : Step l h g) : (Kept h g ∧ g.events = h.events) ∨
    ∃ n s s' g', h.Due n s ∧ Moves l h n s s' g' ∧ g = g'.onStage n s' ∧ g = h.next l n s := by
  cases step with
  | waited later =>
    exact .inl ⟨⟨⟨[], (List.append_nil _).symm, by simp⟩, fun _ => rfl, fun _ => rfl, fun _ => rfl, rfl,
      rfl, later⟩, rfl⟩
  | asked delay begins =>
    exact .inl ⟨⟨⟨_, rfl, by simpa using begins⟩, fun _ => rfl, fun _ => rfl, fun _ => rfl, rfl, rfl,
      Nat.le_refl _⟩, rfl⟩
  | bound c d t =>
    refine .inl ⟨kept_bound c d t, ?_⟩
    unfold register
    split <;> rfl
  | @turned n s due =>
    obtain ⟨r, -, ready⟩ := due.ready
    obtain ⟨s', g', moves, eq⟩ := moves_next l h n (rank_ne_zero_of_readyAt ready)
    exact .inr ⟨n, s, s', g', due, moves, eq, rfl⟩

/-- A step moves one task or leaves everything that was there. -/
theorem step_cases (step : Step l h g) : Kept h g ∨
    ∃ n s s' g', h.Due n s ∧ Moves l h n s s' g' ∧ g = g'.onStage n s' := by
  rcases step_next step with ⟨kept, -⟩ | ⟨n, s, s', g', due, moves, eq, -⟩
  · exact .inl kept
  · exact .inr ⟨n, s, s', g', due, moves, eq⟩

/-! ## Stages -/

theorem stage?_congr (same : g.tasks = h.tasks) (n : Nat) : g.stage? n = h.stage? n := by
  rw [stage?, stage?, same]

theorem stage?_onStage_ne (h : Host σ τ) {n m : Nat} (ne : m ≠ n) (s : Stage σ τ) :
    (h.onStage n s).stage? m = h.stage? m := by
  simp [stage?, onStage, ne.symm]

/-- When no task moves, a task is where it was, or it has only been asked for. -/
theorem stage?_of_kept (kept : Kept h g) (n : Nat) : g.stage? n = h.stage? n ∨
    (h.stage? n = none ∧ ∃ s, Begins s ∧ g.stage? n = some s) := by
  obtain ⟨new, tasks, begins⟩ := kept.tasks
  by_cases old : n < h.tasks.length
  · refine .inl ?_
    rw [stage?, stage?, tasks, List.getElem?_append_left old]
  · have none_ : h.stage? n = none := by
      rw [stage?, List.getElem?_eq_none (Nat.le_of_not_lt old)]
      rfl
    cases asked : g.stage? n with
    | none => exact .inl none_.symm
    | some s =>
      refine .inr ⟨none_, s, ?_, rfl⟩
      obtain ⟨t, there, rfl⟩ := Option.map_eq_some_iff.1 asked
      rw [tasks, List.getElem?_append_right (Nat.le_of_not_lt old)] at there
      exact begins t (List.mem_of_getElem? there)

/-- A step leaves a task as it is, or the task is asked for, or it moves. -/
theorem step_task (step : Step l h g) (n : Nat) :
    g.stage? n = h.stage? n ∨ (h.stage? n = none ∧ ∃ s, Begins s ∧ g.stage? n = some s) ∨
      ∃ s s' g', h.Due n s ∧ Moves l h n s s' g' ∧ g = g'.onStage n s' ∧ g.stage? n = some s' := by
  rcases step_cases step with kept | ⟨m, s, s', g', due, moves, rfl⟩
  · rcases stage?_of_kept kept n with same | asked
    · exact .inl same
    · exact .inr (.inl asked)
  · by_cases same : n = m
    · subst same
      exact .inr (.inr ⟨s, s', g', due, moves, rfl, stage?_onStage due.at_ moves.tasks s'⟩)
    · refine .inl ?_
      rw [stage?_onStage_ne g' same, stage?_congr moves.tasks]

/-! ## The turns that a host takes -/

/-- All processes are settled when the first is and then the others are. -/
theorem allSettleAt_cons (now : Nat) (cancelAt : Option Nat) (p : Process) (ps : List Process) :
    Process.allSettleAt now cancelAt (p :: ps) =
      (p.settlesAt cancelAt).bind fun e => Process.allSettleAt (max now e) cancelAt ps := by
  have unsettled (ps : List Process) : ps.foldl (fun latest p => do
      return max (← latest) (← p.settlesAt cancelAt)) (none : Option Nat) = none := by
    induction ps with
    | nil => rfl
    | cons p ps ih => exact ih
  rw [Process.allSettleAt, List.foldl_cons]
  cases p.settlesAt cancelAt with
  | none => exact unsettled ps
  | some e => rfl

/-- Processes that are settled by a moment are settled by it when one looks later. -/
theorem allSettleAt_later (cancelAt : Option Nat) (ps : List Process) {a b r time : Nat}
    (settled : Process.allSettleAt a cancelAt ps = some r) (intime : r ≤ time) (later : b ≤ time) :
    a ≤ r ∧ ∃ r' ≤ time, Process.allSettleAt b cancelAt ps = some r' := by
  induction ps generalizing a b with
  | nil =>
    cases settled
    exact ⟨Nat.le_refl _, b, later, rfl⟩
  | cons p ps ih =>
    rw [allSettleAt_cons] at settled ⊢
    cases ends : p.settlesAt cancelAt with
    | none => simp [ends] at settled
    | some e =>
      rw [ends, Option.bind_some] at settled
      have bound := (ih settled (Nat.le_refl time)).1
      have rest := (ih (b := max b e) settled (by omega)).2
      exact ⟨by omega, rest⟩

/-- A task that can go on at a moment can go on when that moment has come. -/
theorem readyAt_later {n r time : Nat} {s : Stage σ τ} (ready : h.readyAt n s = some r)
    (intime : r ≤ time) : ∃ r' ≤ time, { h with now := time }.readyAt n s = some r' := by
  cases s with
  | queued k =>
    refine ⟨time, Nat.le_refl _, ?_⟩
    simp only [readyAt] at ready ⊢
    split at ready
    · next may => exact if_pos may
    · cases ready
  | starting k ready' outcome =>
    cases ready
    exact ⟨_, intime, rfl⟩
  | late k p cancelAt => exact (allSettleAt_later _ _ ready intime (Nat.le_refl time)).2
  | stopping taken cancelAt => exact (allSettleAt_later _ _ ready intime (Nat.le_refl time)).2
  | found => cases ready
  | failed => cases ready
  | stopped => cases ready
  | dropped => cases ready
  | _ => exact ⟨time, Nat.le_refl _, rfl⟩

/-- A task that can go on does so as soon as enough time has passed. -/
theorem steps_next {n r : Nat} {task : Task σ τ} (there : h.tasks[n]? = some task)
    (ready : h.readyAt n task.stage = some r) {time : Nat} (passed : h.now ≤ time) (intime : r ≤ time)
    (begun : task.notBefore ≤ time) :
    Relation.ReflTransGen (Step l) h ({ h with now := time }.next l n task.stage) := by
  have at_ : h.stage? n = some task.stage := by rw [stage?, there]; rfl
  have due : { h with now := time }.Due n task.stage := by
    refine ⟨at_, ?_, readyAt_later ready intime⟩
    intro t same
    cases there.symm.trans same
    exact begun
  exact Relation.ReflTransGen.tail (.single (.waited passed)) (.turned due)

/-- The turns that a host takes are made of steps. -/
theorem steps_take {t : Turn} (open_ : t ∈ h.turns) : Relation.ReflTransGen (Step l) h (h.take l t) := by
  obtain ⟨⟨task, n⟩, listed, may⟩ := List.mem_filterMap.1 open_
  obtain ⟨r, ready, rfl⟩ := Option.map_eq_some_iff.1 may
  have there : h.tasks[n]? = some task := by
    have := List.mem_zipIdx_iff_getElem?.1 listed
    simpa using this
  have at_ : h.stage? n = some task.stage := by rw [stage?, there]; rfl
  have steps : Relation.ReflTransGen (Step l) h
      ({ h with now := max r (max task.notBefore h.now) }.next l n task.stage) :=
    steps_next there ready (by omega) (by omega) (by omega)
  simpa only [take, at_] using steps

/-- A fold that keeps or replaces the best turn ends with one of the turns. -/
theorem mem_of_foldl {pick : Option Turn → Turn → Option Turn}
    (picks : ∀ best t, pick best t = some t ∨ pick best t = best) {t : Turn} (ts : List Turn)
    {best : Option Turn} (picked : ts.foldl pick best = some t) : best = some t ∨ t ∈ ts := by
  induction ts generalizing best with
  | nil => exact .inl picked
  | cons u ts ih =>
    rcases ih picked with before | mem
    · rcases picks best u with new | old
      · cases new.symm.trans before
        exact .inr List.mem_cons_self
      · exact .inl (old.symm.trans before)
    · exact .inr (List.mem_cons_of_mem u mem)

/-- The turn that comes first is one of those that can be taken. -/
theorem nextTurn_mem {last : Nat} {t : Turn} (first : h.nextTurn last = some t) : t ∈ h.turns := by
  unfold nextTurn at first
  refine (mem_of_foldl ?_ h.turns first).resolve_left nofun
  intro best u
  cases best with
  | none => exact .inl rfl
  | some b =>
    show (if h.comesBefore last u b then some u else some b) = some u ∨
      (if h.comesBefore last u b then some u else some b) = some b
    split
    · exact .inl rfl
    · exact .inr rfl

/-- A run is made of steps if what is done after each turn is. -/
theorem steps_run {α : Type} {after : Nat → α → Host σ τ → α × Host σ τ}
    (steps : ∀ n a g, Relation.ReflTransGen (Step l) g (after n a g).2) (deadline fuel last : Nat)
    (a : α) (h : Host σ τ) :
    Relation.ReflTransGen (Step l) h (run l after deadline fuel last a h).2 := by
  induction fuel generalizing last a h with
  | zero => exact .refl
  | succ fuel ih =>
    unfold run
    split
    · exact .refl
    · next t first =>
      split
      · exact .refl
      · have taken := steps_take (l := l) (nextTurn_mem first)
        exact (taken.trans (steps t.task a _)).trans (ih ..)

end PluginKit.Host
