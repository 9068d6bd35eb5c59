import PluginKit.Proofs.Host.Move

/-!
# Where processes are

A process that a start has given is with the task that started it, until the host knows it or it has
been handed to a coordinator of its own; the host tracks it until a shutdown takes it; and the task
that took it keeps it. It is always in one of these places, and never in two.

## Main statements

- `accounted_step`: steps move processes and neither lose nor copy any.
-/

namespace PluginKit

variable {σ τ : Type} {l : Launcher τ}

namespace Stage

/-- The process that a start has given a task, which has not yet been judged. -/
def returned : Stage σ τ → List Nat
  | .started _ p _ => [p]
  | _ => []

/-- The processes that a task has taken to stop them. -/
def taken : Stage σ τ → List Nat
  | .closing _ taken _ => taken.flatten
  | .draining _ _ taken _ => taken.flatten
  | .stopping taken _ => taken.flatten
  | .stopped taken _ => taken.flatten
  | _ => []

/-- The process of a task that was started too late, which a coordinator of its own stops. -/
def handed : Stage σ τ → List Nat
  | .late _ p _ => [p]
  | .failed _ ps => ps
  | _ => []

/-- The processes that a task has. -/
def processes (s : Stage σ τ) : List Nat := s.returned ++ s.taken ++ s.handed

theorem processes_begins {s : Stage σ τ} (begins : Host.Begins s) : s.processes = [] := by
  cases s <;> first | rfl | cases begins

end Stage

namespace Host

variable {h g : Host σ τ}

/-- The processes that are tracked for any capability. -/
def tracked (h : Host σ τ) : List Nat := Capability.all.flatMap fun c => (h.registries c).tracked

/-- The processes that the tasks have. -/
def held (h : Host σ τ) : List Nat := h.tasks.flatMap fun t => t.stage.processes

/-- Every process has one place, and there is no place for anything else. -/
def Accounted (h : Host σ τ) : Prop := (h.tracked ++ h.held).Perm (List.range h.processes.length)

theorem count_tracked (h : Host σ τ) (p : Nat) : h.tracked.count p =
    (h.registries .resourceRepository).tracked.count p +
      (h.registries .digestProcessor).tracked.count p +
      (h.registries .componentLister).tracked.count p := by
  simp [tracked, Capability.all, Nat.add_assoc]

/-- Of all that the tasks have only the part of the task that moves is changed. -/
theorem parts_onStage (π : Stage σ τ → List Nat) {n : Nat} {s : Stage σ τ}
    (at_ : h.stage? n = some s) (same : g.tasks = h.tasks) (s' : Stage σ τ) : ∃ rest,
      (h.tasks.flatMap fun t => π t.stage).Perm (π s ++ rest) ∧
      ((g.onStage n s').tasks.flatMap fun t => π t.stage).Perm (π s' ++ rest) := by
  obtain ⟨t, there, rfl⟩ := Option.map_eq_some_iff.1 at_
  have size : n < h.tasks.length := (List.getElem?_eq_some_iff.1 there).1
  have item : h.tasks[n] = t := (List.getElem?_eq_some_iff.1 there).2
  refine ⟨(h.tasks.take n).flatMap (fun t => π t.stage) ++
    (h.tasks.drop (n + 1)).flatMap (fun t => π t.stage), ?_, ?_⟩
  · have split : h.tasks = h.tasks.take n ++ t :: h.tasks.drop (n + 1) := by
      rw [← item, List.getElem_cons_drop, List.take_append_drop]
    conv => lhs; rw [split]
    rw [List.flatMap_append, List.flatMap_cons]
    exact List.perm_append_comm_assoc _ _ _
  · have split : (g.onStage n s').tasks =
        h.tasks.take n ++ { t with stage := s' } :: h.tasks.drop (n + 1) := by
      rw [onStage, same, List.modify_eq_take_cons_drop size, item]
    rw [split, List.flatMap_append, List.flatMap_cons]
    exact List.perm_append_comm_assoc _ _ _

theorem accounted_kept (kept : Kept h g) (accounted : h.Accounted) : g.Accounted := by
  obtain ⟨new, tasks, begins⟩ := kept.tasks
  have held_eq : g.held = h.held := by
    have none_ : new.flatMap (fun t => t.stage.processes) = [] :=
      List.flatMap_eq_nil_iff.2 fun t ht => Stage.processes_begins (begins t ht)
    rw [held, tasks, List.flatMap_append, none_, List.append_nil, held]
  have tracked_eq : g.tracked = h.tracked := by
    rw [tracked, tracked]
    simp only [kept.tracked]
  rw [Accounted, held_eq, tracked_eq, kept.processes]
  exact accounted

theorem tracked_congr (same : g.registries = h.registries) : g.tracked = h.tracked := by
  rw [tracked, tracked, same]

/-- Changing a registry changes what is tracked by as much as its own part of it. -/
theorem count_tracked_onRegistry (h : Host σ τ) (c : Capability) (f : Registry σ → Registry σ)
    (p : Nat) : (h.onRegistry c f).tracked.count p + (h.registries c).tracked.count p =
      h.tracked.count p + (f (h.registries c)).tracked.count p := by
  rw [count_tracked, count_tracked]
  cases c <;> simp [onRegistry] <;> omega

theorem tracked_cellOf (h : Host σ τ) (c : Capability) (id : PluginId) :
    (h.cellOf c id).2.tracked = h.tracked := by
  rw [tracked, tracked]
  congr 1
  funext d
  exact field_cellOf Registry.tracked (fun _ _ => rfl) h c id d

theorem processes_cellOf (h : Host σ τ) (c : Capability) (id : PluginId) :
    (h.cellOf c id).2.processes = h.processes := by
  unfold cellOf
  split <;> rfl

/-- A move changes what is tracked and what its task has by as much as it changes what there is. -/
theorem Moves.balance {n : Nat} {s s' : Stage σ τ} (m : Moves l h n s s' g) (p : Nat) :
    g.tracked.count p + s'.processes.count p + (List.range h.processes.length).count p =
      h.tracked.count p + s.processes.count p + (List.range g.processes.length).count p := by
  cases m with
  | joined sought =>
    rw [tracked_congr (registries_onCell _ _ _), tracked_cellOf, processes_onCell, processes_cellOf]
    rfl
  -- there is one more process, which the task has
  | @returned k r x =>
    have one : (h.processes ++ [x.process]).length = h.processes.length + 1 := List.length_append
    have same : Host.tracked { h with processes := h.processes ++ [x.process] } = h.tracked := rfl
    rw [same, one, List.range_succ, List.count_append]
    simp only [Stage.processes, Stage.returned, Stage.taken, Stage.handed, List.append_nil,
      List.count_nil]
    omega
  -- the process goes from the task to the registry
  | @admitted k q x current =>
    have change := count_tracked_onRegistry h k.capability
      (fun r => { r with tracked := r.tracked ++ [q] }) p
    have same : ((h.admitting k q x).leave n k.cell).tracked =
      (h.onRegistry k.capability fun r => { r with tracked := r.tracked ++ [q] }).tracked := rfl
    rw [List.count_append] at change
    rw [same]
    simp only [Stage.processes, Stage.returned, Stage.taken, Stage.handed, List.append_nil,
      List.count_nil, processes_leave, admitting, processes_onCell, processes_onRegistry]
    omega
  | @overtaken k q x stale =>
    have only := onlyProcesses_onProcess h q (Process.interrupt h.now) (.interrupt q)
    rw [tracked_congr only.registries, only.count]
    rfl
  | @discharged k q t =>
    have only := onlyProcesses_killLeft [q] h
    have same : ((h.killLeft [q]).leave n k.cell).tracked = (h.killLeft [q]).tracked := rfl
    rw [same, tracked_congr only.registries, processes_leave, only.count]
    rfl
  | @closed c left taken t =>
    have change := count_tracked_onRegistry h c
      (fun r => { r with generation := r.generation + 1, cells := [] }) p
    have same : (h.close c).tracked.count p = h.tracked.count p := Nat.add_right_cancel change
    rw [same]
    rfl
  -- all processes of the registry go to the task
  | @drained c left taken t =>
    have change := count_tracked_onRegistry h c (fun r => { r with tracked := [] }) p
    have only := onlyProcesses_interrupting (h.registries c).tracked
      (h.onRegistry c fun r => { r with tracked := [] })
    rw [List.count_nil] at change
    rw [draining, tracked_congr only.registries, only.count, processes_onRegistry]
    simp only [Stage.processes, Stage.returned, Stage.taken, Stage.handed, List.append_nil,
      List.nil_append, List.flatten_append, List.flatten_singleton, List.count_append]
    omega
  | @finished taken t outcome =>
    have only := onlyProcesses_killLeft taken.flatten h
    rw [tracked_congr only.registries, only.count]
    rfl
  | _ => rfl

/-- Steps move processes and neither lose nor copy any. -/
theorem accounted_step (step : Step l h g) (accounted : h.Accounted) : g.Accounted := by
  rcases step_cases step with kept | ⟨n, s, s', g', due, moves, rfl⟩
  · exact accounted_kept kept accounted
  · obtain ⟨rest, before, after⟩ : ∃ rest, h.held.Perm (s.processes ++ rest) ∧
        (g'.onStage n s').held.Perm (s'.processes ++ rest) :=
      parts_onStage Stage.processes due.at_ moves.tasks s'
    rw [Accounted, List.perm_iff_count] at accounted ⊢
    intro p
    have all := accounted p
    have balance := moves.balance p
    have before := before.count_eq p
    have after := after.count_eq p
    have same : (g'.onStage n s').tracked = g'.tracked := rfl
    rw [List.count_append] at all before after ⊢
    rw [same, processes_onStage]
    omega

end Host

end PluginKit
