import Mathlib.Data.List.Count
import PluginKit.Proofs.Host.Launches

/-!
# What happens to processes

A host notes whenever it interrupts or kills a process. It interrupts a process when a task takes it
to stop it, and kills it at most when the task has waited for it to the end. As a process is with one
task only, both happen once at most.

## Main statements

- `Moves.process`: what a move of a task does to a process.
- `interrupts_eq`: a process was interrupted as often as there are tasks that have taken it.
- `held_step`: nothing happens to a process that was taken but by the task that took it.
-/

namespace PluginKit

variable {σ τ : Type} {l : Launcher τ}

/-- The processes that a task has interrupted to stop them. -/
def Stage.interrupted (s : Stage σ τ) : List Nat := s.taken ++ s.handed

namespace Stage

variable {s : Stage σ τ}

theorem interrupted_subset : s.interrupted ⊆ s.processes := by
  intro p mem
  rw [processes, List.append_assoc]
  exact List.mem_append_right _ mem

theorem interrupted_begins (begins : Host.Begins s) : s.interrupted = [] := by
  cases s <;> first | rfl | cases begins

end Stage

namespace Host

variable {h g : Host σ τ}

/-! ## Operations on processes -/

theorem interrupt_interrupt (now : Nat) (x : Process) :
    (x.interrupt now).interrupt now = x.interrupt now := by
  cases ends : x.exitsAt with
  | some e => simp [Process.interrupt, ends]
  | none => cases after : x.exitAfter <;> simp [Process.interrupt, ends, after]

theorem process_onProcess (h : Host σ τ) (q p : Nat) (f : Process → Process) (e : Event) :
    ((h.onProcess q f).note e).processes[p]? =
      if q = p then (h.processes[p]?).map f else h.processes[p]? := by
  show (h.processes.modify q f)[p]? = _
  rw [List.getElem?_modify]
  split <;> simp

theorem events_cellOf (h : Host σ τ) (c : Capability) (id : PluginId) :
    (h.cellOf c id).2.events = h.events := by
  unfold cellOf
  split <;> rfl

theorem events_interrupting (ps : List Nat) (h : Host σ τ) :
    (h.interrupting ps).events = h.events ++ ps.map .interrupt := by
  induction ps generalizing h with
  | nil => simp [interrupting]
  | cons p ps ih => exact (ih _).trans (List.append_assoc _ _ _)

theorem process_interrupting (ps : List Nat) (h : Host σ τ) {p : Nat} {x : Process}
    (there : h.processes[p]? = some x) :
    (h.interrupting ps).processes[p]? = some (if p ∈ ps then x.interrupt h.now else x) := by
  induction ps generalizing h x with
  | nil => exact there
  | cons q ps ih =>
    have one := process_onProcess h q p (Process.interrupt h.now) (.interrupt q)
    rw [there] at one
    by_cases same : q = p
    · subst same
      rw [if_pos rfl] at one
      refine (ih _ one).trans ?_
      -- a process that is interrupted again stays as it is
      show some (if q ∈ ps then (x.interrupt h.now).interrupt h.now else x.interrupt h.now) = _
      rw [interrupt_interrupt, ite_self, if_pos List.mem_cons_self]
    · rw [if_neg same] at one
      refine (ih _ one).trans ?_
      simp [List.mem_cons, Ne.symm same]
      rfl

/-- Killing notes nothing but what it kills. -/
theorem events_killLeft (ps : List Nat) (h : Host σ τ) :
    ∃ ks ⊆ ps, (h.killLeft ps).events = h.events ++ ks.map .kill := by
  induction ps generalizing h with
  | nil => exact ⟨[], List.nil_subset _, by simp [killLeft]⟩
  | cons p ps ih =>
    unfold killLeft
    split
    · split
      · obtain ⟨ks, sub, noted⟩ := ih h
        exact ⟨ks, List.subset_cons_of_subset p sub, noted⟩
      · obtain ⟨ks, sub, noted⟩ := ih ((h.onProcess p (Process.kill h.now)).note (.kill p))
        refine ⟨p :: ks, List.cons_subset_cons p sub, noted.trans ?_⟩
        exact List.append_assoc _ [Event.kill p] _
    · obtain ⟨ks, sub, noted⟩ := ih h
      exact ⟨ks, List.subset_cons_of_subset p sub, noted⟩

/-- Of given processes exactly those are killed that have not exited. -/
theorem process_killLeft (ps : List Nat) (h : Host σ τ) {p : Nat} {x : Process}
    (there : h.processes[p]? = some x) :
    (h.killLeft ps).processes[p]? = some (if p ∈ ps then x.kill h.now else x) ∧
      (h.killLeft ps).events.count (.kill p) = h.events.count (.kill p) +
        if p ∈ ps ∧ x.hasExited h.now = false then 1 else 0 := by
  induction ps generalizing h x with
  | nil => exact ⟨there, by simp [killLeft]⟩
  | cons q ps ih =>
    have dead : x.hasExited h.now = true → x.kill h.now = x := fun gone => by
      rw [Process.kill, if_pos gone]
    by_cases same : q = p
    · subst same
      simp only [killLeft, there, List.mem_cons_self, true_and, if_true]
      cases gone : x.hasExited h.now with
      | true =>
        -- an exited process is passed over, here and later
        obtain ⟨left, count⟩ := ih h there
        refine ⟨left.trans ?_, count.trans ?_⟩
        · rw [dead gone, ite_self]
        · simp [gone]
      | false =>
        -- a killed process has exited when it comes up again
        have one := process_onProcess h q q (Process.kill h.now) (.kill q)
        rw [there, if_pos rfl] at one
        obtain ⟨left, count⟩ := ih _ one
        have killed : (x.kill h.now).hasExited h.now = true := Process.hasExited_kill h.now x
        have again : (x.kill h.now).kill h.now = x.kill h.now := by rw [Process.kill, if_pos killed]
        refine ⟨left.trans ?_, count.trans ?_⟩
        · show some (if q ∈ ps then (x.kill h.now).kill h.now else x.kill h.now) = _
          rw [again, ite_self]
        · show (h.events ++ [Event.kill q]).count (.kill q) +
            (if q ∈ ps ∧ (x.kill h.now).hasExited h.now = false then 1 else 0) = _
          rw [killed, if_neg (by simp), List.count_append, List.count_singleton_self]
          rfl
    · have others : (p ∈ q :: ps) ↔ p ∈ ps := by simp [List.mem_cons, Ne.symm same]
      simp only [others, killLeft]
      split
      · split
        · exact ih h there
        · have one := process_onProcess h q p (Process.kill h.now) (.kill q)
          rw [there, if_neg same] at one
          obtain ⟨left, count⟩ := ih _ one
          refine ⟨left, count.trans ?_⟩
          show (h.events ++ [Event.kill q]).count (.kill p) + _ = _
          rw [List.count_append, List.count_singleton, if_neg (by simpa using same)]
          rfl
      · exact ih h there

/-! ## What moves do to a process -/

/-- The change of a process when a task moves from a stage to the next, and how often it is killed. A
process changes only when it is interrupted or when the task has waited for it to the end. -/
inductive ProcessMoves (now p : Nat) :
    Stage σ τ → Stage σ τ → Process → Process → Nat → Prop where
  | kept {s s' x} : ProcessMoves now p s s' x x 0
  | interrupted {s s' x} (more : s.interrupted.count p < s'.interrupted.count p) :
    ProcessMoves now p s s' x (x.interrupt now) 0
  | ended {s s' x} (mine : p ∈ s.interrupted) (settled : p ∈ s'.ended) :
    ProcessMoves now p s s' x (x.kill now) (if x.hasExited now then 0 else 1)

namespace Moves

variable {n : Nat} {s s' : Stage σ τ}

/-- The change of a process by a move of a task. -/
theorem process (m : Moves l h n s s' g) {p : Nat} {x : Process}
    (there : h.processes[p]? = some x) : ∃ y kills, g.processes[p]? = some y ∧
      g.events.count (.kill p) = h.events.count (.kill p) + kills ∧
      ProcessMoves h.now p s s' x y kills := by
  have killed (ps : List Nat) (mine : p ∈ ps → p ∈ s.interrupted) (settled : p ∈ ps → p ∈ s'.ended) :
      ∃ y kills, (h.killLeft ps).processes[p]? = some y ∧
        (h.killLeft ps).events.count (.kill p) = h.events.count (.kill p) + kills ∧
        ProcessMoves h.now p s s' x y kills := by
    obtain ⟨left, count⟩ := process_killLeft ps h there
    by_cases mem : p ∈ ps
    · refine ⟨x.kill h.now, _, by rw [left, if_pos mem], ?_, .ended (mine mem) (settled mem)⟩
      rw [count]
      cases x.hasExited h.now <;> simp [mem]
    · exact ⟨x, 0, by rw [left, if_neg mem], by simp [count, mem], .kept⟩
  cases m with
  | joined sought =>
    refine ⟨x, 0, by rw [processes_onCell, processes_cellOf, there], ?_, .kept⟩
    exact congrArg (List.count (Event.kill p)) (events_cellOf h _ _)
  | launched =>
    refine ⟨x, 0, there, ?_, .kept⟩
    show (h.events ++ [Event.start ..]).count (Event.kill p) = _
    rw [List.count_append, List.count_singleton, if_neg (by simp)]
  | returned =>
    have old := (List.getElem?_eq_some_iff.1 there).1
    exact ⟨x, 0, (List.getElem?_append_left old).trans there, rfl, .kept⟩
  | @overtaken k q y stale =>
    have one := process_onProcess h q p (Process.interrupt h.now) (.interrupt q)
    have none_ : (h.events ++ [Event.interrupt q]).count (.kill p) = h.events.count (.kill p) := by
      rw [List.count_append, List.count_singleton, if_neg (by simp), Nat.add_zero]
    rw [there] at one
    by_cases same : q = p
    · rw [if_pos same] at one
      subst same
      refine ⟨_, 0, one, none_, .interrupted ?_⟩
      simp [Stage.interrupted, Stage.taken, Stage.handed]
    · rw [if_neg same] at one
      exact ⟨x, 0, one, none_, .kept⟩
  | @discharged k q t => exact killed [q] id id
  | @drained c left taken t =>
    have each := process_interrupting (h.registries c).tracked
      (h.onRegistry c fun r => { r with tracked := [] }) there
    have none_ : (h.draining c).events.count (.kill p) = h.events.count (.kill p) := by
      have others : Event.kill p ∉ (h.registries c).tracked.map .interrupt := by simp
      rw [draining, events_interrupting, List.count_append, List.count_eq_zero.2 others]
      rfl
    by_cases mem : p ∈ (h.registries c).tracked
    · rw [if_pos mem] at each
      refine ⟨_, 0, each, none_, .interrupted ?_⟩
      have pos := List.count_pos_iff.2 mem
      simpa [Stage.interrupted, Stage.taken, Stage.handed] using mem
    · rw [if_neg mem] at each
      exact ⟨x, 0, each, none_, .kept⟩
  | @finished taken t outcome =>
    refine killed taken.flatten (fun mem => ?_) id
    simpa [Stage.interrupted, Stage.taken, Stage.handed] using mem
  | _ => exact ⟨x, 0, there, rfl, .kept⟩

/-- A process is interrupted as often as the task takes it. -/
theorem interrupts (m : Moves l h n s s' g) (p : Nat) :
    g.events.count (.interrupt p) + s.interrupted.count p =
      h.events.count (.interrupt p) + s'.interrupted.count p := by
  have unkilled (ps : List Nat) :
      (h.killLeft ps).events.count (.interrupt p) = h.events.count (.interrupt p) := by
    obtain ⟨ks, -, noted⟩ := events_killLeft ps h
    have others : Event.interrupt p ∉ ks.map .kill := by simp
    rw [noted, List.count_append, List.count_eq_zero.2 others, Nat.add_zero]
  cases m with
  | @joined c kind tag d sought => exact congrArg (List.count _ · + 0) (events_cellOf h c d.id)
  | launched =>
    show (h.events ++ [Event.start ..]).count (Event.interrupt p) + _ = _
    rw [List.count_append, List.count_singleton, if_neg (by simp)]
    rfl
  | @overtaken k q y stale =>
    show (h.events ++ [Event.interrupt q]).count (.interrupt p) + _ = _
    simp [Stage.interrupted, Stage.taken, Stage.handed, List.count_cons]
  | @discharged k q t => exact congrArg (· + [q].count p) (unkilled [q])
  | @drained c left taken t =>
    rw [draining, events_interrupting, List.count_append]
    have one := List.count_map_of_injective (h.registries c).tracked Event.interrupt
      (fun _ _ => Event.interrupt.inj) p
    rw [one]
    simp only [Stage.interrupted, Stage.taken, Stage.handed, List.append_nil, List.flatten_append,
      List.flatten_singleton, List.count_append]
    show h.events.count (.interrupt p) + _ + _ = _
    omega
  | @finished taken t outcome =>
    rw [unkilled]
    simp [Stage.interrupted, Stage.taken, Stage.handed]
  | _ => rfl

/-- A move adds to the events, and a process that it kills is one that the task has waited for to the end.
-/
theorem events (m : Moves l h n s s' g) :
    ∃ new, g.events = h.events ++ new ∧ ∀ p, Event.kill p ∈ new → p ∈ s'.ended := by
  have killed {ps : List Nat} (settled : ps ⊆ s'.ended) : ∃ new,
      (h.killLeft ps).events = h.events ++ new ∧ ∀ p, Event.kill p ∈ new → p ∈ s'.ended := by
    obtain ⟨ks, sub, noted⟩ := events_killLeft ps h
    refine ⟨_, noted, fun p mem => ?_⟩
    obtain ⟨q, mem, same⟩ := List.mem_map.1 mem
    cases same
    exact settled (sub mem)
  cases m with
  | @joined c kind tag d sought =>
    exact ⟨[], (events_cellOf h c d.id).trans (List.append_nil _).symm, by simp⟩
  | launched => exact ⟨[_], rfl, by simp⟩
  | overtaken => exact ⟨[_], rfl, by simp⟩
  | discharged => exact killed (List.Subset.refl _)
  | drained => exact ⟨_, events_interrupting _ _, by simp⟩
  | finished => exact killed (List.Subset.refl _)
  | _ => exact ⟨[], (List.append_nil _).symm, by simp⟩

end Moves

/-! ## What steps do to a process -/

/-- A step adds to the events, and a process that it kills was waited for to the end. -/
theorem events_step (step : Step l h g) :
    ∃ new, g.events = h.events ++ new ∧ ∀ p, Event.kill p ∈ new → History.Ended g p := by
  rcases step_next step with ⟨-, same⟩ | ⟨n, s, s', g', due, moves, rfl, -⟩
  · exact ⟨[], by rw [same, List.append_nil], by simp⟩
  · obtain ⟨new, noted, settled⟩ := moves.events
    exact ⟨new, noted, fun p killed => ⟨n, s', stage?_onStage due.at_ moves.tasks s', settled p killed⟩⟩

/-- All processes that tasks have interrupted. -/
def interrupted (h : Host σ τ) : List Nat := h.tasks.flatMap fun t => t.stage.interrupted

theorem mem_interrupted {n p : Nat} {s : Stage σ τ} (at_ : h.stage? n = some s)
    (mem : p ∈ s.interrupted) : p ∈ h.interrupted := by
  obtain ⟨size, rfl⟩ := mem_task_of_stage? at_
  exact List.mem_flatMap.2 ⟨_, List.getElem_mem size, mem⟩

theorem count_interrupted_le_held (h : Host σ τ) (p : Nat) :
    h.interrupted.count p ≤ h.held.count p := by
  rw [interrupted, held]
  induction h.tasks with
  | nil => exact Nat.le_refl _
  | cons t ts ih =>
    simp only [List.flatMap_cons, List.count_append, Stage.processes, Stage.interrupted] at ih ⊢
    omega

theorem count_places_le (accounted : h.Accounted) (p : Nat) :
    h.tracked.count p + h.held.count p ≤ 1 := by
  have all := accounted.count_eq p
  have once : (List.range h.processes.length).count p ≤ 1 :=
    List.nodup_iff_count.1 List.nodup_range p
  rw [List.count_append] at all
  omega

/-- No process is interrupted twice. -/
theorem count_interrupted_le (accounted : h.Accounted) (p : Nat) : h.interrupted.count p ≤ 1 := by
  have part := count_interrupted_le_held h p
  have once := count_places_le accounted p
  omega

theorem mem_tracked {c : Capability} {p : Nat} (mem : p ∈ (h.registries c).tracked) :
    p ∈ h.tracked := List.mem_flatMap.2 ⟨c, Capability.mem_all c, mem⟩

/-- A process that is tracked is there. -/
theorem process_of_tracked (accounted : h.Accounted) {p : Nat} (mem : p ∈ h.tracked) :
    ∃ x, h.processes[p]? = some x := by
  have listed := List.mem_range.1 (accounted.mem_iff.1 (List.mem_append_left _ mem))
  exact ⟨_, List.getElem?_eq_getElem listed⟩

/-- A process that is tracked has not been interrupted. -/
theorem count_interrupted_of_tracked (accounted : h.Accounted) {p : Nat} (mem : p ∈ h.tracked) :
    h.interrupted.count p = 0 := by
  have part := count_interrupted_le_held h p
  have once := count_places_le accounted p
  have there := List.count_pos_iff.2 mem
  omega

theorem count_interrupted_onStage {n : Nat} {s : Stage σ τ} (at_ : h.stage? n = some s)
    (same : g.tasks = h.tasks) (s' : Stage σ τ) (p : Nat) :
    (g.onStage n s').interrupted.count p + s.interrupted.count p =
      h.interrupted.count p + s'.interrupted.count p := by
  obtain ⟨rest, before, after⟩ : ∃ rest, h.interrupted.Perm (s.interrupted ++ rest) ∧
      (g.onStage n s').interrupted.Perm (s'.interrupted ++ rest) :=
    parts_onStage Stage.interrupted at_ same s'
  have before := before.count_eq p
  have after := after.count_eq p
  rw [List.count_append] at before after
  omega

/-- A process is interrupted as often as tasks take it. -/
theorem interrupts_step (step : Step l h g) (p : Nat) :
    g.events.count (.interrupt p) + h.interrupted.count p =
      h.events.count (.interrupt p) + g.interrupted.count p := by
  rcases step_next step with ⟨kept, same⟩ | ⟨n, s, s', g', due, moves, rfl, -⟩
  · obtain ⟨new, tasks, begins⟩ := kept.tasks
    have none_ : (new.flatMap fun t => t.stage.interrupted) = [] :=
      List.flatMap_eq_nil_iff.2 fun t ht => Stage.interrupted_begins (begins t ht)
    rw [same, interrupted, interrupted, tasks, List.flatMap_append, none_, List.append_nil]
  · have change := moves.interrupts p
    have total := count_interrupted_onStage due.at_ moves.tasks s' p
    have noted : (g'.onStage n s').events = g'.events := rfl
    rw [noted]
    omega

/-- A step leaves a process as it is that has been interrupted, unless it is interrupted once more or the
task that has it has waited for it to the end. -/
theorem process_step (step : Step l h g) {p : Nat} {x : Process} (there : h.processes[p]? = some x) :
    (g.processes[p]? = some x ∧ g.events.count (.kill p) = h.events.count (.kill p)) ∨
      h.interrupted.count p < g.interrupted.count p ∨
      ∃ n s s', h.stage? n = some s ∧ g.stage? n = some s' ∧ s.rank ≠ 0 ∧
        p ∈ s.interrupted ∧ p ∈ s'.ended ∧ g.processes[p]? = some (x.kill h.now) ∧
        g.events.count (.kill p) = h.events.count (.kill p) + if x.hasExited h.now then 0 else 1 := by
  rcases step_next step with ⟨kept, same⟩ | ⟨n, s, s', g', due, moves, rfl, next⟩
  · exact .inl ⟨by rw [kept.processes, there], by rw [same]⟩
  · obtain ⟨y, kills, left, count, moved⟩ := moves.process there
    cases moved with
    | kept => exact .inl ⟨left, count⟩
    | interrupted more =>
      have total := count_interrupted_onStage due.at_ moves.tasks s' p
      exact .inr (.inl (by omega))
    | ended mine settled =>
      obtain ⟨r, -, ready⟩ := due.ready
      exact .inr (.inr ⟨n, s, s', due.at_, stage?_onStage due.at_ moves.tasks s',
        rank_ne_zero_of_readyAt ready, mine, settled, left, count⟩)

end Host

namespace History

open Host

/-- The events of a history until a moment. -/
def happened (r : History σ l) (m : Nat) : List Event :=
  (r.state m).events.drop (r.state 0).events.length

variable {r : History σ l}

theorem events_eq (r : History σ l) (m : Nat) :
    (r.state m).events = (r.state 0).events ++ r.happened m := by
  have grows : ∃ new, (r.state m).events = (r.state 0).events ++ new := by
    induction m with
    | zero => exact ⟨[], (List.append_nil _).symm⟩
    | succ m ih =>
      obtain ⟨old, before⟩ := ih
      obtain ⟨new, after, -⟩ := events_step (r.step m)
      exact ⟨old ++ new, by rw [after, before, List.append_assoc]⟩
  obtain ⟨new, eq⟩ := grows
  rw [happened, eq, List.drop_left]

theorem count_happened (r : History σ l) (e : Event) (m : Nat) :
    (r.state m).events.count e = (r.state 0).events.count e + (r.happened m).count e := by
  rw [events_eq, List.count_append]

theorem count_happened_mono (r : History σ l) (e : Event) {i j : Nat} (h : i ≤ j) :
    (r.happened i).count e ≤ (r.happened j).count e := by
  induction h with
  | refl => exact Nat.le_refl _
  | @step j h ih =>
    obtain ⟨new, noted, -⟩ := events_step (r.step j)
    have before := r.count_happened e j
    have after := r.count_happened e (j + 1)
    rw [noted, List.count_append] at after
    rw [Nat.succ_eq_add_one]
    omega

/-- A process was interrupted as often as there are tasks that have taken it. -/
theorem interrupts_eq (r : History σ l) (p m : Nat) :
    (r.happened m).count (.interrupt p) = (r.state m).interrupted.count p := by
  induction m with
  | zero => simp [happened, interrupted, r.fresh.tasks]
  | succ m ih =>
    have step := interrupts_step (r.step m) p
    have before := r.count_happened (.interrupt p) m
    have after := r.count_happened (.interrupt p) (m + 1)
    omega

/-- A process that was killed was waited for to the end. -/
theorem ended_of_killed {p m : Nat} (killed : Event.kill p ∈ r.happened m) : Ended (r.state m) p := by
  induction m with
  | zero => simp [happened] at killed
  | succ m ih =>
    obtain ⟨new, noted, settled⟩ := events_step (r.step m)
    rw [r.events_eq m, r.events_eq (m + 1), List.append_assoc, List.append_right_inj] at noted
    rw [noted, List.mem_append] at killed
    rcases killed with before | now
    · exact ended_step (r.step m) (ih before)
    · exact settled p now

/-- A process that a task has taken stays as it is until this task has waited for it to the end. -/
theorem held_step {m n p : Nat} {s : Stage σ τ} {x : Process}
    (at_ : (r.state m).stage? n = some s) (mem : p ∈ s.interrupted)
    (there : (r.state m).processes[p]? = some x) :
    ((r.state (m + 1)).processes[p]? = some x ∧
        (r.happened (m + 1)).count (.kill p) = (r.happened m).count (.kill p)) ∨
      ∃ s', (r.state (m + 1)).stage? n = some s' ∧ s.rank ≠ 0 ∧ p ∈ s'.ended ∧
        (r.state (m + 1)).processes[p]? = some (x.kill (r.state m).now) ∧
        (r.happened (m + 1)).count (.kill p) = (r.happened m).count (.kill p) +
          if x.hasExited (r.state m).now then 0 else 1 := by
  have before := r.count_happened (.kill p) m
  have after := r.count_happened (.kill p) (m + 1)
  rcases process_step (r.step m) there with
    ⟨same, count⟩ | again | ⟨n', t, t', was, came, open_, mine, settled, left, count⟩
  · exact .inl ⟨same, by omega⟩
  · have once := count_interrupted_le (r.accounted (m + 1)) p
    have before := List.count_pos_iff.2 (mem_interrupted at_ mem)
    omega
  · obtain rfl := holder_unique (r.accounted m) at_ was (Stage.interrupted_subset mem)
      (Stage.interrupted_subset mine)
    cases was.symm.trans at_
    exact .inr ⟨t', came, open_, settled, left, by omega⟩

end History

end PluginKit
