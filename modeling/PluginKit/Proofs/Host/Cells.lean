import PluginKit.Proofs.Host.Script

/-!
# Cells and the instances in them

The tasks for an instance wait in the queue of its cell. Only the first of them starts it, and only
while there is none. An instance that a cell has it keeps.

## Main statements

- `orderly`: a task that starts an instance is the first in the queue of its cell, which is empty.
- `fate_of_started`: an instance that was started is still judged, or in its cell, or stopped.
- `cell_of_lookups`: two tasks look up the same cell for a plugin unless a shutdown comes between.
-/

namespace PluginKit

variable {σ τ : Type} {l : Launcher τ}

namespace Stage

/-- The ticket of a task that starts an instance. -/
def starts? : Stage σ τ → Option Ticket
  | .starting k _ _ => some k
  | .started k _ _ => some k
  | .late k _ _ => some k
  | _ => none

/-- The processes that a task has seen to the end of. -/
def ended : Stage σ τ → List Nat
  | .stopped taken _ => taken.flatten
  | .failed _ ps => ps
  | _ => []

theorem starts?_begins {s : Stage σ τ} (begins : Host.Begins s) : s.starts? = none := by
  cases s <;> first | rfl | cases begins

end Stage

namespace Host

variable {h g : Host σ τ}

/-! ## What moves do to a cell -/

/-- The change of a cell when the task `n` moves from a stage to the next. -/
inductive CellMoves (n i : Nat) : Stage σ τ → Stage σ τ → Cell τ → Cell τ → Prop where
  | kept {s s' cell} : CellMoves n i s s' cell cell
  | joined {s s' cell} : CellMoves n i s s' cell { cell with queue := cell.queue ++ [n] }
  | left {s s' cell} (gone : s'.starts? = none) :
    CellMoves n i s s' cell { cell with queue := cell.queue.filter (· != n) }
  | filled {k p x s' cell} (here : k.cell = i) :
    CellMoves n i (.started k p x) s' cell
      { queue := cell.queue.filter (· != n), running := some (Running.ofStarted k p x) }

theorem cells_onCell (h : Host σ τ) (n : Nat) (f : Cell τ → Cell τ) (i : Nat) :
    (h.onCell n f).cells[i]? = if n = i then (h.cells[i]?).map f else h.cells[i]? := by
  rw [onCell, List.getElem?_modify]
  split <;> simp

theorem cells_cellOf (h : Host σ τ) (c : Capability) (id : PluginId) {i : Nat} {cell : Cell τ}
    (there : h.cells[i]? = some cell) : (h.cellOf c id).2.cells[i]? = some cell := by
  unfold cellOf
  split
  · exact there
  · show (h.cells ++ [({} : Cell τ)])[i]? = some cell
    rw [List.getElem?_append_left (List.getElem?_eq_some_iff.1 there).1]
    exact there

theorem cells_cellOf_new (h : Host σ τ) (c : Capability) (id : PluginId) {i : Nat} {cell : Cell τ}
    (absent : h.cells[i]? = none) (there : (h.cellOf c id).2.cells[i]? = some cell) : cell = {} := by
  unfold cellOf at there
  split at there
  · cases absent.symm.trans there
  · have new : (h.cells ++ [({} : Cell τ)])[i]? = some cell := there
    rw [List.getElem?_append_right (List.getElem?_eq_none_iff.1 absent)] at new
    exact List.mem_singleton.1 (List.mem_of_getElem? new)

theorem Moves.cellMoves {n i : Nat} {s s' : Stage σ τ} {cell : Cell τ} (m : Moves l h n s s' g)
    (there : h.cells[i]? = some cell) :
    ∃ cell', g.cells[i]? = some cell' ∧ CellMoves n i s s' cell cell' := by
  cases m with
  | @joined c kind tag d sought =>
    have kept := cells_cellOf h c d.id there
    rw [cells_onCell, kept]
    split
    · exact ⟨_, rfl, .joined⟩
    · exact ⟨_, rfl, .kept⟩
  | @shared k r runs =>
    rw [leave, cells_onCell, there]
    split
    · exact ⟨_, rfl, .left rfl⟩
    · exact ⟨_, rfl, .kept⟩
  | @unstarted k t e =>
    rw [leave, cells_onCell, there]
    split
    · exact ⟨_, rfl, .left rfl⟩
    · exact ⟨_, rfl, .kept⟩
  | @admitted k p x current =>
    rw [leave, cells_onCell, admitting, cells_onCell, cells_onRegistry, there]
    split
    · next here => exact ⟨_, rfl, .filled here⟩
    · exact ⟨_, rfl, .kept⟩
  | @overtaken k p x stale =>
    rw [(onlyProcesses_onProcess h p _ _).cells]
    exact ⟨_, there, .kept⟩
  | @discharged k p t =>
    rw [leave, cells_onCell, (onlyProcesses_killLeft [p] h).cells, there]
    split
    · exact ⟨_, rfl, .left rfl⟩
    · exact ⟨_, rfl, .kept⟩
  | @drained c left taken t =>
    rw [draining, (onlyProcesses_interrupting _ _).cells]
    exact ⟨_, there, .kept⟩
  | @finished taken t outcome =>
    rw [(onlyProcesses_killLeft taken.flatten h).cells]
    exact ⟨_, there, .kept⟩
  | _ => exact ⟨_, there, .kept⟩

/-! ## The first in the queue -/

/-- The task is the first in the queue of the cell, and there is no instance in it. -/
def First (h : Host σ τ) (n i : Nat) : Prop :=
  ∃ cell, h.cells[i]? = some cell ∧ cell.queue.head? = some n ∧ cell.running = none

/-- A task that starts an instance is the first in the queue of its cell, which has none. -/
def Orderly (h : Host σ τ) : Prop :=
  ∀ n s k, h.stage? n = some s → s.starts? = some k → h.First n k.cell

theorem first_unique {n m i : Nat} (a : h.First n i) (b : h.First m i) : n = m := by
  obtain ⟨cell, there, head, -⟩ := a
  obtain ⟨cell', there', head', -⟩ := b
  cases there.symm.trans there'
  exact Option.some.inj (head.symm.trans head')

theorem first_of_due {n : Nat} {k : Ticket} (due : h.Due n (.queued k))
    (idle : h.running? k.cell = none) : h.First n k.cell := by
  obtain ⟨r, -, ready⟩ := due.ready
  have may : h.mayGoOn n k.cell = true := by
    cases may : h.mayGoOn n k.cell with
    | true => rfl
    | false => simp [readyAt, may] at ready
  unfold mayGoOn at may
  cases there : h.cells[k.cell]? with
  | none => simp [there] at may
  | some cell =>
    have empty : cell.running = none := by simpa [running?, there] using idle
    refine ⟨cell, there, ?_, empty⟩
    simpa [there, empty] using may

/-- The first task in the queue of a cell stays the first when another task moves. -/
theorem first_of_cellMoves {n m i : Nat} {s s' : Stage σ τ} {cell cell' : Cell τ} (ne : n ≠ m)
    (moves : CellMoves m i s s' cell cell') (orderly : ∀ k, s.starts? = some k → h.First m k.cell)
    (there : h.cells[i]? = some cell) (first : h.First n i) :
    cell'.queue.head? = some n ∧ cell'.running = none := by
  have first' := first
  obtain ⟨c, same, head, empty⟩ := first
  cases there.symm.trans same
  cases moves with
  | kept => exact ⟨head, empty⟩
  | joined => exact ⟨by rw [List.head?_append, head]; rfl, empty⟩
  | left =>
    refine ⟨?_, empty⟩
    obtain ⟨rest, queue⟩ := List.head?_eq_some_iff.1 head
    show (cell.queue.filter (· != m)).head? = some n
    rw [queue, List.filter_cons_of_pos (by simpa using ne)]
    rfl
  -- the task that fills the cell was the first in its queue
  | @filled k p x s' cell here =>
    have other := orderly k rfl
    rw [here] at other
    exact absurd (first_unique first' other) ne

/-- A task that starts an instance was the first in the queue before it moved. -/
theorem Moves.first {n : Nat} {s s' : Stage σ τ} {k : Ticket} (m : Moves l h n s s' g)
    (due : h.Due n s) (orderly : h.Orderly) (starts : s'.starts? = some k) : g.First n k.cell := by
  cases m with
  | launched idle =>
    cases starts
    show h.First n _
    exact first_of_due due idle
  | returned =>
    cases starts
    exact orderly n _ _ due.at_ rfl
  | overtaken =>
    cases starts
    rw [First, (onlyProcesses_onProcess h _ _ _).cells]
    exact orderly n _ _ due.at_ rfl
  | _ => cases starts

theorem orderly_step (step : Step l h g) (orderly : h.Orderly) : g.Orderly := by
  intro n t k at_ starts
  rcases step_cases step with kept | ⟨m, s, s', g', due, moves, rfl⟩
  · rcases stage?_of_kept kept n with same | ⟨-, u, begins, came⟩
    · have first := orderly n t k (same.symm.trans at_) starts
      rw [First, kept.cells]
      exact first
    · cases came.symm.trans at_
      cases (Stage.starts?_begins begins).symm.trans starts
  · rw [First, cells_onStage]
    by_cases same : n = m
    · subst same
      cases (stage?_onStage due.at_ moves.tasks s').symm.trans at_
      exact moves.first due orderly starts
    · rw [stage?_onStage_ne g' same, stage?_congr moves.tasks] at at_
      have first := orderly n t k at_ starts
      obtain ⟨cell, there, -⟩ := first
      obtain ⟨cell', there', became⟩ := moves.cellMoves there
      have stays := first_of_cellMoves same became (fun k' => orderly m s k' due.at_) there
        (orderly n t k at_ starts)
      exact ⟨cell', there', stays⟩

/-! ## The instance in a cell -/

/-- An instance comes into a cell only from the task that started it. -/
theorem CellMoves.running_cases {n i : Nat} {s s' : Stage σ τ} {cell cell' : Cell τ} {rn : Running τ}
    (moves : CellMoves n i s s' cell cell') (runs : cell'.running = some rn) :
    cell.running = some rn ∨
      ∃ k p x, s = .started k p x ∧ k.cell = i ∧ rn = Running.ofStarted k p x := by
  cases moves with
  | @filled k p x s' cell here =>
    cases runs
    exact .inr ⟨k, p, x, rfl, here, rfl⟩
  | _ => exact .inl runs

/-- A cell that was not there before has no instance. -/
theorem Moves.running_new {n i : Nat} {s s' : Stage σ τ} (m : Moves l h n s s' g)
    (absent : h.cells[i]? = none) : g.running? i = none := by
  have leaves {k : Host σ τ} (same : k.cells = h.cells) (t j : Nat) :
      (k.leave t j).running? i = none := by
    simp [running?, leave, cells_onCell, same, absent]
  have keeps {k : Host σ τ} (same : k.cells = h.cells) : k.running? i = none := by
    simp [running?, same, absent]
  cases m with
  | @joined c kind tag d sought =>
    rw [running?, cells_onCell]
    cases there : (h.cellOf c d.id).2.cells[i]? with
    | none => split <;> rfl
    | some cell =>
      cases cells_cellOf_new h c d.id absent there
      split <;> rfl
  | shared => exact leaves rfl _ _
  | unstarted => exact leaves rfl _ _
  | admitted =>
    simp [running?, leave, cells_onCell, admitting, absent]
  | overtaken => exact keeps (onlyProcesses_onProcess h _ _ _).cells
  | @discharged k p t => exact leaves (onlyProcesses_killLeft [p] h).cells _ _
  | @drained c left taken t => exact keeps (onlyProcesses_interrupting _ _).cells
  | @finished taken t outcome => exact keeps (onlyProcesses_killLeft taken.flatten h).cells
  | _ => exact keeps rfl

theorem Moves.running_cases {n i : Nat} {s s' : Stage σ τ} {rn : Running τ}
    (m : Moves l h n s s' g) (runs : g.running? i = some rn) : h.running? i = some rn ∨
      ∃ k p x, s = .started k p x ∧ k.cell = i ∧ rn = Running.ofStarted k p x := by
  cases there : h.cells[i]? with
  | none =>
    rw [m.running_new there] at runs
    cases runs
  | some cell =>
    obtain ⟨cell', there', moves⟩ := m.cellMoves there
    have runs' : cell'.running = some rn := by simpa [running?, there'] using runs
    rcases moves.running_cases runs' with old | new
    · exact .inl (by simpa [running?, there] using old)
    · exact .inr new

/-- An instance that a cell has it keeps. -/
theorem running_step (step : Step l h g) (orderly : h.Orderly) {i : Nat} {rn : Running τ}
    (runs : h.running? i = some rn) : g.running? i = some rn := by
  rcases step_cases step with kept | ⟨m, s, s', g', due, moves, rfl⟩
  · rw [running?, kept.cells]
    exact runs
  · cases there : h.cells[i]? with
    | none => simp [running?, there] at runs
    | some cell =>
      have has : cell.running = some rn := by simpa [running?, there] using runs
      obtain ⟨cell', there', became⟩ := moves.cellMoves there
      have same : cell'.running = some rn := by
        cases became with
        | @filled k p x s' cell here =>
          -- The task that would fill the cell is the first in its queue, so there is no instance in it.
          obtain ⟨other, there'', -, empty⟩ := orderly m _ k due.at_ rfl
          rw [here, there] at there''
          cases there''
          cases has.symm.trans empty
        | _ => exact has
      simpa [running?, there'] using same

end Host

namespace History

open Host

variable (r : History σ l)

theorem orderly (i : Nat) : (r.state i).Orderly := by
  induction i with
  | zero =>
    intro n s k at_
    rw [stage?, r.fresh.tasks] at at_
    cases at_
  | succ i ih => exact orderly_step (r.step i) ih

variable {r}

theorem running_of_le {i j c : Nat} {rn : Running τ} (h : i ≤ j)
    (runs : (r.state i).running? c = some rn) : (r.state j).running? c = some rn := by
  induction h with
  | refl => exact runs
  | step h ih => exact running_step (r.step _) (r.orderly _) ih

/-- An instance comes from a start with a ticket for its cell. -/
theorem started_of_running {m i : Nat} {rn : Running τ} (runs : (r.state m).running? i = some rn) :
    ∃ q < m, ∃ n k p x, (r.state q).stage? n = some (.started k p x) ∧ k.cell = i ∧
      rn = Running.ofStarted k p x := by
  induction m with
  | zero => simp [running?, r.fresh.cells] at runs
  | succ m ih =>
    rcases step_cases (r.step m) with kept | ⟨n, s, s', g, due, moves, eq⟩
    · rw [running?, kept.cells] at runs
      obtain ⟨q, hq, rest⟩ := ih runs
      exact ⟨q, Nat.lt_succ_of_lt hq, rest⟩
    · rw [eq, running?, cells_onStage] at runs
      rcases moves.running_cases runs with old | ⟨k, p, x, rfl, here, made⟩
      · obtain ⟨q, hq, rest⟩ := ih old
        exact ⟨q, Nat.lt_succ_of_lt hq, rest⟩
      · exact ⟨m, Nat.lt_succ_self m, n, k, p, x, due.at_, here, made⟩

/-! ## What becomes of a start -/

/-- A task has seen to the end of a process. -/
def Ended (h : Host σ τ) (p : Nat) : Prop := ∃ n s, h.stage? n = some s ∧ p ∈ s.ended

theorem ended_step {h g : Host σ τ} (step : Step l h g) {p : Nat} (ended : Ended h p) :
    Ended g p := by
  obtain ⟨n, s, at_, mem⟩ := ended
  rcases step_task step n with same | ⟨none_, -⟩ | ⟨t, t', g', due, moves, -, -⟩
  · exact ⟨n, s, same.trans at_, mem⟩
  · cases none_.symm.trans at_
  · cases due.at_.symm.trans at_
    cases moves <;> cases mem

theorem running_of_admitted {h : Host σ τ} {n p : Nat} {k : Ticket} {x : Started τ}
    (first : h.First n k.cell) :
    ((h.admitting k p x).leave n k.cell).running? k.cell = some (Running.ofStarted k p x) := by
  obtain ⟨cell, there, -, -⟩ := first
  simp [running?, leave, cells_onCell, admitting, there]

/-- An instance that was started is still to be judged or stopped by its task, or it is in its cell, or
it has been seen to the end of. -/
theorem fate_of_started {q m n p : Nat} {k : Ticket} {x : Started τ} (h : q ≤ m)
    (gave : (r.state q).stage? n = some (.started k p x)) :
    (∃ s, (r.state m).stage? n = some s ∧ (s = .started k p x ∨ ∃ t, s = .late k p t)) ∨
      (r.state m).running? k.cell = some (Running.ofStarted k p x) ∨ Ended (r.state m) p := by
  induction h with
  | refl => exact .inl ⟨_, gave, .inl rfl⟩
  | @step m h ih =>
    -- the task goes on to judge the instance, or the cell keeps it, or its end is past
    rcases ih with ⟨s, at_, starts⟩ | runs | ended
    · rcases step_task (r.step m) n with same | ⟨none_, -⟩ | ⟨u, u', g, due, moves, eq, came⟩
      · exact .inl ⟨s, same.trans at_, starts⟩
      · cases none_.symm.trans at_
      · cases due.at_.symm.trans at_
        rcases starts with rfl | ⟨t, rfl⟩
        · cases moves with
          | admitted =>
            rw [eq]
            exact .inr (.inl (running_of_admitted (r.orderly m n _ k due.at_ rfl)))
          | overtaken => exact .inl ⟨_, came, .inr ⟨_, rfl⟩⟩
        · cases moves with
          | discharged => exact .inr (.inr ⟨n, _, came, List.mem_singleton.2 rfl⟩)
    · exact .inr (.inl (running_step (r.step m) (r.orderly m) runs))
    · exact .inr (.inr (ended_step (r.step m) ended))

end History

/-! ## Looking up a cell -/

instance : Std.LawfulEqOrd PluginId where
  compare_self {a} := Std.ReflOrd.compare_self (a := a.text)
  eq_of_compare {a b} h := by
    have same : a.text = b.text := Std.LawfulEqOrd.eq_of_compare h
    cases a
    cases b
    cases same
    rfl

namespace Host

variable {h g : Host σ τ}

theorem places_cellOf (h : Host σ τ) (c : Capability) (id : PluginId) :
    ((h.cellOf c id).2.registries c).cells.get? id = some (h.cellOf c id).1 := by
  unfold cellOf
  split
  · assumption
  · simp [onRegistry, Table.get?_insert_self]

theorem Moves.places_of_queued {n : Nat} {c : Capability} {kind : String} {tag : TypeId}
    {s' : Stage σ τ} {k : Ticket} (m : Moves l h n (.looking c kind tag) s' g)
    (queued : s' = .queued k) :
    (g.registries k.capability).cells.get? k.descriptor.id = some k.cell := by
  cases m with
  | joined sought =>
    cases queued
    exact places_cellOf _ _ _
  | _ => cases queued

theorem RegistryMoves.place {c : Capability} {size size' i : Nat} {s s' : Stage σ τ}
    {r r' : Registry σ} {id : PluginId} (m : RegistryMoves c size size' s s' r r')
    (place : r.cells.get? id = some i) (same : r'.generation = r.generation) :
    r'.cells.get? id = some i := by
  cases m with
  | @placed kind tag k r d sought absent more =>
    have ne : id ≠ d.id := by
      rintro rfl
      cases absent.symm.trans place
    exact (Table.get?_insert_of_ne _ ne _).trans place
  | closed => simp at same
  | _ => exact place

/-- The cell of a plugin is found until its registry begins another generation. -/
theorem place_step (step : Step l h g) {c : Capability} {id : PluginId} {i : Nat}
    (place : (h.registries c).cells.get? id = some i)
    (same : (g.registries c).generation = (h.registries c).generation) :
    (g.registries c).cells.get? id = some i := by
  rcases step_cases step with kept | ⟨m, s, s', g', due, moves, rfl⟩
  · rw [kept.places c]
    exact place
  · exact (moves.registryMoves c).place place same

end Host

namespace History

open Host

variable {r : History σ l}

/-- At a moment a task looks up its plugin and gets its ticket. -/
structure LooksUp (r : History σ l) (n : Nat) (k : Ticket) (a : Nat) : Prop where
  looking : ∃ kind tag, (r.state a).stage? n = some (.looking k.capability kind tag) ∧
    ((r.state a).registries k.capability).lookup kind tag = .ok (.plugin k.descriptor)
  queued : (r.state (a + 1)).stage? n = some (.queued k)
  ticket : k = (r.state a).ticket k.capability k.descriptor

theorem looksUp_of_ticket {m n : Nat} {s : Stage σ τ} {k : Ticket}
    (at_ : (r.state m).stage? n = some s) (has : s.ticket? = some k) :
    ∃ a < m, r.LooksUp n k a := by
  obtain ⟨a, ha, kind, tag, looking, queued, sought, ticket⟩ := looked_up at_ has
  exact ⟨a, ha, ⟨kind, tag, looking, sought⟩, queued, ticket⟩

theorem LooksUp.places {n a : Nat} {k : Ticket} (looks : r.LooksUp n k a) :
    ((r.state (a + 1)).registries k.capability).cells.get? k.descriptor.id = some k.cell := by
  obtain ⟨kind, tag, looking, sought⟩ := looks.looking
  have queued := looks.queued
  rcases step_task (r.step a) n with same | ⟨none_, -⟩ | ⟨s, s', g, due, moves, eq, came⟩
  · cases queued.symm.trans (same.trans looking)
  · cases none_.symm.trans looking
  · cases due.at_.symm.trans looking
    rw [eq]
    exact moves.places_of_queued (Option.some.inj (came.symm.trans queued))

/-- The cell of a plugin is found as long as no shutdown begins. -/
theorem places_of_le {n a b : Nat} {k : Ticket} (looks : r.LooksUp n k a) (h : a + 1 ≤ b)
    (none_ : r.closings k.capability b ≤ r.closings k.capability (a + 1)) :
    ((r.state b).registries k.capability).cells.get? k.descriptor.id = some k.cell := by
  induction h with
  | refl => exact looks.places
  | @step b h ih =>
    have lo : r.closings k.capability (a + 1) ≤ r.closings k.capability b := r.closings_mono _ h
    have here := Nat.le_trans (r.closings_mono _ (Nat.le_succ b)) none_
    refine place_step (r.step b) (ih here) ?_
    rw [closings] at none_
    split at none_
    · assumption
    · exact absurd none_ (by omega)

/-- Two tasks look up the same cell for a plugin unless a shutdown begins between them. -/
theorem cell_of_lookups {n m a b : Nat} {k k' : Ticket} (looks : r.LooksUp n k a)
    (looks' : r.LooksUp m k' b) (h : a ≤ b) (capability : k'.capability = k.capability)
    (id : k'.descriptor.id = k.descriptor.id)
    (none_ : r.closings k.capability b ≤ r.closings k.capability a) : k'.cell = k.cell := by
  have cell' : k'.cell = ((r.state b).cellOf k'.capability k'.descriptor.id).1 :=
    congrArg Ticket.cell looks'.ticket
  rcases Nat.lt_or_eq_of_le h with less | rfl
  · have found := places_of_le looks less
      (Nat.le_trans none_ (r.closings_mono _ (Nat.le_succ a)))
    rw [cell', capability, id, cellOf]
    split
    · next there => exact Option.some.inj (there.symm.trans found)
    · next absent => cases absent.symm.trans found
  · have cell : k.cell = ((r.state a).cellOf k.capability k.descriptor.id).1 :=
      congrArg Ticket.cell looks.ticket
    rw [cell', cell, capability, id]

end History

end PluginKit
