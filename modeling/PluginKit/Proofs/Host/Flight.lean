import PluginKit.Proofs.Host.Launches
import PluginKit.Proofs.Host.Namesakes
import PluginKit.Proofs.Table

/-!
# One launch for all callers

As long as nobody stops the instances for a capability, all callers that look up a plugin wait at the
same cell. They launch it one after another until a launch succeeds, and then all of them share the
instance that it gave. A launch that fails is the matter of the caller whose turn it was: the cell stays
empty, and the next caller tries anew.

## Main statements

- `Unstopped.cell_eq`: without a shutdown, all lookups of a plugin lead to one cell.
- `course_of_lookup`: the stages that a caller goes through after its lookup.
- `kept_of_started`: an instance that a launch has given stays with its task or in its cell.
- `single_flight`: launches never overlap, one of them succeeds at most and none comes after it, all
  callers share its instance, failures are not kept, and the plugins that run are the launched ones.
-/

namespace PluginKit

variable {σ τ : Type} {l : Launcher τ}

instance : Std.TransOrd PluginId :=
  inferInstanceAs (Std.TransCmp fun a b : PluginId => compareOn PluginId.text a b)

/-- The ticket is for a plugin of a name and a capability. -/
structure Ticket.For (k : Ticket) (c : Capability) (id : PluginId) : Prop where
  capability : k.capability = c
  id : k.descriptor.id = id

namespace Stage

variable {s : Stage σ τ}

theorem ticket?_of_starts? {k : Ticket} (starts : s.starts? = some k) : s.ticket? = some k := by
  cases s <;> first | exact starts | cases starts

/-- Whether a task has yet to keep the instances for a capability from being found. -/
def Stops (c : Capability) : Stage σ τ → Prop
  | .asked cs _ => c ∈ cs
  | .closing left _ _ => c ∈ left
  | .draining _ left _ _ => c ∈ left
  | _ => False

end Stage

/-! ## Steps of tasks that do not stop anything -/

namespace Host

variable {h g : Host σ τ} {c : Capability} {n : Nat} {s s' : Stage σ τ}

/-- A task that has yet to stop something was asked to. -/
theorem Moves.stops (m : Moves l h n s s' g) (stops : s'.Stops c) : s.Stops c := by
  cases m with
  | begun => exact stops
  | closed => exact List.mem_cons_of_mem _ stops
  | drained => exact stops
  | _ => cases stops

namespace RegistryMoves

variable {size size' : Nat} {r r' : Registry σ}

theorem generation_of_not_stops (m : RegistryMoves c size size' s s' r r') (goesOn : ¬ s.Stops c) :
    r'.generation = r.generation := by
  cases m with
  | closed => exact absurd List.mem_cons_self goesOn
  | _ => rfl

/-- The cells of a registry are listed by the names of their plugins, in ascending order. -/
theorem ascending (m : RegistryMoves c size size' s s' r r') (ascending : r.cells.Ascending) :
    r'.cells.Ascending := by
  cases m with
  | placed => exact Table.ascending_insert ascending _ _
  | closed => exact Table.ascending_nil
  | _ => exact ascending

end RegistryMoves

end Host

namespace History

open Host

variable {r : History σ l} {c : Capability}

theorem ascending_places (m : Nat) (c : Capability) :
    ((r.state m).registries c).cells.Ascending := by
  induction m with
  | zero =>
    rw [r.fresh.places]
    exact Table.ascending_nil
  | succ m ih =>
    rcases step_cases (r.step m) with kept | ⟨n, s, s', g, -, moves, eq⟩
    · rw [kept.places]
      exact ih
    · rw [eq, registries_onStage]
      exact (moves.registryMoves c).ascending ih

/-- At no moment of a history a task asks for the instances for a capability to be stopped. -/
def Unstopped (r : History σ l) (c : Capability) : Prop :=
  ∀ m n cs patience, (r.state m).stage? n = some (.asked cs patience) → c ∉ cs

namespace Unstopped

theorem not_stops (unstopped : r.Unstopped c) {m n : Nat} {s : Stage σ τ}
    (at_ : (r.state m).stage? n = some s) : ¬ s.Stops c := by
  induction m generalizing s with
  | zero =>
    rw [stage?, r.fresh.tasks] at at_
    cases at_
  | succ m ih =>
    rcases step_task (r.step m) n with same | ⟨-, s', begins, came⟩ | ⟨t, s', g, due, moves, -, came⟩
    · exact ih (same.symm.trans at_)
    · cases came.symm.trans at_
      intro stops
      cases s with
      | asked cs patience => exact unstopped (m + 1) n cs patience at_ stops
      | looking => cases stops
      | _ => cases begins
    · cases came.symm.trans at_
      intro stops
      exact ih due.at_ (moves.stops stops)

/-- No generation ends. -/
theorem closings_eq (unstopped : r.Unstopped c) (m : Nat) : r.closings c m = 0 := by
  induction m with
  | zero => rfl
  | succ m ih =>
    have same : ((r.state (m + 1)).registries c).generation =
        ((r.state m).registries c).generation := by
      rcases step_cases (r.step m) with kept | ⟨n, s, s', g, due, moves, eq⟩
      · exact kept.generation c
      · rw [eq, registries_onStage]
        exact (moves.registryMoves c).generation_of_not_stops (unstopped.not_stops due.at_)
    rw [closings, if_pos same, ih]

/-- Every ticket stays one of the present generation. -/
theorem current {k : Ticket} (unstopped : r.Unstopped k.capability) {m n : Nat} {s : Stage σ τ}
    (at_ : (r.state m).stage? n = some s) (has : s.ticket? = some k) :
    ((r.state m).registries k.capability).generation = k.generation := by
  obtain ⟨a, -, -, -, eq⟩ := generation_of_ticket at_ has
  rw [← eq, generation_eq, generation_eq, unstopped.closings_eq, unstopped.closings_eq]

variable {id : PluginId} {n n' : Nat} {k k' : Ticket}

/-- All lookups of a plugin lead to one cell. -/
theorem cell_eq (unstopped : r.Unstopped c) {a b : Nat} (looks : r.LooksUp n k a)
    (looks' : r.LooksUp n' k' b) (isFor : k.For c id) (isFor' : k'.For c id) :
    k'.cell = k.cell := by
  have tie (d : Capability) (same : d = c) (i j : Nat) : r.closings d i ≤ r.closings d j := by
    refine Nat.le_of_eq ?_
    rw [same, unstopped.closings_eq, unstopped.closings_eq]
  have capability : k'.capability = k.capability := isFor'.capability.trans isFor.capability.symm
  have name : k'.descriptor.id = k.descriptor.id := isFor'.id.trans isFor.id.symm
  rcases Nat.le_total a b with le | le
  · exact cell_of_lookups looks looks' le capability name (tie _ isFor.capability b a)
  · exact (cell_of_lookups looks' looks le capability.symm name.symm
      (tie _ isFor'.capability a b)).symm

theorem cell_of_tickets (unstopped : r.Unstopped c) {m m' : Nat} {s s' : Stage σ τ}
    (at_ : (r.state m).stage? n = some s) (has : s.ticket? = some k) (isFor : k.For c id)
    (at' : (r.state m').stage? n' = some s') (has' : s'.ticket? = some k') (isFor' : k'.For c id) :
    k'.cell = k.cell := by
  obtain ⟨a, -, looks⟩ := looksUp_of_ticket at_ has
  obtain ⟨b, -, looks'⟩ := looksUp_of_ticket at' has'
  exact unstopped.cell_eq looks looks' isFor isFor'

end Unstopped

/-! ## The course of a call -/

variable {n : Nat} {k : Ticket}

/-- The stages of a call after its lookup. It fails only with the fault of a launch of its own. -/
inductive Course (r : History σ l) (n : Nat) (k : Ticket) : Stage σ τ → Prop where
  | waits : Course r n k (.queued k)
  | launches {t outcome} : Course r n k (.starting k t outcome)
  | judges {p x} : Course r n k (.started k p x)
  | finds : Course r n k (.found k.capability (.instance k.cell))
  | fails {q t e} (own : (r.state q).stage? n = some (.starting k t (.error e))) :
    Course r n k (.failed e [])

theorem course_of_lookup (unstopped : r.Unstopped k.capability) {a m : Nat}
    (looks : r.LooksUp n k a) (h : a < m) :
    ∃ s, (r.state m).stage? n = some s ∧ r.Course n k s := by
  induction h with
  | refl => exact ⟨_, looks.queued, .waits⟩
  | @step m h ih =>
    obtain ⟨s, at_, course⟩ := ih
    rcases step_task (r.step m) n with same | ⟨none_, -⟩ | ⟨t, s', g, due, moves, -, came⟩
    · exact ⟨s, same.trans at_, course⟩
    · cases none_.symm.trans at_
    · cases due.at_.symm.trans at_
      refine ⟨s', came, ?_⟩
      cases course with
      | waits =>
        cases moves with
        | shared => exact .finds
        | launched => exact .launches
      | launches =>
        cases moves with
        | unstarted => exact .fails due.at_
        | returned => exact .judges
      | judges =>
        cases moves with
        | admitted => exact .finds
        -- only a shutdown could have made the ticket stale
        | overtaken stale => exact absurd (unstopped.current at_ rfl) stale
      | finds => cases moves
      | fails => cases moves

/-- Every stage of a call after its lookup is one of its course. -/
theorem course_at (unstopped : r.Unstopped k.capability) {a m : Nat} {s : Stage σ τ}
    (looks : r.LooksUp n k a) (at_ : (r.state m).stage? n = some s) (past : s.looks = false) :
    r.Course n k s := by
  obtain ⟨kind, tag, looking, -⟩ := looks.looking
  obtain ⟨t, there, course⟩ := course_of_lookup unstopped looks (looked_before at_ past looking)
  cases there.symm.trans at_
  exact course

/-- An instance that a launch has given is with its task, or the task has found it in its cell. -/
theorem kept_of_started (unstopped : r.Unstopped k.capability) {q m p : Nat} {x : Started τ}
    (h : q ≤ m) (gave : (r.state q).stage? n = some (.started k p x)) :
    (r.state m).stage? n = some (.started k p x) ∨
      ((r.state m).stage? n = some (.found k.capability (.instance k.cell)) ∧
        (r.state m).running? k.cell = some (Running.ofStarted k p x)) := by
  induction h with
  | refl => exact .inl gave
  | @step m h ih =>
    -- the task judges its instance at some step, and afterwards neither the task nor the cell changes
    rcases ih with at_ | ⟨at_, runs⟩
    · rcases step_task (r.step m) n with same | ⟨none_, -⟩ | ⟨t, s', g, due, moves, eq, came⟩
      · exact .inl (same.trans at_)
      · cases none_.symm.trans at_
      · cases due.at_.symm.trans at_
        cases moves with
        | admitted =>
          refine .inr ⟨came, ?_⟩
          rw [eq]
          exact running_of_admitted (r.orderly m n _ k due.at_ rfl)
        | overtaken stale => exact absurd (unstopped.current at_ rfl) stale
    · refine .inr ⟨?_, running_of_le (Nat.le_succ m) runs⟩
      rcases step_task (r.step m) n with same | ⟨none_, -⟩ | ⟨t, s', g, due, moves, -, -⟩
      · exact same.trans at_
      · cases none_.symm.trans at_
      · cases due.at_.symm.trans at_
        cases moves

/-- A launch that fails is over with the fault of its caller, and leaves the cell empty. -/
theorem failed_of_starting {m t : Nat} {e : Fault}
    (at_ : (r.state m).stage? n = some (.starting k t (.error e))) :
    (r.state (m + 1)).stage? n = some (.starting k t (.error e)) ∨
      ((r.state (m + 1)).stage? n = some (.failed e []) ∧ (r.state (m + 1)).running? k.cell = none) := by
  rcases step_task (r.step m) n with same | ⟨none_, -⟩ | ⟨s, s', g, due, moves, eq, came⟩
  · exact .inl (same.trans at_)
  · cases none_.symm.trans at_
  · cases due.at_.symm.trans at_
    -- a task launches a plugin only for an empty cell
    obtain ⟨cell, there, -, empty⟩ := r.orderly m n _ k at_ rfl
    cases moves with
    | unstarted =>
      refine .inr ⟨came, ?_⟩
      rw [eq]
      simp [running?, leave, cells_onCell, there, empty]

/-! ## All callers together -/

/-- The guarantees for the callers of a capability. -/
structure SingleFlight (r : History σ l) (c : Capability) : Prop where
  /-- Launches of a plugin do not overlap. -/
  apart : ∀ {id m n n' s s' k k'}, (r.state m).stage? n = some s → s.starts? = some k → k.For c id →
    (r.state m).stage? n' = some s' → s'.starts? = some k' → k'.For c id → n' = n
  /-- At most one launch of a plugin succeeds. -/
  once : ∀ {id q q' n n' k k' p p' x x'}, (r.state q).stage? n = some (.started k p x) →
    k.For c id → (r.state q').stage? n' = some (.started k' p' x') → k'.For c id →
    n' = n ∧ k' = k ∧ p' = p ∧ x' = x
  /-- No launch of a plugin is under way once one has succeeded. -/
  last : ∀ {id q m n n' k k' p x t outcome}, (r.state q).stage? n = some (.started k p x) →
    k.For c id → q ≤ m → k'.For c id → (r.state m).stage? n' ≠ some (.starting k' t outcome)
  /-- A task that looks up a plugin and finds a handler has found the instance of the launch that
  succeeded. -/
  shared : ∀ {id a m n k d provider}, r.LooksUp n k a → k.For c id →
    (r.state m).stage? n = some (.found d provider) → d = c ∧ provider = .instance k.cell ∧
      ∃ q < m, ∃ n' k' p x, (r.state q).stage? n' = some (.started k' p x) ∧ k'.For c id ∧
        (r.state m).running? k.cell = some (Running.ofStarted k' p x)
  /-- A launch that fails is over with its fault at the caller whose turn it was, and leaves nothing
  behind. -/
  reported : ∀ {id m n k t e}, (r.state m).stage? n = some (.starting k t (.error e)) → k.For c id →
    (r.state (m + 1)).stage? n = some (.starting k t (.error e)) ∨
      ((r.state (m + 1)).stage? n = some (.failed e []) ∧ (r.state (m + 1)).running? k.cell = none)
  /-- A task that has looked up a plugin fails only with the fault of a launch of its own. -/
  own : ∀ {id a m n k e ps}, r.LooksUp n k a → k.For c id →
    (r.state m).stage? n = some (.failed e ps) →
      ps = [] ∧ ∃ q t, (r.state q).stage? n = some (.starting k t (.error e))
  /-- The plugins that run, each at the place of its instance, are those of which a launch has succeeded
  and is over. -/
  listed : ∀ {id m place}, (id, place) ∈ (r.state m).runningPlugins c ↔
    ∃ q ≤ m, ∃ n k p x, (r.state q).stage? n = some (.started k p x) ∧ k.For c id ∧
      x.place = place ∧ (r.state m).stage? n ≠ some (.started k p x)
  /-- Every plugin that runs is named once. -/
  ascending : ∀ {m}, Table.Ascending ((r.state m).runningPlugins c)

/-- An instance comes from a launch of the plugin that is looked up for its cell. -/
theorem launch_of_running {a m : Nat} {id : PluginId} {rn : Running τ} (looks : r.LooksUp n k a)
    (isFor : k.For c id) (runs : (r.state m).running? k.cell = some rn) :
    ∃ q < m, ∃ n' k' p x, (r.state q).stage? n' = some (.started k' p x) ∧ k'.For c id ∧
      rn = Running.ofStarted k' p x := by
  obtain ⟨q, hq, n', k', p, x, gave, cell, made⟩ := started_of_running runs
  obtain ⟨b, -, looks'⟩ := looksUp_of_ticket gave rfl
  -- the task that launched it may have looked before or after
  have same : k'.capability = k.capability ∧ k'.descriptor.id = k.descriptor.id := by
    rcases Nat.le_total a b with le | le
    · obtain ⟨capability, name, -⟩ := same_generation looks looks' le cell
      exact ⟨capability, name⟩
    · obtain ⟨capability, name, -⟩ := same_generation looks' looks le cell.symm
      exact ⟨capability.symm, name.symm⟩
  exact ⟨q, hq, n', k', p, x, gave, ⟨same.1.trans isFor.capability, same.2.trans isFor.id⟩, made⟩

namespace Unstopped

variable (unstopped : r.Unstopped c) {id : PluginId} {m n' : Nat} {k' : Ticket} {s s' : Stage σ τ}

include unstopped

/-- Two tasks that launch a plugin at a moment are the first in one queue. -/
theorem apart (at_ : (r.state m).stage? n = some s) (starts : s.starts? = some k)
    (isFor : k.For c id) (at' : (r.state m).stage? n' = some s') (starts' : s'.starts? = some k')
    (isFor' : k'.For c id) : n' = n := by
  have cell := unstopped.cell_of_tickets at_ (Stage.ticket?_of_starts? starts) isFor at'
    (Stage.ticket?_of_starts? starts') isFor'
  have first := r.orderly m n s k at_ starts
  have first' := r.orderly m n' s' k' at' starts'
  rw [cell] at first'
  exact first_unique first' first

/-- After a launch has succeeded, no other task launches the plugin. -/
theorem eq_of_starts {q p : Nat} {x : Started τ} (gave : (r.state q).stage? n = some (.started k p x))
    (isFor : k.For c id) (h : q ≤ m) (at' : (r.state m).stage? n' = some s')
    (starts' : s'.starts? = some k') (isFor' : k'.For c id) :
    n' = n ∧ s' = .started k p x := by
  have own : r.Unstopped k.capability := isFor.capability ▸ unstopped
  -- the task has yet to judge the instance and is first in the queue, or the cell is not empty
  rcases kept_of_started own h gave with at_ | ⟨-, runs⟩
  · obtain rfl := unstopped.apart at_ rfl isFor at' starts' isFor'
    cases at_.symm.trans at'
    exact ⟨rfl, rfl⟩
  · have cell := unstopped.cell_of_tickets gave rfl isFor at' (Stage.ticket?_of_starts? starts') isFor'
    have first' := r.orderly m n' s' k' at' starts'
    rw [cell] at first'
    exact absurd runs (not_running_of_first first')

theorem once {q q' p p' : Nat} {x x' : Started τ}
    (gave : (r.state q).stage? n = some (.started k p x)) (isFor : k.For c id)
    (gave' : (r.state q').stage? n' = some (.started k' p' x')) (isFor' : k'.For c id) :
    n' = n ∧ k' = k ∧ p' = p ∧ x' = x := by
  rcases Nat.le_total q q' with le | le
  · obtain ⟨same, stage⟩ := unstopped.eq_of_starts gave isFor le gave' rfl isFor'
    cases stage
    exact ⟨same, rfl, rfl, rfl⟩
  · obtain ⟨same, stage⟩ := unstopped.eq_of_starts gave' isFor' le gave rfl isFor
    cases stage
    exact ⟨same.symm, rfl, rfl, rfl⟩

theorem shared {a : Nat} {d : Capability} {provider : Provider σ} (looks : r.LooksUp n k a)
    (isFor : k.For c id) (at_ : (r.state m).stage? n = some (.found d provider)) :
    d = c ∧ provider = .instance k.cell ∧
      ∃ q < m, ∃ n' k' p x, (r.state q).stage? n' = some (.started k' p x) ∧ k'.For c id ∧
        (r.state m).running? k.cell = some (Running.ofStarted k' p x) := by
  have own : r.Unstopped k.capability := isFor.capability ▸ unstopped
  cases course_at own looks at_ rfl
  obtain ⟨-, -, -, -, -, -, rn, runs⟩ := looked_up_of_found at_
  obtain ⟨q, hq, n', k', p, x, gave, isFor', rfl⟩ := launch_of_running looks isFor runs
  exact ⟨isFor.capability, rfl, q, hq, n', k', p, x, gave, isFor', runs⟩

theorem own {a : Nat} {e : Fault} {ps : List Nat} (looks : r.LooksUp n k a) (isFor : k.For c id)
    (at_ : (r.state m).stage? n = some (.failed e ps)) :
    ps = [] ∧ ∃ q t, (r.state q).stage? n = some (.starting k t (.error e)) := by
  have own : r.Unstopped k.capability := isFor.capability ▸ unstopped
  cases course_at own looks at_ rfl with
  | fails failed => exact ⟨rfl, _, _, failed⟩

end Unstopped

/-! ## The plugins that run -/

theorem mem_runningPlugins_iff {m : Nat} {id : PluginId} {place : Place} :
    (id, place) ∈ (r.state m).runningPlugins c ↔
      ∃ i rn, ((r.state m).registries c).cells.get? id = some i ∧
        (r.state m).running? i = some rn ∧ rn.place = place := by
  unfold runningPlugins
  rw [List.mem_filterMap]
  constructor
  · rintro ⟨⟨id', i⟩, mem, eq⟩
    obtain ⟨rn, runs, eq⟩ := Option.map_eq_some_iff.1 eq
    cases eq
    exact ⟨i, rn, (Table.get?_eq_some_iff (ascending_places m c)).2 mem, runs, rfl⟩
  · rintro ⟨i, rn, place, runs, rfl⟩
    refine ⟨(id, i), (Table.get?_eq_some_iff (ascending_places m c)).1 place, ?_⟩
    rw [runs]
    rfl

/-- The cell that a plugin has is the one that its tickets name. -/
theorem for_of_place {m i q p : Nat} {id : PluginId} {x : Started τ}
    (place : ((r.state m).registries c).cells.get? id = some i) (h : q ≤ m)
    (gave : (r.state q).stage? n = some (.started k p x)) (cell : k.cell = i) : k.For c id := by
  obtain ⟨a, ha, looks⟩ := looksUp_of_ticket gave rfl
  have there := looks.places
  have used := (r.distinct (a + 1)).lt there
  rw [cell] at used there
  have before := place_of_le (Nat.le_trans ha h) used place
  obtain ⟨capability, name⟩ := (r.distinct (a + 1)).eq before there
  exact ⟨capability, name⟩

theorem Unstopped.listed (unstopped : r.Unstopped c) {id : PluginId} {m : Nat} {place : Place} :
    (id, place) ∈ (r.state m).runningPlugins c ↔
      ∃ q ≤ m, ∃ n k p x, (r.state q).stage? n = some (.started k p x) ∧ k.For c id ∧
        x.place = place ∧ (r.state m).stage? n ≠ some (.started k p x) := by
  rw [mem_runningPlugins_iff]
  constructor
  · rintro ⟨i, rn, there, runs, rfl⟩
    obtain ⟨q, hq, n, k, p, x, gave, cell, rfl⟩ := started_of_running runs
    refine ⟨q, Nat.le_of_lt hq, n, k, p, x, gave,
      for_of_place there (Nat.le_of_lt hq) gave cell, rfl, ?_⟩
    -- a task that has yet to judge its instance is first in the queue of an empty cell
    intro at_
    rw [← cell] at runs
    exact not_running_of_first (r.orderly m n _ k at_ rfl) runs
  · rintro ⟨q, h, n, k, p, x, gave, ⟨rfl, rfl⟩, rfl, judged⟩
    obtain ⟨-, runs⟩ := (kept_of_started unstopped h gave).resolve_left judged
    obtain ⟨a, ha, looks⟩ := looksUp_of_ticket gave rfl
    have there := places_of_le looks (Nat.le_trans ha h) (Nat.le_of_eq (by
      rw [unstopped.closings_eq, unstopped.closings_eq]))
    exact ⟨k.cell, _, there, runs, rfl⟩

theorem ascending_runningPlugins (r : History σ l) (m : Nat) (c : Capability) :
    Table.Ascending ((r.state m).runningPlugins c) := by
  refine List.Pairwise.filterMap _ ?_ (ascending_places m c)
  intro e e' less b some_ b' some_'
  obtain ⟨rn, -, rfl⟩ := Option.map_eq_some_iff.1 some_
  obtain ⟨rn', -, rfl⟩ := Option.map_eq_some_iff.1 some_'
  exact less

/-- Single flight. As long as nobody stops the instances for a capability, in whatever order callers
look up plugins, launch them and go on, and whatever the launches give. -/
theorem single_flight (unstopped : r.Unstopped c) : r.SingleFlight c where
  apart := unstopped.apart
  once := unstopped.once
  last := by
    intro id q m n n' k k' p x t outcome gave isFor h isFor' at'
    obtain ⟨-, stage⟩ := unstopped.eq_of_starts gave isFor h at' rfl isFor'
    cases stage
  shared := unstopped.shared
  reported := fun at_ _ => failed_of_starting at_
  own := unstopped.own
  listed := unstopped.listed
  ascending := ascending_runningPlugins r _ c

/-! ## Scripts that stop nothing -/

theorem asked_goOn {h : Host σ τ} {n m : Nat} {cs : List Capability} {patience : Option Nat}
    (at_ : (Act.goOn l h m).stage? n = some (.asked cs patience)) :
    h.stage? n = some (.asked cs patience) := by
  unfold Act.goOn at at_
  split at at_
  · exact at_
  · next t there =>
    split at at_
    · exact at_
    · next r ready =>
      split at at_
      · obtain ⟨s, g, moves, went⟩ := moves_next l h m (rank_ne_zero_of_readyAt ready)
        rw [went] at at_
        by_cases same : n = m
        · subst same
          have before : h.stage? n = some t.stage := by
            rw [stage?, there]
            rfl
          cases (stage?_onStage before moves.tasks s).symm.trans at_
          -- no move leads to the stage at which a task is asked to stop something
          generalize t.stage = u at moves
          cases moves
        · rw [stage?_onStage_ne g same, stage?_congr moves.tasks] at at_
          exact at_
      · exact at_

/-- A task that is asked to stop something was so before, or the script has just said so. -/
theorem asked_apply {h : Host σ τ} {n : Nat} {cs : List Capability} {patience : Option Nat} {a : Act}
    (at_ : (a.apply l h).stage? n = some (.asked cs patience)) :
    h.stage? n = some (.asked cs patience) ∨ a = .stop cs patience := by
  have asks {s : Stage σ τ} (at_ : (h.ask 0 s).2.stage? n = some (.asked cs patience)) :
      h.stage? n = some (.asked cs patience) ∨ s = .asked cs patience := by
    by_cases new : n = h.tasks.length
    · subst new
      have there : (h.ask 0 s).2.stage? h.tasks.length = some s := by
        simp [ask, stage?]
      exact .inr (Option.some.inj (there.symm.trans at_))
    · rw [stage?_ask_ne h 0 s new] at at_
      exact .inl at_
  cases a with
  | find c kind tag =>
    rcases asks at_ with old | new
    · exact .inl old
    · cases new
  | stop cs' patience' =>
    rcases asks at_ with old | new
    · exact .inl old
    · cases new
      exact .inr rfl
  | bind c d t =>
    have tasks : (h.register c fun r => r.add d t).2.tasks = h.tasks := by
      unfold register
      split <;> rfl
    exact .inl ((stage?_congr tasks n).symm.trans at_)
  | go m => exact .inl (asked_goOn at_)
  | wait time => exact .inl at_

/-- In a history from a script that never stops the instances for a capability, no task does. -/
theorem unstopped_ofScript {h : Host σ τ} (fresh : h.Fresh) {acts : List Act}
    (spares : ∀ cs patience, Act.stop cs patience ∈ acts → c ∉ cs) :
    (ofScript l fresh acts).Unstopped c := by
  intro m n cs patience at_
  have told : ∀ m, (play l h acts m).stage? n = some (.asked cs patience) → c ∉ cs := by
    intro m
    induction m with
    | zero =>
      intro at_
      rw [play, stage?, fresh.tasks] at at_
      cases at_
    | succ m ih =>
      intro at_
      rw [play] at at_
      split at at_
      · next a there =>
        rcases asked_apply at_ with old | rfl
        · exact ih old
        · exact spares cs patience (List.mem_of_getElem? there)
      · exact ih at_
  exact told m at_

/-- A launcher whose first start of a plugin fails. -/
def waveringLauncher : Launcher Unit := fun d c count =>
  if count = 1 then { outcome := .error (.start d.id "busy") } else sampleLauncher 0 d c count

/-- Three callers ask for one plugin. The launch of the task 0 fails, the one of the task 1 succeeds. -/
def wavering : History Unit waveringLauncher :=
  ofScript waveringLauncher fresh_sampleHost
    [bindSample, findSample, findSample, findSample, .go 0, .go 1, .go 2, .go 0, .go 0, .go 1, .go 1,
      .go 1, .go 2]

/-- In the history above the caller whose launch has failed is told so, and the other two share the
instance of the second launch, which is the one that runs. -/
theorem wavering_shared :
    wavering.Unstopped .resourceRepository ∧
      (wavering.state 9).stage? 0 = some (.failed (.start ⟨"p"⟩ "busy") []) ∧
      (wavering.state 13).stage? 2 = some (.found .resourceRepository (.instance 0)) ∧
      (∃ k p x, (wavering.state 11).stage? 1 = some (.started k p x) ∧
        (wavering.state 13).running? 0 = some (Running.ofStarted k p x)) ∧
      (⟨"p"⟩, .socket "a") ∈ (wavering.state 13).runningPlugins .resourceRepository := by
  have unstopped : wavering.Unstopped .resourceRepository :=
    unstopped_ofScript fresh_sampleHost (by simp [bindSample, findSample])
  have flight := single_flight unstopped
  have looks : ∃ k, wavering.LooksUp 2 k 6 ∧ k.For .resourceRepository ⟨"p"⟩ ∧ k.cell = 0 :=
    ⟨_, ⟨⟨"", sampleType, rfl, rfl⟩, rfl, rfl⟩, ⟨rfl, rfl⟩, rfl⟩
  have launched : ∃ k p x, (wavering.state 11).stage? 1 = some (.started k p x) ∧
      k.For .resourceRepository ⟨"p"⟩ := ⟨_, _, _, rfl, rfl, rfl⟩
  have found : (wavering.state 13).stage? 2 = some (.found .resourceRepository (.instance 0)) := rfl
  refine ⟨unstopped, ?_, found, ?_, ?_⟩
  · exact ((flight.reported (m := 8) (n := 0) rfl ⟨rfl, rfl⟩).resolve_left nofun).1
  · obtain ⟨k, looks, isFor, cell⟩ := looks
    obtain ⟨k', p', x', gave', isFor''⟩ := launched
    obtain ⟨-, -, q, -, n, k'', p, x, gave, isFor', runs⟩ := flight.shared looks isFor found
    obtain ⟨rfl, rfl, rfl, rfl⟩ := flight.once gave' isFor'' gave isFor'
    rw [cell] at runs
    exact ⟨k'', p, x, gave', runs⟩
  · exact flight.listed.2 ⟨11, by decide, 1, _, _, _, rfl, ⟨rfl, rfl⟩, rfl, nofun⟩

end History

end PluginKit
