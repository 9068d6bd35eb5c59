import PluginKit.Proofs.Host.Places

/-!
# Histories of hosts

A history is any sequence of steps from a host to which nothing has happened. It says nothing about
the order in which tasks go on, about how long starts take, or about what they give.

## Main statements

- `registryMoves`: what a move of a task does to a registry.
- `generation_eq`: the generation of a registry counts how often its instances were kept from being
  found, as far as 64 bits can count.
- `looked_up`: a task that has a ticket got it when it looked up its plugin.
-/

namespace PluginKit

variable {σ τ : Type} {l : Launcher τ}

namespace Stage

/-- The ticket of a task that waits for an instance or starts it. -/
def ticket? : Stage σ τ → Option Ticket
  | .queued k => some k
  | .starting k _ _ => some k
  | .started k _ _ => some k
  | .late k _ _ => some k
  | _ => none

/-- Whether a task has yet to look up what serves its type. -/
def looks : Stage σ τ → Bool
  | .looking .. => true
  | _ => false

end Stage

namespace Host

variable {h g : Host σ τ}

/-- A host to which nothing has happened yet. What serves which type may be known to it. -/
structure Fresh (h : Host σ τ) : Prop where
  tasks : h.tasks = []
  cells : h.cells = []
  processes : h.processes = []
  tracked : ∀ c, (h.registries c).tracked = []
  generation : ∀ c, (h.registries c).generation = 0
  places : ∀ c, (h.registries c).cells = []

theorem fresh_ofScheme (s : Scheme) (config : ManagerConfig) :
    (ofScheme s config : Host σ τ).Fresh :=
  ⟨rfl, rfl, rfl, fun _ => rfl, fun _ => rfl, fun _ => rfl⟩

theorem ticket?_begins {s : Stage σ τ} (begins : Begins s) : s.ticket? = none := by
  cases s <;> first | rfl | cases begins

/-! ## What moves do to a registry -/

namespace Moves

variable {n : Nat} {s s' : Stage σ τ}

theorem looks_eq_false (m : Moves l h n s s' g) : s'.looks = false := by
  cases m <;> rfl

/-- A task keeps its ticket, or it has just looked up a plugin. -/
theorem ticket?_cases {k : Ticket} (m : Moves l h n s s' g) (has : s'.ticket? = some k) :
    s.ticket? = some k ∨ ∃ kind tag, s = .looking k.capability kind tag ∧ s' = .queued k ∧
      (h.registries k.capability).lookup kind tag = .ok (.plugin k.descriptor) ∧
      k = h.ticket k.capability k.descriptor := by
  cases m with
  | joined sought =>
    cases has
    exact .inr ⟨_, _, rfl, rfl, sought, rfl⟩
  | launched => exact .inl has
  | returned => exact .inl has
  | overtaken => exact .inl has
  | _ => cases has

/-- A process that a task is given is new. -/
theorem started_cases {k : Ticket} {p : Nat} {x : Started τ} (m : Moves l h n s s' g)
    (at_ : s' = .started k p x) : p = h.processes.length ∧ ∃ r, s = .starting k r (.ok x) := by
  cases m with
  | returned =>
    cases at_
    exact ⟨rfl, _, rfl⟩
  | _ => cases at_

/-- Keeping the instances for a capability from being found begins the next generation. -/
theorem generation_of_closing {c : Capability} {left : List Capability} {taken : List (List Nat)}
    {t : Option Nat} (m : Moves l h n (.closing (c :: left) taken t) s' g) :
    s' = .draining c left taken t ∧
      (g.registries c).generation = (h.registries c).generation + 1 := by
  cases m with
  | closed => exact ⟨rfl, by simp [close, onRegistry]⟩

/-- Draining leaves nothing tracked. -/
theorem tracked_of_draining {c : Capability} {left : List Capability} {taken : List (List Nat)}
    {t : Option Nat} (m : Moves l h n (.draining c left taken t) s' g) :
    s' = .closing left (taken ++ [(h.registries c).tracked]) t ∧ (g.registries c).tracked = [] := by
  cases m with
  | drained =>
    refine ⟨rfl, ?_⟩
    rw [draining, (onlyProcesses_interrupting _ _).registries]
    simp [onRegistry]

end Moves

/-! ## What becomes of a registry

What a move does to a registry is said once. Everything else about registries follows from it.
-/

/-- The change of the registry for a capability when a task moves from a stage to the next. There are
`size` cells before and `size'` afterwards. -/
inductive RegistryMoves (c : Capability) (size size' : Nat) :
    Stage σ τ → Stage σ τ → Registry σ → Registry σ → Prop where
  | kept {s s' r} : RegistryMoves c size size' s s' r r
  | placed {kind tag k r} {d : PluginDescriptor} (sought : r.lookup kind tag = .ok (.plugin d))
    (absent : r.cells.get? d.id = none) (more : size < size') :
    RegistryMoves c size size' (.looking c kind tag) (.queued k) r
      { r with cells := r.cells.insert d.id size }
  | tracks {k p x s' r} (here : k.capability = c) (current : r.generation = k.generation) :
    RegistryMoves c size size' (.started k p x) s' r { r with tracked := r.tracked ++ [p] }
  | closed {left taken t r} :
    RegistryMoves c size size' (.closing (c :: left) taken t) (.draining c left taken t) r
      { r with generation := r.generation + 1, cells := [] }
  | drained {left taken t r} :
    RegistryMoves c size size' (.draining c left taken t) (.closing left (taken ++ [r.tracked]) t) r
      { r with tracked := [] }

/-- A plugin has a cell, or a new one is made for it. -/
theorem cellOf_cases (h : Host σ τ) (c : Capability) (id : PluginId) :
    (h.cellOf c id).2 = h ∨ ((h.registries c).cells.get? id = none ∧ (h.cellOf c id).2 =
      { h.onRegistry c (fun r => { r with cells := r.cells.insert id h.cells.length }) with
        cells := h.cells ++ [({} : Cell τ)] }) := by
  unfold cellOf
  split
  · exact .inl rfl
  · next absent => exact .inr ⟨absent, rfl⟩

theorem Moves.registryMoves {n : Nat} {s s' : Stage σ τ} (m : Moves l h n s s' g) (c : Capability) :
    RegistryMoves c h.cells.length g.cells.length s s' (h.registries c) (g.registries c) := by
  cases m with
  | @joined d kind tag e sought =>
    rw [registries_onCell]
    rcases cellOf_cases h d e.id with eq | ⟨absent, eq⟩
    · rw [eq]
      exact .kept
    · rw [eq]
      by_cases same : c = d
      · subst same
        have more : h.cells.length < (onCell
            { h.onRegistry c (fun r => { r with cells := r.cells.insert e.id h.cells.length }) with
              cells := h.cells ++ [({} : Cell τ)] } (h.cellOf c e.id).1
            fun x => { x with queue := x.queue ++ [n] }).cells.length := by
          simp [onCell]
        simpa [onRegistry] using RegistryMoves.placed sought absent more
      · simpa [registry_onRegistry h same] using RegistryMoves.kept
  | @admitted k p x current =>
    rw [registries_leave, admitting, registries_onCell]
    by_cases same : c = k.capability
    · subst same
      simpa [onRegistry] using RegistryMoves.tracks rfl current
    · rw [registry_onRegistry h same]
      exact .kept
  | @discharged k p t =>
    rw [registries_leave, (onlyProcesses_killLeft [p] h).registries]
    exact .kept
  | @closed d left taken t =>
    rw [close]
    by_cases same : c = d
    · subst same
      simpa [onRegistry] using RegistryMoves.closed
    · rw [registry_onRegistry h same]
      exact .kept
  | @drained d left taken t =>
    rw [draining, (onlyProcesses_interrupting _ _).registries]
    by_cases same : c = d
    · subst same
      simpa [onRegistry] using RegistryMoves.drained
    · rw [registry_onRegistry h same]
      exact .kept
  | @finished taken t outcome =>
    rw [(onlyProcesses_killLeft taken.flatten h).registries]
    exact .kept
  | _ => exact .kept

namespace RegistryMoves

variable {c : Capability} {size size' : Nat} {s s' : Stage σ τ} {r r' : Registry σ}

/-- A generation stays as it is, or the next one begins, for which there are no cells yet. -/
theorem generation_cases (m : RegistryMoves c size size' s s' r r') :
    r'.generation = r.generation ∨ (r'.generation = r.generation + 1 ∧ r'.cells = []) := by
  cases m with
  | closed => exact .inr ⟨rfl, rfl⟩
  | _ => exact .inl rfl

/-- Only a task whose ticket is of the present generation has its process tracked. -/
theorem tracked_cases {p : Nat} (m : RegistryMoves c size size' s s' r r') (tracked : p ∈ r'.tracked) :
    p ∈ r.tracked ∨ ∃ k x, s = .started k p x ∧ k.capability = c ∧ r.generation = k.generation := by
  cases m with
  | @tracks k q x s' r here current =>
    rcases List.mem_append.1 tracked with old | new
    · exact .inl old
    · cases List.mem_singleton.1 new
      exact .inr ⟨k, x, rfl, here, current⟩
  | drained => cases tracked
  | _ => exact .inl tracked

end RegistryMoves

/-! ## What steps do to a registry -/

theorem generation_step (step : Step l h g) (c : Capability) :
    (g.registries c).generation = (h.registries c).generation ∨
      ((g.registries c).generation = (h.registries c).generation + 1 ∧
        (g.registries c).cells = []) := by
  rcases step_cases step with kept | ⟨n, s, s', g', -, moves, rfl⟩
  · exact .inl (kept.generation c)
  · exact (moves.registryMoves c).generation_cases

/-- A process that comes to be tracked was given to a task whose ticket is of the present generation. -/
theorem tracked_step (step : Step l h g) {c : Capability} {p : Nat}
    (tracked : p ∈ (g.registries c).tracked) : p ∈ (h.registries c).tracked ∨
      ∃ n k x, h.stage? n = some (.started k p x) ∧ k.capability = c ∧
        (h.registries c).generation = k.generation := by
  rcases step_cases step with kept | ⟨n, s, s', g', due, moves, rfl⟩
  · exact .inl (kept.tracked c ▸ tracked)
  · rcases (moves.registryMoves c).tracked_cases tracked with old | ⟨k, x, rfl, same, current⟩
    · exact .inl old
    · exact .inr ⟨n, k, x, due.at_, same, current⟩

theorem Moves.count_le {n : Nat} {s s' : Stage σ τ} (m : Moves l h n s s' g) :
    h.processes.length ≤ g.processes.length := by
  cases m with
  | joined => exact Nat.le_of_eq (by rw [processes_onCell, processes_cellOf])
  | returned => rw [List.length_append]; exact Nat.le_add_right _ _
  | overtaken => exact Nat.le_of_eq (onlyProcesses_onProcess h _ _ _).count.symm
  | @discharged k p t => exact Nat.le_of_eq (onlyProcesses_killLeft [p] h).count.symm
  | @drained c left taken t =>
    exact Nat.le_of_eq (onlyProcesses_interrupting (h.registries c).tracked
      (h.onRegistry c fun r => { r with tracked := [] })).count.symm
  | @finished taken t outcome => exact Nat.le_of_eq (onlyProcesses_killLeft taken.flatten h).count.symm
  | _ => exact Nat.le_refl _

theorem count_step (step : Step l h g) : h.processes.length ≤ g.processes.length := by
  rcases step_cases step with kept | ⟨n, s, s', g', -, moves, rfl⟩
  · exact Nat.le_of_eq (by rw [kept.processes])
  · exact moves.count_le

end Host

/-! ## Histories -/

/-- A sequence of steps, from a host to which nothing has happened. -/
structure History (σ : Type) {τ : Type} (l : Launcher τ) where
  state : Nat → Host σ τ
  fresh : (state 0).Fresh
  step : ∀ i, Host.Step l (state i) (state (i + 1))

namespace History

open Host

/-- How often until a moment the instances for a capability were kept from being found. -/
def closings (r : History σ l) (c : Capability) : Nat → Nat
  | 0 => 0
  | i + 1 =>
    if ((r.state (i + 1)).registries c).generation = ((r.state i).registries c).generation then
      closings r c i
    else closings r c i + 1

variable (r : History σ l)

theorem closings_mono (c : Capability) {i j : Nat} (h : i ≤ j) :
    r.closings c i ≤ r.closings c j := by
  induction h with
  | refl => exact Nat.le_refl _
  | step h ih =>
    rw [closings]
    split
    · exact ih
    · exact Nat.le_succ_of_le ih

/-- When the instances for a capability are kept from being found, no cell is left. -/
theorem cells_of_closing {c : Capability} {i : Nat}
    (began : r.closings c (i + 1) ≠ r.closings c i) :
    ((r.state (i + 1)).registries c).cells = [] := by
  rcases generation_step (r.step i) c with same | ⟨-, none_⟩
  · exact absurd (if_pos same) began
  · exact none_

/-- The generation of a registry counts how often its instances were kept from being found, as far as
64 bits can count. -/
theorem generation_eq (c : Capability) (i : Nat) :
    ((r.state i).registries c).generation = UInt64.ofNat (r.closings c i) := by
  induction i with
  | zero => exact r.fresh.generation c
  | succ i ih =>
    rw [closings]
    split
    · next same => rw [same, ih]
    · next other =>
      rcases generation_step (r.step i) c with same | ⟨next, -⟩
      · exact absurd same other
      · rw [next, ih, UInt64.ofNat_add]
        rfl

/-- Fewer closings than 64 bits can count are told by the generation. -/
theorem closings_eq_of_generation_eq {c : Capability} {i j : Nat} (h : i ≤ j)
    (few : r.closings c j < r.closings c i + UInt64.size)
    (same : ((r.state i).registries c).generation = ((r.state j).registries c).generation) :
    r.closings c i = r.closings c j := by
  have mono := r.closings_mono c h
  rw [generation_eq, generation_eq] at same
  have rest := congrArg UInt64.toNat same
  rw [UInt64.toNat_ofNat', UInt64.toNat_ofNat'] at rest
  -- counts that agree in their last 64 bits and differ by less are the same
  rw [UInt64.size] at few
  omega

/-- Fewer shutdowns overlap a start, from the lookup at a moment `a` on, than 64 bits can count. -/
def FewOverlap (r : History σ l) : Prop :=
  ∀ n a b s s' k, (r.state a).stage? n = some s → s.looks = true →
    (r.state (a + 1)).stage? n = some (.queued k) →
    (r.state b).stage? n = some s' → s'.ticket? = some k →
    r.closings k.capability b < r.closings k.capability a + UInt64.size

theorem accounted (i : Nat) : (r.state i).Accounted := by
  induction i with
  | zero =>
    have tracked : (r.state 0).tracked = [] :=
      List.flatMap_eq_nil_iff.2 fun c _ => r.fresh.tracked c
    rw [Accounted, tracked, held, r.fresh.tasks, r.fresh.processes]
    exact .refl _
  | succ i ih => exact accounted_step (r.step i) ih

theorem count_mono {i j : Nat} (h : i ≤ j) :
    (r.state i).processes.length ≤ (r.state j).processes.length := by
  induction h with
  | refl => exact Nat.le_refl _
  | step h ih => exact Nat.le_trans ih (count_step (r.step _))

/-! ## Tasks in a history -/

variable {r}

/-- A task that has looked up its plugin at a moment has done so at every later one. -/
theorem looks_eq_false_of_le {i j n : Nat} {s : Stage σ τ} (h : i ≤ j)
    (at_ : (r.state i).stage? n = some s) (looked : s.looks = false) :
    ∃ s', (r.state j).stage? n = some s' ∧ s'.looks = false := by
  induction h with
  | refl => exact ⟨s, at_, looked⟩
  | @step j h ih =>
    obtain ⟨t, there, past⟩ := ih
    rcases step_task (r.step j) n with same | ⟨none_, -⟩ | ⟨s, s', g, -, moves, -, came⟩
    · exact ⟨t, same.trans there, past⟩
    · cases none_.symm.trans there
    · exact ⟨s', came, moves.looks_eq_false⟩

/-- A task that has a ticket got it when it looked up its plugin. -/
theorem looked_up {m n : Nat} {s : Stage σ τ} {k : Ticket} (at_ : (r.state m).stage? n = some s)
    (has : s.ticket? = some k) : ∃ a < m, ∃ kind tag,
      (r.state a).stage? n = some (.looking k.capability kind tag) ∧
        (r.state (a + 1)).stage? n = some (.queued k) ∧
        ((r.state a).registries k.capability).lookup kind tag = .ok (.plugin k.descriptor) ∧
        k = (r.state a).ticket k.capability k.descriptor := by
  induction m generalizing s with
  | zero =>
    rw [stage?, r.fresh.tasks] at at_
    cases at_
  | succ m ih =>
    -- the ticket is older than the last step, or that step is the lookup
    rcases step_task (r.step m) n with same | ⟨-, s', begins, came⟩ | ⟨t, s', g, due, moves, -, came⟩
    · obtain ⟨a, ha, rest⟩ := ih (same.symm.trans at_) has
      exact ⟨a, Nat.lt_succ_of_lt ha, rest⟩
    · cases came.symm.trans at_
      cases (ticket?_begins begins).symm.trans has
    · cases came.symm.trans at_
      rcases moves.ticket?_cases has with had | ⟨kind, tag, rfl, rfl, sought, eq⟩
      · obtain ⟨a, ha, rest⟩ := ih due.at_ had
        exact ⟨a, Nat.lt_succ_of_lt ha, rest⟩
      · exact ⟨m, Nat.lt_succ_self m, kind, tag, due.at_, came, sought, eq⟩

/-- A task looks up only once: one that has looked up has had its ticket since then. -/
theorem looked_before {i a n : Nat} {s : Stage σ τ} {c : Capability} {kind : String} {tag : TypeId}
    (at_ : (r.state i).stage? n = some s) (looked : s.looks = false)
    (looking : (r.state a).stage? n = some (.looking c kind tag)) : a < i := by
  rcases Nat.lt_or_ge a i with h | h
  · exact h
  · obtain ⟨s', there, past⟩ := looks_eq_false_of_le h at_ looked
    cases there.symm.trans looking
    cases past

end History

end PluginKit
