import PluginKit.Proofs.Host.Script

/-!
# No process escapes a shutdown

A shutdown first keeps the instances for a capability from being found, which begins the next generation,
and takes the tracked processes afterwards. A start whose ticket is older than that is judged against
the new generation, so its process is not tracked behind the back of the shutdown.

## Main statements

- `gave_unique`: a process is given to one task only.
- `not_tracked_of_shutsDown`: after a shutdown has taken the processes, nothing that was looked up
  before it is tracked.
- `overtaken_of_shutsDown`: a start that a shutdown has overtaken ends with a fault.
- `nothing_escapes`: the above, for all processes of a history.
-/

namespace PluginKit

variable {σ τ : Type} {l : Launcher τ}

namespace Host

variable {h : Host σ τ}

theorem mem_task_of_stage? {n : Nat} {s : Stage σ τ} (at_ : h.stage? n = some s) :
    ∃ size : n < h.tasks.length, h.tasks[n].stage = s := by
  obtain ⟨t, there, rfl⟩ := Option.map_eq_some_iff.1 at_
  obtain ⟨size, rfl⟩ := List.getElem?_eq_some_iff.1 there
  exact ⟨size, rfl⟩

/-- No two tasks have the same process. -/
theorem holder_unique (accounted : h.Accounted) {n m p : Nat} {s t : Stage σ τ}
    (atn : h.stage? n = some s) (atm : h.stage? m = some t) (inn : p ∈ s.processes)
    (inm : p ∈ t.processes) : n = m := by
  have nodup : h.held.Nodup :=
    (List.nodup_append.1 (accounted.nodup_iff.2 List.nodup_range)).2.1
  have apart := List.pairwise_iff_getElem.1 (List.pairwise_flatMap.1 nodup).2
  obtain ⟨sizen, rfl⟩ := mem_task_of_stage? atn
  obtain ⟨sizem, rfl⟩ := mem_task_of_stage? atm
  rcases Nat.lt_trichotomy n m with less | same | more
  · exact absurd rfl (apart n m sizen sizem less p inn p inm)
  · exact same
  · exact absurd rfl (apart m n sizem sizen more p inm p inn)

end Host

namespace History

open Host

variable {r : History σ l}

/-! ## Who was given a process -/

theorem lt_count_of_mem {i n p : Nat} {s : Stage σ τ} (at_ : (r.state i).stage? n = some s)
    (mem : p ∈ s.processes) : p < (r.state i).processes.length := by
  obtain ⟨size, rfl⟩ := mem_task_of_stage? at_
  have held : p ∈ (r.state i).tracked ++ (r.state i).held :=
    List.mem_append_right _ (List.mem_flatMap.2 ⟨_, List.getElem_mem size, mem⟩)
  exact List.mem_range.1 ((r.accounted i).mem_iff.1 held)

/-- A process is given to one task only, with one ticket. -/
theorem gave_unique {i j n m p : Nat} {k k' : Ticket} {x x' : Started τ} (h : i ≤ j)
    (atn : (r.state i).stage? n = some (.started k p x))
    (atm : (r.state j).stage? m = some (.started k' p x')) : m = n ∧ k' = k ∧ x' = x := by
  induction h with
  | refl =>
    have same := holder_unique (r.accounted i) atm atn (List.mem_singleton.2 rfl)
      (List.mem_singleton.2 rfl)
    subst same
    cases atm.symm.trans atn
    exact ⟨rfl, rfl, rfl⟩
  | @step j h ih =>
    rcases step_task (r.step j) m with same | ⟨-, s, begins, came⟩ | ⟨s, s', g, -, moves, -, came⟩
    · exact ih (same.symm.trans atm)
    · cases came.symm.trans atm
      cases begins
    · -- A process that is given later on has a number that was not in use before.
      obtain ⟨new, -⟩ := moves.started_cases (Option.some.inj (came.symm.trans atm))
      have old := lt_count_of_mem atn (List.mem_singleton.2 rfl)
      have mono := r.count_mono h
      omega

/-- A process that is tracked was admitted when its ticket was of the present generation, and is tracked
ever since. -/
theorem admitted_of_tracked {m p : Nat} {c : Capability}
    (tracked : p ∈ ((r.state m).registries c).tracked) : ∃ e < m, ∃ n k x,
      (r.state e).stage? n = some (.started k p x) ∧ k.capability = c ∧
        ((r.state e).registries c).generation = k.generation ∧
        ∀ b, e < b → b ≤ m → p ∈ ((r.state b).registries c).tracked := by
  induction m with
  | zero =>
    rw [r.fresh.tracked c] at tracked
    cases tracked
  | succ m ih =>
    rcases tracked_step (r.step m) tracked with old | ⟨n, k, x, at_, same, current⟩
    · obtain ⟨e, he, n, k, x, at_, same, current, since⟩ := ih old
      refine ⟨e, Nat.lt_succ_of_lt he, n, k, x, at_, same, current, fun b lo hi => ?_⟩
      rcases Nat.lt_or_eq_of_le hi with less | rfl
      · exact since b lo (Nat.le_of_lt_succ less)
      · exact tracked
    · refine ⟨m, Nat.lt_succ_self m, n, k, x, at_, same, current, fun b lo hi => ?_⟩
      have eq : b = m + 1 := by omega
      rw [eq]
      exact tracked

/-! ## Shutdowns -/

/-- The task `t` stops the instances for a capability: with the step after the moment `i` it keeps them
from being found, and with the step after the moment `j` it takes the tracked processes. -/
def ShutsDown (r : History σ l) (t : Nat) (c : Capability) (i j : Nat) : Prop :=
  i < j ∧ ∃ left taken cancelAt,
    (r.state i).stage? t = some (.closing (c :: left) taken cancelAt) ∧
      (r.state (i + 1)).stage? t = some (.draining c left taken cancelAt) ∧
      (r.state j).stage? t = some (.draining c left taken cancelAt) ∧
      (r.state (j + 1)).stage? t =
        some (.closing left (taken ++ [((r.state j).registries c).tracked]) cancelAt)

theorem ShutsDown.closings {t i j : Nat} {c : Capability} (h : r.ShutsDown t c i j) :
    r.closings c (i + 1) = r.closings c i + 1 := by
  obtain ⟨-, left, taken, cancelAt, before, after, -⟩ := h
  rcases step_task (r.step i) t with same | ⟨none_, -⟩ | ⟨s, s', g, due, moves, eq, came⟩
  · cases after.symm.trans (same.trans before)
  · cases none_.symm.trans before
  · cases due.at_.symm.trans before
    have next := (moves.generation_of_closing).2
    rw [History.closings, if_neg]
    rw [eq, registries_onStage, next]
    intro same
    simp at same

theorem ShutsDown.tracked {t i j : Nat} {c : Capability} (h : r.ShutsDown t c i j) :
    ((r.state (j + 1)).registries c).tracked = [] := by
  obtain ⟨-, left, taken, cancelAt, -, -, before, after⟩ := h
  rcases step_task (r.step j) t with same | ⟨none_, -⟩ | ⟨s, s', g, due, moves, eq, came⟩
  · cases after.symm.trans (same.trans before)
  · cases none_.symm.trans before
  · cases due.at_.symm.trans before
    rw [eq, registries_onStage]
    exact (moves.tracked_of_draining).2

/-- A ticket is of the generation in which its task looked up the plugin. -/
theorem generation_of_ticket {m n : Nat} {s : Stage σ τ} {k : Ticket}
    (at_ : (r.state m).stage? n = some s) (has : s.ticket? = some k) :
    ∃ a < m, (∃ kind tag, (r.state a).stage? n = some (.looking k.capability kind tag)) ∧
      (r.state (a + 1)).stage? n = some (.queued k) ∧
      ((r.state a).registries k.capability).generation = k.generation := by
  obtain ⟨a, ha, kind, tag, looking, queued, -, eq⟩ := looked_up at_ has
  refine ⟨a, ha, ⟨kind, tag, looking⟩, queued, ?_⟩
  rw [eq]
  rfl

/-- A ticket from before a shutdown is not of the generation after it. -/
theorem generation_ne_of_shutsDown (few : r.FewOverlap) {t i j n m : Nat} {c : Capability}
    (shuts : r.ShutsDown t c i j) {s s' : Stage σ τ} (looked : (r.state i).stage? n = some s)
    (past : s.looks = false) (later : i < m) (at_ : (r.state m).stage? n = some s') {k : Ticket}
    (has : s'.ticket? = some k) (same : k.capability = c) :
    ((r.state m).registries c).generation ≠ k.generation := by
  subst same
  obtain ⟨a, ha, ⟨kind, tag, looking⟩, queued, eq⟩ := generation_of_ticket at_ has
  have before := looked_before looked past looking
  -- The shutdown falls between the lookup and the judgement, and the generation tells so.
  intro current
  have few := few n a m _ _ k looking rfl queued at_ has
  have tie := r.closings_eq_of_generation_eq (Nat.le_of_lt ha) few (eq.trans current.symm)
  have one := shuts.closings
  have lo := r.closings_mono k.capability (Nat.le_of_lt before)
  have hi : r.closings k.capability (i + 1) ≤ r.closings k.capability m :=
    r.closings_mono k.capability later
  omega

/-- After a shutdown has taken the processes of a capability, no process of a task that looked up its
plugin before is tracked, and none will be. -/
theorem not_tracked_of_shutsDown (few : r.FewOverlap) {t i j n m q p : Nat} {c : Capability}
    (shuts : r.ShutsDown t c i j) {s : Stage σ τ} (looked : (r.state i).stage? n = some s)
    (past : s.looks = false) {k : Ticket} {x : Started τ}
    (gave : (r.state q).stage? n = some (.started k p x)) (after : j < m) :
    p ∉ ((r.state m).registries c).tracked := by
  intro tracked
  obtain ⟨e, he, n', k', x', at_, same, current, since⟩ := admitted_of_tracked tracked
  have eq : n' = n := by
    rcases Nat.le_total q e with le | le
    · exact (gave_unique le gave at_).1
    · exact (gave_unique le at_ gave).1.symm
  subst eq
  -- judged after the shutdown began its ticket is stale; judged before, its process was taken
  rcases Nat.lt_or_ge i e with late | early
  · exact generation_ne_of_shutsDown few shuts looked past late at_ rfl same current
  · have there := since (j + 1) (by have := shuts.1; omega) after
    rw [shuts.tracked] at there
    cases there

/-! ## Starts that are overtaken -/

/-- The stages of a start that a shutdown has overtaken. They end with a fault. -/
inductive Overtaken (k : Ticket) (p : Nat) : Stage σ τ → Prop where
  | returned {x} : Overtaken k p (.started k p x)
  | stops {cancelAt} : Overtaken k p (.late k p cancelAt)
  | failed : Overtaken k p (.failed (overtaken k.descriptor.id) [p])

/-- A start that a shutdown has overtaken never makes its instance known. -/
theorem overtaken_of_shutsDown (few : r.FewOverlap) {t i j n m q p : Nat} {c : Capability}
    (shuts : r.ShutsDown t c i j) {s : Stage σ τ} (looked : (r.state i).stage? n = some s)
    (past : s.looks = false) (later : i < q) {k : Ticket} {x : Started τ}
    (gave : (r.state q).stage? n = some (.started k p x)) (same : k.capability = c) (h : q ≤ m) :
    ∃ s', (r.state m).stage? n = some s' ∧ Overtaken k p s' := by
  induction h with
  | refl => exact ⟨_, gave, .returned⟩
  | @step m h ih =>
    obtain ⟨s', at_, state⟩ := ih
    rcases step_task (r.step m) n with unmoved | ⟨none_, -⟩ | ⟨u, u', g, due, moves, -, came⟩
    · exact ⟨s', unmoved.trans at_, state⟩
    · cases none_.symm.trans at_
    · cases due.at_.symm.trans at_
      refine ⟨u', came, ?_⟩
      cases state with
      | returned =>
        have stale := generation_ne_of_shutsDown few shuts looked past (Nat.lt_of_lt_of_le later h)
          at_ rfl same
        cases moves with
        | admitted current => exact absurd (same ▸ current) stale
        | overtaken => exact .stops
      | stops =>
        cases moves with
        | discharged => exact .failed
      | failed => cases moves

end History

namespace Host

variable {h : Host σ τ}

theorem allSettleAt_isSome (now cancelAt : Nat) (ps : List Process) :
    ∃ r, Process.allSettleAt now (some cancelAt) ps = some r := by
  induction ps generalizing now with
  | nil => exact ⟨now, rfl⟩
  | cons p ps ih =>
    obtain ⟨e, ends⟩ : ∃ e, p.settlesAt (some cancelAt) = some e := by
      unfold Process.settlesAt
      cases p.exitsAt <;> exact ⟨_, rfl⟩
    obtain ⟨r, rest⟩ := ih (max now e)
    exact ⟨r, by rw [allSettleAt_cons, ends, Option.bind_some, rest]⟩

/-- A start that a shutdown has overtaken can go on until it has failed. -/
theorem readyAt_of_overtaken {n p : Nat} {k : Ticket} {s : Stage σ τ}
    (state : History.Overtaken k p s) :
    s = .failed (overtaken k.descriptor.id) [p] ∨ ∃ time, h.readyAt n s = some time := by
  cases state with
  | returned => exact .inr ⟨h.now, rfl⟩
  | stops => exact .inr (allSettleAt_isSome h.now _ _)
  | failed => exact .inl rfl

/-! ## Places -/

/-- The processes that starts have given and that have not yet been judged. -/
def returned (h : Host σ τ) : List Nat := h.tasks.flatMap fun t => t.stage.returned

/-- The processes that shutdowns have taken. -/
def taken (h : Host σ τ) : List Nat := h.tasks.flatMap fun t => t.stage.taken

/-- The processes that have been handed to coordinators of their own. -/
def handed (h : Host σ τ) : List Nat := h.tasks.flatMap fun t => t.stage.handed

theorem held_perm (h : Host σ τ) : h.held.Perm (h.returned ++ h.taken ++ h.handed) := by
  rw [held, returned, taken, handed]
  induction h.tasks with
  | nil => exact .refl _
  | cons t ts ih =>
    rw [List.perm_iff_count] at ih ⊢
    intro p
    have rest := ih p
    simp only [List.flatMap_cons, Stage.processes, List.count_append] at rest ⊢
    omega

end Host

namespace History

open Host

/-- No process escapes a shutdown. Whatever the order of steps, every process that a start has given is
in one place at any moment: with the task that started it and has yet to be judged, tracked, taken by a
shutdown, or handed to a coordinator of its own. After a shutdown has taken the processes, no process of
a task that looked up its plugin before is tracked, and a start that was judged too late for that ends
with a fault. -/
theorem nothing_escapes (r : History σ l) (few : r.FewOverlap) :
    (∀ m, ((r.state m).returned ++ (r.state m).tracked ++ (r.state m).taken ++
        (r.state m).handed).Perm (List.range (r.state m).processes.length)) ∧
      ∀ t c i j, r.ShutsDown t c i j → ∀ n s, (r.state i).stage? n = some s → s.looks = false →
        ∀ q k p x, (r.state q).stage? n = some (.started k p x) →
          (∀ m > j, p ∉ ((r.state m).registries c).tracked) ∧
          (k.capability = c → i < q → ∀ m ≥ q, ∃ s', (r.state m).stage? n = some s' ∧
            Overtaken k p s' ∧ (s' = .failed (overtaken k.descriptor.id) [p] ∨
              ∃ time, (r.state m).readyAt n s' = some time)) := by
  refine ⟨fun m => ?_, ?_⟩
  · have all := (r.accounted m)
    have held := held_perm (r.state m)
    rw [Accounted, List.perm_iff_count] at all
    rw [List.perm_iff_count] at held ⊢
    intro p
    have all := all p
    have held := held p
    simp only [List.count_append] at all held ⊢
    omega
  · intro t c i j shuts n s looked past q k p x gave
    refine ⟨fun m after => not_tracked_of_shutsDown few shuts looked past gave after, ?_⟩
    intro same later m h
    obtain ⟨s', at_, state⟩ := overtaken_of_shutsDown few shuts looked past later gave same h
    exact ⟨s', at_, state, readyAt_of_overtaken state⟩

/-- The start of the task 0 has given its process, and before that is judged the task 1 stops all
instances. -/
def race : History Unit (sampleLauncher 0) :=
  ofScript (sampleLauncher 0) fresh_sampleHost
    [bindSample, findSample, .go 0, .go 0, .go 0, stopSample, .go 1, .go 1, .go 1, .go 0, .go 0]

theorem shutsDown_race : race.ShutsDown 1 .resourceRepository 7 8 :=
  ⟨by decide, [], [], none, rfl, rfl, rfl, rfl⟩

/-- In the race the process is stopped and its task fails. -/
theorem race_lost : race.FewOverlap ∧ race.ShutsDown 1 .resourceRepository 7 8 ∧
    0 ∉ ((race.state 11).registries .resourceRepository).tracked ∧
    (race.state 11).stage? 0 = some (.failed (overtaken ⟨"p"⟩) [0]) := by
  have few : race.FewOverlap := fewOverlap_ofScript fresh_sampleHost (by decide)
  have escapes := (nothing_escapes race few).2 1 .resourceRepository 7 8 shutsDown_race 0 _ rfl rfl
    8 _ 0 _ rfl
  exact ⟨few, shutsDown_race, escapes.1 11 (by decide), rfl⟩

end History

end PluginKit
