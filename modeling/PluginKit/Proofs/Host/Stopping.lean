import PluginKit.Proofs.Host.Events
import PluginKit.Proofs.Host.Reports

/-!
# Stopping all instances

A task that stops all instances takes the processes that are tracked, capability by capability, and
interrupts each of them. It waits until they have exited, at most until a given moment, kills those
that have not, and reports one fault for each process that could not be stopped as it should.

## Main statements

- `stopsAll_of_stopped`: how a task that has stopped all instances has gone.
- `stoppedOnce`: what a task does to each process that it takes.
- `stops_everything_once`: the above put together, with the faults that are reported and with what is
  left for a later task.
-/

namespace PluginKit

variable {σ τ : Type} {l : Launcher τ}

theorem Stage.rank_of_ended {s : Stage σ τ} {p : Nat} (settled : p ∈ s.ended) : s.rank = 0 := by
  cases s <;> first | rfl | cases settled

/-- The report of a task that has waited to the end. -/
theorem Host.stage?_finish {h : Host σ τ} {n : Nat} {s : Stage σ τ} (at_ : h.stage? n = some s)
    (taken : List (List Nat)) : (h.finish n taken).stage? n =
      some (.stopped taken (Process.report h.now (h.processesAt taken.flatten))) := by
  have joined := Process.join_reports h.now (taken.map h.processesAt)
  have all : (taken.map h.processesAt).flatten = h.processesAt taken.flatten := by
    unfold processesAt
    rw [List.filterMap_flatten]
  rw [List.filterMap_map, all] at joined
  rw [← joined]
  exact stage?_onStage at_ (tasks_killLeft _ h) _

namespace History

open Host

variable {r : History σ l} {n : Nat}

/-! ## The way of a task -/

/-- A step leaves a task at its stage or brings it to the next one. -/
theorem step_own {m : Nat} {s : Stage σ τ} (at_ : (r.state m).stage? n = some s) :
    (r.state (m + 1)).stage? n = some s ∨ ∃ s' g, (r.state m).Due n s ∧
      Moves l (r.state m) n s s' g ∧ (r.state (m + 1)).stage? n = some s' ∧
      r.state (m + 1) = (r.state m).next l n s := by
  rcases step_next (r.step m) with ⟨kept, -⟩ | ⟨n', t, t', g, due, moves, eq, next⟩
  · rcases stage?_of_kept kept n with same | ⟨none_, -⟩
    · exact .inl (same.trans at_)
    · cases none_.symm.trans at_
  · by_cases own : n = n'
    · subst own
      cases due.at_.symm.trans at_
      exact .inr ⟨t', g, due, moves, eq ▸ stage?_onStage due.at_ moves.tasks t', next⟩
    · rw [eq, stage?_onStage_ne g own, stage?_congr moves.tasks]
      exact .inl at_

/-- A task stays at its stage, or it is brought to the next one at some moment. -/
theorem stays_or_leaves {i j : Nat} {s : Stage σ τ} (h : i ≤ j)
    (at_ : (r.state i).stage? n = some s) : (r.state j).stage? n = some s ∨
      ∃ k s' g, i ≤ k ∧ k < j ∧ (r.state k).Due n s ∧ Moves l (r.state k) n s s' g ∧
        (r.state (k + 1)).stage? n = some s' ∧ r.state (k + 1) = (r.state k).next l n s := by
  induction h with
  | refl => exact .inl at_
  | @step j h ih =>
    rcases ih with there | ⟨k, s', g, lo, hi, rest⟩
    · rcases step_own there with same | ⟨s', g, moved⟩
      · exact .inl same
      · exact .inr ⟨j, s', g, h, Nat.lt_succ_self j, moved⟩
    · exact .inr ⟨k, s', g, lo, Nat.lt_succ_of_lt hi, rest⟩

/-- A task that is over stays so. -/
theorem stays_over {i j : Nat} {s : Stage σ τ} (h : i ≤ j) (at_ : (r.state i).stage? n = some s)
    (settled : s.rank = 0) : (r.state j).stage? n = some s := by
  rcases stays_or_leaves h at_ with same | ⟨k, s', g, -, -, due, -⟩
  · exact same
  · obtain ⟨time, -, ready⟩ := due.ready
    exact absurd settled (rank_ne_zero_of_readyAt ready)

/-- A task never gets further away from its end. -/
theorem rank_mono {i j : Nat} {s t : Stage σ τ} (h : i ≤ j) (at_ : (r.state i).stage? n = some s)
    (later : (r.state j).stage? n = some t) : t.rank ≤ s.rank := by
  suffices closer : ∃ u, (r.state j).stage? n = some u ∧ u.rank ≤ s.rank by
    obtain ⟨u, there, less⟩ := closer
    cases there.symm.trans later
    exact less
  clear later
  induction h with
  | refl => exact ⟨s, at_, Nat.le_refl _⟩
  | @step j h ih =>
    obtain ⟨u, there, less⟩ := ih
    rcases step_own there with same | ⟨s', g, due, -, came, next⟩
    · exact ⟨u, same, less⟩
    · obtain ⟨time, -, ready⟩ := due.ready
      obtain ⟨v, at_, closer⟩ := rank_next l there (rank_ne_zero_of_readyAt ready)
      exact ⟨v, next ▸ at_, by omega⟩

/-- A task that has stopped instances was brought there. -/
theorem leaves {i j : Nat} {s : Stage σ τ} {taken : List (List Nat)} {outcome : Outcome Unit}
    (h : i ≤ j) (at_ : (r.state i).stage? n = some s)
    (settled : (r.state j).stage? n = some (.stopped taken outcome)) (open_ : s.rank ≠ 0) :
    ∃ k s' g, i ≤ k ∧ k < j ∧ (r.state k).Due n s ∧ Moves l (r.state k) n s s' g ∧
      (r.state (k + 1)).stage? n = some s' ∧ r.state (k + 1) = (r.state k).next l n s := by
  rcases stays_or_leaves h at_ with same | left
  · cases same.symm.trans settled
    exact absurd rfl open_
  · exact left

/-- Processes that a task has taken stay with it. -/
theorem taken_mono {i j p : Nat} {s : Stage σ τ} (h : i ≤ j) (at_ : (r.state i).stage? n = some s)
    (mem : p ∈ s.taken) : ∃ s', (r.state j).stage? n = some s' ∧ p ∈ s'.taken := by
  induction h with
  | refl => exact ⟨s, at_, mem⟩
  | @step j h ih =>
    obtain ⟨t, there, mem⟩ := ih
    rcases step_own there with same | ⟨t', g, -, moves, came, -⟩
    · exact ⟨t, same, mem⟩
    · refine ⟨t', came, ?_⟩
      cases moves with
      | closed => exact mem
      | waits => exact mem
      | drained => exact (List.flatten_append ▸ List.mem_append_left _ mem : _)
      | finished => exact mem
      | _ => cases mem

/-- A task that keeps the instances for some capabilities from being found takes the processes of one
after another, and then waits for them. -/
theorem takes_of_closing {left : List Capability} {i j : Nat} {taken taken' : List (List Nat)}
    {limit : Option Nat} {outcome : Outcome Unit} (nodup : left.Nodup) (h : i ≤ j)
    (at_ : (r.state i).stage? n = some (.closing left taken limit))
    (settled : (r.state j).stage? n = some (.stopped taken' outcome)) :
    ∃ (takes : Capability → Nat) (w : Nat), i < w ∧ w ≤ j ∧
      (r.state w).stage? n = some (.stopping
        (taken ++ left.map fun c => ((r.state (takes c)).registries c).tracked) limit) ∧
      (∀ c ∈ left, takes c < w ∧ ∃ k ≥ i, r.ShutsDown n c k (takes c)) ∧
      left.Pairwise fun c d => takes c < takes d := by
  induction left generalizing i taken with
  | nil =>
    obtain ⟨k, s', g, lo, hi, -, moves, came, -⟩ := leaves h at_ settled (by simp [Stage.rank])
    cases moves with
    | waits =>
      exact ⟨fun _ => 0, k + 1, by omega, hi, by simpa using came, by simp, .nil⟩
  | cons c left ih =>
    obtain ⟨k, s', g, lo, hi, due, moves, closed, -⟩ := leaves h at_ settled (by simp [Stage.rank])
    cases moves with
    | closed =>
      obtain ⟨d, s', g, lo', hi', due', moves, drained, -⟩ :=
        leaves (Nat.succ_le_of_lt hi) closed settled (by simp [Stage.rank])
      cases moves with
      | drained =>
        obtain ⟨takes, w, after, before, waits, each, ordered⟩ :=
          ih nodup.of_cons (Nat.succ_le_of_lt hi') drained
        have shuts : r.ShutsDown n c k d :=
          ⟨by omega, left, taken, limit, due.at_, closed, due'.at_, drained⟩
        obtain ⟨times, here, others⟩ : ∃ times : Capability → Nat, times c = d ∧
            ∀ a ∈ left, times a = takes a :=
          ⟨fun a => if a = c then d else takes a, if_pos rfl, fun a mem =>
            if_neg fun (same : a = c) => (List.nodup_cons.1 nodup).1 (same ▸ mem)⟩
        refine ⟨times, w, by omega, before, ?_, ?_, ?_⟩
        · have rest := List.map_congr_left fun a (mem : a ∈ left) =>
            congrArg (fun i => ((r.state i).registries a).tracked) (others a mem)
          rw [List.map_cons, rest, here, List.append_cons]
          exact waits
        · intro a mem
          rcases List.mem_cons.1 mem with rfl | mem
          · rw [here]
            exact ⟨by omega, k, lo, shuts⟩
          · obtain ⟨soon, k', since, shuts'⟩ := each a mem
            rw [others a mem]
            exact ⟨soon, k', by omega, shuts'⟩
        · refine .cons (fun a mem => ?_) (ordered.imp_of_mem fun ha hb less => ?_)
          · obtain ⟨-, k', since, shuts'⟩ := each a mem
            have later := shuts'.1
            rw [here, others a mem]
            omega
          · rw [others _ ha, others _ hb]
            exact less

/-- The task `n` stops all instances. The moments after which it begins, takes the processes for each
capability, and has waited for the end, and what it has taken until then. -/
structure StopsAll (r : History σ l) (n : Nat) (patience : Option Nat) (taken : List (List Nat))
    (begins : Nat) (takes : Capability → Nat) (ends : Nat) : Prop where
  asked : (r.state begins).stage? n = some (.asked Capability.all patience)
  shuts : ∀ c, ∃ i > begins, r.ShutsDown n c i (takes c)
  ordered : Capability.all.Pairwise fun c d => takes c < takes d
  before : ∀ c, takes c < ends
  taken_eq : taken = Capability.all.map fun c => ((r.state (takes c)).registries c).tracked
  due : (r.state ends).Due n (.stopping taken (patience.map ((r.state begins).now + ·)))
  ended : r.state (ends + 1) = (r.state ends).finish n taken

/-- How a task that has stopped all instances has gone, and what it has reported. -/
theorem stopsAll_of_stopped {i j : Nat} {patience : Option Nat} {taken : List (List Nat)}
    {outcome : Outcome Unit} (h : i ≤ j)
    (asked : (r.state i).stage? n = some (.asked Capability.all patience))
    (settled : (r.state j).stage? n = some (.stopped taken outcome)) : ∃ begins takes ends,
      i ≤ begins ∧ ends < j ∧ r.StopsAll n patience taken begins takes ends ∧
      outcome = Process.report (r.state ends).now ((r.state ends).processesAt taken.flatten) := by
  obtain ⟨b, s', g, lo, hi, due, moves, begun, -⟩ := leaves h asked settled (by simp [Stage.rank])
  cases moves with
  | begun =>
    obtain ⟨takes, w, after, before, waits, each, ordered⟩ :=
      takes_of_closing (by decide) (Nat.succ_le_of_lt hi) begun settled
    obtain ⟨f, s', g, lo', hi', due', moves, finished, ended⟩ :=
      leaves before waits settled (by simp [Stage.rank])
    cases moves with
    | finished =>
      have reported := (congrArg (stage? · n) ended).trans (stage?_finish due'.at_ _)
      cases (stays_over (Nat.succ_le_of_lt hi') reported rfl).symm.trans settled
      refine ⟨b, takes, f, lo, hi', ⟨due.at_, fun c => ?_, ordered, fun c => ?_, rfl, due', ended⟩, rfl⟩
      · obtain ⟨-, k, since, shuts⟩ := each c (Capability.mem_all c)
        exact ⟨k, since, shuts⟩
      · have soon := (each c (Capability.mem_all c)).1
        omega

/-! ## What becomes of the processes -/

/-- A process `p` that a task which stops all instances has taken with the step after the moment `takes`
is interrupted once, and killed once if it has not exited when the waiting ends, which takes until the
moment that limits it. -/
structure StoppedOnce (r : History σ l) (p takes ends : Nat) (limit : Option Nat) (x : Process) :
    Prop where
  process : (r.state takes).processes[p]? = some x
  kept : ∀ m, takes < m → m ≤ ends →
    (r.state m).processes[p]? = some (x.interrupt (r.state takes).now)
  interrupts : ∀ m, (r.happened m).count (.interrupt p) = if takes < m then 1 else 0
  kills : ∀ m, (r.happened m).count (.kill p) =
    if ends < m ∧ (x.interrupt (r.state takes).now).hasExited (r.state ends).now = false then 1 else 0
  patient : (x.interrupt (r.state takes).now).hasExited (r.state ends).now = false →
    ∃ time ≤ (r.state ends).now, limit = some time

namespace StopsAll

variable {patience : Option Nat} {taken : List (List Nat)} {begins ends : Nat}
  {takes : Capability → Nat}

theorem mem_taken (stops : r.StopsAll n patience taken begins takes ends) {p : Nat} :
    p ∈ taken.flatten ↔ ∃ c, p ∈ ((r.state (takes c)).registries c).tracked := by
  rw [stops.taken_eq, List.mem_flatten]
  constructor
  · rintro ⟨ps, listed, mem⟩
    obtain ⟨c, -, rfl⟩ := List.mem_map.1 listed
    exact ⟨c, mem⟩
  · rintro ⟨c, mem⟩
    exact ⟨_, List.mem_map.2 ⟨c, Capability.mem_all c, rfl⟩, mem⟩

/-- From the moment on at which it has taken a process the task has it. -/
theorem has (stops : r.StopsAll n patience taken begins takes ends) {c : Capability} {p m : Nat}
    (mem : p ∈ ((r.state (takes c)).registries c).tracked) (h : takes c < m) :
    ∃ s, (r.state m).stage? n = some s ∧ p ∈ s.taken := by
  obtain ⟨i, -, -, left, taken', limit, -, -, -, after⟩ := stops.shuts c
  refine taken_mono (Nat.succ_le_of_lt h) after ?_
  rw [Stage.taken, List.flatten_append, List.flatten_singleton]
  exact List.mem_append_right _ mem

theorem has_interrupted (stops : r.StopsAll n patience taken begins takes ends) {c : Capability}
    {p m : Nat} (mem : p ∈ ((r.state (takes c)).registries c).tracked) (h : takes c < m) :
    ∃ s, (r.state m).stage? n = some s ∧ p ∈ s.interrupted := by
  obtain ⟨s, at_, mem⟩ := stops.has mem h
  exact ⟨s, at_, List.mem_append_left _ mem⟩

/-- The processes are interrupted as they are taken. -/
theorem process_succ (stops : r.StopsAll n patience taken begins takes ends) {c : Capability}
    {p : Nat} {x : Process} (mem : p ∈ ((r.state (takes c)).registries c).tracked)
    (there : (r.state (takes c)).processes[p]? = some x) :
    (r.state (takes c + 1)).processes[p]? = some (x.interrupt (r.state (takes c)).now) := by
  obtain ⟨i, -, -, left, taken', limit, -, -, before, after⟩ := stops.shuts c
  rcases step_own before with same | ⟨s', g, -, -, -, next⟩
  · cases after.symm.trans same
  · have each := process_interrupting ((r.state (takes c)).registries c).tracked
      ((r.state (takes c)).onRegistry c fun r => { r with tracked := [] }) there
    rw [if_pos mem] at each
    rw [next]
    exact each

/-- A process that was taken stays as it is while the task takes the others and waits for all. -/
theorem process_kept (stops : r.StopsAll n patience taken begins takes ends) {c : Capability}
    {p : Nat} {x : Process} (mem : p ∈ ((r.state (takes c)).registries c).tracked)
    (there : (r.state (takes c)).processes[p]? = some x) {m : Nat} (after : takes c < m)
    (h : m ≤ ends) :
    (r.state m).processes[p]? = some (x.interrupt (r.state (takes c)).now) := by
  induction after with
  | refl => exact stops.process_succ mem there
  | @step m after ih =>
    obtain ⟨s, at_, mine⟩ := stops.has_interrupted mem after
    rcases held_step at_ mine (ih (by omega)) with ⟨same, -⟩ | ⟨s', came, -, settled, -⟩
    · exact same
    -- the task that has waited for it to the end does not wait any more
    · cases (stays_over h came (Stage.rank_of_ended settled)).symm.trans stops.due.at_
      cases settled

/-- The processes are interrupted once. -/
theorem interrupts (stops : r.StopsAll n patience taken begins takes ends) {c : Capability}
    {p : Nat} (mem : p ∈ ((r.state (takes c)).registries c).tracked) (m : Nat) :
    (r.happened m).count (.interrupt p) = if takes c < m then 1 else 0 := by
  rcases Nat.lt_or_ge (takes c) m with after | before
  · obtain ⟨s, at_, mine⟩ := stops.has_interrupted mem after
    have least := List.count_pos_iff.2 (mem_interrupted at_ mine)
    have most := count_interrupted_le (r.accounted m) p
    rw [if_pos after, interrupts_eq]
    omega
  · have mono := r.count_happened_mono (.interrupt p) before
    rw [r.interrupts_eq p (takes c),
      count_interrupted_of_tracked (r.accounted (takes c)) (mem_tracked mem)] at mono
    rw [if_neg (Nat.not_lt_of_le before)]
    omega

/-- The processes are not killed before the task has waited to the end. -/
theorem not_killed (stops : r.StopsAll n patience taken begins takes ends) {c : Capability}
    {p : Nat} (mem : p ∈ ((r.state (takes c)).registries c).tracked) :
    (r.happened ends).count (.kill p) = 0 := by
  refine List.count_eq_zero.2 fun killed => ?_
  obtain ⟨m, s, at_, settled⟩ := ended_of_killed killed
  obtain ⟨t, there, mine⟩ := stops.has_interrupted mem (stops.before c)
  obtain rfl := holder_unique (r.accounted ends) there at_ (Stage.interrupted_subset mine)
    (Stage.ended_subset settled)
  cases at_.symm.trans stops.due.at_
  cases settled

/-- When the waiting has ended the task is over. -/
theorem settled_after (stops : r.StopsAll n patience taken begins takes ends) {m : Nat} (h : ends < m) :
    (r.state m).stage? n = some (.stopped taken
      (Process.report (r.state ends).now ((r.state ends).processesAt taken.flatten))) := by
  have finished := (congrArg (stage? · n) stops.ended).trans (stage?_finish stops.due.at_ taken)
  exact stays_over (Nat.succ_le_of_lt h) finished rfl

/-- Those processes are killed that have not exited when the waiting ends. -/
theorem kills (stops : r.StopsAll n patience taken begins takes ends) {c : Capability} {p : Nat}
    (mem : p ∈ ((r.state (takes c)).registries c).tracked) {x : Process}
    (now : (r.state ends).processes[p]? = some x) (m : Nat) :
    (r.happened m).count (.kill p) =
      if ends < m ∧ x.hasExited (r.state ends).now = false then 1 else 0 := by
  have before := stops.not_killed mem
  rcases Nat.lt_or_ge ends m with after | early
  · suffices stays : (∃ y, (r.state m).processes[p]? = some y) ∧ (r.happened m).count (.kill p) =
        if x.hasExited (r.state ends).now = false then 1 else 0 by
      simpa only [after, true_and] using stays.2
    have mine : p ∈ taken.flatten := stops.mem_taken.2 ⟨c, mem⟩
    induction after with
    | refl =>
      obtain ⟨left, count⟩ := process_killLeft taken.flatten (r.state ends) now
      have old := r.count_happened (.kill p) ends
      have new := r.count_happened (.kill p) (ends + 1)
      have killed : (r.state (ends + 1)).events =
          ((r.state ends).killLeft taken.flatten).events := by rw [stops.ended]; rfl
      have processes : (r.state (ends + 1)).processes =
          ((r.state ends).killLeft taken.flatten).processes := by rw [stops.ended]; rfl
      refine ⟨⟨_, processes ▸ left⟩, ?_⟩
      rw [killed, count] at new
      simp only [mine, true_and] at new
      rw [Nat.succ_eq_add_one]
      omega
    | @step m after ih =>
      -- a task that is over does nothing to its processes any more
      obtain ⟨⟨y, there⟩, count⟩ := ih
      obtain ⟨s, at_, held⟩ := stops.has_interrupted mem (Nat.lt_trans (stops.before c) after)
      cases at_.symm.trans (stops.settled_after after)
      rcases held_step at_ held there with ⟨same, still⟩ | ⟨s', -, open_, -⟩
      · exact ⟨⟨y, same⟩, still.trans count⟩
      · exact absurd rfl open_
  · have mono := r.count_happened_mono (.kill p) early
    rw [if_neg fun late => Nat.not_lt_of_le early late.1]
    omega

/-- A task that stops all instances stops each process that it takes once. -/
theorem stoppedOnce (stops : r.StopsAll n patience taken begins takes ends) {c : Capability}
    {p : Nat} (mem : p ∈ ((r.state (takes c)).registries c).tracked) : ∃ x,
      r.StoppedOnce p (takes c) ends (patience.map ((r.state begins).now + ·)) x := by
  obtain ⟨x, there⟩ := process_of_tracked (r.accounted (takes c)) (mem_tracked mem)
  have kept {m : Nat} (after : takes c < m) (h : m ≤ ends) := stops.process_kept mem there after h
  have now := kept (stops.before c) (Nat.le_refl ends)
  refine ⟨x, there, fun m => kept, stops.interrupts mem, stops.kills mem now, fun alive => ?_⟩
  have listed : x.interrupt (r.state (takes c)).now ∈ (r.state ends).processesAt taken.flatten :=
    List.mem_filterMap.2 ⟨p, stops.mem_taken.2 ⟨c, mem⟩, now⟩
  obtain ⟨time, intime, ready⟩ := stops.due.ready
  obtain ⟨e, before, settles⟩ := (Process.settled_of_all ready).2 _ listed
  obtain ⟨t, since, limit⟩ := Process.limit_of_alive settles (Nat.le_trans before intime) alive
  exact ⟨t, since, limit⟩

/-- The task waits, and it goes on as soon as the processes are settled, seen from a moment. -/
structure Prompt (r : History σ l) (n : Nat) (taken : List (List Nat)) (limit : Option Nat)
    (w ends : Nat) : Prop where
  before : w ≤ ends
  waits : (r.state w).stage? n = some (.stopping taken limit)
  ready : (r.state w).readyAt n (.stopping taken limit) = some (r.state ends).now

/-- If the task goes on as soon as the processes are settled, those have exited that exit at the latest at
the moment that limits the waiting. -/
theorem exited_iff_of_prompt (stops : r.StopsAll n patience taken begins takes ends)
    {c : Capability} {p : Nat} {x : Process}
    (mem : p ∈ ((r.state (takes c)).registries c).tracked)
    (there : (r.state (takes c)).processes[p]? = some x) {w limit : Nat}
    (prompt : Prompt r n taken (some limit) w ends) :
    (x.interrupt (r.state (takes c)).now).hasExited (r.state ends).now =
      (x.interrupt (r.state (takes c)).now).hasExited (max (r.state w).now limit) := by
  have after : takes c < w := by
    refine Nat.lt_of_not_le fun early => ?_
    obtain ⟨k, -, -, left, taken', limit', -, -, draining, -⟩ := stops.shuts c
    have less := rank_mono early prompt.waits draining
    simp [Stage.rank] at less
  have now := stops.process_kept mem there after prompt.before
  exact Process.hasExited_iff_of_settled prompt.ready
    (List.mem_filterMap.2 ⟨p, stops.mem_taken.2 ⟨c, mem⟩, now⟩)

/-- A later task that stops all instances takes other processes, and only such that were given by starts
since. -/
theorem later (stops : r.StopsAll n patience taken begins takes ends) {n' begins' ends' : Nat}
    {patience' : Option Nat} {taken' : List (List Nat)} {takes' : Capability → Nat}
    (stops' : r.StopsAll n' patience' taken' begins' takes' ends') (after : ends < begins')
    {c : Capability} {p : Nat} (mem : p ∈ ((r.state (takes' c)).registries c).tracked) :
    p ∉ taken.flatten ∧ ∃ m k x n, takes k.capability < m ∧ m < takes' c ∧
      (r.state m).stage? n = some (.started k p x) := by
  obtain ⟨i, since, shuts'⟩ := stops'.shuts c
  have ordered := shuts'.1
  have first := stops.before c
  constructor
  · intro taken_
    obtain ⟨s, at_, mine⟩ := stops'.has_interrupted mem (Nat.lt_succ_self (takes' c))
    have old : p ∈ (Stage.stopped taken
        (Process.report (r.state ends).now ((r.state ends).processesAt taken.flatten)) :
          Stage σ τ).processes := Stage.interrupted_subset (List.mem_append_left _ taken_)
    have settled := stops.settled_after (m := takes' c + 1) (by omega)
    obtain rfl := holder_unique (r.accounted _) settled at_ old (Stage.interrupted_subset mine)
    cases (stops.settled_after after).symm.trans stops'.asked
  · obtain ⟨m, soon, n', k, x, at_, same, -, tracked⟩ := admitted_of_tracked mem
    subst same
    refine ⟨m, k, x, n', Nat.lt_of_not_le fun early => ?_, soon, at_⟩
    -- what was tracked before has been taken
    obtain ⟨i', -, shuts⟩ := stops.shuts k.capability
    have there := tracked (takes k.capability + 1) (by omega) (by omega)
    rw [shuts.tracked] at there
    cases there

end StopsAll

/-! ## Coming to an end -/

/-- The stages of a task that stops instances, with a limit to its patience or without. -/
inductive Halts (patience : Option Nat) : Stage σ τ → Prop where
  | asked {cs} : Halts patience (.asked cs patience)
  | closing {left taken limit} (same : limit = none → patience = none) :
    Halts patience (.closing left taken limit)
  | draining {c left taken limit} (same : limit = none → patience = none) :
    Halts patience (.draining c left taken limit)
  | stopping {taken limit} (same : limit = none → patience = none) :
    Halts patience (.stopping taken limit)
  | stopped {taken outcome} : Halts patience (.stopped taken outcome)

theorem Halts.moves {patience : Option Nat} {h g : Host σ τ} {s s' : Stage σ τ}
    (halts : Halts patience s) (moves : Moves l h n s s' g) : Halts patience s' := by
  cases halts with
  | asked =>
    cases moves with
    | begun => exact .closing Option.map_eq_none_iff.1
  | closing same =>
    cases moves with
    | closed => exact .draining same
    | waits => exact .stopping same
  | draining same =>
    cases moves with
    | drained => exact .closing same
  | stopping same =>
    cases moves with
    | finished => exact .stopped
  | stopped => cases moves

/-- A task that stops instances can go on until it is over, unless it waits without limit for a process
that never exits. -/
theorem Halts.goesOn {patience : Option Nat} {s : Stage σ τ} (halts : Halts patience s)
    (h : Host σ τ) : (∃ taken outcome, s = .stopped taken outcome) ∨
      (∃ time, h.readyAt n s = some time) ∨ patience = none ∧ ∃ taken, s = .stopping taken none ∧
        ∃ x ∈ h.processesAt taken.flatten, x.exitsAt = none := by
  cases halts with
  | asked => exact .inr (.inl ⟨_, rfl⟩)
  | closing => exact .inr (.inl ⟨_, rfl⟩)
  | draining => exact .inr (.inl ⟨_, rfl⟩)
  | @stopping taken limit same =>
    cases ready : h.readyAt n (.stopping taken limit) with
    | some time => exact .inr (.inl ⟨time, rfl⟩)
    | none =>
      obtain ⟨rfl, never⟩ := Process.allSettleAt_eq_none ready
      exact .inr (.inr ⟨same rfl, taken, rfl, never⟩)
  | stopped => exact .inl ⟨_, _, rfl⟩

theorem halts_of_asked {i m : Nat} {cs : List Capability} {patience : Option Nat}
    (asked : (r.state i).stage? n = some (.asked cs patience)) (h : i ≤ m) :
    ∃ s, (r.state m).stage? n = some s ∧ Halts patience s := by
  induction h with
  | refl => exact ⟨_, asked, .asked⟩
  | @step m h ih =>
    obtain ⟨s, at_, halts⟩ := ih
    rcases step_own at_ with same | ⟨s', g, -, moves, came, -⟩
    · exact ⟨s, same, halts⟩
    · exact ⟨s', came, halts.moves moves⟩

/-- A task whose patience has a limit comes to its end, as soon as time passes and it goes on. -/
theorem Halts.settled {limit : Nat} {h : Host σ τ} {s : Stage σ τ} (halts : Halts (some limit) s)
    (at_ : h.stage? n = some s) : ∃ g, Relation.ReflTransGen (Step l) h g ∧
      ∃ taken outcome, g.stage? n = some (.stopped taken outcome) := by
  induction rank : s.rank using Nat.strongRecOn generalizing h s with
  | _ k ih =>
    rcases halts.goesOn (n := n) h with ⟨taken, outcome, rfl⟩ | ⟨time, ready⟩ | ⟨never, -⟩
    · exact ⟨h, .refl, taken, outcome, at_⟩
    · obtain ⟨task, there, rfl⟩ := Option.map_eq_some_iff.1 at_
      have steps : Relation.ReflTransGen (Step l) h
          ({ h with now := max time (max task.notBefore h.now) }.next l n task.stage) :=
        steps_next there ready (by omega) (by omega) (by omega)
      have open_ := rank_ne_zero_of_readyAt ready
      -- with the time that has passed the task goes on, and comes closer to its end
      have waits : { h with now := max time (max task.notBefore h.now) }.stage? n = some task.stage :=
        at_
      obtain ⟨s', g', moves, next⟩ := moves_next l _ n open_
      obtain ⟨t, came, closer⟩ := rank_next l waits open_
      have came' := stage?_onStage waits moves.tasks s'
      rw [← next] at came'
      cases came.symm.trans came'
      obtain ⟨g, rest, settled⟩ := ih _ (rank ▸ closer) (halts.moves moves) came' rfl
      exact ⟨g, steps.trans rest, settled⟩
    · cases never

/-! ## Everything is stopped once -/

/-- A task that stops all instances when all processes have been stopped already finds nothing to stop. -/
theorem StopsAll.idle {patience patience' : Option Nat} {taken taken' : List (List Nat)}
    {begins begins' ends ends' n' : Nat} {takes takes' : Capability → Nat}
    (stops : r.StopsAll n patience taken begins takes ends)
    (stops' : r.StopsAll n' patience' taken' begins' takes' ends') (after : ends < begins')
    (quiet : ∀ m < ends', ∀ n k p x, (r.state m).stage? n = some (.started k p x) →
      m ≤ takes k.capability) : taken'.flatten = [] := by
  refine List.eq_nil_iff_forall_not_mem.2 fun p mem => ?_
  obtain ⟨c, mem⟩ := stops'.mem_taken.1 mem
  obtain ⟨-, m, k, x, n₁, late, soon, gave⟩ := stops.later stops' after mem
  have early := quiet m (Nat.lt_trans soon (stops'.before c)) n₁ k p x gave
  omega

/-- A task that stops all instances stops everything once and reports exactly the failures, whatever else
goes on and however processes behave. The task can go on until it is over, unless it waits without limit
for a process that never exits; with a limit it always comes to its end. When it is over, it has taken the
tracked processes, capability by capability. Each of them was interrupted once, when it was taken, and was
killed once if it had not exited when the waiting ended, and never otherwise; the waiting ends before
everything has exited only when the limit is reached, and a task that goes on at once sees exactly those
exit that do so by then. The report lists one fault for each process that failed, in the order in which
they were taken, and there is none if and only if all have exited and could be interrupted and waited for.
A later task that stops all instances finds none of these processes, and nothing at all if nothing was
started since. -/
theorem stops_everything_once (r : History σ l) {n i : Nat} {patience : Option Nat}
    (asked : (r.state i).stage? n = some (.asked Capability.all patience)) :
    (∀ m ≥ i, ∃ s, (r.state m).stage? n = some s ∧
      ((∃ taken outcome, s = .stopped taken outcome) ∨ (∃ time, (r.state m).readyAt n s = some time) ∨
        patience = none ∧ ∃ taken, s = .stopping taken none ∧
          ∃ x ∈ (r.state m).processesAt taken.flatten, x.exitsAt = none) ∧
      (patience ≠ none → ∃ g, Relation.ReflTransGen (Step l) (r.state m) g ∧
        ∃ taken outcome, g.stage? n = some (.stopped taken outcome))) ∧
    ∀ j ≥ i, ∀ taken outcome, (r.state j).stage? n = some (.stopped taken outcome) →
      ∃ begins takes ends, i ≤ begins ∧ ends < j ∧ r.StopsAll n patience taken begins takes ends ∧
        (∀ c, ∀ p ∈ ((r.state (takes c)).registries c).tracked, ∃ x,
          r.StoppedOnce p (takes c) ends (patience.map ((r.state begins).now + ·)) x ∧
          ∀ w limit, StopsAll.Prompt r n taken (some limit) w ends →
            (x.interrupt (r.state (takes c)).now).hasExited (r.state ends).now =
              (x.interrupt (r.state (takes c)).now).hasExited (max (r.state w).now limit)) ∧
        outcome = Fault.reported
          (Process.faults (r.state ends).now ((r.state ends).processesAt taken.flatten)) ∧
        (outcome = .ok () ↔ ∀ x ∈ (r.state ends).processesAt taken.flatten,
          x.hasExited (r.state ends).now = true ∧ x.interruptFault = none ∧ x.waitFault = none) ∧
        ∀ n' i' j' patience' taken' outcome', j ≤ i' → i' ≤ j' →
          (r.state i').stage? n' = some (.asked Capability.all patience') →
          (r.state j').stage? n' = some (.stopped taken' outcome') →
          (∀ p ∈ taken'.flatten, p ∉ taken.flatten) ∧
          ((∀ m < j', ∀ n k p x, (r.state m).stage? n = some (.started k p x) →
            m ≤ takes k.capability) → taken'.flatten = [] ∧ outcome' = .ok ()) := by
  refine ⟨fun m h => ?_, fun j h taken outcome settled => ?_⟩
  · obtain ⟨s, at_, halts⟩ := halts_of_asked asked h
    refine ⟨s, at_, halts.goesOn (r.state m), fun limited => ?_⟩
    obtain ⟨limit, rfl⟩ := Option.ne_none_iff_exists'.1 limited
    exact halts.settled at_
  · obtain ⟨begins, takes, ends, since, before, stops, reported⟩ := stopsAll_of_stopped h asked settled
    refine ⟨begins, takes, ends, since, before, stops, fun c p mem => ?_, ?_, ?_, ?_⟩
    · obtain ⟨x, once⟩ := stops.stoppedOnce mem
      exact ⟨x, once, fun w limit prompt => stops.exited_iff_of_prompt mem once.process prompt⟩
    · rw [reported, Process.report_eq]
    · rw [reported, Process.report_eq_ok]
    · intro n' i' j' patience' taken' outcome' first second asked' settled'
      obtain ⟨begins', takes', ends', since', before', stops', reported'⟩ :=
        stopsAll_of_stopped second asked' settled'
      have after : ends < begins' := by omega
      constructor
      · intro p mem
        obtain ⟨c, mem⟩ := stops'.mem_taken.1 mem
        exact (stops.later stops' after mem).1
      · intro quiet
        have nothing := stops.idle stops' after fun m soon => quiet m (by omega)
        refine ⟨nothing, ?_⟩
        rw [reported', nothing]
        rfl

/-- A launcher for a plugin whose instances behave differently: one exits when it is interrupted, one
exits although it cannot be interrupted, and one never exits. -/
def mixedLauncher : Launcher Unit := fun d c count =>
  { delay := 0
    outcome := .ok {
      place := .socket d.path
      process := match c with
        | .resourceRepository => { plugin := d.id, count, exitAfter := some 0 }
        | .digestProcessor =>
          { plugin := d.id, count, exitAfter := some 5, interruptFault := some "no such process" }
        | .componentLister => { plugin := d.id, count }
      send := fun _ => .fail (.notFound "request")
      ids := fun _ => .zero
      documents := .none
      world := () } }

/-- The plugin is started for all capabilities. Then the task 3 stops all instances with patience for
10 milliseconds, and the task 4 does so once more. -/
def mixed : History Unit mixedLauncher :=
  ofScript mixedLauncher fresh_sampleHost <|
    Capability.all.map (fun c => .bind c (samplePlugin "a") sampleType) ++
    Capability.all.map (fun c => .find c "" sampleType) ++
    [.go 0, .go 0, .go 0, .go 0, .go 1, .go 1, .go 1, .go 1, .go 2, .go 2, .go 2, .go 2,
      .stop Capability.all (some 10), .go 3, .go 3, .go 3, .go 3, .go 3, .go 3, .go 3, .go 3, .wait 10,
      .go 3, .stop Capability.all none, .go 4, .go 4, .go 4, .go 4, .go 4, .go 4, .go 4, .go 4, .go 4]

/-- One process exits in time, one cannot be interrupted, and one is killed. For the later task nothing
is left. -/
theorem mixed_stopped_once :
    (mixed.state 19).stage? 3 = some (.asked Capability.all (some 10)) ∧
    (mixed.state 29).stage? 3 = some (.stopped [[0], [1], [2]] (.error (.shutdown
      [.process ⟨"p"⟩ "no such process",
        .process ⟨"p"⟩ "did not exit before the shutdown deadline and was killed"]))) ∧
    (∃ g, Relation.ReflTransGen (Step mixedLauncher) (mixed.state 19) g ∧
      ∃ taken outcome, g.stage? 3 = some (.stopped taken outcome)) ∧
    (∃ begins takes ends, mixed.StopsAll 3 (some 10) [[0], [1], [2]] begins takes ends ∧
      ∀ c, ∀ p ∈ ((mixed.state (takes c)).registries c).tracked, ∃ x,
        mixed.StoppedOnce p (takes c) ends (some ((mixed.state begins).now + 10)) x) ∧
    ([0, 1, 2].map fun p =>
      ((mixed.happened 39).count (.interrupt p), (mixed.happened 39).count (.kill p))) =
        [(1, 0), (1, 0), (1, 1)] ∧
    (mixed.state 39).stage? 4 = some (.stopped [[], [], []] (.ok ())) := by
  have asked : (mixed.state 19).stage? 3 = some (.asked Capability.all (some 10)) := rfl
  have settled : (mixed.state 29).stage? 3 = some (.stopped [[0], [1], [2]] (.error (.shutdown
      [.process ⟨"p"⟩ "no such process",
        .process ⟨"p"⟩ "did not exit before the shutdown deadline and was killed"]))) := rfl
  obtain ⟨goesOn, stopped⟩ := stops_everything_once mixed asked
  obtain ⟨s, -, -, ends⟩ := goesOn 19 (by decide)
  obtain ⟨begins, takes, finish, -, -, stops, once, -⟩ := stopped 29 (by decide) _ _ settled
  refine ⟨asked, settled, ends (by simp), ⟨begins, takes, finish, stops, fun c p mem => ?_⟩, ?_, ?_⟩
  · obtain ⟨x, each, -⟩ := once c p mem
    exact ⟨x, each⟩
  · rfl
  · rfl

end History

end PluginKit
